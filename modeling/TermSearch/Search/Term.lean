import TermSearch.Search.Operator

/-!
# Terms

A term compares a field, or nothing in particular, with a value. A negated term carries the inverse of
the operator that was written (`Term.make`), so the comparison to make can be read off the term, and the
flag only says that it was negated.
-/

namespace TermSearch

/-- One term of a search. -/
structure Term where
  /-- The field compared, if the term names one. -/
  field : Option String
  /-- The comparison to make; a negation is already applied to it. -/
  operator : Operator
  value : String
  negated : Bool
  quoting : Quoting
  /-- The source text of the term. -/
  text : String
  deriving DecidableEq, Repr

namespace Term

/-- A term from what was written: a negation inverts the operator. -/
def make (field : Option String) (written : Operator) (value : String) (quoting : Quoting)
    (negated : Bool) : Term where
  field := field
  operator := if negated then written.inverse else written
  value := value
  negated := negated
  quoting := quoting
  text := match field with
    | some f => f ++ ":" ++ value
    | none => value

/-- A term with only a value. -/
def bare (value : String) : Term := make none .eq value .none false

/-- The source text without the blanks around it. -/
def plaintext (t : Term) : String := Text.trim t.text

/-- A term written out with another field in place of its own. -/
def renderWith (t : Term) (field : Option String) : String :=
  (if t.negated then "!" else "") ++ field.getD "" ++ ":" ++ t.operator.name ++ ":" ++
    t.quoting.delimiter ++ t.value ++ t.quoting.delimiter

/-- A term written out: negation, field, comparison and value. -/
def render (t : Term) : String := t.renderWith t.field

/-- The operator as it was written, before a negation inverted it. -/
def writtenOperator (t : Term) : Operator := if t.negated then t.operator.inverse else t.operator

theorem writtenOperator_make (field : Option String) (op : Operator) (value : String)
    (quoting : Quoting) (negated : Bool) :
    (make field op value quoting negated).writtenOperator = op := by
  cases negated <;> simp [make, writtenOperator]

end Term

end TermSearch
