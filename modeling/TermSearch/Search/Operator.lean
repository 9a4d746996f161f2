import TermSearch.Text.Blank

/-!
# Operators, connectives and keywords

The closed vocabularies of the search language: how a term compares (`Operator`), how two conditions
are joined (`Predicate`), the words that steer the reading of a search (`Keyword`), and how a value
was quoted (`Quoting`). Each has a name; taking the inverse of an operator or of a connective twice
gives it back.
-/

namespace TermSearch

/-! ## Operators -/

/-- How a term compares its field with its value. -/
inductive Operator where
  | eq | ne | lt | gt | lte | gte | like | notLike
  deriving DecidableEq, Repr

namespace Operator

/-- All operators. -/
def all : List Operator := [.eq, .ne, .lt, .gt, .lte, .gte, .like, .notLike]

/-- The name of an operator. -/
def name : Operator → String
  | .eq => "eq"
  | .ne => "ne"
  | .lt => "lt"
  | .gt => "gt"
  | .lte => "lte"
  | .gte => "gte"
  | .like => "like"
  | .notLike => "notlike"

/-- The operator with a name. -/
def ofName? (name : String) : Option Operator := all.find? (·.name = name)

/-- The operator that a sign between a field and a value stands for. -/
def ofSign? : String → Option Operator
  | ":" => some .eq
  | "~" => some .like
  | "<" => some .lt
  | ">" => some .gt
  | "<=" => some .lte
  | ">=" => some .gte
  | _ => none

/-- The opposite comparison, which a negated term carries. -/
def inverse : Operator → Operator
  | .eq => .ne
  | .ne => .eq
  | .lt => .gte
  | .gte => .lt
  | .gt => .lte
  | .lte => .gt
  | .like => .notLike
  | .notLike => .like

@[simp] theorem inverse_inverse (op : Operator) : op.inverse.inverse = op := by
  cases op <;> rfl

theorem ofName?_name (op : Operator) : ofName? op.name = some op := by
  cases op <;> decide

end Operator

/-! ## Connectives -/

/-- How conditions are joined. -/
inductive Predicate where
  | and | or
  deriving DecidableEq, Repr, Inhabited

namespace Predicate

/-- The name of a connective. -/
def name : Predicate → String
  | .and => "and"
  | .or => "or"

/-- The other connective, which takes its place under a negation. -/
def flip : Predicate → Predicate
  | .and => .or
  | .or => .and

/-- The connective, or the other one under a negation. -/
def under (p : Predicate) (negated : Bool) : Predicate := if negated then p.flip else p

@[simp] theorem flip_flip (p : Predicate) : p.flip.flip = p := by
  cases p <;> rfl

end Predicate

/-! ## Keywords -/

/-- A word that joins or negates terms. -/
inductive Keyword where
  | and | or | not
  deriving DecidableEq, Repr

namespace Keyword

/-- All keywords. -/
def all : List Keyword := [.and, .or, .not]

/-- The name of a keyword. -/
def name : Keyword → String
  | .and => "and"
  | .or => "or"
  | .not => "not"

/-- The keyword with a name. -/
def ofName? (name : String) : Option Keyword := all.find? (·.name = name)

/-- The keyword that a whole word spells, in any ASCII case. -/
def ofWord? (word : List Char) : Option Keyword :=
  match String.ofList (word.map Char.toLower) with
  | "and" => some .and
  | "&&" => some .and
  | "or" => some .or
  | "||" => some .or
  | "not" => some .not
  | "!" => some .not
  | _ => none

/-- The connective that a keyword stands for; a negation has none. -/
def predicate? : Keyword → Option Predicate
  | .and => some .and
  | .or => some .or
  | .not => none

end Keyword

/-! ## Quoting -/

/-- How the value of a term was written. -/
inductive Quoting where
  | none | single | double
  deriving DecidableEq, Repr

namespace Quoting

/-- All ways of quoting. -/
def all : List Quoting := [.none, .single, .double]

/-- The name of a way of quoting. -/
def name : Quoting → String
  | .none => "none"
  | .single => "single"
  | .double => "double"

/-- The way of quoting with a name. -/
def ofName? (name : String) : Option Quoting := all.find? (·.name = name)

/-- The mark on both sides of a value. -/
def delimiter : Quoting → String
  | .none => ""
  | .single => "'"
  | .double => "\""

end Quoting

end TermSearch
