import TermSearch.Search.Term

/-!
# Visits to a term

While a search is compiled, each term is visited once by the rules of a definition. A visit remembers
whether the term is still open, what field the rules should see in place of the one written, and which
rules have claimed the term. A term that is consumed or rejected is settled: no further rule can claim it.
-/

namespace TermSearch

/-- How far the rules are done with a term. -/
inductive VisitState where
  | open | consumed | rejected
  deriving DecidableEq, Repr

/-- A term as the rules see it. -/
structure Visit where
  term : Term
  /-- The field to see in place of the one written. -/
  shown : Option String
  state : VisitState
  /-- The rules that claimed the term, in order. -/
  claimedBy : List String
  deriving DecidableEq, Repr

namespace Visit

/-- The first sight of a term. -/
def start (term : Term) : Visit := { term, shown := none, state := .open, claimedBy := [] }

/-- The field that rules see. -/
def field (v : Visit) : Option String := v.shown <|> v.term.field

/-- Whether the term is consumed or rejected. -/
def isSettled (v : Visit) : Bool := v.state ≠ .open

/-- The visit with another field to see. -/
def rename (v : Visit) (field : String) : Visit := { v with shown := some field }

/-- The visit after a rule has used up the term; a settled term stays as it is. -/
def consume (v : Visit) : Visit :=
  if v.isSettled then v else { v with state := .consumed }

/-- The visit after a rule has dropped the term. -/
def reject (v : Visit) : Visit := { v with state := .rejected }

/-- The visit claimed by a rule, unless it is settled. -/
def claim? (v : Visit) (rule : String) : Option Visit :=
  if v.isSettled then none else some { v with claimedBy := v.claimedBy ++ [rule] }

/-- The term written out, with the field that rules see if it was changed. -/
def render (v : Visit) : String :=
  match v.shown with
  | some field => v.term.renderWith (some field)
  | none => v.term.render

end Visit

end TermSearch
