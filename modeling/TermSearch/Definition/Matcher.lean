import TermSearch.Definition.Visit

/-!
# Matchers

A matcher says for which terms a rule runs: those whose field its filter allows and whose guards hold. Guards
are given by name or as a test; a definition replaces the names by the tests they stand for.
-/

namespace TermSearch

/-! ## Fields -/

/-- The fields that a matcher accepts, `none` standing for terms without a field. An empty list accepts every
term. -/
structure AcceptedFields where
  fields : List (Option String)
  deriving DecidableEq, Repr

namespace AcceptedFields

/-- Every term. -/
def any : AcceptedFields := ⟨[]⟩

/-- Terms with one of these fields. -/
def only (fields : List String) : AcceptedFields := ⟨fields.map some⟩

/-- Terms without a field. -/
def fieldless : AcceptedFields := ⟨[none]⟩

/-- The filter that accepts one more field. -/
def push (f : AcceptedFields) (field : Option String) : AcceptedFields :=
  if field ∈ f.fields then f else ⟨f.fields ++ [field]⟩

/-- Whether every term is accepted. -/
def isAny (f : AcceptedFields) : Bool := f.fields.isEmpty

/-- Whether a term with this field is accepted. -/
def allows (f : AcceptedFields) (field : Option String) : Bool :=
  f.isAny || decide (field ∈ f.fields)

end AcceptedFields

/-! ## Guards -/

variable {Q : Type}

/-- A test on the scope of a compiler and a term. -/
abbrev GuardTest (Q : Type) := Q → Visit → Bool

/-- A guard, before its name is replaced by a test. -/
inductive Guard (Q : Type) where
  | named (name : String)
  | inline (test : GuardTest Q)

/-! ## Matchers -/

/-- For which terms a rule is to run, and when. -/
structure MatcherOptions (Q : Type) where
  fields : AcceptedFields := .any
  /-- Lower ranks run first. -/
  rank : Int := 0
  /-- A guard that has to hold. -/
  onlyIf : Option (Guard Q) := none
  /-- A guard that must not hold. -/
  exceptIf : Option (Guard Q) := none

/-- A rule with the terms it runs for. -/
structure Matcher (Q : Type) where
  rule : String
  rank : Int
  fields : AcceptedFields
  onlyIf : Option (GuardTest Q)
  exceptIf : Option (GuardTest Q)

/-- Whether the rule is to run for a term: its guards agree and the field it shows is accepted. -/
def Matcher.accepts (m : Matcher Q) (scope : Q) (v : Visit) : Bool :=
  m.onlyIf.all (· scope v) && !m.exceptIf.any (· scope v) && m.fields.allows v.field

end TermSearch
