import TermSearch.Definition.Matcher
import TermSearch.Definition.Rule
import TermSearch.KeyMap
import TermSearch.Search.Slot

/-!
# Definitions

A definition says how searches become queries: rules, the matchers that run them, filters that refuse terms
beforehand, named conditions, and the scope and language to use. It is put together by declarations on a
`Draft` and checked once, by `Draft.build`. A definition can be extended; the extension inherits everything and
may give a rule another body, which then holds for inherited matchers too.

Helpers declare a rule and its matcher together, under a name with a running number that is never given twice
along a chain of extensions.
-/

namespace TermSearch

variable {Q : Type} [Query Q]

/-! ## Declarations -/

/-- A rule's name and the terms it is to run for. -/
structure PendingMatcher (Q : Type) where
  rule : String
  options : MatcherOptions Q

/-- Everything that is declared. -/
structure Declarations (Q : Type) where
  base : Option Q
  language : Language
  /-- Tests that a term has to pass before any rule. -/
  filters : List (Visit → Bool)
  matchers : List (PendingMatcher Q)
  rules : KeyMap (RuleBody Q)
  conditions : KeyMap (GuardTest Q)
  /-- How many names have been made up. -/
  generated : Nat

/-- No declarations: searches are read in the simple language. -/
def Declarations.none : Declarations Q where
  base := Option.none
  language := .simple
  filters := []
  matchers := []
  rules := .nil
  conditions := .nil
  generated := 0

/-- A definition that is being put together. -/
structure Draft (Q : Type) where
  declarations : Declarations Q
  /-- The rules declared here and not inherited. -/
  ownRules : List String
  /-- What has gone wrong so far, first things first. -/
  errors : List DefinitionError

/-- A checked definition; its matchers stand in the order they run in. -/
structure Definition (Q : Type) where
  declarations : Declarations Q
  matchers : List (Matcher Q)

/-- The draft of a definition that inherits nothing. -/
def Definition.start : Draft Q := { declarations := .none, ownRules := [], errors := [] }

/-- The draft of a definition that inherits everything. -/
def Definition.extend (d : Definition Q) : Draft Q :=
  { declarations := d.declarations, ownRules := [], errors := [] }

namespace Definition

/-- The names of the rules in order. -/
def ruleNames (d : Definition Q) : List String := d.declarations.rules.keys

/-- Whether any rule is declared. -/
def hasRules (d : Definition Q) : Bool := !d.declarations.rules.isEmpty

end Definition

/-! ## Search options -/

/-- How a search helper is to run. -/
structure HelperOptions (Q : Type) where
  /-- The field that a term has to carry; without one, helpers that spread a term over fields take terms
  without a field. -/
  field : Option String := none
  /-- Whether the term is used up. -/
  consume : Bool := true
  rank : Int := 0
  onlyIf : Option (Guard Q) := none
  exceptIf : Option (Guard Q) := none

/-- The matcher of a search helper that accepts certain fields. -/
def HelperOptions.matching (o : HelperOptions Q) (fields : AcceptedFields) : MatcherOptions Q :=
  { fields, rank := o.rank, onlyIf := o.onlyIf, exceptIf := o.exceptIf }

/-- The fields that a helper accepts which spreads a term over fields. -/
def HelperOptions.spreadFilter (o : HelperOptions Q) : AcceptedFields :=
  match o.field with
  | some field => .only [field]
  | none => .fieldless

/-- The rank of renaming, before everything else. -/
def renameRank : Int := -(Nat.pow 2 63 : Int)

/-! ## Drafting -/

namespace Draft

/-- The draft with its declarations changed. -/
def declare (d : Draft Q) (f : Declarations Q → Declarations Q) : Draft Q :=
  { d with declarations := f d.declarations }

/-- The scope that searches start from. -/
def base (d : Draft Q) (query : Q) : Draft Q := d.declare ({ · with base := some query })

/-- The language that searches are read in. -/
def language (d : Draft Q) (language : Language) : Draft Q := d.declare ({ · with language })

/-- A rule; one of its name may have been inherited but not declared here. -/
def rule (d : Draft Q) (name : String) (body : RuleBody Q) : Draft Q :=
  if name ∈ d.ownRules then { d with errors := d.errors ++ [.duplicateRule name] }
  else { d.declare (fun s => { s with rules := s.rules.insert name body }) with
    ownRules := name :: d.ownRules }

/-- A matcher for a rule. -/
def matcher (d : Draft Q) (rule : String) (options : MatcherOptions Q) : Draft Q :=
  d.declare fun s => { s with matchers := s.matchers ++ [{ rule, options }] }

/-- A condition that guards can name. -/
def condition (d : Draft Q) (name : String) (test : GuardTest Q) : Draft Q :=
  d.declare fun s => { s with conditions := s.conditions.insert name test }

/-- A test that terms have to pass. -/
def filter (d : Draft Q) (test : Visit → Bool) : Draft Q :=
  d.declare fun s => { s with filters := s.filters ++ [test] }

/-- Terms with a field have to carry one of these. -/
def permit (d : Draft Q) (fields : List String) : Draft Q :=
  d.filter fun v => v.term.field.all (decide <| · ∈ fields)

/-- A rule and its matcher under a name made up from a stem. -/
def generate (d : Draft Q) (stem : String) (body : RuleBody Q) (options : MatcherOptions Q) : Draft Q :=
  let number := d.declarations.generated + 1
  let name := stem ++ "#" ++ Nat.repr number
  ((d.declare ({ · with generated := number })).rule name body).matcher name options

/-- Terms with one field are seen with another. -/
def rename (d : Draft Q) (field target : String) : Draft Q :=
  d.generate "alias" (.rename target) { fields := .only [field], rank := renameRank }

/-- Terms with one of the fields are compared by it. -/
def searchInSpecificFields (d : Draft Q) (fields : List String) (o : HelperOptions Q) : Draft Q :=
  d.generate "search_in_specific_fields" (.search .compare o.consume) (o.matching (.only fields))

/-- Terms are compared by each field, and one has to agree. -/
def searchInAnyOf (d : Draft Q) (fields : List String) (o : HelperOptions Q) : Draft Q :=
  d.generate "search_in_any_of" (.search (.anyOf (fields.map .compareBy)) o.consume)
    (o.matching o.spreadFilter)

/-- Terms are compared by each field, and all have to agree. -/
def searchInAllOf (d : Draft Q) (fields : List String) (o : HelperOptions Q) : Draft Q :=
  d.generate "search_in_all_of" (.search (.allOf (fields.map .compareBy)) o.consume)
    (o.matching o.spreadFilter)

/-- Terms with one of the fields are compared by it, and terms without a field by each. -/
def searchIn (d : Draft Q) (fields : List String) (o : HelperOptions Q) : Draft Q :=
  (d.searchInSpecificFields fields o).searchInAnyOf fields o

/-! ## Checking -/

/-- The test that a guard stands for. -/
def guardTest (conditions : KeyMap (GuardTest Q)) :
    Option (Guard Q) → Except DefinitionError (Option (GuardTest Q))
  | none => .ok none
  | some (.inline test) => .ok (some test)
  | some (.named name) =>
    match conditions.get? name with
    | some test => .ok (some test)
    | none => .error (.undeclaredCondition name)

/-- The matcher of a specification, if its rule and its conditions are declared. -/
def resolve (s : Declarations Q) (spec : PendingMatcher Q) : Except DefinitionError (Matcher Q) := do
  if !s.rules.has spec.rule then throw (.undeclaredRule spec.rule)
  let onlyIf ← guardTest s.conditions spec.options.onlyIf
  let exceptIf ← guardTest s.conditions spec.options.exceptIf
  return { rule := spec.rule, rank := spec.options.rank, fields := spec.options.fields,
           onlyIf, exceptIf }

/-- **The definition of a draft**, or the first thing wrong with it. Matchers run by rank, and those of one
rank in the order they were declared, inherited ones first. -/
def build (d : Draft Q) : Except DefinitionError (Definition Q) :=
  match d.errors with
  | cause :: _ => .error cause
  | [] => do
    let matchers ← d.declarations.matchers.mapM (resolve d.declarations)
    return { declarations := d.declarations,
             matchers := matchers.mergeSort fun a b => decide (a.rank ≤ b.rank) }

end Draft

end TermSearch
