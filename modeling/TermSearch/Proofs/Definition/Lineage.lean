import Mathlib.Data.List.Nodup
import TermSearch.Proofs.Definition.Stages
import TermSearch.Proofs.KeyMap

/-!
# Chains of definitions

A definition is declared on one level or on several, each of which extends the definition that the levels before it
were built into (`Lineage`). What a level declares does not depend on what it inherits, except for the numbers in the
names that helpers make up: `Declaration.content` spells it out, and `Draft.adds_addAll` says that a draft grows by just
that. So the definition of a chain can be told from what its levels declare (`Lineage.declaredBy_of_build`): the filters,
matchers, rules and conditions one after the other, of two rules or two conditions of one name the later one.
-/

namespace TermSearch

/-! ## Declarations -/

variable {Q : Type}

/-- A declaration on a draft. -/
inductive Declaration (Q : Type) where
  | base (query : Q)
  | language (language : Language)
  | rule (name : String) (body : RuleBody Q)
  | matcher (name : String) (options : MatcherOptions Q)
  | condition (name : String) (test : GuardTest Q)
  | filter (test : Visit → Bool)
  | permit (fields : List String)
  | rename (field target : String)
  | searchInSpecificFields (fields : List String) (options : HelperOptions Q)
  | searchInAnyOf (fields : List String) (options : HelperOptions Q)
  | searchInAllOf (fields : List String) (options : HelperOptions Q)
  | searchIn (fields : List String) (options : HelperOptions Q)

/-- A rule with its matcher, before a helper has made up their name. -/
structure Helper (Q : Type) where
  stem : String
  body : RuleBody Q
  options : MatcherOptions Q

/-- What declarations amount to. -/
structure Content (Q : Type) where
  filters : List (Visit → Bool)
  matchers : List (PendingMatcher Q)
  rules : List (String × RuleBody Q)
  conditions : List (String × GuardTest Q)
  /-- The rules that helpers have declared; they are among the rules too. -/
  madeUp : List (String × RuleBody Q)

namespace Content

/-- Nothing is declared. -/
def empty : Content Q := { filters := [], matchers := [], rules := [], conditions := [], madeUp := [] }

/-- What is declared first and what is declared later. -/
def append (c c' : Content Q) : Content Q where
  filters := c.filters ++ c'.filters
  matchers := c.matchers ++ c'.matchers
  rules := c.rules ++ c'.rules
  conditions := c.conditions ++ c'.conditions
  madeUp := c.madeUp ++ c'.madeUp

/-- What helpers declare when so many names have been made up. -/
def ofHelpers (given : Nat) : List (Helper Q) → Content Q
  | [] => empty
  | h :: hs =>
    append
      { empty with
        matchers := [{ rule := numberedName h.stem (given + 1), options := h.options }]
        rules := [(numberedName h.stem (given + 1), h.body)]
        madeUp := [(numberedName h.stem (given + 1), h.body)] }
      (ofHelpers (given + 1) hs)

end Content

section Helpers

variable [Query Q]

/-- The rules and matchers that a declaration makes up names for. -/
def Declaration.helpers : Declaration Q → List (Helper Q)
  | .rename field target =>
    [{ stem := "alias", body := .rename target, options := { fields := .only [field], rank := renameRank } }]
  | .searchInSpecificFields fields o => [specific fields o]
  | .searchInAnyOf fields o => [anyOf fields o]
  | .searchInAllOf fields o =>
    [{ stem := "search_in_all_of", body := .search (.allOf (fields.map .compareBy)) o.consume,
       options := o.matching o.spreadFilter }]
  | .searchIn fields o => [specific fields o, anyOf fields o]
  | .base _ | .language _ | .rule _ _ | .matcher _ _ | .condition _ _ | .filter _ | .permit _ => []
where
  specific (fields : List String) (o : HelperOptions Q) : Helper Q :=
    { stem := "search_in_specific_fields", body := .search .compare o.consume, options := o.matching (.only fields) }
  anyOf (fields : List String) (o : HelperOptions Q) : Helper Q :=
    { stem := "search_in_any_of", body := .search (.anyOf (fields.map .compareBy)) o.consume,
      options := o.matching o.spreadFilter }

/-- What a declaration amounts to when so many names have been made up. -/
def Declaration.content (given : Nat) : Declaration Q → Content Q
  | .rule name body => { Content.empty with rules := [(name, body)] }
  | .matcher name options => { Content.empty with matchers := [{ rule := name, options }] }
  | .condition name test => { Content.empty with conditions := [(name, test)] }
  | .filter test => { Content.empty with filters := [test] }
  | .permit fields => { Content.empty with filters := [fun v => v.term.field.all (decide <| · ∈ fields)] }
  | d => .ofHelpers given d.helpers

/-- What the declarations of a level amount to when so many names have been made up. -/
def Content.ofLevel (given : Nat) : List (Declaration Q) → Content Q
  | [] => .empty
  | a :: level => (a.content given).append (ofLevel (given + a.helpers.length) level)

/-- The draft after a declaration. -/
def Draft.add (d : Draft Q) : Declaration Q → Draft Q
  | .base query => d.base query
  | .language language => d.language language
  | .rule name body => d.rule name body
  | .matcher rule options => d.matcher rule options
  | .condition name test => d.condition name test
  | .filter test => d.filter test
  | .permit fields => d.permit fields
  | .rename field target => d.rename field target
  | .searchInSpecificFields fields o => d.searchInSpecificFields fields o
  | .searchInAnyOf fields o => d.searchInAnyOf fields o
  | .searchInAllOf fields o => d.searchInAllOf fields o
  | .searchIn fields o => d.searchIn fields o

/-- The draft after the declarations of a level. -/
def Draft.addAll (d : Draft Q) (level : List (Declaration Q)) : Draft Q := level.foldl Draft.add d

end Helpers

/-! ## What a draft grows by -/

namespace Draft

/-- One draft becomes another by declarations with a certain content. -/
structure Adds (d d' : Draft Q) (c : Content Q) : Prop where
  filters : d'.declarations.filters = d.declarations.filters ++ c.filters
  matchers : d'.declarations.matchers = d.declarations.matchers ++ c.matchers
  conditions : d'.declarations.conditions = d.declarations.conditions.extend c.conditions
  generated : d'.declarations.generated = d.declarations.generated + c.madeUp.length
  ownRules : ∀ name, name ∈ d'.ownRules ↔ name ∈ d.ownRules ∨ name ∈ c.rules.map Prod.fst
  /-- A rule that is declared twice is an error, not a declaration. -/
  rules : d'.errors = [] → d'.declarations.rules = d.declarations.rules.extend c.rules
  errors : d'.errors = [] ↔
    d.errors = [] ∧ (c.rules.map Prod.fst).Nodup ∧ ∀ name ∈ c.rules.map Prod.fst, name ∉ d.ownRules

variable {d d' d'' : Draft Q} {c c' : Content Q}

theorem Adds.refl (d : Draft Q) : d.Adds d .empty where
  filters := (List.append_nil _).symm
  matchers := (List.append_nil _).symm
  conditions := rfl
  generated := rfl
  ownRules _ := (or_iff_left List.not_mem_nil).symm
  rules _ := rfl
  errors := ⟨fun h => ⟨h, List.nodup_nil, nofun⟩, And.left⟩

theorem Adds.trans (h : d.Adds d' c) (h' : d'.Adds d'' c') : d.Adds d'' (c.append c') where
  filters := by rw [h'.filters, h.filters, List.append_assoc]; rfl
  matchers := by rw [h'.matchers, h.matchers, List.append_assoc]; rfl
  conditions := by rw [h'.conditions, h.conditions, ← KeyMap.extend_append]; rfl
  generated := by rw [h'.generated, h.generated, Nat.add_assoc, ← List.length_append]; rfl
  ownRules name := by rw [h'.ownRules, h.ownRules, or_assoc, ← List.mem_append, ← List.map_append]; rfl
  rules herrors := by
    rw [h'.rules herrors, h.rules (h'.errors.mp herrors).1, ← KeyMap.extend_append]
    rfl
  errors := by
    rw [h'.errors, h.errors, show (c.append c').rules = c.rules ++ c'.rules from rfl, List.map_append,
      List.nodup_append, List.forall_mem_append]
    simp only [h.ownRules, not_or]
    constructor
    · rintro ⟨⟨herrors, hnodup, hown⟩, hnodup', hown'⟩
      exact ⟨herrors, ⟨hnodup, hnodup', fun a ha b hb hab => (hown' b hb).2 (hab ▸ ha)⟩, hown,
        fun name hname => (hown' name hname).1⟩
    · rintro ⟨herrors, ⟨hnodup, hnodup', hne⟩, hown, hown'⟩
      exact ⟨⟨herrors, hnodup, hown⟩, hnodup',
        fun name hname => ⟨hown' name hname, fun hmem => hne name hmem name hname rfl⟩⟩

/-- A declaration of something other than rules. -/
theorem adds_of_rules_nil (hrules : c.rules = []) (hown : d'.ownRules = d.ownRules) (herrors : d'.errors = d.errors)
    (hkept : d'.declarations.rules = d.declarations.rules)
    (hfilters : d'.declarations.filters = d.declarations.filters ++ c.filters)
    (hmatchers : d'.declarations.matchers = d.declarations.matchers ++ c.matchers)
    (hconditions : d'.declarations.conditions = d.declarations.conditions.extend c.conditions)
    (hgenerated : d'.declarations.generated = d.declarations.generated + c.madeUp.length) : d.Adds d' c where
  filters := hfilters
  matchers := hmatchers
  conditions := hconditions
  generated := hgenerated
  ownRules _ := by
    rw [hown, hrules]
    exact (or_iff_left List.not_mem_nil).symm
  rules _ := by
    rw [hkept, hrules]
    rfl
  errors := by
    rw [herrors, hrules]
    exact ⟨fun h => ⟨h, List.nodup_nil, nofun⟩, And.left⟩

theorem adds_filter (d : Draft Q) (test : Visit → Bool) :
    d.Adds (d.filter test) { Content.empty with filters := [test] } :=
  adds_of_rules_nil rfl rfl rfl rfl rfl (List.append_nil _).symm rfl rfl

theorem adds_matcher (d : Draft Q) (rule : String) (options : MatcherOptions Q) :
    d.Adds (d.matcher rule options) { Content.empty with matchers := [{ rule, options }] } :=
  adds_of_rules_nil rfl rfl rfl rfl (List.append_nil _).symm rfl rfl rfl

theorem adds_condition (d : Draft Q) (name : String) (test : GuardTest Q) :
    d.Adds (d.condition name test) { Content.empty with conditions := [(name, test)] } :=
  adds_of_rules_nil rfl rfl rfl rfl (List.append_nil _).symm (List.append_nil _).symm rfl rfl

theorem adds_rule (d : Draft Q) (name : String) (body : RuleBody Q) :
    d.Adds (d.rule name body) { Content.empty with rules := [(name, body)] } := by
  by_cases hmem : name ∈ d.ownRules
  · have hrule : d.rule name body = { d with errors := d.errors ++ [.duplicateRule name] } := if_pos hmem
    rw [hrule]
    refine ⟨(List.append_nil _).symm, (List.append_nil _).symm, rfl, rfl, fun other => ?_, fun h => ?_, ?_⟩
    · refine ⟨.inl, fun h => h.elim id fun hother => ?_⟩
      rwa [List.mem_singleton.mp hother]
    · exact absurd (List.append_eq_nil_iff.mp h).2 (List.cons_ne_nil _ _)
    · refine ⟨fun h => absurd (List.append_eq_nil_iff.mp h).2 (List.cons_ne_nil _ _), fun h => ?_⟩
      exact absurd hmem (h.2.2 name (List.mem_singleton.mpr rfl))
  · rw [rule_of_not_mem hmem]
    refine ⟨(List.append_nil _).symm, (List.append_nil _).symm, rfl, rfl, fun other => ?_, fun _ => rfl, ?_⟩
    · rw [List.mem_cons, or_comm]
      exact or_congr_right List.mem_singleton.symm
    · refine ⟨fun h => ⟨h, List.nodup_singleton _, fun other hother => ?_⟩, And.left⟩
      rwa [List.mem_singleton.mp hother]

/-- Names are made up by number, whoever makes them up. -/
theorem adds_generate (d : Draft Q) (h : Helper Q) :
    d.Adds (d.generate h.stem h.body h.options) (.ofHelpers d.declarations.generated [h]) := by
  have hnumber : d.Adds (d.declare ({ · with generated := d.declarations.generated + 1 }))
      { Content.empty with madeUp := [(numberedName h.stem (d.declarations.generated + 1), h.body)] } :=
    adds_of_rules_nil rfl rfl rfl rfl (List.append_nil _).symm (List.append_nil _).symm rfl rfl
  exact (hnumber.trans (adds_rule _ _ h.body)).trans (adds_matcher _ _ h.options)

variable [Query Q]

theorem adds_add (d : Draft Q) (a : Declaration Q) : d.Adds (d.add a) (a.content d.declarations.generated) := by
  have htwo : ∀ h h' : Helper Q,
      d.Adds ((d.generate h.stem h.body h.options).generate h'.stem h'.body h'.options)
        (.ofHelpers d.declarations.generated [h, h']) := by
    intro h h'
    have hfirst := adds_generate d h
    have hsecond := adds_generate (d.generate h.stem h.body h.options) h'
    rw [hfirst.generated] at hsecond
    exact hfirst.trans hsecond
  cases a with
  | base query => exact adds_of_rules_nil rfl rfl rfl rfl (List.append_nil _).symm (List.append_nil _).symm rfl rfl
  | language language =>
    exact adds_of_rules_nil rfl rfl rfl rfl (List.append_nil _).symm (List.append_nil _).symm rfl rfl
  | rule name body => exact adds_rule d name body
  | matcher name options => exact adds_matcher d name options
  | condition name test => exact adds_condition d name test
  | filter test => exact adds_filter d test
  | permit fields => exact adds_filter d _
  | rename field target => exact adds_generate d ⟨"alias", .rename target, _⟩
  | searchInSpecificFields fields o => exact adds_generate d (Declaration.helpers.specific fields o)
  | searchInAnyOf fields o => exact adds_generate d (Declaration.helpers.anyOf fields o)
  | searchInAllOf fields o =>
    exact adds_generate d ⟨"search_in_all_of", .search (.allOf (fields.map .compareBy)) o.consume, _⟩
  | searchIn fields o => exact htwo (Declaration.helpers.specific fields o) (Declaration.helpers.anyOf fields o)

theorem length_madeUp_content (given : Nat) (a : Declaration Q) :
    (a.content given).madeUp.length = a.helpers.length := by
  cases a <;> rfl

/-- **A draft grows by what is declared on it.** -/
theorem adds_addAll (d : Draft Q) (level : List (Declaration Q)) :
    d.Adds (d.addAll level) (.ofLevel d.declarations.generated level) := by
  induction level generalizing d with
  | nil => exact .refl d
  | cons a level ih =>
    have hfirst := adds_add d a
    have hrest := ih (d.add a)
    rw [hfirst.generated, length_madeUp_content] at hrest
    exact hfirst.trans hrest

end Draft

/-! ## Chains -/

/-- The levels that a definition is declared on. -/
inductive Lineage (Q : Type) where
  | root (level : List (Declaration Q))
  /-- A level that extends the definition of other levels. -/
  | extend (parent : Lineage Q) (level : List (Declaration Q))

namespace Lineage

variable [Query Q]

/-- **The definition of a chain**: each level is declared on the definition of the levels before it. -/
def build : Lineage Q → Except DefinitionError (Definition Q)
  | root level => (Definition.start.addAll level).build
  | extend parent level => do
    let d ← parent.build
    (d.extend.addAll level).build

/-- The levels that the last level extends. -/
def parent? : Lineage Q → Option (Lineage Q)
  | root _ => none
  | extend parent _ => some parent

/-- The declarations of the last level. -/
def level : Lineage Q → List (Declaration Q)
  | root level => level
  | extend _ level => level

/-- The declarations of each level, the first level first. -/
def levels : Lineage Q → List (List (Declaration Q))
  | root level => [level]
  | extend parent level => parent.levels ++ [level]

/-- What each level declares. -/
def contents : Lineage Q → List (Content Q)
  | root level => [.ofLevel 0 level]
  | extend parent level => parent.contents ++ [.ofLevel (parent.contents.flatMap Content.madeUp).length level]

/-- The filters of all levels. -/
def filters (l : Lineage Q) : List (Visit → Bool) := l.contents.flatMap Content.filters

/-- The matchers of all levels. -/
def matchers (l : Lineage Q) : List (PendingMatcher Q) := l.contents.flatMap Content.matchers

/-- The rules of all levels, with their names. -/
def rules (l : Lineage Q) : List (String × RuleBody Q) := l.contents.flatMap Content.rules

/-- The conditions of all levels, with their names. -/
def conditions (l : Lineage Q) : List (String × GuardTest Q) := l.contents.flatMap Content.conditions

/-- The rules that helpers have declared on any level. -/
def madeUp (l : Lineage Q) : List (String × RuleBody Q) := l.contents.flatMap Content.madeUp

end Lineage

/-! ## What is built from a chain -/

/-- All that is declared has been declared on some levels. -/
structure Declarations.DeclaredBy (s : Declarations Q) (contents : List (Content Q)) : Prop where
  filters : s.filters = contents.flatMap Content.filters
  matchers : s.matchers = contents.flatMap Content.matchers
  rules : s.rules = .ofList (contents.flatMap Content.rules)
  conditions : s.conditions = .ofList (contents.flatMap Content.conditions)
  generated : s.generated = (contents.flatMap Content.madeUp).length

namespace Draft

theorem Adds.declaredBy {d d' : Draft Q} {c : Content Q} (h : d.Adds d' c) (herrors : d'.errors = [])
    {contents : List (Content Q)} (hd : d.declarations.DeclaredBy contents) :
    d'.declarations.DeclaredBy (contents ++ [c]) where
  filters := by rw [h.filters, hd.filters, List.flatMap_append, List.flatMap_singleton]
  matchers := by rw [h.matchers, hd.matchers, List.flatMap_append, List.flatMap_singleton]
  rules := by
    rw [h.rules herrors, hd.rules, List.flatMap_append, List.flatMap_singleton, KeyMap.ofList, KeyMap.ofList,
      KeyMap.extend_append]
  conditions := by
    rw [h.conditions, hd.conditions, List.flatMap_append, List.flatMap_singleton, KeyMap.ofList, KeyMap.ofList,
      KeyMap.extend_append]
  generated := by
    rw [h.generated, hd.generated, List.flatMap_append, List.flatMap_singleton, List.length_append]

/-- A level has no error of its own exactly if it declares no rule twice. -/
theorem Adds.errors_iff {d d' : Draft Q} {c : Content Q} (h : d.Adds d' c) (herrors : d.errors = [])
    (hown : d.ownRules = []) : d'.errors = [] ↔ (c.rules.map Prod.fst).Nodup := by
  rw [h.errors, hown]
  exact ⟨fun h => h.2.1, fun h => ⟨herrors, h, fun _ _ => List.not_mem_nil⟩⟩

end Draft

namespace Lineage

/-- What a guard tests: a name stands for the condition that was declared by it last, on whatever level. -/
inductive GuardMeans (conditions : List (String × GuardTest Q)) : Option (Guard Q) → Option (GuardTest Q) → Prop
  | none : GuardMeans conditions none none
  | inline (test : GuardTest Q) : GuardMeans conditions (some (.inline test)) (some test)
  | named {name : String} {test : GuardTest Q} (h : KeyMap.LastGiven conditions name test) :
    GuardMeans conditions (some (.named name)) (some test)

variable [Query Q]

/-- What becomes of a matcher in the definition of a chain. -/
structure Resolves (l : Lineage Q) (spec : PendingMatcher Q) (m : Matcher Q) : Prop where
  declared : spec.rule ∈ l.rules.map Prod.fst
  rule : m.rule = spec.rule
  rank : m.rank = spec.options.rank
  fields : m.fields = spec.options.fields
  onlyIf : GuardMeans l.conditions spec.options.onlyIf m.onlyIf
  exceptIf : GuardMeans l.conditions spec.options.exceptIf m.exceptIf

omit [Query Q] in
theorem guardTest_eq_ok_iff {conditions : List (String × GuardTest Q)} {guard : Option (Guard Q)}
    {test : Option (GuardTest Q)} :
    Draft.guardTest (.ofList conditions) guard = .ok test ↔ GuardMeans conditions guard test := by
  rcases guard with _ | ⟨name⟩ | test'
  · refine ⟨fun h => ?_, fun h => ?_⟩
    · cases h
      exact .none
    · cases h
      rfl
  · rw [Draft.guardTest]
    constructor
    · intro h
      cases hget : (KeyMap.ofList conditions).get? name with
      | none =>
        rw [hget] at h
        cases h
      | some found =>
        rw [hget] at h
        cases h
        exact .named (KeyMap.get?_ofList_eq_some_iff.mp hget)
    · intro h
      cases h with
      | named hlast => rw [KeyMap.get?_ofList_eq_some_iff.mpr hlast]
  · refine ⟨fun h => ?_, fun h => ?_⟩
    · cases h
      exact .inline test'
    · cases h
      rfl

theorem resolve_eq_ok_iff {l : Lineage Q} {s : Declarations Q} (hs : s.DeclaredBy l.contents)
    {spec : PendingMatcher Q} {m : Matcher Q} : Draft.resolve s spec = .ok m ↔ l.Resolves spec m := by
  have hhas : s.rules.has spec.rule = true ↔ spec.rule ∈ l.rules.map Prod.fst := by
    rw [hs.rules]
    exact KeyMap.has_ofList
  have hguard : ∀ guard test, Draft.guardTest s.conditions guard = .ok test ↔ GuardMeans l.conditions guard test := by
    rw [hs.conditions]
    exact fun guard test => guardTest_eq_ok_iff
  rw [Draft.resolve_eq_ok_iff, hhas, hguard, hguard]
  constructor
  · rintro ⟨hdeclared, honlyIf, hexceptIf, hrule, hrank, hfields⟩
    exact ⟨hdeclared, hrule, hrank, hfields, honlyIf, hexceptIf⟩
  · rintro ⟨hdeclared, hrule, hrank, hfields, honlyIf, hexceptIf⟩
    exact ⟨hdeclared, honlyIf, hexceptIf, hrule, hrank, hfields⟩

/-- The draft that the last level is declared on: nothing is declared on it but what the levels before have
declared. -/
structure OpensOn (l : Lineage Q) (d : Draft Q) (before : List (Content Q)) : Prop where
  errors : d.errors = []
  ownRules : d.ownRules = []
  declared : d.declarations.DeclaredBy before
  contents : l.contents = before ++ [.ofLevel d.declarations.generated l.level]
  build : l.build = (d.addAll l.level).build

theorem opensOn_root (level : List (Declaration Q)) : (root level).OpensOn Definition.start [] where
  errors := rfl
  ownRules := rfl
  declared := ⟨rfl, rfl, rfl, rfl, rfl⟩
  contents := rfl
  build := rfl

theorem opensOn_extend {parent : Lineage Q} {d : Definition Q} (hbuild : parent.build = .ok d)
    (hd : d.declarations.DeclaredBy parent.contents) (level : List (Declaration Q)) :
    (extend parent level).OpensOn d.extend parent.contents where
  errors := rfl
  ownRules := rfl
  declared := hd
  contents := by
    rw [contents, show d.extend.declarations = d.declarations from rfl, hd.generated]
    rfl
  build := by
    rw [build, hbuild]
    rfl

/-- **The last level is built** exactly if it declares no rule twice and all matchers can be resolved. -/
theorem OpensOn.build_eq_ok_iff {l : Lineage Q} {d : Draft Q} {before : List (Content Q)} (h : l.OpensOn d before)
    {definition : Definition Q} :
    l.build = .ok definition ↔
      ((Content.ofLevel d.declarations.generated l.level).rules.map Prod.fst).Nodup ∧
        definition.declarations = (d.addAll l.level).declarations ∧ ∃ resolved,
          List.Forall₂ l.Resolves l.matchers resolved ∧
          definition.matchers = resolved.mergeSort fun a b => decide (a.rank ≤ b.rank) := by
  have hadds := Draft.adds_addAll d l.level
  rw [h.build, Draft.build_eq_ok_iff, hadds.errors_iff h.errors h.ownRules]
  refine and_congr_right fun hnodup => and_congr_right fun _ => exists_congr fun resolved => and_congr_left fun _ => ?_
  have hdeclared : (d.addAll l.level).declarations.DeclaredBy l.contents := by
    rw [h.contents]
    exact hadds.declaredBy ((hadds.errors_iff h.errors h.ownRules).mpr hnodup) h.declared
  have hresolve : ∀ spec m, Draft.resolve (d.addAll l.level).declarations spec = .ok m ↔ l.Resolves spec m :=
    fun _ _ => resolve_eq_ok_iff hdeclared
  rw [hdeclared.matchers]
  simp only [hresolve]
  rfl

theorem OpensOn.declaredBy {l : Lineage Q} {d : Draft Q} {before : List (Content Q)} (h : l.OpensOn d before)
    {definition : Definition Q} (hbuild : l.build = .ok definition) :
    definition.declarations.DeclaredBy l.contents := by
  have hadds := Draft.adds_addAll d l.level
  obtain ⟨hnodup, hdeclarations, -⟩ := h.build_eq_ok_iff.mp hbuild
  rw [hdeclarations, h.contents]
  exact hadds.declaredBy ((hadds.errors_iff h.errors h.ownRules).mpr hnodup) h.declared

/-- **What has been built has been declared** on some level, and no level declares a rule twice. -/
theorem declaredBy_of_build {l : Lineage Q} {d : Definition Q} (h : l.build = .ok d) :
    d.declarations.DeclaredBy l.contents ∧ ∀ c ∈ l.contents, (c.rules.map Prod.fst).Nodup := by
  induction l generalizing d with
  | root level =>
    have hopens := opensOn_root level
    refine ⟨hopens.declaredBy h, ?_⟩
    rw [hopens.contents, List.nil_append, List.forall_mem_singleton]
    exact (hopens.build_eq_ok_iff.mp h).1
  | extend parent level ih =>
    cases hparent : parent.build with
    | error cause =>
      rw [build, hparent] at h
      cases h
    | ok d₀ =>
      obtain ⟨hdeclared, hnodup⟩ := ih hparent
      have hopens := opensOn_extend hparent hdeclared level
      refine ⟨hopens.declaredBy h, ?_⟩
      rw [hopens.contents, List.forall_mem_append, List.forall_mem_singleton]
      exact ⟨hnodup, (hopens.build_eq_ok_iff.mp h).1⟩

/-- A level whose parent is built is declared on a draft. -/
theorem exists_opensOn {l : Lineage Q} (hparent : ∀ parent ∈ l.parent?, ∃ d, parent.build = .ok d) :
    ∃ d before, l.OpensOn d before := by
  cases l with
  | root level => exact ⟨_, _, opensOn_root level⟩
  | extend parent level =>
    obtain ⟨d, hd⟩ := hparent parent rfl
    exact ⟨_, _, opensOn_extend hd (declaredBy_of_build hd).1 level⟩

/-- The parent of a definition is built before it. -/
theorem parent_of_build {l : Lineage Q} {d : Definition Q} (h : l.build = .ok d) :
    ∀ parent ∈ l.parent?, ∃ d, parent.build = .ok d := by
  cases l with
  | root level => exact nofun
  | extend parent level =>
    rintro _ ⟨⟩
    cases hparent : parent.build with
    | error cause =>
      rw [build, hparent] at h
      cases h
    | ok d₀ => exact ⟨d₀, rfl⟩

/-- **The matchers of a definition** are those of all levels, the levels and their declarations in order, sorted by
their ranks. -/
theorem matchers_of_build {l : Lineage Q} {d : Definition Q} (h : l.build = .ok d) :
    ∃ resolved, List.Forall₂ l.Resolves l.matchers resolved ∧
      d.matchers = resolved.mergeSort fun a b => decide (a.rank ≤ b.rank) := by
  obtain ⟨_, _, hopens⟩ := exists_opensOn (parent_of_build h)
  exact (hopens.build_eq_ok_iff.mp h).2.2

end Lineage

end TermSearch
