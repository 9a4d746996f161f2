import TermSearch.Proofs.Document.Refusal

/-!
# The grammar of selectors

Which values are selectors can be said without compiling them. A selector is an object whose connectives list selectors
and whose other members are conditions on fields (`IsSelector`); a condition is an object of operators that all have
operands they can take, or any value that is no object of operators (`IsCondition`). `parse_exact` says that just these
values are taken. Both grammars are relations, so what is taken is shown to be in them by going down the value, and what
is in them to be taken by induction.
-/

namespace TermSearch.Document

/-! ## The grammar -/

/-- The value is an object of operators: it has members, and the keys of all of them stand for operators. -/
def IsOperators (value : Json) : Prop :=
  ∃ fields, value = .object fields ∧ fields.toList ≠ [] ∧ ∀ e ∈ fields.toList, isOperatorKey e.1 = true

/-- The operators that take any operand. -/
def valueOperators : List String := ["$eq", "$ne", "$gt", "$gte", "$lt", "$lte", "$exists"]

/-- The operators that take a list. -/
def listOperators : List String := ["$in", "$nin"]

variable [PatternEngine]

/-- An operator other than negation has an operand that it can take, beside the options for a pattern. -/
inductive TakesOperand (options : String) : String → Json → Prop
  | value {operator : String} (h : operator ∈ valueOperators) (operand : Json) : TakesOperand options operator operand
  | list {operator : String} (h : operator ∈ listOperators) (items : List Json) :
    TakesOperand options operator (.array items)
  | pattern {pattern : String} {occursIn : String → Bool}
    (h : PatternEngine.read (patternFlags options) pattern = .ok occursIn) :
    TakesOperand options "$regex" (.string pattern)
  /-- Options are judged beside the pattern that they are for (`HasOptions`). -/
  | options (operand : Json) : TakesOperand options "$options" operand

/-- The options for the pattern of an object of operators: a text that needs a pattern beside it, or none. -/
structure HasOptions (fields : KeyMap Json) (options : String) : Prop where
  given : ∀ operand, fields.get? "$options" = some operand → operand = .string options ∧ fields.has "$regex" = true
  missing : fields.get? "$options" = none → options = ""

/-- **The values that are conditions on a field.** -/
inductive IsCondition : Json → Prop
  /-- A value to be equal to. -/
  | literal {value : Json} (h : ¬ IsOperators value) : IsCondition value
  /-- Operators to pass, each of them. -/
  | operators {fields : KeyMap Json} {options : String} (hoptions : HasOptions fields options)
    (hoperand : ∀ e ∈ fields.toList, e.1 ≠ "$not" → TakesOperand options e.1 e.2)
    (hnot : ∀ e ∈ fields.toList, e.1 = "$not" → IsCondition e.2) : IsCondition (.object fields)

/-- **The values that are selectors.** -/
inductive IsSelector : Json → Prop
  | members {fields : KeyMap Json}
    (hkeys : ∀ e ∈ fields.toList, isOperatorKey e.1 = true → e.1 = "$and" ∨ e.1 = "$or")
    (hlists : ∀ e ∈ fields.toList, e.1 = "$and" ∨ e.1 = "$or" → ∃ items, e.2 = .array items)
    (hitems : ∀ e ∈ fields.toList, e.1 = "$and" ∨ e.1 = "$or" →
      ∀ items, e.2 = .array items → ∀ item ∈ items, IsSelector item)
    (hconditions : ∀ e ∈ fields.toList, isOperatorKey e.1 = false → IsCondition e.2) : IsSelector (.object fields)

/-! ## Operators -/

omit [PatternEngine] in
theorem isList_of_listOperand {operator : String} {operand : Json} {items : List Json}
    (h : listOperand operator operand = .ok items) : operand = .array items := by
  cases operand with
  | array => exact congrArg Json.array (Except.ok.inj h)
  | null | bool | number | string | object => cases h

theorem reads_of_compilePattern {options : String} {operand : Json} {occursIn : String → Bool}
    (h : compilePattern options operand = .ok occursIn) :
    ∃ pattern, operand = .string pattern ∧ PatternEngine.read (patternFlags options) pattern = .ok occursIn := by
  cases operand with
  | string pattern =>
    rw [compilePattern] at h
    cases hread : PatternEngine.read (patternFlags options) pattern with
    | error cause =>
      rw [hread] at h
      cases h
    | ok other =>
      rw [hread] at h
      cases h
      exact ⟨pattern, rfl, hread⟩
  | null | bool | number | array | object => cases h

omit [PatternEngine] in
theorem exists_of_map_eq_ok {α β ε : Type} {x : Except ε α} {f : α → β} {b : β} (h : x.map f = .ok b) :
    ∃ a, x = .ok a := by
  cases x with
  | error cause => cases h
  | ok a => exact ⟨a, rfl⟩

/-- **Operators other than negation** are taken with the operands that they can take. -/
theorem operatorTest_taken {options operator : String} {operand : Json} :
    (∃ test, operatorTest options operator operand = .ok test) ↔ TakesOperand options operator operand := by
  constructor
  · rintro ⟨test, h⟩
    unfold operatorTest at h
    split at h
    case h_7 | h_8 =>
      obtain ⟨items, hitems⟩ := exists_of_map_eq_ok h
      rw [isList_of_listOperand hitems]
      exact .list (by simp [listOperators]) items
    case h_10 =>
      obtain ⟨occursIn, hcompiled⟩ := exists_of_map_eq_ok h
      obtain ⟨pattern, rfl, hread⟩ := reads_of_compilePattern hcompiled
      exact .pattern hread
    case h_11 => exact .options operand
    case h_12 => cases h
    all_goals exact .value (by simp [valueOperators]) operand
  · intro h
    cases h with
    | value hoperator =>
      simp only [valueOperators, List.mem_cons, List.not_mem_nil, or_false] at hoperator
      rcases hoperator with rfl | rfl | rfl | rfl | rfl | rfl | rfl <;> exact ⟨_, rfl⟩
    | list hoperator items =>
      simp only [listOperators, List.mem_cons, List.not_mem_nil, or_false] at hoperator
      rcases hoperator with rfl | rfl <;> exact ⟨_, rfl⟩
    | @pattern pattern occursIn hread =>
      refine ⟨some (.matches occursIn), ?_⟩
      show (compilePattern options (.string pattern)).map _ = _
      rw [compilePattern, hread]
      rfl
    | options => exact ⟨none, rfl⟩

theorem operatorTests_cons_taken {options : String} {low : Option String} {operator : String}
    {above : ∀ k ∈ low, k < operator} {operand : Json} {rest : Entries Json (some operator)} :
    (∃ tests, operatorTests options (.cons operator above operand rest) = .ok tests) ↔
      ((operator ≠ "$not" → TakesOperand options operator operand) ∧ (operator = "$not" → HasTest operand)) ∧
        ∃ tests, operatorTests options rest = .ok tests := by
  have hfirst : (∃ test, (if operator = "$not" then (testOf operand).map fun test => some (.not test)
        else operatorTest options operator operand) = .ok test) ↔
      (operator ≠ "$not" → TakesOperand options operator operand) ∧ (operator = "$not" → HasTest operand) := by
    by_cases hnot : operator = "$not"
    · rw [if_pos hnot]
      unfold HasTest
      cases testOf operand with
      | error cause => simp [hnot, Except.map]
      | ok test => simp [hnot, Except.map]
    · rw [if_neg hnot, operatorTest_taken]
      simp [hnot]
  rw [← hfirst, operatorTests]
  generalize (if operator = "$not" then (testOf operand).map fun test => some (PathTest.not test)
    else operatorTest options operator operand) = first
  cases first with
  | error cause => simp
  | ok test =>
    cases operatorTests options rest with
    | error cause => simp
    | ok tests => simp

/-- The operators of an object are taken if each of them has an operand that it can take. -/
theorem operatorTests_taken {options : String} {low : Option String} {fields : Entries Json low} :
    (∃ tests, operatorTests options fields = .ok tests) ↔
      (∀ e ∈ fields.toList, e.1 ≠ "$not" → TakesOperand options e.1 e.2) ∧
        ∀ e ∈ fields.toList, e.1 = "$not" → HasTest e.2 := by
  induction fields with
  | nil => simp [operatorTests]
  | cons operator above operand rest ih =>
    rw [operatorTests_cons_taken, ih]
    simp only [Entries.toList_cons, List.forall_mem_cons]
    tauto

omit [PatternEngine] in
theorem patternOptions_eq_ok {fields : KeyMap Json} {options : String} :
    patternOptions fields = .ok options ↔ HasOptions fields options := by
  unfold patternOptions
  constructor
  · intro h
    split at h
    · next hmissing =>
      cases h
      refine ⟨fun operand hgiven => ?_, fun _ => rfl⟩
      rw [hmissing] at hgiven
      cases hgiven
    · next given hgiven =>
      split at h
      · next hpattern =>
        cases h
        constructor
        · intro operand hoperand
          rw [hgiven] at hoperand
          cases hoperand
          exact ⟨rfl, hpattern⟩
        · intro hmissing
          rw [hgiven] at hmissing
          cases hmissing
      · cases h
    · cases h
  · rintro ⟨hgiven, hmissing⟩
    cases hoptions : fields.get? "$options" with
    | none => rw [hmissing hoptions]
    | some operand =>
      obtain ⟨rfl, hpattern⟩ := hgiven operand hoptions
      simp [hpattern]

/-! ## Conditions -/

omit [PatternEngine] in
theorem isOperators_object {fields : KeyMap Json} : IsOperators (.object fields) ↔ areOperators fields = true := by
  simp [IsOperators, areOperators, Entries.isEmpty, Entries.keys]

theorem hasTest_operators {fields : KeyMap Json} (h : areOperators fields = true) :
    HasTest (.object fields) ↔
      ∃ options, HasOptions fields options ∧ ∃ tests, operatorTests options fields = .ok tests := by
  unfold HasTest
  rw [testOf, if_pos h]
  simp only [← patternOptions_eq_ok]
  cases patternOptions fields with
  | error cause => simp
  | ok options =>
    cases htests : operatorTests options fields with
    | error cause => simp [htests]
    | ok tests => simp [htests]

theorem hasTest_of_not_isOperators {value : Json} (h : ¬ IsOperators value) : HasTest value := by
  refine hasTest_of_plain fun fields hvalue => ?_
  rw [hvalue, isOperators_object] at h
  simpa using h

omit [PatternEngine] in
theorem sizeOf_member_lt {low : Option String} {fields : Entries Json low} {e : String × Json}
    (h : e ∈ fields.toList) : sizeOf e.2 < sizeOf fields := by
  induction fields with
  | nil => cases h
  | cons key above value rest ih =>
    rw [Entries.cons.sizeOf_spec]
    rcases List.mem_cons.mp h with rfl | h
    · show sizeOf value < _
      omega
    · have hrest := ih h
      omega

theorem isCondition_of_hasTest : ∀ value : Json, HasTest value → IsCondition value
  | value, h => by
    by_cases hoperators : IsOperators value
    · obtain ⟨fields, hvalue, hne, hkeys⟩ := hoperators
      rw [hvalue] at h ⊢
      obtain ⟨options, hoptions, htests⟩ := (hasTest_operators (isOperators_object.mp ⟨fields, rfl, hne, hkeys⟩)).mp h
      obtain ⟨hoperand, hnot⟩ := operatorTests_taken.mp htests
      refine .operators hoptions hoperand fun e he hkey => ?_
      have hsmaller : sizeOf e.2 < sizeOf value := by
        have hmember := sizeOf_member_lt he
        rw [hvalue, Json.object.sizeOf_spec]
        omega
      exact isCondition_of_hasTest e.2 (hnot e he hkey)
    · exact .literal hoperators
termination_by value => sizeOf value

/-- **A value can be read as a test exactly if it is a condition.** -/
theorem hasTest_iff {value : Json} : HasTest value ↔ IsCondition value := by
  refine ⟨isCondition_of_hasTest value, fun h => ?_⟩
  induction h with
  | literal hvalue => exact hasTest_of_not_isOperators hvalue
  | @operators fields options hoptions hoperand _ ih =>
    by_cases hare : areOperators fields = true
    · exact (hasTest_operators hare).mpr ⟨options, hoptions, operatorTests_taken.mpr ⟨hoperand, ih⟩⟩
    · exact hasTest_of_not_isOperators fun h => hare (isOperators_object.mp h)

/-! ## Selectors -/

namespace Selector

/-- Listed values are taken if each of them is a selector that compiles. -/
theorem itemFilters_taken (key : String) {items : List Json} :
    (∃ filters, itemFilters key items = .ok filters) ↔ ∀ item ∈ items, ∃ s : Selector, item = s.toJson ∧ s.Compiles := by
  induction items with
  | nil => simp [itemFilters]
  | cons item items ih =>
    rw [List.forall_mem_cons, ← ih]
    cases item with
    | object fields =>
      have hcons := @itemFilters_cons_eq_ok _ key ⟨fields⟩ items
      constructor
      · rintro ⟨filters, h⟩
        obtain ⟨filter, more, hfilter, hmore, -⟩ := hcons.mp h
        exact ⟨⟨⟨fields⟩, rfl, filter, hfilter⟩, more, hmore⟩
      · rintro ⟨⟨s, hs, filter, hfilter⟩, more, hmore⟩
        cases hs
        exact ⟨_, hcons.mpr ⟨filter, more, hfilter, hmore, rfl⟩⟩
    | null | bool | number | string | array => simp [itemFilters, itemFilter, toJson]

/-- A member under a connective compiles if it lists selectors that compile. -/
theorem connective_compiles_iff {p : Predicate} {value : Json} :
    (field (connectiveKey p) value).Compiles ↔
      ∃ items, value = .array items ∧ ∀ item ∈ items, ∃ s : Selector, item = s.toJson ∧ s.Compiles := by
  simp only [← itemFilters_taken (connectiveKey p)]
  rw [Compiles, compile, field, memberFilters_connectiveKey]
  cases value with
  | array items =>
    rw [listedFilters]
    cases hitems : itemFilters (connectiveKey p) items with
    | error cause => simp [hitems, Except.map]
    | ok filters => simp [hitems, Except.map]
  | null | bool | number | string | object => simp [listedFilters, Except.map]

theorem not_compiles_of_unknown {key : String} {value : Json} (hkey : isOperatorKey key = true)
    (hand : key ≠ "$and") (hor : key ≠ "$or") : ¬ (field key value).Compiles := by
  rintro ⟨filter, h⟩
  rw [compile, field, memberFilters_single, if_neg hand, if_neg hor, if_pos hkey] at h
  cases h

omit [PatternEngine] in
theorem exists_connectiveKey {key : String} : key = "$and" ∨ key = "$or" ↔ ∃ p, key = connectiveKey p := by
  constructor
  · rintro (rfl | rfl)
    · exact ⟨.and, rfl⟩
    · exact ⟨.or, rfl⟩
  · rintro ⟨p, rfl⟩
    cases p with
    | and => exact .inl rfl
    | or => exact .inr rfl

theorem isSelector_of_compiles : ∀ fields : KeyMap Json, Compiles ⟨fields⟩ → IsSelector (.object fields)
  | fields, h => by
    have hmember : ∀ e ∈ fields.toList, (field e.1 e.2).Compiles := compiles_iff.mp h
    refine .members (fun e he hkey => ?_) (fun e he hkey => ?_) (fun e he hkey items hitems item hitem => ?_)
      fun e he hkey => ?_
    · by_contra hneither
      rw [not_or] at hneither
      exact not_compiles_of_unknown hkey hneither.1 hneither.2 (hmember e he)
    · obtain ⟨p, hp⟩ := exists_connectiveKey.mp hkey
      have hcompiles := hmember e he
      rw [hp, connective_compiles_iff] at hcompiles
      obtain ⟨items, hitems, -⟩ := hcompiles
      exact ⟨items, hitems⟩
    · obtain ⟨p, hp⟩ := exists_connectiveKey.mp hkey
      have hcompiles := hmember e he
      rw [hp, hitems, connective_compiles_iff] at hcompiles
      obtain ⟨_, hsame, hlisted⟩ := hcompiles
      cases hsame
      obtain ⟨s, rfl, hs⟩ := hlisted item hitem
      have hsmaller : sizeOf s.fields < sizeOf fields := by
        have hlist := sizeOf_member_lt he
        have hlisted := List.sizeOf_lt_of_mem hitem
        rw [hitems, Json.array.sizeOf_spec] at hlist
        rw [toJson, Json.object.sizeOf_spec] at hlisted
        omega
      exact isSelector_of_compiles s.fields hs
    · exact hasTest_iff.mp ((field_compiles_iff hkey).mp (hmember e he))
termination_by fields => sizeOf fields

theorem compiles_of_isSelector {value : Json} (h : IsSelector value) : ∃ s : Selector, value = s.toJson ∧ s.Compiles := by
  induction h with
  | @members fields hkeys hlists _ hconditions ih =>
    refine ⟨⟨fields⟩, rfl, compiles_iff.mpr fun e he => ?_⟩
    cases hkey : isOperatorKey e.1 with
    | false => exact (field_compiles_iff hkey).mpr (hasTest_iff.mpr (hconditions e he hkey))
    | true =>
      have hconnective := hkeys e he hkey
      obtain ⟨items, hitems⟩ := hlists e he hconnective
      have hlisted := ih e he hconnective items hitems
      obtain ⟨p, hp⟩ := exists_connectiveKey.mp hconnective
      rw [hp, connective_compiles_iff]
      exact ⟨items, hitems, hlisted⟩

/-- **The selectors that compile are those of the grammar.** -/
theorem compiles_iff_isSelector {fields : KeyMap Json} : Compiles ⟨fields⟩ ↔ IsSelector (.object fields) := by
  refine ⟨isSelector_of_compiles fields, fun h => ?_⟩
  obtain ⟨s, hs, hcompiles⟩ := compiles_of_isSelector h
  cases hs
  exact hcompiles

/-- An object with other keys beside its operators is a value to be equal to. -/
example : IsSelector (.ofFields [("size", .ofFields [("$in", .null), ("unit", .string "m")])]) :=
  compiles_iff_isSelector.mp ⟨_, rfl⟩

end Selector

/-- **Selectors are parsed exactly.** A value is taken exactly if it is a selector of the grammar. One that is taken is
kept as it is and has an answer for every document; of one that is not taken something is wrong, and a query that it is
added to reports just that. -/
theorem parse_exact (value : Json) :
    ((∃ s, Selector.parse value = .ok s) ↔ IsSelector value) ∧
      (∀ s, Selector.parse value = .ok s →
        s.toJson = value ∧ ∀ document, ∃ answer, s.wants document = .ok answer) ∧
      (¬ IsSelector value → ∃ cause, Selector.parse value = .error cause ∧
        ∀ q : DocumentQuery, Query.perform (DocumentMethod.filter value) q =
          .error (.backend (DocumentError.invalidSelector cause).message)) := by
  have htaken : (∃ s, Selector.parse value = .ok s) ↔ IsSelector value := by
    simp only [Selector.parse_eq_ok]
    refine ⟨?_, Selector.compiles_of_isSelector⟩
    rintro ⟨s, rfl, hcompiles⟩
    exact Selector.compiles_iff_isSelector.mp hcompiles
  refine ⟨htaken, fun s hparse => ?_, fun hvalue => ?_⟩
  · obtain ⟨rfl, filter, hfilter⟩ := Selector.parse_eq_ok.mp hparse
    refine ⟨rfl, fun document => ⟨filter.accepts document, ?_⟩⟩
    rw [Selector.wants, hfilter]
    rfl
  · cases hparse : Selector.parse value with
    | ok s => exact absurd (htaken.mp ⟨s, hparse⟩) hvalue
    | error cause =>
      refine ⟨cause, rfl, fun q => ?_⟩
      show DocumentMethod.run q (.filter value) = _
      rw [DocumentMethod.run, hparse]

end TermSearch.Document
