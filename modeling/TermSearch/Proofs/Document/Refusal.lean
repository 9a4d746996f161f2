import TermSearch.Proofs.Document.Answer
import TermSearch.Proofs.Query.Reachable
import TermSearch.Proofs.Regex.Lawful

/-!
# When queries are refused

A selector that does not compile should be found when it is added to a query, not when the query is run. The invariant
is `Selector.Sound`: no member is refused, unless a value compared by its pattern is too large for an expression. It is
said of members because conjunction takes selectors apart and puts their members side by side. All operations keep it,
with one condition: a field with a value of its own is added as it is, so the value has to have a test (`HasTest`).
`reachable_answers` draws the conclusion for queries, and `filterEq_refused_late` shows what a value without a test
does.
-/

namespace TermSearch

namespace Document

section

variable [PatternEngine]

/-- What is wrong is the pattern of some value, which is too large. -/
def SelectorError.IsTooLarge (cause : SelectorError) : Prop :=
  ∃ value, PatternTooLarge value ∧ cause = tooLargePattern value

/-! ## Sound selectors -/

namespace Selector

/-- **No member is refused but for a pattern that is too large.** -/
def Sound (s : Selector) : Prop :=
  ∀ e ∈ s.fields.toList, ∀ cause, (field e.1 e.2).compile = .error cause → cause.IsTooLarge

/-- What is wrong with members is wrong with one of them. -/
theorem exists_of_memberFilters_eq_error {low : Option String} {m : Entries Json low} {cause : SelectorError}
    (h : memberFilters m = .error cause) : ∃ e ∈ m.toList, (field e.1 e.2).compile = .error cause := by
  induction m with
  | nil => cases h
  | cons key above value rest ih =>
    simp only [memberFilters] at h
    split at h
    · next e hpart =>
      cases h
      refine ⟨(key, value), List.mem_cons_self, ?_⟩
      rw [compile, field, memberFilters_single, hpart]
      rfl
    · cases hrest : memberFilters rest with
      | error e =>
        rw [hrest] at h
        cases h
        obtain ⟨x, hx, hcompile⟩ := ih hrest
        exact ⟨x, List.mem_cons_of_mem _ hx, hcompile⟩
      | ok more =>
        rw [hrest] at h
        cases h

theorem exists_of_compile_eq_error {s : Selector} {cause : SelectorError} (h : s.compile = .error cause) :
    ∃ e ∈ s.fields.toList, (field e.1 e.2).compile = .error cause := by
  refine exists_of_memberFilters_eq_error ?_
  rw [compile] at h
  cases hfields : memberFilters s.fields with
  | error e =>
    rw [hfields] at h
    cases h
    rfl
  | ok parts =>
    rw [hfields] at h
    cases h

theorem Sound.isTooLarge {s : Selector} (h : s.Sound) {cause : SelectorError} (hcompile : s.compile = .error cause) :
    cause.IsTooLarge := by
  obtain ⟨e, he, herror⟩ := exists_of_compile_eq_error hcompile
  exact h e he cause herror

theorem sound_empty : empty.Sound := fun _ h => absurd h List.not_mem_nil

theorem sound_of_compiles {s : Selector} (h : s.Compiles) : s.Sound := by
  intro e he cause herror
  obtain ⟨filter, hfilter⟩ := compiles_iff.mp h e he
  rw [hfilter] at herror
  cases herror

theorem sound_field {key : String} {value : Json}
    (h : ∀ cause, (field key value).compile = .error cause → cause.IsTooLarge) : (field key value).Sound := by
  intro e he
  rw [List.mem_singleton.mp he]
  exact h

theorem sound_join (p : Predicate) {parts : List Selector} (h : ∀ part ∈ parts, part.Sound) : (join p parts).Sound := by
  refine sound_field fun cause hcompile => ?_
  -- a selector that is refused answers so for every document
  have hwants : (join p parts).wants .null = .error cause := wants_eq_error_iff.mpr hcompile
  rw [join_wants] at hwants
  cases hanswers : answers parts .null with
  | ok answers =>
    rw [hanswers] at hwants
    cases hwants
  | error e =>
    rw [hanswers] at hwants
    cases hwants
    obtain ⟨part, hpart, herror⟩ := exists_of_answers_eq_error hanswers
    exact (h part hpart).isTooLarge (wants_eq_error_iff.mp herror)

/-- Members put side by side stay what they were, and a common key makes a list of both selectors. -/
theorem Sound.and {a b : Selector} (ha : a.Sound) (hb : b.Sound) : (a.and b).Sound := by
  unfold Selector.and
  split
  · exact ha
  · split
    · exact hb
    · split
      · intro e he
        exact (KeyMap.mem_of_mem_extend he).elim (ha e) (hb e)
      · refine sound_join .and fun part hpart => ?_
        rcases List.mem_cons.mp hpart with rfl | hpart
        · exact ha
        · rw [List.mem_singleton.mp hpart]
          exact hb

theorem sound_combine (p : Predicate) {parts : List Selector} (h : ∀ part ∈ parts, part.Sound) :
    (Condition.combine p parts).Sound := by
  unfold Condition.combine
  split
  · exact sound_empty
  · next part hpart =>
    exact h part (List.mem_filter.mp (hpart ▸ List.mem_cons_self)).1
  · exact sound_join p fun part hpart => h part (List.mem_filter.mp hpart).1

theorem sound_comparison [LawfulPatternEngine] {path : String} (hpath : isOperatorKey path = false) (op : Operator)
    (value : String) : (field path (comparison op value)).Sound := by
  refine sound_field fun cause hcompile => ?_
  have hwants : (field path (comparison op value)).wants .null = .error cause := wants_eq_error_iff.mpr hcompile
  rw [field_comparison_wants hpath, answerTo] at hwants
  cases hrefusal : refusal? op value with
  | none =>
    rw [hrefusal] at hwants
    cases hwants
  | some e =>
    rw [hrefusal] at hwants
    cases hwants
    obtain ⟨_, hlarge, rfl⟩ := refusal?_eq_some_iff.mp hrefusal
    exact ⟨value, hlarge, rfl⟩

end Selector

/-! ## Values added as they are -/

/-- The value of a member can be read as a test. -/
def HasTest (value : Json) : Prop := ∃ test, testOf value = .ok test

/-- A value that is no object of operators is its own test. -/
theorem hasTest_of_plain {value : Json} (h : ∀ fields, value = .object fields → areOperators fields = false) :
    HasTest value := by
  cases value with
  | object fields =>
    refine ⟨.eq (.object fields), ?_⟩
    rw [testOf, if_neg (by simp [h fields rfl])]
  | null | bool | number | string | array => exact ⟨_, rfl⟩

theorem sound_of_hasTest {path : String} (hpath : isOperatorKey path = false) {value : Json} (h : HasTest value) :
    (Selector.field path value).Sound := by
  refine Selector.sound_field fun cause hcompile => ?_
  obtain ⟨test, htest⟩ := h
  rw [Selector.field_compile hpath, htest] at hcompile
  cases hcompile

/-! ## Queries -/

/-- What may be done with a query: fields are paths, and values that are added as they are have a test. -/
def documentUsage : Usage DocumentQuery where
  start := ClauseQuery.IsStart
  field path := isOperatorKey path = false
  method
    | .edit _ | .filter _ => True
    | .filterEq path value => isOperatorKey path = false ∧ HasTest value

omit [PatternEngine] in
theorem filter_edit (q : DocumentQuery) (e : ClauseEdit) : (q.edit e).clauses.filter = q.clauses.filter := by
  cases e <;> rfl

/-- A value is taken as a selector if it compiles as one. -/
theorem Selector.parse_eq_ok {value : Json} {s : Selector} :
    Selector.parse value = .ok s ↔ value = s.toJson ∧ s.Compiles := by
  cases value with
  | object fields =>
    rw [Selector.parse]
    cases hcompile : compile ⟨fields⟩ with
    | error cause =>
      constructor
      · intro h
        cases h
      · rintro ⟨hvalue, filter, hfilter⟩
        cases hvalue
        rw [hcompile] at hfilter
        cases hfilter
    | ok filter =>
      constructor
      · rintro ⟨⟩
        exact ⟨rfl, filter, hcompile⟩
      · rintro ⟨hvalue, _⟩
        cases hvalue
        rfl
  | null | bool | number | string | array => simp [Selector.parse, Selector.toJson]

/-- **Every operation keeps the filter sound.** -/
theorem sound_keeps [LawfulPatternEngine] : documentUsage.Keeps fun q => q.clauses.filter.Sound where
  compare op value hfield h := h.and (Selector.sound_comparison hfield op value)
  method {q q' m} hm hperform h := by
    cases m with
    | edit e =>
      cases hperform
      exact (filter_edit q e).symm ▸ h
    | filter selector =>
      change DocumentMethod.run q (.filter selector) = .ok q' at hperform
      rw [DocumentMethod.run] at hperform
      split at hperform
      · next s hparse =>
        cases hperform
        exact h.and (Selector.sound_of_compiles (Selector.parse_eq_ok.mp hparse).2)
      · cases hperform
    | filterEq path value =>
      cases hperform
      exact h.and (sound_of_hasTest hm.1 hm.2)
  cleared _ := Selector.sound_empty
  merge p h hothers := by
    rw [merge_filter]
    refine Selector.sound_combine p fun part hpart => ?_
    obtain ⟨q, hq, rfl⟩ := List.mem_map.mp hpart
    rcases List.mem_cons.mp hq with rfl | hq
    · exact h
    · exact hothers q hq

theorem sound_of_reachable [LawfulPatternEngine] {q : DocumentQuery} (h : Reachable documentUsage q) :
    q.clauses.filter.Sound := by
  refine h.holds (fun q hstart => ?_) sound_keeps
  rw [hstart.conditions.1]
  exact Selector.sound_empty

/-- A value that is no selector is not added, for the reason that it does not compile. -/
theorem perform_filter_refuses (q : DocumentQuery) (selector : Json) :
    (∃ fields, selector = .object fields ∧ Selector.Compiles ⟨fields⟩) ∨
      ∃ cause, Query.perform (DocumentMethod.filter selector) q =
          .error (.backend (DocumentError.invalidSelector cause).message) ∧
        ∀ fields, selector = .object fields → Selector.compile ⟨fields⟩ = .error cause := by
  cases hparse : Selector.parse selector with
  | ok s =>
    obtain ⟨rfl, hcompiles⟩ := Selector.parse_eq_ok.mp hparse
    exact .inl ⟨s.fields, rfl, hcompiles⟩
  | error cause =>
    refine .inr ⟨cause, ?_, ?_⟩
    · show DocumentMethod.run q (.filter selector) = _
      rw [DocumentMethod.run, hparse]
    · rintro fields rfl
      rw [Selector.parse] at hparse
      cases hcompile : Selector.compile ⟨fields⟩ with
      | ok filter =>
        rw [hcompile] at hparse
        cases hparse
      | error e =>
        rw [hcompile] at hparse
        cases hparse
        rfl

/-- **A query that is built soundly has an answer.** Its filter compiles, and a collection it asks answers it, unless
a value compared by its pattern is too large; and a value that is no selector is refused when it is added. -/
theorem reachable_answers [LawfulPatternEngine] {q : DocumentQuery} (h : Reachable documentUsage q) :
    ((q.clauses.filter.Compiles ∧
        ∀ store collection, DocumentQuery.source store q = .ok collection →
          ∃ rows, DocumentQuery.rows store q = .ok rows) ∨
      ∃ value, PatternTooLarge value ∧ q.clauses.filter.compile = .error (tooLargePattern value)) ∧
    ∀ selector, (∃ fields, selector = .object fields ∧ Selector.Compiles ⟨fields⟩) ∨
      ∃ cause, Query.perform (DocumentMethod.filter selector) q =
          .error (.backend (DocumentError.invalidSelector cause).message) ∧
        ∀ fields, selector = .object fields → Selector.compile ⟨fields⟩ = .error cause := by
  refine ⟨?_, perform_filter_refuses q⟩
  cases hcompile : q.clauses.filter.compile with
  | error cause =>
    obtain ⟨value, hlarge, rfl⟩ := (sound_of_reachable h).isTooLarge hcompile
    exact .inr ⟨value, hlarge, rfl⟩
  | ok filter =>
    refine .inl ⟨⟨filter, hcompile⟩, fun store collection hsource => ?_⟩
    unfold DocumentQuery.rows Collection.rows Collection.find
    rw [hsource, hcompile]
    exact ⟨_, rfl⟩

end

/-- Old or brown badgers of a sett that is dry or deep. -/
def settSteps : List (Step DocumentQuery) :=
  [.anyOf [.compareBy "coat", .method (.filterEq "age" (operatorObject "$gte" (.ofNat 9)))],
    .method (.filter (.ofFields [("$or", .array [.ofFields [("dry", .bool true)],
      .ofFields [("depth", operatorObject "$gt" (.ofNat 3))]])]))]

/-- The badgers that the block leaves, for coats like brown. -/
def settBadgers : DocumentQuery :=
  (Step.runAll (.start (.make none .like "brown*" .none false)) settSteps
    (.start (ClauseQuery.ofSource "badgers").attach false)).state.current

theorem reachable_settBadgers : Reachable documentUsage settBadgers := by
  have hstart : Reachable documentUsage (ClauseQuery.ofSource "badgers").attach :=
    .start (ClauseQuery.IsStart.ofSource "badgers").attach
  have hcoat : isOperatorKey "coat" = false := by decide
  have hage : isOperatorKey "age" = false := by decide
  have hsteps : Step.AllWithin documentUsage (.start (.make none .like "brown*" .none false)) settSteps :=
    ⟨⟨hcoat, ⟨hage, _, rfl⟩, trivial⟩, trivial, trivial⟩
  have hpushed : Step.pushedIn settSteps = [] := rfl
  refine hstart.block hsteps (fun added hadded => ?_) false
  rw [hpushed] at hadded
  cases hadded

theorem reachable_answers_badgers :
    Reachable documentUsage settBadgers ∧
      ∃ rows, DocumentQuery.rows (Store.empty.insert "badgers" [.ofFields [("coat", .string "Brownish")]]) settBadgers =
        .ok rows := by
  refine ⟨reachable_settBadgers, ?_⟩
  rcases (reachable_answers reachable_settBadgers).1 with ⟨_, hrows⟩ | ⟨value, _, hrefused⟩
  · exact hrows _ _ rfl
  · have hcompiles : settBadgers.clauses.filter.Compiles := ⟨_, rfl⟩
    obtain ⟨filter, hfilter⟩ := hcompiles
    rw [hfilter] at hrefused
    cases hrefused

/-! ## Values without a test -/

section

variable [PatternEngine]

theorem Selector.field_compiles_iff {path : String} (hpath : isOperatorKey path = false) {value : Json} :
    (field path value).Compiles ↔ HasTest value := by
  unfold Compiles HasTest
  rw [field_compile hpath]
  cases testOf value with
  | ok test => simp [Except.map]
  | error cause => simp [Except.map]

theorem Selector.and_field_compiles_iff {a : Selector} (ha : a.Compiles) {key : String} {value : Json} :
    (a.and (field key value)).Compiles ↔ (field key value).Compiles :=
  and_compiles.trans (and_iff_right ha)

/-- **A value added as it is leaves a query that can be run exactly if it has a test**, and is added in any case. -/
theorem filterEq_compiles_iff {q : DocumentQuery} (hq : q.clauses.filter.Compiles) {path : String}
    (hpath : isOperatorKey path = false) (value : Json) :
    ∃ q', Query.perform (DocumentMethod.filterEq path value) q = .ok q' ∧
      (q'.clauses.filter.Compiles ↔ HasTest value) :=
  ⟨_, rfl, (Selector.and_field_compiles_iff hq).trans (Selector.field_compiles_iff hpath)⟩

end

/-- An operator that does not exist is taken with a value and found when the query is run. -/
theorem filterEq_refused_late :
    ∃ q, Query.perform (DocumentMethod.filterEq "age" (operatorObject "$near" (.ofNat 1)))
        (ClauseQuery.ofSource "badgers" : DocumentQuery).attach = .ok q ∧
      DocumentQuery.rows (Store.empty.insert "badgers" []) q = .error (.invalidSelector (.unknownOperator "$near")) :=
  ⟨_, rfl, rfl⟩

end Document

end TermSearch
