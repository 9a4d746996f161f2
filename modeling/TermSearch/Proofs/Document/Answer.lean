import TermSearch.Proofs.Document.Comparison
import TermSearch.Proofs.Document.Operation
import TermSearch.Proofs.Document.Reading
import TermSearch.Proofs.PatternEngine

/-!
# What selectors answer

A selector answers for each document whether it wants it, or it answers for none because it does not compile. Joined
selectors put the answers of their parts together, and the first refusal among the parts is that of the whole
(`Selector.combine_wants`). The comparison of a field with a text always has an answer but in one case: the engine may
refuse the pattern of a value (`compare_wants`), and a lawful engine does so only if the pattern is too large
(`refusal?_eq_some_iff`).
-/

namespace TermSearch.Document

variable [PatternEngine]

/-- What the filter of a query says of a document. -/
def DocumentQuery.wants (q : DocumentQuery) (document : Json) : Except SelectorError Bool :=
  q.clauses.filter.wants document

/-! ## Joined selectors -/

omit [PatternEngine] in
theorem Filter.accepts_joined (p : Predicate) (filters : List Filter) (document : Json) :
    (Filter.joined p filters).accepts document = p.holds (filters.map (·.accepts document)) := by
  cases p with
  | and =>
    show Filter.acceptsAll document filters = _
    induction filters with
    | nil => rfl
    | cons filter filters ih => rw [Filter.acceptsAll, ih]; rfl
  | or =>
    show Filter.acceptsAny document filters = _
    induction filters with
    | nil => rfl
    | cons filter filters ih => rw [Filter.acceptsAny, ih]; rfl

namespace Selector

theorem wants_eq_error_iff {s : Selector} {document : Json} {cause : SelectorError} :
    s.wants document = .error cause ↔ s.compile = .error cause := by
  unfold wants
  cases s.compile with
  | error e => simp [Except.map]
  | ok filter => simp [Except.map]

/-- What selectors answer one by one; the first refusal is that of all. -/
def answers (parts : List Selector) (document : Json) : Except SelectorError (List Bool) :=
  parts.mapM (·.wants document)

/-- If there is a refusal, it is that of some selector. -/
theorem exists_of_answers_eq_error {parts : List Selector} {document : Json} {cause : SelectorError}
    (h : answers parts document = .error cause) : ∃ part ∈ parts, part.wants document = .error cause := by
  induction parts with
  | nil => cases h
  | cons part parts ih =>
    rw [answers, List.mapM_cons, ← answers] at h
    cases hpart : part.wants document with
    | error e =>
      rw [hpart] at h
      cases h
      exact ⟨part, List.mem_cons_self, hpart⟩
    | ok answer =>
      cases hrest : answers parts document with
      | ok rest =>
        rw [hpart, hrest] at h
        cases h
      | error e =>
        rw [hpart, hrest] at h
        cases h
        obtain ⟨other, hother, hwants⟩ := ih hrest
        exact ⟨other, List.mem_cons_of_mem _ hother, hwants⟩

/-- The filters of listed selectors answer one by one. -/
theorem itemFilters_wants (key : String) (parts : List Selector) (document : Json) :
    (itemFilters key (parts.map toJson)).map (·.map (·.accepts document)) = answers parts document := by
  induction parts with
  | nil => rfl
  | cons part parts ih =>
    have hitem : itemFilter key part.toJson = part.compile := rfl
    rw [List.map_cons, itemFilters, hitem, answers, List.mapM_cons, ← answers, ← ih, wants]
    cases part.compile with
    | error cause => rfl
    | ok filter =>
      cases itemFilters key (parts.map toJson) with
      | error cause => rfl
      | ok more => rfl

theorem join_wants (p : Predicate) (parts : List Selector) (document : Json) :
    (join p parts).wants document = (answers parts document).map p.holds := by
  rw [wants, compile, join, field, memberFilters_connectiveKey, listedFilters, ← itemFilters_wants (connectiveKey p)]
  cases itemFilters (connectiveKey p) (parts.map toJson) with
  | error cause => rfl
  | ok filters =>
    show Except.ok ((Filter.joined p filters).accepts document && true) = _
    rw [Bool.and_true, Filter.accepts_joined]
    rfl

/-- **Selectors under a connective answer by it what they answer singly**; the first refusal is that of all. -/
theorem combine_wants (p : Predicate) {parts : List Selector} (hne : parts ≠ [])
    (hparts : ∀ part ∈ parts, part.isEmpty = false) (document : Json) :
    (Condition.combine p parts).wants document = (answers parts document).map p.holds := by
  have hfilter : parts.filter (!Condition.isEmpty ·) = parts :=
    List.filter_eq_self.mpr fun part hp => by simpa [Condition.isEmpty] using hparts part hp
  unfold Condition.combine
  rw [hfilter]
  split
  · exact absurd rfl hne
  · next part =>
    rw [answers, List.mapM_cons, List.mapM_nil]
    cases part.wants document with
    | error cause => rfl
    | ok answer => cases p <;> cases answer <;> rfl
  · exact join_wants p parts document

/-! ## Single members -/

/-- A member that names a path answers by its test. -/
theorem field_wants {path : String} (hpath : isOperatorKey path = false) (value document : Json) :
    (field path value).wants document = (testOf value).map (·.passes (resolve document path)) := by
  rw [wants, field_compile hpath]
  cases testOf value with
  | error cause => rfl
  | ok test =>
    show Except.ok (test.passes (resolve document path) && true) = _
    rw [Bool.and_true]
    rfl

end Selector

/-! ## Comparisons -/

/-- What a comparison is refused for: its pattern, if the engine does not take it. -/
def refusal? (op : Operator) (value : String) : Option SelectorError :=
  if takesPattern op then
    match readLike value with
    | .ok _ => none
    | .error cause => some (.badPattern (Wildcard.toRegex value) cause)
  else none

/-- An answer to a comparison, unless it is refused. -/
def answerTo {α : Type} (op : Operator) (value : String) (answer : α) : Except SelectorError α :=
  (refusal? op value).elim (.ok answer) .error

theorem refusal?_eq_none_of_reads {op : Operator} {value : String} (h : PatternReads value) :
    refusal? op value = none := by
  obtain ⟨occursIn, hread⟩ := h
  simp [refusal?, hread]

theorem patternReads_of_refusal? {op : Operator} {value : String} (hop : takesPattern op = true)
    (h : refusal? op value = none) : PatternReads value := by
  rw [refusal?, if_pos hop] at h
  unfold PatternReads
  cases hread : readLike value with
  | ok occursIn => exact ⟨occursIn, rfl⟩
  | error cause =>
    rw [hread] at h
    cases h

theorem testOf_comparison_of_refusal {op : Operator} {value : String} {cause : SelectorError}
    (h : refusal? op value = some cause) : testOf (comparison op value) = .error cause := by
  have hlike (hpattern : takesPattern op = true) : testOf (likeCondition value) = .error cause := by
    rw [refusal?, if_pos hpattern] at h
    rw [testOf_likeCondition]
    cases hread : readLike value with
    | ok occursIn =>
      rw [hread] at h
      cases h
    | error e =>
      rw [hread] at h
      cases h
      rfl
  cases op with
  | like => exact hlike (by decide)
  | notLike =>
    rw [comparison, testOf_not, hlike (by decide)]
    rfl
  | eq | ne | lt | gt | lte | gte => cases h

/-- **What the comparison of a field with a text answers.** -/
theorem field_comparison_wants {path : String} (hpath : isOperatorKey path = false) (op : Operator) (value : String)
    (document : Json) :
    (Selector.field path (comparison op value)).wants document =
      answerTo op value (compares document path op value) := by
  rw [Selector.field_wants hpath, answerTo]
  cases hrefusal : refusal? op value with
  | some cause =>
    rw [testOf_comparison_of_refusal hrefusal]
    rfl
  | none =>
    obtain ⟨test, htest, hpasses⟩ := testOf_comparison fun hop => patternReads_of_refusal? hop hrefusal
    rw [htest, compares, ← hpasses]
    rfl

theorem compare_filter_of_isEmpty {q : DocumentQuery} (hq : q.clauses.filter.isEmpty = true) (path : String)
    (op : Operator) (value : String) :
    (Query.compare q path op value).clauses.filter = .field path (comparison op value) := by
  rw [compare_filter, Selector.and, if_neg (by simp [Selector.field, Selector.isEmpty]), if_pos hq]

/-- A comparison made in a query without conditions answers for itself. -/
theorem compare_wants {q : DocumentQuery} (hq : q.clauses.filter.isEmpty = true) {path : String}
    (hpath : isOperatorKey path = false) (op : Operator) (value : String) (document : Json) :
    DocumentQuery.wants (Query.compare q path op value) document =
      answerTo op value (compares document path op value) := by
  rw [DocumentQuery.wants, compare_filter_of_isEmpty hq, field_comparison_wants hpath]

/-! ## Patterns that are too large -/

/-- The refusal of the pattern of a value that is too large. -/
def tooLargePattern (value : String) : SelectorError := .badPattern (Wildcard.toRegex value) .tooLarge

/-- The engine finds the pattern of a value too large. -/
def PatternTooLarge (value : String) : Prop := readLike value = .error .tooLarge

theorem answerTo_of_tooLarge {α : Type} {op : Operator} (hop : takesPattern op = true) {value : String}
    (h : PatternTooLarge value) (answer : α) : answerTo op value answer = .error (tooLargePattern value) := by
  unfold PatternTooLarge at h
  simp [answerTo, refusal?, hop, h, tooLargePattern]

section

variable [LawfulPatternEngine] {value : String}

/-- **A lawful engine takes the pattern of a value or finds it too large.** -/
theorem patternReads_or (value : String) : PatternReads value ∨ PatternTooLarge value := by
  unfold PatternReads PatternTooLarge
  cases hread : readLike value with
  | ok occursIn => exact .inl ⟨occursIn, rfl⟩
  | error cause =>
    cases cause with
    | tooLarge => exact .inr rfl
    | malformed report =>
      rw [readLike, Wildcard.toRegex_eq_pattern] at hread
      exact absurd hread (LawfulPatternEngine.read_ne_malformed _ _ report)

/-- A comparison is refused for a pattern that is too large, and for nothing else. -/
theorem refusal?_eq_some_iff {op : Operator} {cause : SelectorError} :
    refusal? op value = some cause ↔
      takesPattern op = true ∧ PatternTooLarge value ∧ cause = tooLargePattern value := by
  unfold refusal?
  split
  · next htakes =>
    rcases patternReads_or value with ⟨occursIn, hread⟩ | hlarge
    · simp [PatternTooLarge, hread]
    · rw [PatternTooLarge] at hlarge
      simp [PatternTooLarge, htakes, hlarge, tooLargePattern, eq_comm]
  · next htakes => simp [htakes]

end

end TermSearch.Document
