import TermSearch.Document.Selector
import TermSearch.Proofs.KeyMap
import TermSearch.Proofs.Query.Combination

/-!
# What selectors mean

A selector means a condition on documents when it compiles and wants exactly the documents that meet the
condition (`Selector.Means`). Its members can be looked at one by one, in any order (`compiles_iff`,
`wants_iff`), so two selectors put side by side mean both of their conditions (`and_compiles`, `and_wants`), and
joined selectors mean the conditions of their parts under the connective (`combine_and_wants`, `combine_or_wants`).
-/

namespace TermSearch

namespace Document

/-! ## Filters of lists -/

section FilterLists

attribute [local simp] Filter.accepts Filter.acceptsAll Filter.acceptsAny

theorem Filter.accepts_all_iff {document : Json} {parts : List Filter} :
    (Filter.all parts).accepts document = true ↔ ∀ part ∈ parts, part.accepts document = true := by
  induction parts with
  | nil => simp
  | cons part parts ih =>
    rw [Filter.accepts] at ih ⊢
    simp [ih]

theorem Filter.accepts_any_iff {document : Json} {parts : List Filter} :
    (Filter.any parts).accepts document = true ↔ ∃ part ∈ parts, part.accepts document = true := by
  induction parts with
  | nil => simp
  | cons part parts ih =>
    rw [Filter.accepts] at ih ⊢
    simp [ih]

end FilterLists

namespace Selector

/-! ## Members side by side -/

theorem eq_empty_of_isEmpty {s : Selector} (h : s.isEmpty = true) : s = empty := by
  obtain ⟨fields⟩ := s
  cases fields with
  | nil => rfl
  | cons => cases h

section

variable {a b : Selector}

theorem disjoint_iff :
    disjoint a b = true ↔ ∀ e ∈ a.fields.toList, ∀ x ∈ b.fields.toList, x.1 ≠ e.1 := by
  unfold disjoint Entries.keys
  simp only [List.all_map, List.all_eq_true, Function.comp_apply, Bool.not_eq_true']
  constructor
  · intro h e he x hx heq
    exact Entries.has_eq_false.mp (h x hx) e he heq.symm
  · intro h x hx
    exact Entries.has_eq_false.mpr fun e he heq => h e he x hx heq.symm

/-- Side by side, no member is lost. -/
theorem mem_extend_iff (hdisjoint : disjoint a b = true) {e : String × Json} :
    e ∈ (a.fields.extend b.fields.toList).toList ↔ e ∈ a.fields.toList ∨ e ∈ b.fields.toList := by
  constructor
  · exact KeyMap.mem_of_mem_extend
  · rintro (he | he)
    · exact KeyMap.mem_extend he (disjoint_iff.mp hdisjoint e he)
    · exact KeyMap.mem_extend_of_mem b.fields.nodup_keys he

end

instance : LawfulCondition Selector where
  isEmpty_empty := rfl
  eq_empty := eq_empty_of_isEmpty
  isEmpty_join _ _ := rfl

/-- Nothing is left of selectors only if all of them are empty. -/
theorem combine_isEmpty {p : Predicate} {parts : List Selector} :
    (Condition.combine p parts).isEmpty = true ↔ ∀ part ∈ parts, part.isEmpty = true := by
  have hempty : (Condition.combine p parts).isEmpty = (Condition.filled parts).isEmpty :=
    Condition.isEmpty_combine p parts
  rw [hempty, List.isEmpty_iff]
  exact Condition.filled_eq_nil_iff

variable [PatternEngine]

/-! ## Meaning -/

/-- The selector has a filter. -/
def Compiles (s : Selector) : Prop := ∃ filter, s.compile = .ok filter

/-- The selector compiles and wants the document. -/
def Wants (s : Selector) (document : Json) : Prop := s.wants document = .ok true

/-- The selector compiles, and it wants exactly the documents that meet the condition. -/
def Means (s : Selector) (P : Json → Prop) : Prop := s.Compiles ∧ ∀ document, s.Wants document ↔ P document

theorem wants_iff_accepts {s : Selector} {document : Json} :
    s.Wants document ↔ ∃ filter, s.compile = .ok filter ∧ filter.accepts document = true := by
  unfold Wants wants
  cases s.compile with
  | error cause => simp [Except.map]
  | ok filter => simp [Except.map]

theorem Wants.compiles {s : Selector} {document : Json} (h : s.Wants document) : s.Compiles := by
  obtain ⟨filter, hfilter, _⟩ := wants_iff_accepts.mp h
  exact ⟨filter, hfilter⟩

/-! ## Member by member -/

section Members

attribute [local simp] memberFilters Except.map

theorem compile_eq_ok {s : Selector} {filter : Filter} :
    s.compile = .ok filter ↔ ∃ parts, memberFilters s.fields = .ok parts ∧ filter = .all parts := by
  unfold compile
  cases memberFilters s.fields with
  | error cause => simp
  | ok parts => simp [eq_comm]

variable {low : Option String} {key : String} {above : ∀ k ∈ low, k < key} {value : Json}
  {rest : Entries Json (some key)} {document : Json}

theorem memberFilters_cons_eq_ok {parts : List Filter} :
    memberFilters (.cons key above value rest) = .ok parts ↔
      ∃ part more, memberFilters (KeyMap.single key value) = .ok [part] ∧ memberFilters rest = .ok more ∧
        parts = part :: more := by
  simp only [KeyMap.single, memberFilters]
  split
  · simp
  · cases memberFilters rest with
    | error cause => simp
    | ok more => simp [eq_comm]

/-- How one member is read. -/
theorem memberFilters_single (key : String) (value : Json) :
    memberFilters (KeyMap.single key value) =
      (if key = "$and" then (listedFilters key value).map Filter.all
      else if key = "$or" then (listedFilters key value).map Filter.any
      else if isOperatorKey key then .error (.unknownConnective key)
      else (testOf value).map (Filter.field key)).map ([·]) := by
  simp only [KeyMap.single, memberFilters]
  split
  · next cause hpart => rw [hpart]; rfl
  · next part hpart => rw [hpart]; rfl

theorem exists_eq_of_single {parts : List Filter} (h : memberFilters (KeyMap.single key value) = .ok parts) :
    ∃ part, parts = [part] := by
  obtain ⟨part, more, _, hnil, rfl⟩ := memberFilters_cons_eq_ok.mp h
  rw [memberFilters] at hnil
  cases hnil
  exact ⟨part, rfl⟩

theorem field_compiles : (field key value).Compiles ↔ ∃ part, memberFilters (KeyMap.single key value) = .ok [part] := by
  simp only [Compiles, compile_eq_ok, field]
  constructor
  · rintro ⟨_, parts, h, _⟩
    obtain ⟨part, rfl⟩ := exists_eq_of_single h
    exact ⟨part, h⟩
  · rintro ⟨part, h⟩
    exact ⟨_, _, h, rfl⟩

theorem field_wants_iff {part : Filter} (h : memberFilters (KeyMap.single key value) = .ok [part]) :
    (field key value).Wants document ↔ part.accepts document = true := by
  simp only [wants_iff_accepts, compile_eq_ok, field, h]
  simp [Filter.accepts_all_iff]

/-- Members have filters if each of them has one. -/
theorem memberFilters_compile {m : Entries Json low} :
    (∃ parts, memberFilters m = .ok parts) ↔ ∀ e ∈ m.toList, (field e.1 e.2).Compiles := by
  induction m with
  | nil => simp
  | cons key above value rest ih =>
    rw [Entries.toList_cons, List.forall_mem_cons, ← ih, field_compiles]
    simp only [memberFilters_cons_eq_ok]
    constructor
    · rintro ⟨_, part, more, hpart, hmore, _⟩
      exact ⟨⟨part, hpart⟩, ⟨more, hmore⟩⟩
    · rintro ⟨⟨part, hpart⟩, ⟨more, hmore⟩⟩
      exact ⟨_, part, more, hpart, hmore, rfl⟩

/-- The filters of members accept what each of the members wants. -/
theorem memberFilters_accept {m : Entries Json low} {parts : List Filter} (h : memberFilters m = .ok parts) :
    (∀ part ∈ parts, part.accepts document = true) ↔ ∀ e ∈ m.toList, (field e.1 e.2).Wants document := by
  induction m generalizing parts with
  | nil =>
    rw [memberFilters] at h
    cases h
    simp
  | cons key above value rest ih =>
    obtain ⟨part, more, hpart, hmore, rfl⟩ := memberFilters_cons_eq_ok.mp h
    rw [Entries.toList_cons, List.forall_mem_cons, List.forall_mem_cons, field_wants_iff hpart, ih hmore]

theorem empty_compiles : empty.Compiles := ⟨.all [], by simp [empty, compile]⟩

theorem empty_wants (document : Json) : empty.Wants document :=
  wants_iff_accepts.mpr ⟨.all [], by simp [empty, compile], by simp [Filter.accepts_all_iff]⟩

end Members

/-- **A selector compiles when each of its members does.** -/
theorem compiles_iff {s : Selector} : s.Compiles ↔ ∀ e ∈ s.fields.toList, (field e.1 e.2).Compiles := by
  rw [← memberFilters_compile]
  simp only [Compiles, compile_eq_ok]
  constructor
  · rintro ⟨_, parts, h, _⟩
    exact ⟨parts, h⟩
  · rintro ⟨parts, h⟩
    exact ⟨_, parts, h, rfl⟩

/-- **A selector wants what each of its members wants.** -/
theorem wants_iff {s : Selector} {document : Json} :
    s.Wants document ↔ ∀ e ∈ s.fields.toList, (field e.1 e.2).Wants document := by
  constructor
  · intro h
    obtain ⟨filter, hfilter, hacc⟩ := wants_iff_accepts.mp h
    obtain ⟨parts, hparts, rfl⟩ := compile_eq_ok.mp hfilter
    exact (memberFilters_accept hparts).mp (Filter.accepts_all_iff.mp hacc)
  · intro h
    obtain ⟨parts, hparts⟩ := memberFilters_compile.mpr fun e he => (h e he).compiles
    exact wants_iff_accepts.mpr ⟨.all parts, compile_eq_ok.mpr ⟨parts, hparts, rfl⟩,
      Filter.accepts_all_iff.mpr ((memberFilters_accept hparts).mpr h)⟩

/-- A member that names a path is read like its test. -/
theorem field_compile {path : String} (hpath : isOperatorKey path = false) (value : Json) :
    (field path value).compile = (testOf value).map fun test => .all [.field path test] := by
  have hand : path ≠ "$and" := by rintro rfl; revert hpath; decide
  have hor : path ≠ "$or" := by rintro rfl; revert hpath; decide
  rw [compile, field, memberFilters_single, if_neg hand, if_neg hor, if_neg (by simp [hpath])]
  cases testOf value with
  | error cause => rfl
  | ok test => rfl

/-! ## Joined selectors -/

theorem itemFilters_nil (key : String) : itemFilters key [] = .ok [] := by rw [itemFilters]

theorem itemFilters_cons_eq_ok {key : String} {part : Selector} {l : List Json} {filters : List Filter} :
    itemFilters key (part.toJson :: l) = .ok filters ↔
      ∃ filter more, part.compile = .ok filter ∧ itemFilters key l = .ok more ∧ filters = filter :: more := by
  have hitem : itemFilter key part.toJson = part.compile := rfl
  rw [itemFilters, hitem]
  cases part.compile with
  | error cause => simp
  | ok filter =>
    cases itemFilters key l with
    | error cause => simp
    | ok more => simp [eq_comm]

theorem itemFilters_compile (key : String) {parts : List Selector} :
    (∃ filters, itemFilters key (parts.map toJson) = .ok filters) ↔ ∀ part ∈ parts, part.Compiles := by
  induction parts with
  | nil => simp [itemFilters_nil]
  | cons part parts ih =>
    rw [List.map_cons, List.forall_mem_cons, ← ih]
    simp only [itemFilters_cons_eq_ok]
    constructor
    · rintro ⟨_, filter, more, hfilter, hmore, _⟩
      exact ⟨⟨filter, hfilter⟩, ⟨more, hmore⟩⟩
    · rintro ⟨⟨filter, hfilter⟩, ⟨more, hmore⟩⟩
      exact ⟨_, filter, more, hfilter, hmore, rfl⟩

/-- The filters of listed selectors, one for each in order. -/
theorem mem_itemFilters {key : String} {parts : List Selector} {filters : List Filter}
    (h : itemFilters key (parts.map toJson) = .ok filters) (document : Json) :
    ((∀ filter ∈ filters, filter.accepts document = true) ↔ ∀ part ∈ parts, part.Wants document) ∧
      ((∃ filter ∈ filters, filter.accepts document = true) ↔ ∃ part ∈ parts, part.Wants document) := by
  induction parts generalizing filters with
  | nil =>
    rw [List.map_nil, itemFilters_nil] at h
    cases h
    simp
  | cons part parts ih =>
    rw [List.map_cons] at h
    obtain ⟨filter, more, hfilter, hmore, rfl⟩ := itemFilters_cons_eq_ok.mp h
    have hpart : part.Wants document ↔ filter.accepts document = true := by
      rw [wants_iff_accepts, hfilter]
      simp
    obtain ⟨hall, hany⟩ := ih hmore
    simp only [List.mem_cons, forall_eq_or_imp, exists_eq_or_imp, hpart, hall, hany, and_self]

theorem compile_join_eq_ok {p : Predicate} {parts : List Selector} {filter : Filter} :
    (join p parts).compile = .ok filter ↔
      ∃ filters, itemFilters (connectiveKey p) (parts.map toJson) = .ok filters ∧
        filter = .all [match p with | .and => .all filters | .or => .any filters] := by
  rw [compile_eq_ok]
  cases p with
  | and =>
    simp only [join, field, connectiveKey, memberFilters_single, listedFilters, if_pos]
    cases itemFilters "$and" (parts.map toJson) with
    | error cause => simp [Except.map]
    | ok filters => simp [Except.map]
  | or =>
    simp only [join, field, connectiveKey, memberFilters_single, listedFilters, if_pos,
      show ¬ "$or" = "$and" by decide, if_false]
    cases itemFilters "$or" (parts.map toJson) with
    | error cause => simp [Except.map]
    | ok filters => simp [Except.map]

theorem join_compiles {p : Predicate} {parts : List Selector} :
    (join p parts).Compiles ↔ ∀ part ∈ parts, part.Compiles := by
  rw [← itemFilters_compile (connectiveKey p)]
  unfold Compiles
  simp only [compile_join_eq_ok]
  constructor
  · rintro ⟨_, filters, h, _⟩
    exact ⟨filters, h⟩
  · rintro ⟨filters, h⟩
    exact ⟨_, filters, h, rfl⟩

theorem join_and_wants {parts : List Selector} {document : Json} :
    (join .and parts).Wants document ↔ ∀ part ∈ parts, part.Wants document := by
  rw [wants_iff_accepts]
  simp only [compile_join_eq_ok]
  constructor
  · rintro ⟨_, ⟨filters, h, rfl⟩, hacc⟩
    refine (mem_itemFilters h document).1.mp ?_
    simpa [Filter.accepts_all_iff] using hacc
  · intro hwants
    obtain ⟨filters, h⟩ :=
      (itemFilters_compile (connectiveKey .and)).mpr fun part hp => (hwants part hp).compiles
    refine ⟨_, ⟨filters, h, rfl⟩, ?_⟩
    have hacc := (mem_itemFilters h document).1.mpr hwants
    simpa [Filter.accepts_all_iff] using hacc

theorem join_or_wants {parts : List Selector} {document : Json} :
    (join .or parts).Wants document ↔ (∀ part ∈ parts, part.Compiles) ∧ ∃ part ∈ parts, part.Wants document := by
  rw [wants_iff_accepts]
  simp only [compile_join_eq_ok]
  constructor
  · rintro ⟨_, ⟨filters, h, rfl⟩, hacc⟩
    refine ⟨(itemFilters_compile _).mp ⟨filters, h⟩, (mem_itemFilters h document).2.mp ?_⟩
    simpa [Filter.accepts_all_iff, Filter.accepts_any_iff] using hacc
  · rintro ⟨hcomp, hwants⟩
    obtain ⟨filters, h⟩ := (itemFilters_compile (connectiveKey .or)).mpr hcomp
    refine ⟨_, ⟨filters, h, rfl⟩, ?_⟩
    have := (mem_itemFilters h document).2.mpr hwants
    simpa [Filter.accepts_all_iff, Filter.accepts_any_iff] using this

/-! ## Conjunction and combination -/

theorem wants_of_isEmpty {s : Selector} (h : s.isEmpty = true) (document : Json) : s.Wants document := by
  rw [eq_empty_of_isEmpty h]
  exact empty_wants document

section

variable {a b : Selector} {document : Json}

/-- **A conjunction compiles if both selectors do.** -/
theorem and_compiles : (a.and b).Compiles ↔ a.Compiles ∧ b.Compiles := by
  unfold Selector.and
  split
  · next hempty =>
    rw [eq_empty_of_isEmpty hempty]
    exact (and_iff_left empty_compiles).symm
  split
  · next hempty =>
    rw [eq_empty_of_isEmpty hempty]
    exact (and_iff_right empty_compiles).symm
  split
  · next hdisjoint =>
    rw [compiles_iff, compiles_iff (s := a), compiles_iff (s := b), ← List.forall_mem_append]
    simp only [List.mem_append, mem_extend_iff hdisjoint]
  · rw [join_compiles]
    simp

/-- **A conjunction wants what both selectors want.** -/
theorem and_wants : (a.and b).Wants document ↔ a.Wants document ∧ b.Wants document := by
  unfold Selector.and
  split
  · next hempty => exact (and_iff_left (wants_of_isEmpty hempty document)).symm
  split
  · next hempty => exact (and_iff_right (wants_of_isEmpty hempty document)).symm
  split
  · next hdisjoint =>
    rw [wants_iff, wants_iff (s := a), wants_iff (s := b), ← List.forall_mem_append]
    simp only [List.mem_append, mem_extend_iff hdisjoint]
  · rw [join_and_wants]
    simp

end

/-- The conjunction wants nothing that its first selector does not want. -/
theorem wants_of_and {a b : Selector} {document : Json} (h : (a.and b).Wants document) : a.Wants document := by
  unfold and at h
  split at h
  · exact h
  · split at h
    · next ha => exact wants_of_isEmpty ha document
    · split at h
      · next hdisj =>
        refine wants_iff.mpr fun e he => wants_iff.mp h e ?_
        exact KeyMap.mem_extend he (disjoint_iff.mp hdisj e he)
      · exact join_and_wants.mp h a List.mem_cons_self

/-- One more member narrows a selector down by what it means. -/
theorem and_field_means {a : Selector} {key : String} {value : Json} {P : Json → Prop}
    (ha : a.Compiles) (hfield : (field key value).Means P) :
    (a.and (field key value)).Means fun document => a.Wants document ∧ P document := by
  obtain ⟨hcompiles, hwants⟩ := hfield
  refine ⟨and_compiles.mpr ⟨ha, hcompiles⟩, fun document => ?_⟩
  rw [and_wants, hwants]

theorem combine_compiles {p : Predicate} {parts : List Selector} (h : ∀ part ∈ parts, part.Compiles) :
    (Condition.combine p parts).Compiles := by
  unfold Condition.combine
  split
  · exact empty_compiles
  · next part hpart =>
    exact h part (List.mem_filter.mp (hpart ▸ List.mem_cons_self)).1
  · exact join_compiles.mpr fun part hp => h part (List.mem_filter.mp hp).1

/-- Joined by *and*, selectors want what all of them want. -/
theorem combine_and_wants {parts : List Selector} {document : Json} :
    (Condition.combine .and parts).Wants document ↔ ∀ part ∈ parts, part.Wants document := by
  have hfilter : (∀ part ∈ parts, part.Wants document) ↔
      ∀ part ∈ parts.filter (!Condition.isEmpty ·), part.Wants document := by
    constructor
    · exact fun h part hp => h part (List.mem_filter.mp hp).1
    · intro h part hp
      cases hempty : part.isEmpty with
      | true => exact wants_of_isEmpty hempty document
      | false => exact h part (List.mem_filter.mpr ⟨hp, by simpa [Condition.isEmpty] using hempty⟩)
  rw [hfilter]
  unfold Condition.combine
  split
  · next hnil => exact iff_of_true (empty_wants document) (by simp [hnil])
  · next part hpart => simp [hpart]
  · exact join_and_wants

/-- Joined by *or*, selectors that are not empty want what one of them wants. -/
theorem combine_or_wants {parts : List Selector} {document : Json} (hne : parts ≠ [])
    (hparts : ∀ part ∈ parts, part.isEmpty = false) (hcomp : ∀ part ∈ parts, part.Compiles) :
    (Condition.combine .or parts).Wants document ↔ ∃ part ∈ parts, part.Wants document := by
  have hfilter : parts.filter (!Condition.isEmpty ·) = parts :=
    List.filter_eq_self.mpr fun part hp => by simpa [Condition.isEmpty] using hparts part hp
  unfold Condition.combine
  rw [hfilter]
  split
  · exact absurd rfl hne
  · simp
  · exact join_or_wants.trans (and_iff_right hcomp)

/-- Under either connective, selectors want nothing that none of them wants. -/
theorem exists_wants_of_combine {p : Predicate} {parts : List Selector} {document : Json} (hne : parts ≠ [])
    (h : (Condition.combine p parts).Wants document) : ∃ part ∈ parts, part.Wants document := by
  cases p with
  | and =>
    obtain ⟨part, hpart⟩ := List.exists_mem_of_ne_nil _ hne
    exact ⟨part, hpart, combine_and_wants.mp h part hpart⟩
  | or =>
    unfold Condition.combine at h
    split at h
    · next hnil =>
      -- all of them are empty, and an empty one wants everything
      obtain ⟨part, hpart⟩ := List.exists_mem_of_ne_nil _ hne
      refine ⟨part, hpart, wants_of_isEmpty ?_ document⟩
      simpa [Condition.isEmpty] using List.filter_eq_nil_iff.mp hnil part hpart
    · next part hpart =>
      exact ⟨part, (List.mem_filter.mp (hpart ▸ List.mem_cons_self)).1, h⟩
    · obtain ⟨_, part, hpart, hwants⟩ := join_or_wants.mp h
      exact ⟨part, (List.mem_filter.mp hpart).1, hwants⟩

end Selector

end Document

end TermSearch
