import TermSearch.Proofs.Query.Regrouping

/-!
# Copies of a query

What a search builds for a term starts from a copy of its base, and a tree merges these copies again and again. Beside
the conditions, a merge of copies is the query that was copied (`ClauseQuery.SameFrame.merge`): their lists have each
item once, and the last of equal values is any of them. A condition that is combined with copies of itself is put
together of such copies (`Condition.Echoes`).
-/

namespace TermSearch

/-! ## Copies of a value -/

section Copies

variable {α : Type}

/-- Items that a list has already do not change it. -/
theorem appendNew_of_forall_mem {list items : List String} (h : ∀ item ∈ items, item ∈ list) :
    appendNew list items = list := by
  induction items with
  | nil => rfl
  | cons item items ih =>
    rw [List.forall_mem_cons] at h
    show appendNew (addNew list item) items = list
    rw [addNew_of_mem h.1]
    exact ih h.2

theorem appendNew_copies {list : List String} (hnodup : list.Nodup) {sources : List α} (hne : sources ≠ [])
    {f : α → List String} (h : ∀ a ∈ sources, f a = list) : appendNew [] (sources.flatMap f) = list := by
  obtain ⟨a, sources, rfl⟩ := List.exists_cons_of_ne_nil hne
  rw [List.forall_mem_cons] at h
  rw [List.flatMap_cons, h.1, appendNew_append, appendNew_nil hnodup]
  refine appendNew_of_forall_mem ?_
  intro item hitem
  obtain ⟨b, hb, hitem⟩ := List.mem_flatMap.mp hitem
  rwa [h.2 b hb] at hitem

theorem Clauses.lastPresent_copies {sources : List α} (hne : sources ≠ []) {β : Type} {f : α → Option β}
    {value : Option β} (h : ∀ a ∈ sources, f a = value) : lastPresent (sources.map f) = value := by
  induction sources with
  | nil => exact absurd rfl hne
  | cons a sources ih =>
    rw [List.forall_mem_cons] at h
    rw [List.map_cons, lastPresent_cons, h.1]
    by_cases hnil : sources = []
    · rw [hnil]
      rfl
    · rw [ih hnil h.2]
      cases value <;> rfl

/-- Copies of a truth value are joined to that value. -/
theorem Predicate.holds_copies (p : Predicate) {values : List Bool} (hne : values ≠ []) {value : Bool}
    (h : ∀ v ∈ values, v = value) : p.holds values = value := by
  obtain ⟨n, rfl⟩ : ∃ n, values = List.replicate n value := ⟨_, List.eq_replicate_of_mem h⟩
  have hn : n ≠ 0 := by simpa using hne
  cases p <;> cases value <;> simp [holds, hn]

end Copies

/-! ## Copies of a condition -/

namespace Condition

variable {C : Type} [Condition C] {c : C} {parts : List C}

/-- The condition is put together of copies of another one. -/
inductive Echoes (c : C) : C → Prop
  | self : Echoes c c
  | combine (p : Predicate) {parts : List C} (hne : parts ≠ []) (h : ∀ part ∈ parts, Echoes c part) :
    Echoes c (Condition.combine p parts)

/-- Of empty conditions nothing is left. -/
theorem combine_of_eq_empty (p : Predicate) (hempty : isEmpty (empty : C) = true) (h : ∀ part ∈ parts, part = empty) :
    combine p parts = empty := by
  have hnil : filled parts = [] := by
    refine filled_eq_nil_iff.mpr ?_
    intro part hpart
    rw [h part hpart]
    exact hempty
  calc combine p parts
      = combine p [] := combine_congr hnil
    _ = empty := rfl

/-- Beside an empty condition, one stays what it is. -/
theorem combine_with_empty (p : Predicate) (hc : isEmpty c = true → c = empty)
    (hempty : isEmpty (empty : C) = true) : combine p [c, empty] = c := by
  have hfilled : filled [c, empty] = filled [c] := by
    rw [← List.singleton_append, filled_append, filled_cons_of_empty hempty]
    exact List.append_nil _
  rw [combine_congr hfilled, combine_singleton hc]

end Condition

/-! ## Copies of a query -/

variable {C : Type}

/-- The query agrees with another one in all that is no condition. -/
structure ClauseQuery.SameFrame (base q : ClauseQuery C) : Prop where
  clauses : Clauses.SameBesideConditions q.clauses base.clauses
  attached : q.attached = base.attached

theorem Clauses.sameBesideConditions (c : Clauses C) (filter having : C) :
    SameBesideConditions { c with filter, having } c where
  listed := c.listed_conditions filter having
  source := rfl
  limit := rfl
  offset := rfl

theorem ClauseQuery.SameFrame.rfl {base : ClauseQuery C} : SameFrame base base where
  clauses := base.clauses.sameBesideConditions _ _
  attached := Eq.refl _

theorem ClauseQuery.SameFrame.conditions {base q q' : ClauseQuery C} (h : SameFrame base q) {filter having : C}
    (hclauses : q'.clauses = { q.clauses with filter, having }) (hattached : q'.attached = q.attached) :
    SameFrame base q' where
  clauses := by
    rw [hclauses]
    refine ⟨?_, h.clauses.source, h.clauses.limit, h.clauses.offset⟩
    intro kind
    rw [Clauses.listed_conditions]
    exact h.clauses.listed kind
  attached := hattached.trans h.attached

variable [Condition C]

/-- **Beside the conditions, a merge of copies is what was copied**, as long as no list has an item twice. -/
theorem Clauses.SameBesideConditions.merge {base : Clauses C} (hlists : ∀ kind, (base.listed kind).Nodup)
    {queries : List (Clauses C)} (hne : queries ≠ []) (h : ∀ c ∈ queries, SameBesideConditions c base)
    (p : Predicate) : SameBesideConditions (Clauses.merge p queries) base where
  listed kind := by
    rw [listed_merge]
    exact appendNew_copies (hlists kind) hne fun c hc => (h c hc).listed kind
  source := lastPresent_copies hne fun c hc => (h c hc).source
  limit := lastPresent_copies hne fun c hc => (h c hc).limit
  offset := lastPresent_copies hne fun c hc => (h c hc).offset

theorem ClauseQuery.SameFrame.merge {base : ClauseQuery C} (hlists : ∀ kind, (base.clauses.listed kind).Nodup)
    {first : ClauseQuery C} {rest : List (ClauseQuery C)} (h : ∀ q ∈ first :: rest, SameFrame base q)
    (p : Predicate) : SameFrame base (first.merge p rest) := by
  cases rest with
  | nil => exact h first List.mem_cons_self
  | cons second rest =>
    have hclauses : ∀ c ∈ (first :: second :: rest).map (·.clauses), Clauses.SameBesideConditions c base.clauses :=
      List.forall_mem_map.mpr fun q hq => (h q hq).clauses
    have hattached : ∀ a ∈ (first :: second :: rest).map (·.attached), a = base.attached :=
      List.forall_mem_map.mpr fun q hq => (h q hq).attached
    refine ⟨Clauses.SameBesideConditions.merge hlists (List.cons_ne_nil _ _) hclauses p, ?_⟩
    show (first :: second :: rest).any (·.attached) = base.attached
    have hany : ((first :: second :: rest).map (·.attached)).any id = base.attached :=
      Predicate.or.holds_copies (List.cons_ne_nil _ _) hattached
    rwa [List.any_map] at hany

theorem ClauseQuery.having_merge (p : Predicate) (first second : ClauseQuery C) (rest : List (ClauseQuery C)) :
    (first.merge p (second :: rest)).clauses.having =
      Condition.combine p ((first :: second :: rest).map fun q => q.clauses.having) := by
  show Condition.combine p (((first :: second :: rest).map (·.clauses)).map (·.having)) = _
  rw [List.map_map]
  rfl

/-- Queries without conditions on groups are merged to one without. -/
theorem ClauseQuery.having_merge_of_eq_empty (hempty : Condition.isEmpty (Condition.empty : C) = true)
    {first : ClauseQuery C} {rest : List (ClauseQuery C)}
    (h : ∀ q ∈ first :: rest, q.clauses.having = Condition.empty) (p : Predicate) :
    (first.merge p rest).clauses.having = Condition.empty := by
  cases rest with
  | nil => exact h first List.mem_cons_self
  | cons second rest =>
    rw [having_merge]
    exact Condition.combine_of_eq_empty p hempty (List.forall_mem_map.mpr h)

/-- The condition on groups of a merge is put together of copies of one, if those of all its parts are. -/
theorem Condition.Echoes.merge {c : C} {first : ClauseQuery C} {rest : List (ClauseQuery C)}
    (h : ∀ q ∈ first :: rest, Condition.Echoes c q.clauses.having) (p : Predicate) :
    Condition.Echoes c (first.merge p rest).clauses.having := by
  cases rest with
  | nil => exact h first List.mem_cons_self
  | cons second rest =>
    rw [ClauseQuery.having_merge]
    exact .combine p (List.cons_ne_nil _ _) (List.forall_mem_map.mpr h)

/-! ## Attached queries -/

section Attached

variable [Query (ClauseQuery C)] [ClauseBackend C]

/-- **A query may be attached at any time**: nothing can be built in this way that cannot be built from queries that are
attached from the start, if comparisons and methods do not look at it. -/
theorem Reachable.attach {u : Usage (ClauseQuery C)} (hstart : ∀ q, u.start q → u.start q.attach)
    (hcompare : ∀ (q : ClauseQuery C) field op value,
      Query.compare q.attach field op value = (Query.compare q field op value).attach)
    (hperform : ∀ m (q q' : ClauseQuery C), Query.perform m q = .ok q' → Query.perform m q.attach = .ok q'.attach)
    {q : ClauseQuery C} (h : Reachable u q) : Reachable u q.attach := by
  have hboth : Reachable u q ∧ Reachable u q.attach := by
    refine h.holds (P := fun q => Reachable u q ∧ Reachable u q.attach)
      (fun q hq => ⟨.start hq, .start (hstart q hq)⟩) ⟨?_, ?_, ?_, ?_⟩
    · rintro q field op value hfield ⟨hq, hattached⟩
      refine ⟨hq.compare hfield op value, ?_⟩
      rw [← hcompare]
      exact hattached.compare hfield op value
    · rintro q q' m hm hrun ⟨hq, hattached⟩
      exact ⟨hq.method hm hrun, hattached.method hm (hperform m q q' hrun)⟩
    · rintro q ⟨hq, hattached⟩
      refine ⟨hq.cleared, ?_⟩
      have hcleared := hattached.cleared
      rw [ClauseBackend.cleared_eq] at hcleared ⊢
      exact hcleared
    · rintro q others p ⟨hq, hattached⟩ hothers
      have hreachable : ∀ other ∈ others, Reachable u other := fun other hother => (hothers other hother).1
      refine ⟨hq.merge hreachable p, ?_⟩
      -- the merge is attached as soon as its first part is
      have hmerge := hattached.merge hreachable p
      rw [ClauseBackend.merge_eq] at hmerge ⊢
      cases others with
      | nil => exact hmerge
      | cons other others => exact hmerge
  exact hboth.2

end Attached

theorem Sql.reachable_attach {ok : String → Prop} {q : Sql.SqlQuery} (h : Reachable (Sql.sqlUsage ok) q) :
    Reachable (Sql.sqlUsage ok) q.attach := by
  refine h.attach (fun _ hq => ClauseQuery.IsStart.attach hq) (fun _ _ _ _ => rfl) ?_
  intro m q q' hperform
  have hrun : m.run q = .ok q' := hperform
  show Sql.SqlMethod.run q.attach m = .ok q'.attach
  cases m with
  | edit e =>
    cases hrun
    rfl
  | filter expr binds =>
    obtain ⟨hcount, rfl⟩ := Sql.addFilter_eq_ok hrun
    rw [Sql.SqlMethod.run, Sql.addFilter, Sql.requireValues, if_pos hcount]
    rfl
  | filterEq column value =>
    have hadd : Sql.addFilter (Sql.quoteName column ++ " = ?") [value] q = .ok q' := hrun
    obtain ⟨hcount, rfl⟩ := Sql.addFilter_eq_ok hadd
    rw [Sql.SqlMethod.run, Sql.addFilter, Sql.requireValues, if_pos hcount]
    rfl
  | having expr binds =>
    obtain ⟨hcount, rfl⟩ := Sql.having_eq_ok hrun
    rw [Sql.SqlMethod.run, Sql.requireValues, if_pos hcount]
    rfl

theorem Document.reachable_attach [PatternEngine] {passed : Clause → String → Prop} {q : Document.DocumentQuery}
    (h : Reachable (listUsage passed) q) : Reachable (listUsage passed) q.attach := by
  refine h.attach (fun _ hq => ClauseQuery.IsStart.attach hq) (fun _ _ _ _ => rfl) ?_
  intro m q q' hperform
  have hrun : m.run q = .ok q' := hperform
  show Document.DocumentMethod.run q.attach m = .ok q'.attach
  cases m with
  | edit e =>
    cases hrun
    rfl
  | filter selector =>
    rw [Document.DocumentMethod.run] at hrun ⊢
    split at hrun
    · cases hrun
      rfl
    · cases hrun
  | filterEq field value =>
    cases hrun
    rfl

end TermSearch
