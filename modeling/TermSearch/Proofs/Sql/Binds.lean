import TermSearch.Proofs.Sql.Outline

/-!
# Values beside expressions

A condition keeps its values in a list of their own. They stand only beside expressions (`Expressions.Tidy`), and no
operation changes that (`tidy_keeps`), so conditions that are combined keep all of their values in order
(`binds_combine`), and an empty condition is the empty one.
-/

namespace TermSearch.Sql

/-- Values stand only beside expressions. -/
def Expressions.Tidy (e : Expressions) : Prop := e.exprs = [] → e.binds = []

theorem binds_combine {p : Predicate} {parts : List Expressions} (h : ∀ e ∈ parts, e.Tidy) :
    (Condition.combine p parts).binds = parts.flatMap (·.binds) := by
  have hfilter : (parts.filter (!Condition.isEmpty ·)).flatMap (·.binds) = parts.flatMap (·.binds) := by
    induction parts with
    | nil => rfl
    | cons e parts ih =>
      rw [List.forall_mem_cons] at h
      rw [List.filter_cons]
      split
      · rw [List.flatMap_cons, List.flatMap_cons, ih h.2]
      · -- a part that is left out has no values either
        next hempty =>
        have hexprs : e.exprs = [] := by simpa [Condition.isEmpty] using hempty
        rw [List.flatMap_cons, h.1 hexprs, ih h.2, List.nil_append]
  rw [← hfilter]
  unfold Condition.combine
  split
  · next hnil => rw [hnil]; rfl
  · next part hpart => rw [hpart, List.flatMap_singleton]
  · rfl

theorem tidy_combine {p : Predicate} {parts : List Expressions} (h : ∀ e ∈ parts, e.Tidy) :
    (Condition.combine p parts).Tidy := by
  unfold Condition.combine
  split
  · exact fun _ => rfl
  · next part hpart =>
    have hmem : part ∈ parts.filter (!Condition.isEmpty ·) := by rw [hpart]; exact List.mem_singleton_self part
    exact h part (List.mem_filter.mp hmem).1
  · intro hexprs
    cases hexprs

theorem Expressions.Tidy.eq_empty {e : Expressions} (h : e.Tidy) (hempty : Condition.isEmpty e = true) :
    e = Condition.empty := by
  obtain ⟨exprs, binds⟩ := e
  have hexprs : exprs = [] := List.isEmpty_iff.mp hempty
  have hbinds : binds = [] := h hexprs
  rw [hexprs, hbinds]
  rfl

theorem Expressions.tidy_push (e : Expressions) (expr : String) (binds : List Json) : (e.push expr binds).Tidy :=
  fun hexprs => absurd (List.append_eq_nil_iff.mp hexprs).2 (List.cons_ne_nil _ _)

/-- A merge combines the conditions. -/
theorem conditions_merge (p : Predicate) (first second : SqlQuery) (rest : List SqlQuery) :
    (Query.merge first p (second :: rest)).clauses.filter =
        Condition.combine p ((first :: second :: rest).map fun q : SqlQuery => q.clauses.filter) ∧
      (Query.merge first p (second :: rest)).clauses.having =
        Condition.combine p ((first :: second :: rest).map fun q : SqlQuery => q.clauses.having) := by
  have hclauses : (Query.merge first p (second :: rest)).clauses =
      Clauses.merge p ((first :: second :: rest).map (·.clauses)) := rfl
  rw [hclauses]
  simp only [Clauses.merge, List.map_map]
  exact ⟨rfl, rfl⟩

/-- Values stand only beside expressions, in both conditions. -/
def SqlQuery.Tidy (q : SqlQuery) : Prop := q.clauses.filter.Tidy ∧ q.clauses.having.Tidy

theorem SqlQuery.Tidy.merge {q : SqlQuery} {others : List SqlQuery} (p : Predicate) (h : SqlQuery.Tidy q)
    (hothers : ∀ other ∈ others, SqlQuery.Tidy other) : SqlQuery.Tidy (Query.merge q p others) := by
  cases others with
  | nil => exact h
  | cons other others =>
    have hall : ∀ q' ∈ q :: other :: others, SqlQuery.Tidy q' := List.forall_mem_cons.mpr ⟨h, hothers⟩
    obtain ⟨hfilter, hhaving⟩ := conditions_merge p q other others
    unfold SqlQuery.Tidy
    rw [hfilter, hhaving]
    constructor
    · refine tidy_combine fun e he => ?_
      obtain ⟨q', hq', rfl⟩ := List.mem_map.mp he
      exact (hall q' hq').1
    · refine tidy_combine fun e he => ?_
      obtain ⟨q', hq', rfl⟩ := List.mem_map.mp he
      exact (hall q' hq').2

theorem SqlMethod.tidy_run {m : SqlMethod} {q q' : SqlQuery} (hrun : m.run q = .ok q') (h : SqlQuery.Tidy q) :
    SqlQuery.Tidy q' := by
  cases m with
  | edit e =>
    cases hrun
    cases e <;> exact h
  | filter expr binds =>
    obtain ⟨-, rfl⟩ := addFilter_eq_ok hrun
    exact ⟨Expressions.tidy_push _ _ _, h.2⟩
  | filterEq column value =>
    have hadd : addFilter (quoteName column ++ " = ?") [value] q = .ok q' := hrun
    obtain ⟨-, rfl⟩ := addFilter_eq_ok hadd
    exact ⟨Expressions.tidy_push _ _ _, h.2⟩
  | having expr binds =>
    obtain ⟨-, rfl⟩ := having_eq_ok hrun
    exact ⟨h.1, Expressions.tidy_push _ _ _⟩

/-- **No operation leaves values without expressions.** -/
theorem tidy_keeps (u : Usage SqlQuery) : u.Keeps SqlQuery.Tidy where
  compare _ _ _ h := ⟨Expressions.tidy_push _ _ _, h.2⟩
  method _ hperform h := SqlMethod.tidy_run hperform h
  cleared _ := ⟨fun _ => rfl, fun _ => rfl⟩
  merge p h hothers := h.merge p hothers

theorem tidy_of_reachable {u : Usage SqlQuery} (hstart : ∀ q, u.start q → q.IsStart) {q : SqlQuery}
    (h : Reachable u q) : SqlQuery.Tidy q := by
  refine h.holds (fun q hq => ?_) (tidy_keeps u)
  obtain ⟨hfilter, hhaving⟩ := (hstart q hq).conditions
  unfold SqlQuery.Tidy
  rw [hfilter, hhaving]
  exact ⟨fun _ => rfl, fun _ => rfl⟩

end TermSearch.Sql
