import TermSearch.Document.Store
import TermSearch.Proofs.Document.Meaning

/-!
# Filters of queries

What each operation makes of the filter of a query, as an equation between selectors.
-/

namespace TermSearch.Document

variable [PatternEngine]

/-- The filter of a merge, also of one query alone. -/
theorem merge_filter (p : Predicate) (q : DocumentQuery) (others : List DocumentQuery) :
    (Query.merge q p others).clauses.filter =
      Condition.combine p ((q :: others).map (·.clauses.filter)) := by
  cases others with
  | nil =>
    exact (Condition.combine_singleton Selector.eq_empty_of_isEmpty).symm
  | cons other others =>
    show Condition.combine p (List.map _ (List.map _ _)) = _
    rw [List.map_map]
    rfl

/-- A merge asks for something as soon as one of its queries does. -/
theorem merge_notEmpty (p : Predicate) {q part : DocumentQuery} {others : List DocumentQuery}
    (hpart : part ∈ q :: others) (h : part.clauses.filter.isEmpty = false) :
    (Query.merge q p others).clauses.filter.isEmpty = false := by
  rw [merge_filter, Bool.eq_false_iff, Ne, Selector.combine_isEmpty]
  intro hall
  have hempty := hall part.clauses.filter (List.mem_map_of_mem hpart)
  rw [h] at hempty
  cases hempty

theorem compare_filter (base : DocumentQuery) (field : String) (op : Operator) (value : String) :
    (Query.compare base field op value).clauses.filter =
      base.clauses.filter.and (.field field (comparison op value)) := rfl

theorem cleared_filter (base : DocumentQuery) : (Query.cleared base).clauses.filter = Selector.empty := rfl

/-- **A method adds a selector to the filter**, an empty one if it is about another clause. -/
theorem perform_filter {q q' : DocumentQuery} {m : DocumentMethod} (h : DocumentMethod.run q m = .ok q') :
    ∃ added, q'.clauses.filter = q.clauses.filter.and added := by
  cases m with
  | edit e =>
    cases h
    refine ⟨.empty, ?_⟩
    cases e <;> rfl
  | filter value =>
    rw [DocumentMethod.run] at h
    split at h
    · next s _ =>
      cases h
      exact ⟨s, rfl⟩
    · cases h
  | filterEq field value =>
    cases h
    exact ⟨.field field value, rfl⟩

end TermSearch.Document
