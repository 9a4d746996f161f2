import TermSearch.Proofs.Query.Formula
import TermSearch.Query.Clause

/-!
# Combined conditions

`Condition.combine` leaves empty conditions out and lets a single one stand for itself. Whatever can be told of a joined
condition from its parts, in a way that does not depend on how they are grouped, is therefore the same for conditions
that are combined in two groups first as for those that are combined all at once (`Condition.told_combine_pair`).
-/

namespace TermSearch

namespace Predicate

theorem holds_singleton (p : Predicate) (value : Bool) : p.holds [value] = value := by
  cases p <;> simp [holds]

/-- Truth values may be joined in two groups first. -/
theorem holds_pair (p : Predicate) (values values' : List Bool) :
    p.holds [p.holds values, p.holds values'] = p.holds (values ++ values') := by
  cases p <;> simp [holds]

end Predicate

/-- Conditions of which just one is empty, and which are not empty once they are joined. -/
class LawfulCondition (C : Type) [Condition C] : Prop where
  isEmpty_empty : Condition.isEmpty (Condition.empty : C) = true
  eq_empty {c : C} : Condition.isEmpty c = true → c = Condition.empty
  isEmpty_join (p : Predicate) (parts : List C) : Condition.isEmpty (Condition.join p parts) = false

namespace Condition

variable {C : Type} [Condition C] {p : Predicate} {parts parts' : List C}

/-- The conditions that are not empty. -/
def filled (parts : List C) : List C := parts.filter (!Condition.isEmpty ·)

theorem filled_append (parts parts' : List C) : filled (parts ++ parts') = filled parts ++ filled parts' :=
  List.filter_append _ _

theorem mem_filled {part : C} : part ∈ filled parts ↔ part ∈ parts ∧ isEmpty part = false := by
  rw [filled, List.mem_filter, Bool.not_eq_true']

theorem filled_eq_nil_iff : filled parts = [] ↔ ∀ part ∈ parts, isEmpty part = true := by
  rw [filled, List.filter_eq_nil_iff]
  refine forall₂_congr fun part _ => ?_
  rw [Bool.not_eq_true, Bool.not_eq_false']

theorem filled_cons_of_filled {part : C} (h : isEmpty part = false) (parts : List C) :
    filled (part :: parts) = part :: filled parts := List.filter_cons_of_pos (by rw [h]; rfl)

theorem filled_cons_of_empty {part : C} (h : isEmpty part = true) (parts : List C) :
    filled (part :: parts) = filled parts := List.filter_cons_of_neg (by rw [h]; decide)

/-- Only the conditions that are not empty count. -/
theorem combine_congr (h : filled parts = filled parts') : combine p parts = combine p parts' := by
  unfold combine
  unfold filled at h
  rw [h]

theorem combine_filled (p : Predicate) (parts : List C) : combine p (filled parts) = combine p parts := by
  refine combine_congr ?_
  unfold filled
  rw [List.filter_filter]
  simp only [Bool.and_self]

/-- What is left of conditions: nothing, the only one that is not empty, or several of them joined. -/
theorem combine_cases (p : Predicate) (parts : List C) :
    (filled parts = [] ∧ combine p parts = empty) ∨ (∃ part, filled parts = [part] ∧ combine p parts = part) ∨
      2 ≤ (filled parts).length ∧ combine p parts = join p (filled parts) := by
  unfold combine
  split
  · next hnil => exact .inl ⟨hnil, rfl⟩
  · next part hpart => exact .inr (.inl ⟨part, hpart, rfl⟩)
  · next hnil hsingle =>
    have hzero : (filled parts).length ≠ 0 := fun h => hnil (List.eq_nil_of_length_eq_zero h)
    have hone : (filled parts).length ≠ 1 := by
      intro h
      obtain ⟨part, hpart⟩ := List.length_eq_one_iff.mp h
      exact hsingle part hpart
    exact .inr (.inr ⟨by omega, rfl⟩)

theorem combine_singleton {c : C} (h : isEmpty c = true → c = empty) : combine p [c] = c := by
  unfold combine
  cases hempty : isEmpty c with
  | true =>
    rw [List.filter_cons_of_neg (by rw [hempty]; decide), List.filter_nil]
    exact (h hempty).symm
  | false => rw [List.filter_cons_of_pos (by rw [hempty]; rfl), List.filter_nil]

variable [LawfulCondition C]

/-- Nothing is left of conditions only if all of them are empty. -/
theorem isEmpty_combine (p : Predicate) (parts : List C) : isEmpty (combine p parts) = (filled parts).isEmpty := by
  rcases combine_cases p parts with ⟨hnil, hcombine⟩ | ⟨part, hpart, hcombine⟩ | ⟨hlength, hcombine⟩
  · rw [hcombine, hnil]
    exact LawfulCondition.isEmpty_empty
  · have hmem : part ∈ filled parts := by rw [hpart]; exact List.mem_cons_self
    rw [hcombine, hpart, (mem_filled.mp hmem).2]
    rfl
  · have hne : filled parts ≠ [] := by
      intro hnil
      rw [hnil] at hlength
      cases hlength
    rw [hcombine, LawfulCondition.isEmpty_join, List.isEmpty_eq_false_iff.mpr hne]

theorem filled_combine (h : filled parts ≠ []) (rest : List C) :
    filled (combine p parts :: rest) = combine p parts :: filled rest :=
  filled_cons_of_filled (by rw [isEmpty_combine, List.isEmpty_eq_false_iff]; exact h) rest

theorem filled_combine_of_nil (h : filled parts = []) (rest : List C) :
    filled (combine p parts :: rest) = filled rest :=
  filled_cons_of_empty (by rw [isEmpty_combine, List.isEmpty_iff]; exact h) rest

/-- Groups of which one says nothing come to what is combined all at once. -/
theorem combine_pair_of_nil (h : filled parts = [] ∨ filled parts' = []) :
    combine p [combine p parts, combine p parts'] = combine p (parts ++ parts') := by
  have hsingle : ∀ parts : List C, combine p [combine p parts] = combine p parts :=
    fun parts => combine_singleton LawfulCondition.eq_empty
  rcases h with h | h
  · calc combine p [combine p parts, combine p parts']
        = combine p [combine p parts'] := combine_congr (filled_combine_of_nil h _)
      _ = combine p parts' := hsingle parts'
      _ = combine p (parts ++ parts') := combine_congr (by rw [filled_append, h, List.nil_append])
  · have hlast : filled [combine p parts, combine p parts'] = filled [combine p parts] := by
      rw [← List.singleton_append, filled_append, filled_combine_of_nil h]
      exact List.append_nil _
    calc combine p [combine p parts, combine p parts']
        = combine p [combine p parts] := combine_congr hlast
      _ = combine p parts := hsingle parts
      _ = combine p (parts ++ parts') := combine_congr (by rw [filled_append, h, List.append_nil])

/-- Groups come to nothing just if all that is in them does. -/
theorem isEmpty_combine_pair (p : Predicate) (parts parts' : List C) :
    isEmpty (combine p [combine p parts, combine p parts']) = (filled (parts ++ parts')).isEmpty := by
  by_cases hnil : filled parts = [] ∨ filled parts' = []
  · rw [combine_pair_of_nil hnil, isEmpty_combine]
  · obtain ⟨hparts, -⟩ := not_or.mp hnil
    have hleft : filled (parts ++ parts') ≠ [] := by
      rw [filled_append]
      exact List.append_ne_nil_of_left_ne_nil hparts _
    rw [isEmpty_combine, filled_combine hparts, List.isEmpty_eq_false_iff.mpr hleft]
    rfl

section Told

variable {β : Type} (told : C → β) {joined : Predicate → List β → β}

omit [LawfulCondition C] in
theorem told_combine (hjoin : ∀ p parts, told (join p parts) = joined p (parts.map told))
    (hsingle : ∀ p value, joined p [value] = value) (h : filled parts ≠ []) :
    told (combine p parts) = joined p ((filled parts).map told) := by
  rcases combine_cases p parts with ⟨hnil, -⟩ | ⟨part, hpart, hcombine⟩ | ⟨-, hcombine⟩
  · exact absurd hnil h
  · rw [hcombine, hpart, List.map_singleton, hsingle]
  · rw [hcombine, hjoin]

/-- **What is told of joined conditions from their parts, however they are grouped**, is the same for conditions that
are combined in two groups first. -/
theorem told_combine_pair (hjoin : ∀ p parts, told (join p parts) = joined p (parts.map told))
    (hsingle : ∀ p value, joined p [value] = value)
    (hpair : ∀ p values values', joined p [joined p values, joined p values'] = joined p (values ++ values'))
    (p : Predicate) (parts parts' : List C) :
    told (combine p [combine p parts, combine p parts']) = told (combine p (parts ++ parts')) := by
  by_cases hnil : filled parts = [] ∨ filled parts' = []
  · rw [combine_pair_of_nil hnil]
  -- otherwise both groups are parts of the outer join
  obtain ⟨hparts, hparts'⟩ := not_or.mp hnil
  have hgroups : filled [combine p parts, combine p parts'] = [combine p parts, combine p parts'] := by
    rw [filled_combine hparts, filled_combine hparts']
    rfl
  have happend : filled (parts ++ parts') ≠ [] := by
    rw [filled_append]
    exact List.append_ne_nil_of_left_ne_nil hparts _
  calc told (combine p [combine p parts, combine p parts'])
      = joined p [told (combine p parts), told (combine p parts')] := by
        rw [told_combine told hjoin hsingle (by rw [hgroups]; exact List.cons_ne_nil _ _), hgroups]
        rfl
    _ = joined p [joined p ((filled parts).map told), joined p ((filled parts').map told)] := by
        rw [told_combine told hjoin hsingle hparts, told_combine told hjoin hsingle hparts']
    _ = joined p ((filled (parts ++ parts')).map told) := by rw [hpair, filled_append, List.map_append]
    _ = told (combine p (parts ++ parts')) := (told_combine told hjoin hsingle happend).symm

end Told

end Condition

end TermSearch
