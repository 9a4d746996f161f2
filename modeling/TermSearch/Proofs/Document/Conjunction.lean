import TermSearch.Proofs.Document.Meaning
import TermSearch.Regex.Reader

/-!
# Conjunction

There are two ways to want what several selectors want: to add them one by one (`Selector.and`), which puts members side
by side where keys differ, and to join them under a connective. Since a selector is read member by member, it makes no
difference which members stand side by side, as long as none is lost: an object has each of its keys once, and selectors
that share a key are not put side by side. So both ways mean the conjunction, and selectors joined by *or* mean the
disjunction of those that say something (`Selector.conjunction_exact`).
-/

namespace TermSearch.Document.Selector

section

variable [PatternEngine] {parts : List Selector} {start : Selector} {document : Json}

theorem foldl_and_compiles :
    (parts.foldl Selector.and start).Compiles ↔ start.Compiles ∧ ∀ part ∈ parts, part.Compiles := by
  induction parts generalizing start with
  | nil => simp
  | cons part parts ih =>
    rw [List.foldl_cons, ih, and_compiles, List.forall_mem_cons, and_assoc]

theorem foldl_and_wants :
    (parts.foldl Selector.and start).Wants document ↔
      start.Wants document ∧ ∀ part ∈ parts, part.Wants document := by
  induction parts generalizing start with
  | nil => simp
  | cons part parts ih =>
    rw [List.foldl_cons, ih, and_wants, List.forall_mem_cons, and_assoc]

/-- **Joined selectors compile if all of them do.** -/
theorem combine_compiles_iff {p : Predicate} :
    (Condition.combine p parts).Compiles ↔ ∀ part ∈ parts, part.Compiles := by
  refine ⟨fun h part hpart => ?_, combine_compiles⟩
  cases hempty : part.isEmpty with
  | true =>
    rw [eq_empty_of_isEmpty hempty]
    exact empty_compiles
  | false =>
    have hmem : part ∈ Condition.filled parts := Condition.mem_filled.mpr ⟨hpart, hempty⟩
    rcases Condition.combine_cases p parts with ⟨hnil, -⟩ | ⟨only, honly, hcombine⟩ | ⟨-, hcombine⟩
    · rw [hnil] at hmem
      cases hmem
    · rw [honly, List.mem_singleton] at hmem
      rw [hcombine] at h
      exact hmem ▸ h
    · rw [hcombine] at h
      exact join_compiles.mp h part hmem

/-- **Joined by *or*, selectors want what one of them wants that is not empty**, or everything if all of them are. -/
theorem combine_or_wants_iff (hparts : ∀ part ∈ parts, part.Compiles) :
    (Condition.combine .or parts).Wants document ↔
      (∀ part ∈ parts, part.isEmpty = true) ∨ ∃ part ∈ parts, part.isEmpty = false ∧ part.Wants document := by
  by_cases hall : ∀ part ∈ parts, part.isEmpty = true
  · exact iff_of_true (wants_of_isEmpty (combine_isEmpty.mpr hall) document) (.inl hall)
  obtain ⟨part, hpart, hempty⟩ : ∃ part ∈ parts, part.isEmpty = false := by simpa using hall
  have hne : Condition.filled parts ≠ [] := List.ne_nil_of_mem (Condition.mem_filled.mpr ⟨hpart, hempty⟩)
  rw [← Condition.combine_filled, combine_or_wants hne (fun part h => (Condition.mem_filled.mp h).2)
    (fun part h => hparts part (Condition.mem_filled.mp h).1), or_iff_right hall]
  simp only [Condition.mem_filled, and_assoc]
  rfl

end

/-- **Conjunction and combination are exact.** A conjunction compiles if both selectors do, and wants what both want.
Joined selectors compile if all of them do. Joined by *and* they want what all of them want, which is what they want
when they are added one by one; joined by *or* they want what one of them wants that is not empty, or everything if all
of them are empty. -/
theorem conjunction_exact [PatternEngine] (a b : Selector) (parts : List Selector) :
    ((a.and b).Compiles ↔ a.Compiles ∧ b.Compiles) ∧
    (∀ document, (a.and b).Wants document ↔ a.Wants document ∧ b.Wants document) ∧
    (∀ p, (Condition.combine p parts).Compiles ↔ ∀ part ∈ parts, part.Compiles) ∧
    (∀ document, (Condition.combine .and parts).Wants document ↔ ∀ part ∈ parts, part.Wants document) ∧
    ((∀ part ∈ parts, part.Compiles) → ∀ document, (Condition.combine .or parts).Wants document ↔
      (∀ part ∈ parts, part.isEmpty = true) ∨ ∃ part ∈ parts, part.isEmpty = false ∧ part.Wants document) ∧
    ((parts.foldl Selector.and .empty).Compiles ↔ (Condition.combine .and parts).Compiles) ∧
    ∀ document, (parts.foldl Selector.and .empty).Wants document ↔
      (Condition.combine .and parts).Wants document := by
  refine ⟨and_compiles, fun _ => and_wants, fun _ => combine_compiles_iff, fun _ => combine_and_wants,
    fun hparts _ => combine_or_wants_iff hparts, ?_, fun document => ?_⟩
  · rw [foldl_and_compiles, combine_compiles_iff]
    exact and_iff_right empty_compiles
  · rw [foldl_and_wants, combine_and_wants]
    exact and_iff_right (empty_wants document)

/-- Bob is wanted by his name with an age of null, and by his name or nothing. -/
theorem conjunction_exact_bob :
    ((field "name" (.string "bob")).and ⟨.ofList [("name", .string "bob"), ("age", .null)]⟩).Wants
        (.ofFields [("name", .string "bob")]) ∧
      (Condition.combine .or [field "name" (.string "bob"), empty]).Wants (.ofFields [("name", .string "bob")]) := by
  have hcompile : ∀ part ∈ [field "name" (.string "bob"), empty], part.Compiles := by
    have hname : (field "name" (.string "bob")).Compiles := ⟨_, rfl⟩
    simp [hname, empty_compiles]
  obtain ⟨_, hand, _, _, hor, _⟩ := conjunction_exact (field "name" (.string "bob"))
    ⟨.ofList [("name", .string "bob"), ("age", .null)]⟩ [field "name" (.string "bob"), empty]
  refine ⟨(hand _).mpr ⟨rfl, rfl⟩, (hor hcompile _).mpr (.inr ?_)⟩
  exact ⟨field "name" (.string "bob"), List.mem_cons_self, rfl, rfl⟩

end TermSearch.Document.Selector
