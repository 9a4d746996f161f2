import Mathlib.Data.List.Chain
import Mathlib.Data.List.Pairwise
import TermSearch.Unicode.CaseFold

/-!
# Classes of characters that differ only in case

Two properties of the table carry everything: its rows do not overlap (`pairwise_foldRows`), and no character that
something folds to stands in a row (`clears_foldRows`). So the row of a character is found, what it folds to folds to
itself, and the variants of a character are the characters with the same representative (`mem_variants_iff`).
-/

namespace TermSearch.Unicode

namespace FoldRow

theorem holds_iff {row : FoldRow} {n : Nat} :
    row.holds n = true ↔ row.first ≤ n ∧ n ≤ row.last ∧ (n - row.first) % row.step = 0 := by
  simp [holds, and_assoc]

/-- What the first character of a row folds to. -/
def target (row : FoldRow) : Nat := (row.first + row.shift).toNat

/-- No character of one row folds to a character of the other: they lie apart, or only every second character stands
in the rows and the characters folded to are those between. All pairs of rows are tested, hence the plain tests. -/
def clears (row other : FoldRow) : Bool :=
  Nat.blt (row.last - row.first + row.target) other.first || Nat.blt other.last row.target ||
    ((Nat.beq row.step 2 || Nat.beq row.first row.last) && Nat.beq other.step 2 &&
      Nat.beq ((row.target + other.first) % 2) 1)

theorem holds_of_clears {row other : FoldRow} (h : row.clears other = true) {n : Nat} (hn : row.holds n = true)
    (hshift : 0 ≤ row.first + row.shift) : other.holds (n + row.shift).toNat = false := by
  rw [← Bool.not_eq_true, holds_iff]
  rw [holds_iff] at hn
  obtain ⟨hfirst, hlast, hstep⟩ := hn
  rintro ⟨hfirst', hlast', hstep'⟩
  have htarget : row.target = row.first + row.shift := Int.toNat_of_nonneg hshift
  simp only [clears, Bool.or_eq_true, Bool.and_eq_true, Nat.blt_eq, Nat.beq_eq] at h
  rcases h with (hbefore | hafter) | ⟨⟨hown, hother⟩, hodd⟩
  · omega
  · omega
  · rw [hother] at hstep'
    rcases hown with hown | hown
    · rw [hown] at hstep
      omega
    · omega

end FoldRow

/-! ## The table -/

theorem bounds_foldRows : ∀ row ∈ foldRows, 0 < row.first ∧ 0 ≤ row.first + row.shift := by
  decide +kernel

/-- The rows stand in ascending order and do not overlap. -/
theorem isChain_foldRows : foldRows.IsChain fun row other => row.last < other.first ∧ other.first ≤ other.last := by
  decide +kernel

theorem clears_foldRows : (foldRows.all fun row => foldRows.all row.clears) = true := by
  decide +kernel

theorem pairwise_foldRows : foldRows.Pairwise fun row other => row.last < other.first := by
  have htrans : IsTrans FoldRow fun row other => row.last < other.first ∧ other.first ≤ other.last :=
    ⟨fun _ _ _ h h' => ⟨by omega, h'.2⟩⟩
  exact isChain_foldRows.pairwise.imp And.left

/-- A character stands in one row only. -/
theorem eq_of_holds {row other : FoldRow} (hrow : row ∈ foldRows) (hother : other ∈ foldRows) {n : Nat}
    (h : row.holds n = true) (h' : other.holds n = true) : row = other := by
  by_contra hne
  have hsymm : Std.Symm fun row other : FoldRow => ¬ (row.holds n = true ∧ other.holds n = true) :=
    ⟨fun _ _ h h' => h h'.symm⟩
  have hpairwise : foldRows.Pairwise fun row other => ¬ (row.holds n = true ∧ other.holds n = true) := by
    refine pairwise_foldRows.imp fun {row other} hlt => ?_
    rw [FoldRow.holds_iff, FoldRow.holds_iff]
    omega
  exact hpairwise.forall hrow hother hne ⟨h, h'⟩

/-! ## Representatives -/

theorem foldCode_of_holds {row : FoldRow} (hrow : row ∈ foldRows) {n : Nat} (h : row.holds n = true) :
    foldCode n = (n + row.shift).toNat := by
  rw [foldCode]
  cases hfind : foldRows.find? (·.holds n) with
  | none => exact absurd h (List.find?_eq_none.mp hfind row hrow)
  | some other =>
    have hholds : other.holds n = true := by simpa using List.find?_some hfind
    rw [eq_of_holds (List.mem_of_find?_eq_some hfind) hrow hholds h]

theorem foldCode_of_forall_not_holds {n : Nat} (h : ∀ row ∈ foldRows, row.holds n = false) : foldCode n = n := by
  have hfind : foldRows.find? (·.holds n) = none := by
    rw [List.find?_eq_none]
    intro row hrow
    simp [h row hrow]
  rw [foldCode, hfind]

/-- A character stands in a row, or it is its own representative. -/
theorem exists_holds_or (n : Nat) : (∃ row ∈ foldRows, row.holds n = true) ∨ ∀ row ∈ foldRows, row.holds n = false := by
  by_cases h : ∃ row ∈ foldRows, row.holds n = true
  · exact .inl h
  · refine .inr fun row hrow => ?_
    rw [← Bool.not_eq_true]
    exact fun hholds => h ⟨row, hrow, hholds⟩

/-- **What a character folds to folds to itself.** -/
theorem foldCode_foldCode (n : Nat) : foldCode (foldCode n) = foldCode n := by
  rcases exists_holds_or n with ⟨row, hrow, h⟩ | h
  · rw [foldCode_of_holds hrow h]
    refine foldCode_of_forall_not_holds fun other hother => ?_
    have hclears := List.all_eq_true.mp (List.all_eq_true.mp clears_foldRows row hrow) other hother
    exact FoldRow.holds_of_clears hclears h (bounds_foldRows row hrow).2
  · rw [foldCode_of_forall_not_holds h, foldCode_of_forall_not_holds h]

/-- A row leads back from what its characters fold to. -/
theorem source?_eq_some_iff {row : FoldRow} (hrow : row ∈ foldRows) {m f : Nat} :
    row.source? f = some m ↔ row.holds m = true ∧ foldCode m = f := by
  obtain ⟨hpos, hshift⟩ := bounds_foldRows row hrow
  rw [FoldRow.source?]
  constructor
  · intro h
    split at h
    · next hholds =>
      cases h
      refine ⟨hholds, ?_⟩
      rw [foldCode_of_holds hrow hholds]
      obtain ⟨hfirst, _, _⟩ := FoldRow.holds_iff.mp hholds
      omega
    · cases h
  · rintro ⟨hholds, rfl⟩
    have hback : ((foldCode m : Nat) - row.shift).toNat = m := by
      rw [foldCode_of_holds hrow hholds]
      obtain ⟨hfirst, _, _⟩ := FoldRow.holds_iff.mp hholds
      omega
    rw [hback, if_pos hholds]

/-- **The variants of a character are the characters with its representative.** -/
theorem mem_variants_iff {m n : Nat} : m ∈ variants n ↔ foldCode m = foldCode n := by
  rw [variants, List.mem_cons, List.mem_filterMap]
  constructor
  · rintro (rfl | ⟨row, hrow, hsource⟩)
    · exact foldCode_foldCode n
    · exact ((source?_eq_some_iff hrow).mp hsource).2
  · intro h
    rcases exists_holds_or m with ⟨row, hrow, hholds⟩ | hnone
    · exact .inr ⟨row, hrow, (source?_eq_some_iff hrow).mpr ⟨hholds, h⟩⟩
    · exact .inl ((foldCode_of_forall_not_holds hnone).symm.trans h)

end TermSearch.Unicode
