import Mathlib.Data.List.Chain
import Mathlib.Data.List.Forall2
import TermSearch.Wildcard

/-!
# What wildcard patterns mean

`Wildcard.Matches` says which texts the segments of a pattern match: a literal is spelled out, `*` stands for a run of
characters and `?` for one. Two things are left to those who read a pattern: which characters count as the same, and
which ones a wildcard stands for. A text is like a value if it starts with a match (`Wildcard.IsLike`).

A pattern is cut in one tidy way (`tidy_segments`), and its meaning can be told character by character: one equation for
each kind of character says what it takes off the front of a text (`matches_many`, `matches_one`, `matches_cons`).
-/

namespace TermSearch.Wildcard

/-! ## How a pattern is cut -/

/-- The segment stands for itself. -/
def Segment.isLiteral : Segment → Bool
  | .literal _ => true
  | .many => false
  | .one => false

/-- Literals are not empty, hold no wildcards and do not stand side by side. -/
structure Tidy (parts : List Segment) : Prop where
  literal_ne_nil : ∀ chars, .literal chars ∈ parts → chars ≠ []
  literal_plain : ∀ chars, .literal chars ∈ parts → '*' ∉ chars ∧ '?' ∉ chars
  apart : parts.IsChain fun s t => ¬ (s.isLiteral = true ∧ t.isLiteral = true)

theorem Tidy.cons_wildcard {parts : List Segment} (h : Tidy parts) {s : Segment} (hs : s.isLiteral = false) :
    Tidy (s :: parts) where
  literal_ne_nil chars hmem := by
    rcases List.mem_cons.mp hmem with rfl | hmem
    · cases hs
    · exact h.literal_ne_nil chars hmem
  literal_plain chars hmem := by
    rcases List.mem_cons.mp hmem with rfl | hmem
    · cases hs
    · exact h.literal_plain chars hmem
  apart := List.isChain_cons.mpr ⟨fun t _ hboth => by simp [hs] at hboth, h.apart⟩

/-- A plain character joins the literal that segments start with, or becomes one. -/
theorem Tidy.cons_plain {parts : List Segment} (h : Tidy parts) {c : Char} (hmany : c ≠ '*') (hone : c ≠ '?') :
    Tidy (Segment.cons c parts) := by
  unfold Segment.cons
  split
  · next chars rest =>
    obtain ⟨hnil, hplain, hapart⟩ := h
    obtain ⟨hfirst, hrest⟩ := List.isChain_cons.mp hapart
    refine ⟨?_, ?_, List.isChain_cons.mpr ⟨hfirst, hrest⟩⟩
    · intro l hl
      rcases List.mem_cons.mp hl with hl | hl
      · cases hl
        exact List.cons_ne_nil c chars
      · exact hnil l (List.mem_cons_of_mem _ hl)
    · intro l hl
      rcases List.mem_cons.mp hl with hl | hl
      · cases hl
        obtain ⟨hstar, hmark⟩ := hplain chars List.mem_cons_self
        simp [hstar, hmark, Ne.symm hmany, Ne.symm hone]
      · exact hplain l (List.mem_cons_of_mem _ hl)
  · next hfirst =>
    refine ⟨?_, ?_, List.isChain_cons.mpr ⟨?_, h.apart⟩⟩
    · intro l hl
      rcases List.mem_cons.mp hl with hl | hl
      · cases hl
        exact List.cons_ne_nil c []
      · exact h.literal_ne_nil l hl
    · intro l hl
      rcases List.mem_cons.mp hl with hl | hl
      · cases hl
        simp [Ne.symm hmany, Ne.symm hone]
      · exact h.literal_plain l hl
    · rintro t ht ⟨_, hliteral⟩
      cases t with
      | literal chars =>
        obtain ⟨rest, rfl⟩ := List.head?_eq_some_iff.mp ht
        exact hfirst chars rest rfl
      | many | one => cases hliteral

/-- **A pattern is cut tidily.** -/
theorem tidy_segments (cs : List Char) : Tidy (segments cs) := by
  fun_induction segments cs with
  | case1 => exact ⟨by simp, by simp, .nil⟩
  | case2 rest ih => exact ih.cons_wildcard rfl
  | case3 rest ih => exact ih.cons_wildcard rfl
  | case4 c rest hmany hone ih => exact ih.cons_plain hmany hone

/-- What is written of the segments, is written of the characters. -/
theorem flatMap_segments {α : Type} (f : Segment → List α) (g : Char → List α)
    (h : ∀ chars, f (.literal chars) = chars.flatMap g) (cs : List Char) :
    (segments cs).flatMap f =
      cs.flatMap fun c => if c = '*' then f .many else if c = '?' then f .one else g c := by
  have hcons (c : Char) (parts : List Segment) : (Segment.cons c parts).flatMap f = g c ++ parts.flatMap f := by
    unfold Segment.cons
    split <;> simp [h]
  fun_induction segments cs with
  | case1 => rfl
  | case2 rest ih => simp [ih]
  | case3 rest ih => simp [ih]
  | case4 c rest hmany hone ih => rw [hcons, ih, List.flatMap_cons, if_neg hmany, if_neg hone]

/-! ## Matches -/

section Matches

variable (same : Char → Char → Bool) (wild : Char → Prop)

/-- **The texts that segments match**, where the second of two characters may stand for the first if they are the
`same`, and wildcards stand for `wild` characters. -/
inductive Matches : List Segment → List Char → Prop
  | nil : Matches [] []
  | literal {chars spelled text : List Char} {parts : List Segment}
      (h : List.Forall₂ (fun c t => same c t = true) chars spelled) (rest : Matches parts text) :
      Matches (.literal chars :: parts) (spelled ++ text)
  | many {run text : List Char} {parts : List Segment} (h : ∀ t ∈ run, wild t) (rest : Matches parts text) :
      Matches (.many :: parts) (run ++ text)
  | one {t : Char} {text : List Char} {parts : List Segment} (h : wild t) (rest : Matches parts text) :
      Matches (.one :: parts) (t :: text)

/-- The text starts with a match of segments. -/
def Begins (parts : List Segment) (text : List Char) : Prop := ∃ start, start <+: text ∧ Matches same wild parts start

/-- **The text is like the value**: it starts with a match of its pattern. -/
def IsLike (value text : String) : Prop := Begins same wild (segments value.toList) text.toList

end Matches

section

variable {same : Char → Char → Bool} {wild wild' : Char → Prop} {parts : List Segment} {text : List Char}

theorem matches_nil : Matches same wild [] text ↔ text = [] := by
  constructor
  · intro h
    cases h
    rfl
  · rintro rfl
    exact .nil

theorem matches_many : Matches same wild (.many :: parts) text ↔
    ∃ run rest, text = run ++ rest ∧ (∀ t ∈ run, wild t) ∧ Matches same wild parts rest := by
  constructor
  · intro h
    cases h with
    | many h rest => exact ⟨_, _, rfl, h, rest⟩
  · rintro ⟨run, rest, rfl, h, hrest⟩
    exact .many h hrest

theorem matches_one : Matches same wild (.one :: parts) text ↔
    ∃ t rest, text = t :: rest ∧ wild t ∧ Matches same wild parts rest := by
  constructor
  · intro h
    cases h with
    | one h rest => exact ⟨_, _, rfl, h, rest⟩
  · rintro ⟨t, rest, rfl, h, hrest⟩
    exact .one h hrest

theorem matches_literal {chars : List Char} : Matches same wild (.literal chars :: parts) text ↔
    ∃ spelled rest, text = spelled ++ rest ∧ List.Forall₂ (fun c t => same c t = true) chars spelled ∧
      Matches same wild parts rest := by
  constructor
  · intro h
    cases h with
    | literal h rest => exact ⟨_, _, rfl, h, rest⟩
  · rintro ⟨spelled, rest, rfl, h, hrest⟩
    exact .literal h hrest

/-- A plain character in front takes one character off the text. -/
theorem matches_cons {c : Char} : Matches same wild (Segment.cons c parts) text ↔
    ∃ t rest, text = t :: rest ∧ same c t = true ∧ Matches same wild parts rest := by
  unfold Segment.cons
  split
  · next chars parts =>
    rw [matches_literal]
    simp only [List.forall₂_cons_left_iff, matches_literal]
    constructor
    · rintro ⟨_, rest, rfl, ⟨t, spelled, hc, hchars, rfl⟩, hrest⟩
      exact ⟨t, spelled ++ rest, rfl, hc, spelled, rest, rfl, hchars, hrest⟩
    · rintro ⟨t, _, rfl, hc, spelled, rest, rfl, hchars, hrest⟩
      exact ⟨t :: spelled, rest, rfl, ⟨t, spelled, hc, hchars, rfl⟩, hrest⟩
  · rw [matches_literal]
    simp only [List.forall₂_cons_left_iff, List.forall₂_nil_left_iff]
    constructor
    · rintro ⟨_, rest, rfl, ⟨t, _, hc, rfl, rfl⟩, hrest⟩
      exact ⟨t, rest, rfl, hc, hrest⟩
    · rintro ⟨t, rest, rfl, hc, hrest⟩
      exact ⟨[t], rest, rfl, ⟨t, [], hc, rfl, rfl⟩, hrest⟩

/-! ## What wildcards stand for -/

/-- What wildcards stand for may change where it does not matter: for characters that are not in the text, or if there
are no wildcards. -/
theorem Matches.change (h : Matches same wild parts text)
    (hwild : (∀ t ∈ text, wild t → wild' t) ∨ parts.all Segment.isLiteral = true) : Matches same wild' parts text := by
  induction h with
  | nil => exact .nil
  | literal hspelled _ ih =>
    refine .literal hspelled (ih ?_)
    rcases hwild with hwild | hwild
    · exact .inl fun t ht => hwild t (List.mem_append_right _ ht)
    · exact .inr (by simpa [Segment.isLiteral] using hwild)
  | many hrun _ ih =>
    rcases hwild with hwild | hwild
    · refine .many (fun t ht => hwild t (List.mem_append_left _ ht) (hrun t ht)) (ih (.inl fun t ht => ?_))
      exact hwild t (List.mem_append_right _ ht)
    · cases hwild
  | one ht _ ih =>
    rcases hwild with hwild | hwild
    · refine .one (hwild _ List.mem_cons_self ht) (ih (.inl fun t ht => ?_))
      exact hwild t (List.mem_cons_of_mem _ ht)
    · cases hwild

theorem Begins.change (h : Begins same wild parts text)
    (hwild : (∀ t ∈ text, wild t → wild' t) ∨ parts.all Segment.isLiteral = true) : Begins same wild' parts text := by
  obtain ⟨start, hstart, hmatches⟩ := h
  refine ⟨start, hstart, hmatches.change ?_⟩
  exact hwild.imp_left fun hwild t ht => hwild t (hstart.subset ht)

end

end TermSearch.Wildcard
