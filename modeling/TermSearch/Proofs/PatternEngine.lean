import TermSearch.PatternEngine
import TermSearch.Proofs.Wildcard.Prefix

/-!
# What is asked of an engine

The patterns that are written for wildcards are made of few signs (`PatternSign`): the start of a text, characters that
are escaped where they have a meaning, the point, and the point with a star. What engines have in common is how they
read these. An engine is lawful (`LawfulPatternEngine`) if it takes a pattern of such signs unless it is too large, and
lets it occur in a text where the signs, one after the other, take some characters in a row (`PatternSign.Takes`).

The signs written for a value take what the value matches (`Wildcard.takes_iff_matches`), so a lawful engine lets the
pattern of a value occur in the texts that are like the value (`Wildcard.occursIn_iff_isLike`).
-/

namespace TermSearch

/-! ## Signs -/

/-- A sign of a pattern. -/
inductive PatternSign where
  /-- The start of a text. -/
  | start
  /-- A character that stands for itself. -/
  | char (c : Char)
  /-- Any one character. -/
  | point
  /-- Any run of characters. -/
  | points
  deriving DecidableEq, Repr

namespace PatternSign

/-- A sign as it is written. -/
def written : PatternSign → List Char
  | .start => ['^']
  | .char c => Wildcard.escapeRegex c
  | .point => ['.']
  | .points => ['.', '*']

/-- The pattern of signs in a row. -/
def pattern (signs : List PatternSign) : String := String.ofList (signs.flatMap written)

section

variable [PatternEngine]

/-- Whether a character can stand where a pattern has `c`. -/
def standsFor (flags : PatternFlags) (c t : Char) : Bool :=
  if flags.ignoreCase then PatternEngine.sameCase c t else c = t

/-- Whether a character can stand where a pattern has a point. -/
def AtPoint (flags : PatternFlags) (t : Char) : Prop := flags.dotAll = true ∨ t ≠ '\n'

/-- **The characters that signs in a row take**, behind a given character or at the start of a text. -/
inductive Takes (flags : PatternFlags) : Option Char → List PatternSign → List Char → Prop
  | nil (before : Option Char) : Takes flags before [] []
  | start {before : Option Char} {signs : List PatternSign} {text : List Char}
      (h : before = none ∨ flags.multiLine = true ∧ before = some '\n') (rest : Takes flags before signs text) :
      Takes flags before (.start :: signs) text
  | char {before : Option Char} {c t : Char} {signs : List PatternSign} {text : List Char}
      (h : standsFor flags c t = true) (rest : Takes flags (some t) signs text) :
      Takes flags before (.char c :: signs) (t :: text)
  | point {before : Option Char} {t : Char} {signs : List PatternSign} {text : List Char} (h : AtPoint flags t)
      (rest : Takes flags (some t) signs text) : Takes flags before (.point :: signs) (t :: text)
  | pointsEnd {before : Option Char} {signs : List PatternSign} {text : List Char}
      (rest : Takes flags before signs text) : Takes flags before (.points :: signs) text
  | pointsMore {before : Option Char} {t : Char} {signs : List PatternSign} {text : List Char} (h : AtPoint flags t)
      (rest : Takes flags (some t) (.points :: signs) text) : Takes flags before (.points :: signs) (t :: text)

end

end PatternSign

/-- **An engine that reads the signs as they are meant.** -/
class LawfulPatternEngine [PatternEngine] : Prop where
  /-- Signs in a row are a pattern. -/
  read_ne_malformed (flags : PatternFlags) (signs : List PatternSign) (report : String) :
    PatternEngine.read flags (PatternSign.pattern signs) ≠ .error (.malformed report)
  /-- A pattern occurs where its signs take some characters in a row. -/
  occursIn_iff {flags : PatternFlags} {signs : List PatternSign} {occursIn : String → Bool}
    (h : PatternEngine.read flags (PatternSign.pattern signs) = .ok occursIn) (text : String) :
    occursIn text = true ↔ ∃ before taken after, text.toList = before ++ taken ++ after ∧
      PatternSign.Takes flags before.getLast? signs taken

/-! ## The signs of a value -/

namespace Wildcard

open PatternSign (AtPoint Takes standsFor)

/-- The sign that a character of a value is written as. -/
def sign (c : Char) : PatternSign := if c = '*' then .points else if c = '?' then .point else .char c

/-- The signs of a value: the start of a text, and those of its characters. -/
def signs (value : String) : List PatternSign := .start :: value.toList.map sign

theorem toRegex_eq_pattern (value : String) : toRegex value = PatternSign.pattern (signs value) := by
  have hwritten (c : Char) : PatternSign.written (sign c) =
      if c = '*' then Segment.toRegex .many else if c = '?' then Segment.toRegex .one else escapeRegex c := by
    unfold sign
    split
    · rfl
    · split <;> rfl
  rw [toRegex, PatternSign.pattern, signs, List.flatMap_cons, List.flatMap_map,
    flatMap_segments Segment.toRegex escapeRegex (fun _ => rfl)]
  simp only [hwritten]
  rfl

variable [PatternEngine] {flags : PatternFlags}

/-- The point with a star takes a run first. -/
theorem exists_run {before : Option Char} {signs : List PatternSign} {text : List Char}
    (h : Takes flags before (.points :: signs) text) :
    ∃ run rest before', text = run ++ rest ∧ (∀ t ∈ run, AtPoint flags t) ∧ Takes flags before' signs rest := by
  generalize hall : PatternSign.points :: signs = all at h
  induction h with
  | pointsEnd rest =>
    cases hall
    exact ⟨[], _, _, rfl, by simp, rest⟩
  | pointsMore ht _ ih =>
    obtain ⟨run, rest, before', rfl, hrun, htakes⟩ := ih hall
    exact ⟨_ :: run, rest, before', rfl, List.forall_mem_cons.mpr ⟨ht, hrun⟩, htakes⟩
  | nil | start | char | point => cases hall

theorem takes_run {signs : List PatternSign} {run rest : List Char} (hrun : ∀ t ∈ run, AtPoint flags t)
    (hrest : ∀ before, Takes flags before signs rest) (before : Option Char) :
    Takes flags before (.points :: signs) (run ++ rest) := by
  induction run generalizing before with
  | nil => exact .pointsEnd (hrest before)
  | cons t run ih =>
    obtain ⟨ht, hrun⟩ := List.forall_mem_cons.mp hrun
    exact .pointsMore ht (ih hrun _)

/-- **The signs of characters take the texts that the characters match**, wherever they stand. -/
theorem takes_iff_matches {cs text : List Char} {before : Option Char} :
    Takes flags before (cs.map sign) text ↔ Matches (standsFor flags) (AtPoint flags) (segments cs) text := by
  fun_induction segments cs generalizing before text with
  | case1 =>
    rw [matches_nil]
    constructor
    · intro h
      cases h
      rfl
    · rintro rfl
      exact .nil before
  | case2 rest ih =>
    rw [matches_many]
    constructor
    · intro h
      obtain ⟨run, rest, before', rfl, hrun, htakes⟩ := exists_run h
      exact ⟨run, rest, rfl, hrun, ih.mp htakes⟩
    · rintro ⟨run, rest, rfl, hrun, hmatches⟩
      exact takes_run hrun (fun _ => ih.mpr hmatches) before
  | case3 rest ih =>
    rw [matches_one]
    constructor
    · rintro (⟨⟩ | ⟨⟩ | ⟨⟩ | ⟨ht, htakes⟩)
      exact ⟨_, _, rfl, ht, ih.mp htakes⟩
    · rintro ⟨t, rest, rfl, ht, hmatches⟩
      exact .point ht (ih.mpr hmatches)
  | case4 c rest hmany hone ih =>
    have hsign : sign c = .char c := by rw [sign, if_neg hmany, if_neg hone]
    rw [matches_cons, List.map_cons, hsign]
    constructor
    · rintro (⟨⟩ | ⟨⟩ | ⟨hc, htakes⟩)
      exact ⟨_, _, rfl, hc, ih.mp htakes⟩
    · rintro ⟨t, rest, rfl, hc, hmatches⟩
      exact .char hc (ih.mpr hmatches)

variable [LawfulPatternEngine]

/-- **The pattern of a value occurs in the texts that are like the value**: the sign in front leaves no place to begin
but the start of a text. -/
theorem occursIn_iff_isLike (hmultiLine : flags.multiLine = false) {value : String} {occursIn : String → Bool}
    (h : PatternEngine.read flags (toRegex value) = .ok occursIn) (text : String) :
    occursIn text = true ↔ IsLike (standsFor flags) (AtPoint flags) value text := by
  rw [toRegex_eq_pattern] at h
  rw [LawfulPatternEngine.occursIn_iff h]
  constructor
  · rintro ⟨before, taken, after, htext, htakes⟩
    cases htakes with
    | start hbefore htakes =>
      have hnil : before = [] := by simpa [hmultiLine] using hbefore
      rw [hnil, List.nil_append] at htext
      exact ⟨taken, htext ▸ List.prefix_append taken after, takes_iff_matches.mp htakes⟩
  · rintro ⟨taken, ⟨after, htext⟩, hmatches⟩
    exact ⟨[], taken, after, htext.symm, .start (.inl rfl) (takes_iff_matches.mpr hmatches)⟩

end Wildcard

end TermSearch
