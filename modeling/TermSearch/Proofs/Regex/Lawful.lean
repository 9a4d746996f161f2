import Mathlib.Algebra.GroupWithZero.Nat
import TermSearch.Proofs.PatternEngine
import TermSearch.Proofs.Regex.Places
import TermSearch.Proofs.Unicode.CaseFold
import TermSearch.Regex.Reader

/-!
# The engine that runs is lawful

Signs in a row are read sign by sign, one part each (`readAll_signs`), so their pattern is read as the expressions of
the signs in a sequence (`parse_pattern`). It is refused only if that takes too much room: no sign is malformed, and
nothing is nested but the repetition of a point.

A sequence leads on from a place if the signs take some characters there (`exists_leads_iff`): each sign is taken off
the front of both. With that the engine does what is asked of it (`lawful_engine`).
-/

namespace TermSearch.Regex

open PatternSign (AtPoint Takes standsFor)

/-! ## The expressions of signs -/

/-- The expression that a sign stands for. -/
def ofSign (f : Flags) : PatternSign → Regex
  | .start => .look (startLook f)
  | .char c => literal f c
  | .point => .chars (pointSet f)
  | .points => .repeated (.chars (pointSet f)) 0 none

/-- The expression that signs in a row stand for. -/
def ofSigns (f : Flags) (signs : List PatternSign) : Regex := sequence (signs.map (ofSign f))

/-- The part that is read for a sign. -/
def signPart (f : Flags) (s : PatternSign) : Part where
  regex := some (ofSign f s)
  depth := if s = .points then 1 else 0

/-- A sequence takes the room of its members. -/
theorem cost_sequence (rs : List Regex) : (sequence rs).cost = (rs.map cost).sum := by
  fun_induction sequence rs with
  | case1 => rfl
  | case2 r => simp
  | case3 r rest _ ih => rw [cost, ih, List.map_cons, List.sum_cons]

/-! ## Reading -/

/-- What is written never starts with a question mark, which would belong to the repetition before it. -/
theorem dropQuestion_signs (signs : List PatternSign) :
    dropQuestion (signs.flatMap PatternSign.written) = signs.flatMap PatternSign.written := by
  have hhead : ∀ rest, signs.flatMap PatternSign.written ≠ '?' :: rest := by
    intro rest h
    cases signs with
    | nil => cases h
    | cons s signs =>
      cases s with
      | start | point | points => cases h
      | char c =>
        rw [List.flatMap_cons, PatternSign.written, Wildcard.escapeRegex] at h
        grind [Wildcard.isRegexMeta]
  unfold dropQuestion
  split
  · next rest h => exact absurd h (hhead rest)
  · rfl

/-- An escaped character with a meaning of its own stands for itself. -/
theorem readEscape_meta (f : Flags) {c : Char} (h : Wildcard.isRegexMeta c = true) (rest : List Char) :
    readEscape f (c :: rest) = some (.literal c, rest) := by
  simp only [Wildcard.isRegexMeta, List.contains_iff_mem, List.mem_cons, List.not_mem_nil, or_false] at h
  rcases h with h | h | h | h | h | h | h | h | h | h | h | h | h | h | h | h | h | h <;> subst h <;> rfl

/-- A character without a meaning of its own stands for itself. -/
theorem readStep_plain (r : Reading) {c : Char} (h : Wildcard.isRegexMeta c = false) (rest : List Char) :
    readStep r c rest = some (r.add (.leaf (literal r.flags c)), rest) := by
  unfold readStep
  split <;> first | rfl | exact absurd h (by decide)

section Reading

variable {f : Flags} (hextended : f.extended = false) (hunicode : f.unicode = true)
include hextended

/-- One step of reading, where no layout is left out. -/
theorem readAll_step {fuel : Nat} {r r' : Reading} (hflags : r.flags = f) {c : Char} {rest rest' : List Char}
    (h : readStep r c rest = some (r', rest')) : readAll (fuel + 1) r (c :: rest) = readAll fuel r' rest' := by
  have hskip : r.flags.skip (c :: rest) = c :: rest := by rw [hflags, Flags.skip, if_neg (by simp [hextended])]
  rw [readAll, hskip]
  simp only [h, Option.bind_some]

include hunicode

/-- **A sign is read as one part.** -/
theorem readAll_sign {fuel : Nat} {r : Reading} (hflags : r.flags = f) (s : PatternSign) {rest : List Char}
    (hrest : dropQuestion rest = rest) (hfuel : (s.written ++ rest).length < fuel) :
    ∃ fuel', rest.length < fuel' ∧ readAll fuel r (s.written ++ rest) = readAll fuel' (r.add (signPart f s)) rest := by
  obtain ⟨fuel, rfl⟩ : ∃ n, fuel = n + 1 := ⟨fuel - 1, by omega⟩
  have hpoint (rest : List Char) : readStep r '.' rest = some (r.add (.leaf (.chars (pointSet f))), rest) := by
    simp [readStep, hflags, hunicode]
  cases s with
  | start =>
    have hstart : readStep r '^' rest = some (r.add (signPart f .start), rest) := by
      rw [← hflags]
      rfl
    exact ⟨fuel, by simpa [PatternSign.written] using hfuel, readAll_step hextended hflags hstart⟩
  | point => exact ⟨fuel, by simpa [PatternSign.written] using hfuel, readAll_step hextended hflags (hpoint rest)⟩
  | points =>
    obtain ⟨fuel, rfl⟩ : ∃ n, fuel = n + 1 := ⟨fuel - 1, by simp [PatternSign.written] at hfuel; omega⟩
    refine ⟨fuel, by simp [PatternSign.written] at hfuel; omega, ?_⟩
    -- the star repeats the point that was read before it
    have hstar : readStep (r.add (.leaf (.chars (pointSet f)))) '*' rest = some (r.add (signPart f .points), rest) := by
      simp only [readStep]
      rw [hrest]
      rfl
    show readAll (fuel + 1 + 1) r ('.' :: '*' :: rest) = _
    rw [readAll_step hextended hflags (hpoint _),
      readAll_step hextended (r := r.add (.leaf (.chars (pointSet f)))) hflags hstar]
  | char c =>
    have hpart : signPart f (.char c) = .leaf (literal f c) := rfl
    rw [PatternSign.written, Wildcard.escapeRegex] at hfuel ⊢
    cases hmeta : Wildcard.isRegexMeta c with
    | true =>
      rw [hmeta, if_pos rfl] at hfuel
      refine ⟨fuel, by simp at hfuel; omega, ?_⟩
      have hstep : readStep r '\\' (c :: rest) = some (r.add (signPart f (.char c)), rest) := by
        rw [hpart, ← hflags]
        simp [readStep, readEscape_meta r.flags hmeta rest]
      rw [if_pos rfl]
      exact readAll_step hextended hflags hstep
    | false =>
      rw [hmeta, if_neg Bool.false_ne_true] at hfuel
      refine ⟨fuel, by simpa using hfuel, ?_⟩
      rw [if_neg Bool.false_ne_true, hpart, ← hflags]
      exact readAll_step hextended hflags (readStep_plain r hmeta rest)

/-- Signs in a row are read as one part each. -/
theorem readAll_signs (signs : List PatternSign) {fuel : Nat} {r : Reading} (hflags : r.flags = f)
    (hfuel : (signs.flatMap PatternSign.written).length < fuel) :
    readAll fuel r (signs.flatMap PatternSign.written) =
      some { r with level := { r.level with parts := (signs.map (signPart f)).reverse ++ r.level.parts } } := by
  induction signs generalizing fuel r with
  | nil =>
    obtain ⟨fuel, rfl⟩ : ∃ n, fuel = n + 1 := ⟨fuel - 1, by omega⟩
    have hskip : r.flags.skip [] = [] := by rw [hflags, Flags.skip, if_neg (by simp [hextended])]
    rw [List.flatMap_nil, readAll, hskip]
    rfl
  | cons s signs ih =>
    rw [List.flatMap_cons] at hfuel ⊢
    obtain ⟨fuel', hfuel', hread⟩ := readAll_sign hextended hunicode hflags s (dropQuestion_signs signs) hfuel
    rw [hread, ih (r := r.add (signPart f s)) hflags hfuel']
    simp [Reading.add]

end Reading

theorem regex_combine_signs (f : Flags) (signs : List PatternSign) :
    (Part.combine sequence (signs.map (signPart f))).regex = some (ofSigns f signs) := by
  have hregexes : (signs.map (signPart f)).filterMap (·.regex) = signs.map (ofSign f) := by
    rw [List.filterMap_map, ← List.filterMap_eq_map]
    rfl
  rw [Part.combine, ofSigns, ← hregexes]

theorem foldl_depth_signs (f : Flags) (signs : List PatternSign) {n : Nat} (hn : n ≤ 1) :
    ((signs.map (signPart f)).map (·.depth)).foldl max n ≤ 1 := by
  induction signs generalizing n with
  | nil => exact hn
  | cons s signs ih =>
    have hdepth : (signPart f s).depth ≤ 1 := by
      rw [signPart]
      split <;> simp
    rw [List.map_cons, List.map_cons, List.foldl_cons]
    exact ih (Nat.max_le.mpr ⟨hn, hdepth⟩)

/-- Nothing is nested in signs but a repetition. -/
theorem depth_combine_signs (f : Flags) (signs : List PatternSign) :
    (Part.combine sequence (signs.map (signPart f))).depth ≤ nestLimit := by
  have hdepth := foldl_depth_signs f signs (n := 0) (by omega)
  show (if 2 ≤ (signs.map (signPart f)).length then 1 else 0) + _ ≤ 250
  split <;> omega

/-- **The pattern of signs is read as the expressions of the signs in a sequence**, unless that is too large. -/
theorem parse_pattern {f : Flags} (hextended : f.extended = false) (hunicode : f.unicode = true)
    (signs : List PatternSign) :
    parse f (PatternSign.pattern signs) =
      if PatternRefusal.sizeLimit < (ofSigns f signs).cost then .error .tooLarge else .ok (ofSigns f signs) := by
  have hread := readAll_signs hextended hunicode signs (r := ⟨⟨[], [], f⟩, [], [], f⟩) rfl (Nat.lt_succ_self _)
  unfold parse
  dsimp only
  rw [PatternSign.pattern, String.toList_ofList, hread]
  dsimp only
  have hwhole : Level.whole ⟨[], (signs.map (signPart f)).reverse ++ [], f⟩ =
      Part.combine sequence (signs.map (signPart f)) := by
    show Part.combine sequence ((signs.map (signPart f)).reverse ++ []).reverse = _
    rw [List.append_nil, List.reverse_reverse]
  have hfits : ¬ ((!([] : List Level).isEmpty) = true ∨
      nestLimit < (Part.combine sequence (signs.map (signPart f))).depth) := by
    rintro (houter | hdeep)
    · cases houter
    · exact absurd (depth_combine_signs f signs) (Nat.not_le.mpr hdeep)
  rw [hwhole, if_neg hfits, regex_combine_signs, Option.getD_some]

/-! ## Sets of characters -/

theorem holds_single (c : Char) (n : Nat) : (CharSet.single c).holds n = true ↔ n = c.toNat := by
  show Unicode.CodeSet.holdsIn n [(c.toNat, c.toNat)] = true ↔ n = c.toNat
  simp only [Unicode.CodeSet.holdsIn, Bool.or_false]
  split
  · simp only [Bool.false_eq_true, false_iff]
    omega
  · rw [decide_eq_true_eq]
    omega

/-- **A set closed under case holds the characters with the representative of a member.** -/
theorem contains_folded_single (c t : Char) : (CharSet.folded (.single c)).contains t = Unicode.sameCase c t := by
  rw [Bool.eq_iff_iff, Unicode.sameCase, beq_iff_eq]
  show ((CharSet.single c).holds t.toNat || (Unicode.variants t.toNat).any (CharSet.single c).holds) = true ↔ _
  simp only [Bool.or_eq_true, List.any_eq_true, holds_single]
  constructor
  · rintro (h | ⟨n, hn, rfl⟩)
    · rw [h]
    · exact Unicode.mem_variants_iff.mp hn
  · intro h
    exact .inr ⟨c.toNat, Unicode.mem_variants_iff.mpr h, rfl⟩

/-- A set read with these flags holds what can stand for its one character. -/
theorem contains_fold_single (flags : PatternFlags) (c t : Char) :
    ((Flags.ofPattern flags).fold (.single c)).contains t = standsFor flags c t := by
  obtain ⟨ignoreCase, multiLine, dotAll⟩ := flags
  cases ignoreCase with
  | true => exact contains_folded_single c t
  | false =>
    rw [Bool.eq_iff_iff]
    show (CharSet.single c).holds t.toNat = true ↔ decide (c = t) = true
    rw [holds_single, Char.toNat_inj, decide_eq_true_eq, eq_comm]

/-- A point stands for all characters but line breaks, or for all characters. -/
theorem contains_pointSet (flags : PatternFlags) (t : Char) :
    (pointSet (.ofPattern flags)).contains t = true ↔ AtPoint flags t := by
  obtain ⟨ignoreCase, multiLine, dotAll⟩ := flags
  cases dotAll with
  | true => exact iff_of_true rfl (.inl rfl)
  | false =>
    show (!(CharSet.single '\n').holds t.toNat) = true ↔ false = true ∨ t ≠ '\n'
    rw [Bool.not_eq_true', ← Bool.not_eq_true, holds_single, Char.toNat_inj]
    simp

/-! ## Where the expressions of signs lead -/

section

variable {p q : Place} {set : CharSet}

theorem leads_sequence_cons {r : Regex} {rest : List Regex} :
    Leads (sequence (r :: rest)) p q ↔ ∃ m, Leads r p m ∧ Leads (sequence rest) m q := by
  cases rest with
  | nil => simp [sequence, Leads]
  | cons => rfl

/-- One character is taken, and the others follow. -/
theorem leads_chars_iff {r : Regex} : (∃ q m, Leads (.chars set) p m ∧ Leads r m q) ↔
    ∃ t rest, p.rest = t :: rest ∧ set.contains t = true ∧ ∃ q, Leads r (p.after t rest) q := by
  constructor
  · rintro ⟨q, m, ⟨t, rest, hrest, ht, rfl⟩, hq⟩
    exact ⟨t, rest, hrest, ht, q, hq⟩
  · rintro ⟨t, rest, hrest, ht, q, hq⟩
    exact ⟨q, p.after t rest, ⟨t, rest, hrest, ht, rfl⟩, hq⟩

end

variable {flags : PatternFlags}

/-- The condition in front holds at the start of a text, or of a line if that is asked for. -/
theorem holds_startLook {p : Place} : (startLook (.ofPattern flags)).holds p = true ↔
    p.previous = none ∨ flags.multiLine = true ∧ p.previous = some '\n' := by
  obtain ⟨ignoreCase, multiLine, dotAll⟩ := flags
  cases multiLine <;> cases hprevious : p.previous <;> simp [startLook, Flags.ofPattern, Look.holds, hprevious]

/-- The signs take characters at a place. -/
def TakesAt (flags : PatternFlags) (signs : List PatternSign) (p : Place) : Prop :=
  ∃ taken after, p.rest = taken ++ after ∧ Takes flags p.previous signs taken

theorem takesAt_start {signs : List PatternSign} {p : Place} : TakesAt flags (.start :: signs) p ↔
    (p.previous = none ∨ flags.multiLine = true ∧ p.previous = some '\n') ∧ TakesAt flags signs p := by
  constructor
  · rintro ⟨taken, after, hrest, _ | ⟨hstart, htakes⟩⟩
    exact ⟨hstart, taken, after, hrest, htakes⟩
  · rintro ⟨hstart, taken, after, hrest, htakes⟩
    exact ⟨taken, after, hrest, .start hstart htakes⟩

theorem takesAt_char {c : Char} {signs : List PatternSign} {p : Place} : TakesAt flags (.char c :: signs) p ↔
    ∃ t rest, p.rest = t :: rest ∧ standsFor flags c t = true ∧ TakesAt flags signs (p.after t rest) := by
  constructor
  · rintro ⟨_, after, hrest, _ | _ | ⟨hc, htakes⟩⟩
    exact ⟨_, _, hrest, hc, _, after, rfl, htakes⟩
  · rintro ⟨t, rest, hrest, hc, taken, after, happend, htakes⟩
    refine ⟨t :: taken, after, ?_, .char hc htakes⟩
    rw [hrest, List.cons_append, ← happend]
    rfl

theorem takesAt_point {signs : List PatternSign} {p : Place} : TakesAt flags (.point :: signs) p ↔
    ∃ t rest, p.rest = t :: rest ∧ AtPoint flags t ∧ TakesAt flags signs (p.after t rest) := by
  constructor
  · rintro ⟨_, after, hrest, _ | _ | _ | ⟨ht, htakes⟩⟩
    exact ⟨_, _, hrest, ht, _, after, rfl, htakes⟩
  · rintro ⟨t, rest, hrest, ht, taken, after, happend, htakes⟩
    refine ⟨t :: taken, after, ?_, .point ht htakes⟩
    rw [hrest, List.cons_append, ← happend]
    rfl

theorem takesAt_points {signs : List PatternSign} {p : Place} : TakesAt flags (.points :: signs) p ↔
    ∃ n m, Rounds (Leads (.chars (pointSet (.ofPattern flags)))) n p m ∧ TakesAt flags signs m := by
  constructor
  · rintro ⟨taken, after, hrest, htakes⟩
    generalize hbefore : p.previous = before at htakes
    generalize hsigns : PatternSign.points :: signs = all at htakes
    induction htakes generalizing p with
    | pointsEnd htakes =>
      cases hsigns
      exact ⟨0, p, .zero p, _, after, hrest, hbefore ▸ htakes⟩
    | @pointsMore _ t _ text ht _ ih =>
      obtain ⟨n, m, hrounds, hm⟩ := ih (p := p.after t (text ++ after)) rfl rfl hsigns
      exact ⟨n + 1, m, .succ ⟨t, _, hrest, (contains_pointSet flags t).mpr ht, rfl⟩ hrounds, hm⟩
    | nil | start | char | point => cases hsigns
  · rintro ⟨n, m, hrounds, hm⟩
    induction hrounds with
    | zero p =>
      obtain ⟨taken, after, hrest, htakes⟩ := hm
      exact ⟨taken, after, hrest, .pointsEnd htakes⟩
    | succ first _ ih =>
      obtain ⟨t, rest, hrest, ht, rfl⟩ := first
      obtain ⟨taken, after, happend, htakes⟩ := ih hm
      refine ⟨t :: taken, after, ?_, .pointsMore ((contains_pointSet flags t).mp ht) htakes⟩
      rw [hrest, List.cons_append, ← happend]
      rfl

/-- **The expression of signs leads on from the places where the signs take some characters.** -/
theorem exists_leads_iff {signs : List PatternSign} {p : Place} :
    (∃ q, Leads (ofSigns (.ofPattern flags) signs) p q) ↔ TakesAt flags signs p := by
  induction signs generalizing p with
  | nil =>
    constructor
    · rintro -
      exact ⟨[], p.rest, rfl, .nil _⟩
    · rintro -
      exact ⟨p, rfl⟩
  | cons s signs ih =>
    rw [ofSigns, List.map_cons]
    simp only [leads_sequence_cons]
    cases s with
    | start =>
      rw [ofSign, takesAt_start]
      simp only [Leads, holds_startLook, ← ih, ofSigns]
      constructor
      · rintro ⟨q, _, ⟨hstart, rfl⟩, hq⟩
        exact ⟨hstart, q, hq⟩
      · rintro ⟨hstart, q, hq⟩
        exact ⟨q, p, ⟨hstart, rfl⟩, hq⟩
    | char c =>
      rw [ofSign, literal, leads_chars_iff, takesAt_char]
      simp only [contains_fold_single, ← ih, ofSigns]
    | point =>
      rw [ofSign, leads_chars_iff, takesAt_point]
      simp only [contains_pointSet, ← ih, ofSigns]
    | points =>
      rw [takesAt_points]
      simp only [ofSign, Leads, ← ih, ofSigns]
      constructor
      · rintro ⟨q, m, ⟨n, _, _, hrounds⟩, hq⟩
        exact ⟨n, m, hrounds, q, hq⟩
      · rintro ⟨n, m, hrounds, q, hq⟩
        exact ⟨q, m, ⟨n, Nat.zero_le _, by simp, hrounds⟩, hq⟩

/-! ## The engine -/

/-- **The engine that runs is lawful.** -/
instance lawful_engine : LawfulPatternEngine where
  read_ne_malformed flags signs report := by
    show (parse (.ofPattern flags) (PatternSign.pattern signs)).map occursIn ≠ _
    rw [parse_pattern rfl rfl]
    split <;> simp [Except.map]
  occursIn_iff {flags signs occursIn} h text := by
    change (parse (.ofPattern flags) (PatternSign.pattern signs)).map Regex.occursIn = .ok occursIn at h
    rw [parse_pattern rfl rfl] at h
    split at h
    · cases h
    · cases h
      rw [Regex.occursIn_iff]
      simp only [exists_leads_iff]
      constructor
      · rintro ⟨p, ⟨before, htext, _, hprevious⟩, taken, after, hrest, htakes⟩
        refine ⟨before, taken, after, ?_, hprevious ▸ htakes⟩
        rw [← htext, hrest, List.append_assoc]
      · rintro ⟨before, taken, after, htext, htakes⟩
        refine ⟨⟨before.length, before.getLast?, taken ++ after⟩, ?_, taken, after, rfl, htakes⟩
        rw [htext, List.append_assoc]
        exact isOf_append before (taken ++ after)

/-- A pattern with very many points is too large. -/
theorem read_replicate_point {flags : PatternFlags} (hdotAll : flags.dotAll = false) {n : Nat}
    (hn : PatternRefusal.sizeLimit < 24 + n * 120) :
    PatternEngine.read flags (PatternSign.pattern (.start :: List.replicate n .point)) = .error .tooLarge := by
  have hpoint : (ofSign (.ofPattern flags) .point).cost = 120 := by
    simp [ofSign, pointSet, Flags.ofPattern, hdotAll, cost, CharSet.rangeCount, CharSet.single, Unicode.CodeSet.ofRange]
  have hcost : (ofSigns (.ofPattern flags) (.start :: List.replicate n .point)).cost = 24 + n * 120 := by
    rw [ofSigns, cost_sequence, List.map_cons, List.map_cons, List.map_replicate, List.map_replicate, hpoint,
      List.sum_cons, List.sum_replicate_nat]
    rfl
  show (parse (.ofPattern flags) (PatternSign.pattern (.start :: List.replicate n .point))).map occursIn = _
  rw [parse_pattern rfl rfl, hcost, if_pos hn]
  rfl

end TermSearch.Regex
