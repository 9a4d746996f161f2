import Mathlib.Data.List.TakeWhile
import TermSearch.Proofs.Search.QuotedRoundtrip

/-!
# Source texts are read again

A term keeps the text that it was read from, and that text alone is read as the same term. What a reading takes off
the front of a text is decided by what it takes: a closing mark, the end of a word, a sign and its blanks all lie
inside. So each reading is followed on the part that it consumed (`scanQuoted_front`, `scanValue_front`,
`scanFielded?_front`), and none of the readings that were tried before it and refused the whole text takes the part
(`scanLexeme_front`).
-/

namespace TermSearch

open Text (isBlank dropBlanks)

namespace Lexeme

/-! ## Values -/

/-- A closed quotation is read from what stands in front of what it leaves. -/
theorem scanQuoted_front {mark : Char} (hmark : mark ≠ '\\') (cs : List Char) (h : (scanQuoted mark cs).2.1 = true) :
    ∃ front, cs = front ++ (scanQuoted mark cs).2.2 ∧ scanQuoted mark front = ((scanQuoted mark cs).1, true, []) := by
  fun_induction scanQuoted mark cs with
  | case1 => cases h
  | case2 => exact ⟨[mark], rfl, scanQuoted_mark mark []⟩
  | case3 => cases h
  | case4 d rest => exact ⟨[mark], rfl, scanQuoted_mark mark []⟩
  | case5 c d rest _ hcd content closed after hs ih =>
    obtain ⟨rfl, rfl⟩ := hcd
    rw [hs] at ih
    obtain ⟨front, hfront, hread⟩ := ih h
    refine ⟨'\\' :: d :: front, by rw [hfront]; rfl, ?_⟩
    rw [scanQuoted_escaped hmark, hread]
  | case6 c d rest hc hcd content closed after hs ih =>
    rw [hs] at ih
    obtain ⟨front, hfront, hread⟩ := ih h
    cases front with
    | nil => cases hread
    | cons e front =>
      obtain rfl : d = e := (List.cons.inj hfront).1
      refine ⟨c :: d :: front, by rw [hfront]; rfl, ?_⟩
      rw [scanQuoted_plain hc (by simpa using hcd), hread]

theorem scanValue_plain {c : Char} (hc : isMark c = false) (rest : List Char) :
    scanValue c rest = ((c :: rest.takeWhile isWordChar).filter (!isMark ·), .none, rest.dropWhile isWordChar) := by
  rw [isMark, Bool.or_eq_false_iff, decide_eq_false_iff_not, decide_eq_false_iff_not] at hc
  rw [scanValue, if_neg hc.1, if_neg hc.2]

theorem isMark_iff {c : Char} : isMark c = true ↔ ∃ mark : Mark, c = mark.char := by
  rw [isMark, Bool.or_eq_true, decide_eq_true_eq, decide_eq_true_eq]
  constructor
  · rintro (h | h)
    · exact ⟨.single, h⟩
    · exact ⟨.double, h⟩
  · rintro ⟨_ | _, h⟩
    · exact .inl h
    · exact .inr h

/-- **A value is read from what stands in front of what it leaves.** -/
theorem scanValue_front (c : Char) (rest : List Char) :
    ∃ front, rest = front ++ (scanValue c rest).2.2 ∧
      scanValue c front = ((scanValue c rest).1, (scanValue c rest).2.1, []) := by
  cases hc : isMark c with
  | true =>
    obtain ⟨mark, rfl⟩ := isMark_iff.mp hc
    cases hclosed : (scanQuoted mark.char rest).2.1 with
    | true =>
      obtain ⟨front, hfront, hread⟩ := scanQuoted_front (by cases mark <;> decide) rest hclosed
      exact ⟨front, by rwa [scanValue_mark], by rw [scanValue_mark, scanValue_mark, hread, hclosed]⟩
    | false =>
      -- without a closing mark the value runs to the end
      have hend := scanQuoted_open mark.char rest hclosed
      exact ⟨rest, by rw [scanValue_mark, hend, List.append_nil], by rw [scanValue_mark, hend]⟩
  | false =>
    refine ⟨rest.takeWhile isWordChar, ?_, ?_⟩
    · rw [scanValue_plain hc, List.takeWhile_append_dropWhile]
    · rw [scanValue_plain hc, scanValue_plain hc, List.takeWhile_idem,
        List.dropWhile_eq_nil_iff.mpr fun d hd => List.mem_takeWhile_imp hd]

/-! ## Signs and fields -/

theorem head?_ne_some {d : Char} {cs : List Char} (h : ∀ more, cs = d :: more → False) : cs.head? ≠ some d := by
  intro hd
  obtain ⟨more, rfl⟩ := List.head?_eq_some_iff.mp hd
  exact h more rfl

theorem scanSign?_less {rest : List Char} (h : rest.head? ≠ some '=') : scanSign? ('<' :: rest) = some (.lt, rest) := by
  rw [scanSign?]
  rintro more rfl
  exact h rfl

theorem scanSign?_greater {rest : List Char} (h : rest.head? ≠ some '=') :
    scanSign? ('>' :: rest) = some (.gt, rest) := by
  rw [scanSign?]
  rintro more rfl
  exact h rfl

/-- **A sign is read** off its own characters, so long as the character behind them stays. -/
theorem scanSign?_eq_some {cs rest : List Char} {op : Operator} (h : scanSign? cs = some (op, rest)) :
    ∃ sign : Sign, cs = sign.chars ++ rest ∧
      ∀ tail : List Char, tail.head? = rest.head? → scanSign? (sign.chars ++ tail) = some (op, tail) := by
  unfold scanSign? at h
  split at h
  case h_1 =>
    obtain ⟨rfl, rfl⟩ := Prod.mk.inj (Option.some.inj h)
    exact ⟨.atMost, rfl, fun _ _ => rfl⟩
  case h_2 =>
    obtain ⟨rfl, rfl⟩ := Prod.mk.inj (Option.some.inj h)
    exact ⟨.atLeast, rfl, fun _ _ => rfl⟩
  case h_3 hlonger =>
    obtain ⟨rfl, rfl⟩ := Prod.mk.inj (Option.some.inj h)
    exact ⟨.less, rfl, fun tail htail => scanSign?_less (htail ▸ head?_ne_some hlonger)⟩
  case h_4 hlonger =>
    obtain ⟨rfl, rfl⟩ := Prod.mk.inj (Option.some.inj h)
    exact ⟨.greater, rfl, fun tail htail => scanSign?_greater (htail ▸ head?_ne_some hlonger)⟩
  case h_5 =>
    obtain ⟨rfl, rfl⟩ := Prod.mk.inj (Option.some.inj h)
    exact ⟨.colon, rfl, fun _ _ => rfl⟩
  case h_6 =>
    obtain ⟨rfl, rfl⟩ := Prod.mk.inj (Option.some.inj h)
    exact ⟨.tilde, rfl, fun _ _ => rfl⟩
  case h_7 => cases h

/-- What `takeWhile` takes ends in the same place, so long as the character behind it stays. -/
theorem span_head {α : Type} {p : α → Bool} {l tail : List α} (h : tail.head? = (l.dropWhile p).head?) :
    (l.takeWhile p ++ tail).takeWhile p = l.takeWhile p ∧ (l.takeWhile p ++ tail).dropWhile p = tail := by
  have hall : ∀ a ∈ l.takeWhile p, p a := fun a ha => List.mem_takeWhile_imp ha
  rw [List.takeWhile_append_of_pos hall, List.dropWhile_append_of_pos hall]
  cases tail with
  | nil => exact ⟨List.append_nil _, rfl⟩
  | cons a tail =>
    have ha : ¬p a := by
      have hhead := List.head?_dropWhile_not p l
      rw [← h] at hhead
      simpa using hhead
    rw [List.takeWhile_cons_of_neg ha, List.dropWhile_cons_of_neg ha, List.append_nil]
    exact ⟨rfl, rfl⟩

/-- A sign with its blanks is read from what stands in front of the value, whatever comes behind the first character of
the value. -/
theorem scanSign?_front {cs afterSign more : List Char} {op : Operator} {d : Char}
    (hsign : scanSign? (dropBlanks cs) = some (op, afterSign)) (hvalue : dropBlanks afterSign = d :: more) :
    ∃ front, cs = front ++ d :: more ∧ (∃ sign : Sign, sign.chars ⊆ front) ∧
      ∀ tail, ∃ behind, scanSign? (dropBlanks (front ++ d :: tail)) = some (op, behind) ∧
        dropBlanks behind = d :: tail := by
  obtain ⟨sign, hchars, hread⟩ := scanSign?_eq_some hsign
  obtain ⟨gap, hgap⟩ : ∃ gap, cs.takeWhile isBlank = gap := ⟨_, rfl⟩
  obtain ⟨gap', hgap'⟩ : ∃ gap', afterSign.takeWhile isBlank = gap' := ⟨_, rfl⟩
  have hbehind : afterSign = gap' ++ d :: more := by
    rw [← hvalue, ← hgap', dropBlanks, List.takeWhile_append_dropWhile]
  refine ⟨gap ++ (sign.chars ++ gap'), ?_, ⟨sign, ?_⟩, fun tail => ⟨gap' ++ d :: tail, ?_, ?_⟩⟩
  · rw [List.append_assoc, List.append_assoc, ← hbehind, ← hchars, ← hgap, dropBlanks,
      List.takeWhile_append_dropWhile]
  · exact fun e he => by simp [he]
  · have hhead : (sign.chars ++ (gap' ++ d :: tail)).head? = (cs.dropWhile isBlank).head? := by
      rw [← dropBlanks, hchars]
      cases sign <;> rfl
    have hhead' : (gap' ++ d :: tail).head? = afterSign.head? := by
      rw [hbehind]
      cases gap' <;> rfl
    rw [List.append_assoc, List.append_assoc, ← hgap, dropBlanks, (span_head hhead).2, hread _ hhead']
  · have hhead : (d :: tail).head? = (afterSign.dropWhile isBlank).head? := by
      rw [← dropBlanks, hvalue]
      rfl
    rw [← hgap', dropBlanks, (span_head hhead).2]

/-- The part in front of what is left is consumed whole. -/
theorem consumed_front {rest front after : List Char} (c : Char) (h : rest = front ++ after) :
    consumed (c :: rest) after = c :: front ∧ consumed (c :: front) [] = c :: front := by
  have hpart := consumed_of_append (c :: front) []
  rw [List.append_nil] at hpart
  exact ⟨h ▸ consumed_of_append (c :: front) after, hpart⟩

/-- **A fielded term with a value is read from what stands in front of what it leaves**, and there is a sign in it. -/
theorem scanFielded?_front {c : Char} {rest after : List Char} {w : WrittenTerm}
    (h : scanFielded? c rest = some (w, after)) (hvalue : w.isVoid = false) :
    ∃ front, rest = front ++ after ∧ scanFielded? c front = some (w, []) ∧ ∃ sign : Sign, sign.chars ⊆ front := by
  unfold scanFielded? at h
  split at h
  case isFalse => cases h
  case isTrue hname =>
    obtain ⟨⟨op, afterSign⟩, hsign, h⟩ := Option.map_eq_some_iff.mp h
    dsimp only at h
    split at h
    · obtain ⟨rfl, -⟩ := Prod.mk.inj h
      cases hvalue
    · next d more hd =>
      obtain ⟨part, hbefore, ⟨sign, hmem⟩, hread⟩ := scanSign?_front hsign hd
      obtain ⟨value, hmore, hscan⟩ := scanValue_front d more
      obtain ⟨rfl, rfl⟩ := Prod.mk.inj h
      obtain ⟨behind, hsign', hd'⟩ := hread value
      have hhead : (part ++ d :: value).head? = (rest.dropWhile isNameChar).head? := by
        rw [hbefore]
        cases part <;> rfl
      obtain ⟨htake, hdrop⟩ := span_head hhead
      have hrest : rest = rest.takeWhile isNameChar ++ (part ++ d :: value) ++ (scanValue d more).2.2 := by
        rw [List.append_assoc, List.append_assoc, List.cons_append, ← hmore, ← hbefore,
          List.takeWhile_append_dropWhile]
      obtain ⟨hwhole, hfront⟩ := consumed_front c hrest
      refine ⟨rest.takeWhile isNameChar ++ (part ++ d :: value), hrest, ?_, sign, fun e he => by simp [hmem he]⟩
      rw [scanFielded?, if_pos hname, htake, hdrop, hsign', Option.map_some, hwhole]
      simp only [hd', hscan, hfront]

theorem dropWhile_takeWhile {α : Type} {p q : α → Bool} (h : ∀ a, p a → q a) (l : List α) :
    (l.takeWhile q).dropWhile p = (l.dropWhile p).takeWhile q := by
  induction l with
  | nil => rfl
  | cons a l ih =>
    cases hp : p a with
    | true => simp [hp, h a hp, ih]
    | false => cases hq : q a <;> simp [hp, hq]

/-- Whether a sign is read is decided by the first character. -/
theorem scanSign?_cons_eq_none {d : Char} {l : List Char} (h : scanSign? (d :: l) = none) (l' : List Char) :
    scanSign? (d :: l') = none := by
  cases h' : scanSign? (d :: l') with
  | none => rfl
  | some found =>
    exfalso
    unfold scanSign? at h h'
    split at h' <;> split at h <;> simp_all

/-- **No field is read in a word** if none is read in the text that it is the first word of. -/
theorem scanFielded?_word {c : Char} {rest : List Char} (h : scanFielded? c rest = none) :
    scanFielded? c (rest.takeWhile isWordChar) = none := by
  unfold scanFielded? at h
  split at h
  case isFalse hname => rw [scanFielded?, if_neg hname]
  case isTrue hname =>
    have hbehind : scanSign? (dropBlanks (rest.dropWhile isNameChar)) = none := Option.map_eq_none_iff.mp h
    rw [scanFielded?, if_pos hname, dropWhile_takeWhile fun _ => isWordChar_of_isNameChar]
    refine Option.map_eq_none_iff.mpr ?_
    cases hrest : rest.dropWhile isNameChar with
    | nil => rfl
    | cons d more =>
      rw [hrest] at hbehind
      cases hd : isBlank d with
      | true => rw [List.takeWhile_cons_of_neg (by simp [isWordChar, hd])]; rfl
      | false =>
        rw [dropBlanks, List.dropWhile_cons_of_neg (by simp [hd])] at hbehind
        rw [List.takeWhile_cons_of_pos (by simp [isWordChar, hd]), dropBlanks,
          List.dropWhile_cons_of_neg (by simp [hd])]
        exact scanSign?_cons_eq_none hbehind _

/-! ## The front of a text -/

theorem scanKeyword?_eq_none {c : Char} {rest : List Char} :
    scanKeyword? c rest = none ↔ Keyword.ofWord? (c :: rest.takeWhile isWordChar) = none := by
  rw [scanKeyword?, Option.map_eq_none_iff]

/-- No keyword is read in the front of a text if none is read in the text, unless the front is a word that spells
one. -/
theorem scanKeyword?_front {c : Char} {front after : List Char} (h : scanKeyword? c (front ++ after) = none)
    (hword : (∀ d ∈ front, isWordChar d) → Keyword.ofWord? (c :: front) = none) : scanKeyword? c front = none := by
  rw [scanKeyword?_eq_none] at h ⊢
  by_cases hall : ∀ d ∈ front, isWordChar d
  · rw [List.takeWhile_eq_self_iff.mpr hall]
    exact hword hall
  · have hinside : ¬(front.takeWhile isWordChar).length = front.length := fun hlength =>
      hall (List.takeWhile_eq_self_iff.mp ((List.takeWhile_prefix isWordChar).eq_of_length hlength))
    rwa [List.takeWhile_append, if_neg hinside] at h

theorem startsNegation_front {c : Char} {front after : List Char} (h : startsNegation c (front ++ after) = false) :
    startsNegation c front = false := by
  cases front with
  | nil => simp [startsNegation]
  | cons d front => exact h

theorem scanLexeme_eq_term_iff {c : Char} {rest after : List Char} {w : WrittenTerm} :
    scanLexeme c rest = (.term w, after) ↔
      scanKeyword? c rest = none ∧ startsNegation c rest = false ∧
        (scanFielded? c rest = some (w, after) ∨ scanFielded? c rest = none ∧ scanBare c rest = (w, after)) := by
  rw [scanLexeme]
  cases hk : scanKeyword? c rest with
  | some found => simp
  | none =>
    cases hn : startsNegation c rest with
    | true => simp
    | false =>
      cases hf : scanFielded? c rest with
      | some found => simp [Prod.ext_iff]
      | none => simp [Prod.ext_iff]

/-- A term without a field is read from what stands in front of what it leaves: up to the closing mark, or to the end
of the word. -/
theorem scanBare_front {c : Char} {rest : List Char} (hkeyword : scanKeyword? c rest = none)
    (hfielded : scanFielded? c rest = none) :
    ∃ front, rest = front ++ (scanBare c rest).2 ∧ Keyword.ofWord? (c :: front) = none ∧
      scanFielded? c front = none ∧ scanBare c front = ((scanBare c rest).1, []) := by
  obtain ⟨front, hfront, hscan⟩ := scanValue_front c rest
  obtain ⟨hwhole, hpart⟩ := consumed_front c hfront
  have hread : scanBare c front = ((scanBare c rest).1, []) := by
    simp only [scanBare, hscan, hwhole, hpart]
  cases hc : isMark c with
  | true =>
    obtain ⟨mark, rfl⟩ := isMark_iff.mp hc
    have hname : ¬isNameStart mark.char := by cases mark <;> decide
    exact ⟨front, hfront, ofWord?_of_mark mark List.mem_cons_self, by rw [scanFielded?, if_neg hname], hread⟩
  | false =>
    have hword : front = rest.takeWhile isWordChar := by
      rw [scanValue_plain hc] at hfront
      exact List.append_cancel_right (hfront.symm.trans List.takeWhile_append_dropWhile.symm)
    exact ⟨front, hfront, hword ▸ scanKeyword?_eq_none.mp hkeyword, hword ▸ scanFielded?_word hfielded, hread⟩

/-- **A term is read from what stands in front of what it leaves.** -/
theorem scanLexeme_front {c : Char} {rest after : List Char} {w : WrittenTerm}
    (h : scanLexeme c rest = (.term w, after)) (hvalue : w.isVoid = false) :
    ∃ front, rest = front ++ after ∧ scanLexeme c front = (.term w, []) := by
  obtain ⟨hkeyword, hnegation, hfielded | ⟨hfielded, hbare⟩⟩ := scanLexeme_eq_term_iff.mp h
  · obtain ⟨front, rfl, hread, sign, hsign⟩ := scanFielded?_front hfielded hvalue
    -- as one word it is no keyword, because of its sign
    have hword : Keyword.ofWord? (c :: front) = none := by
      obtain ⟨d, hd, hno⟩ : ∃ d ∈ sign.chars, d.toLower ∉ keywordChars := by
        cases sign <;> exact ⟨_, List.mem_cons_self, by decide⟩
      exact ofWord?_of_mem (List.mem_cons_of_mem c (hsign hd)) hno
    exact ⟨front, rfl, scanLexeme_eq_term_iff.mpr
      ⟨scanKeyword?_front hkeyword fun _ => hword, startsNegation_front hnegation, .inl hread⟩⟩
  · obtain ⟨front, hfront, hword, hnone, hread⟩ := scanBare_front hkeyword hfielded
    rw [hbare] at hfront hread
    subst hfront
    exact ⟨front, rfl, scanLexeme_eq_term_iff.mpr
      ⟨scanKeyword?_front hkeyword fun _ => hword, startsNegation_front hnegation, .inr ⟨hnone, hread⟩⟩⟩

end Lexeme

/-! ## The whole search -/

/-- **Each term of a search is the one lexeme of its source text.** -/
theorem lexChars_text {cs : List Char} {w : WrittenTerm} (h : .term w ∈ lexChars cs) (hvalue : w.isVoid = false) :
    lexChars w.text.toList = [.term w] := by
  induction cs using lexChars.induct with
  | case1 cs hdrop =>
    rw [lexChars_of_dropBlanks_nil hdrop] at h
    cases h
  | case2 cs c rest hdrop _ ih =>
    rw [lexChars_of_dropBlanks_cons hdrop] at h
    rcases List.mem_cons.mp h with hfirst | hlater
    · have hread : Lexeme.scanLexeme c rest = (.term w, (Lexeme.scanLexeme c rest).2) := by rw [hfirst]
      obtain ⟨front, hfront, hagain⟩ := Lexeme.scanLexeme_front hread hvalue
      have hspelled := Lexeme.scanLexeme_spelledBy c rest
      rw [← hfirst] at hspelled
      have htext : w.text = String.ofList (c :: front) := by
        rw [← (Lexeme.consumed_front c hfront).1]
        exact hspelled
      rw [htext, String.toList_ofList, lexChars_cons (Lexeme.isWordChar_of_dropBlanks hdrop), hagain,
        lexChars_of_dropBlanks_nil rfl]
    · exact ih hlater

/-- A term of a search was written in it. -/
theorem Group.exists_lexeme {ls : List Lexeme} {t : Term} (h : t ∈ (ofLexemes ls).terms) :
    ∃ (w : WrittenTerm) (negated : Bool), .term w ∈ ls ∧ w.finish? negated = some t := by
  obtain ⟨stretches, trailing, rfl⟩ := Stretch.exists_of_lexemes ls
  rw [terms_ofLexemes, Slot.collect_stretches, List.filterMap_map, List.mem_filterMap] at h
  obtain ⟨s, hs, hfinish⟩ := h
  refine ⟨s.term, _, ?_, hfinish⟩
  rw [List.mem_append, List.mem_flatMap]
  exact .inl ⟨s, hs, by simp [Stretch.lexemes]⟩

/-- **The source text of a term reads as that term.** Whatever search a term stands in, its text alone is read as one
group of one term: the same but for the negation, which stands in front of the text and so is gone, and with it the
inversion of the operator. -/
theorem parseSearch_text {input : String} {t : Term} (h : t ∈ (parseSearch input).terms) :
    parseSearch t.text =
      { children := [.group [.term { t with operator := t.writtenOperator, negated := false }] []]
        keywords := [] } := by
  obtain ⟨w, negated, hw, hfinish⟩ := Group.exists_lexeme h
  obtain ⟨value, hvalue, rfl⟩ := Option.map_eq_some_iff.mp hfinish
  have hlex : lex w.text = [.term w] := lexChars_text hw (by rw [WrittenTerm.isVoid, hvalue]; rfl)
  have hplain : w.finish? false = some
      { Term.make w.field w.operator value w.quoting false with text := w.text } := by
    rw [WrittenTerm.finish?, hvalue, Option.map_some]
  have hroot : Group.ofLexemes [.term w] =
      { children := [.group ((w.finish? false).toList.map .term) []], keywords := [] } := rfl
  rw [parseSearch, hlex, hroot, hplain]
  cases negated <;> simp [Term.make, Term.writtenOperator]

/-- A negated comparison with a blank inside what looks like one sign, a word that starts like a keyword right behind
a closing mark, and a quotation that is never closed. -/
def hillSearch : String := "not height < =3 \"fort\"or'hill near:'Sett  "

/-- The terms of `hillSearch`. -/
def hillTerms : List Term :=
  [⟨some "height", .gte, "=3", true, .none, "height < =3"⟩, ⟨none, .eq, "fort", false, .double, "\"fort\""⟩,
   ⟨none, .eq, "orhill", false, .none, "or'hill"⟩, ⟨some "near", .eq, "Sett  ", false, .none, "near:'Sett  "⟩]

theorem lexChars_eq_cons {cs rest after : List Char} {c : Char} {l : Lexeme} {ls : List Lexeme}
    (hdrop : dropBlanks cs = c :: rest) (hscan : Lexeme.scanLexeme c rest = (l, after)) (hafter : lexChars after = ls) :
    lexChars cs = l :: ls := by
  rw [lexChars_of_dropBlanks_cons hdrop, hscan, hafter]

theorem lex_hillSearch : lex hillSearch =
    [.keyword .not, .term ⟨some "height", .lt, some "=3", .none, "height < =3"⟩,
      .term ⟨none, .eq, some "fort", .double, "\"fort\""⟩, .term ⟨none, .eq, some "orhill", .none, "or'hill"⟩,
      .term ⟨some "near", .eq, some "Sett  ", .none, "near:'Sett  "⟩] := by
  have hnot : Lexeme.scanLexeme 'n' "ot height < =3 \"fort\"or'hill near:'Sett  ".toList =
      (.keyword .not, " height < =3 \"fort\"or'hill near:'Sett  ".toList) := by decide
  have hheight : Lexeme.scanLexeme 'h' "eight < =3 \"fort\"or'hill near:'Sett  ".toList =
      (.term ⟨some "height", .lt, some "=3", .none, "height < =3"⟩, " \"fort\"or'hill near:'Sett  ".toList) := by decide
  have hfort : Lexeme.scanLexeme '"' "fort\"or'hill near:'Sett  ".toList =
      (.term ⟨none, .eq, some "fort", .double, "\"fort\""⟩, "or'hill near:'Sett  ".toList) := by decide
  have hword : Lexeme.scanLexeme 'o' "r'hill near:'Sett  ".toList =
      (.term ⟨none, .eq, some "orhill", .none, "or'hill"⟩, " near:'Sett  ".toList) := by decide
  have hnear : Lexeme.scanLexeme 'n' "ear:'Sett  ".toList =
      (.term ⟨some "near", .eq, some "Sett  ", .none, "near:'Sett  "⟩, []) := by decide
  have hend : lexChars [] = [] := lexChars_of_dropBlanks_nil rfl
  exact lexChars_eq_cons (by decide) hnot <| lexChars_eq_cons (by decide) hheight <|
    lexChars_eq_cons (by decide) hfort <| lexChars_eq_cons (by decide) hword <|
    lexChars_eq_cons (by decide) hnear hend

theorem parseSearch_text_hill :
    (parseSearch hillSearch).terms = hillTerms ∧
    parseSearch "height < =3" =
      { children := [.group [.term ⟨some "height", .lt, "=3", false, .none, "height < =3"⟩] []], keywords := [] } ∧
    parseSearch "or'hill" =
      { children := [.group [.term ⟨none, .eq, "orhill", false, .none, "or'hill"⟩] []], keywords := [] } ∧
    parseSearch "near:'Sett  " =
      { children := [.group [.term ⟨some "near", .eq, "Sett  ", false, .none, "near:'Sett  "⟩] []]
        keywords := [] } := by
  have hterms : (parseSearch hillSearch).terms = hillTerms := by
    rw [parseSearch, lex_hillSearch]
    rfl
  have hmem : ∀ t ∈ hillTerms, t ∈ (parseSearch hillSearch).terms := fun t ht => by rwa [hterms]
  have hheight : hillTerms[0] ∈ (parseSearch hillSearch).terms := hmem _ (List.getElem_mem _)
  have hword : hillTerms[2] ∈ (parseSearch hillSearch).terms := hmem _ (List.getElem_mem _)
  have hnear : hillTerms[3] ∈ (parseSearch hillSearch).terms := hmem _ (List.getElem_mem _)
  exact ⟨hterms, parseSearch_text hheight, parseSearch_text hword, parseSearch_text hnear⟩

end TermSearch
