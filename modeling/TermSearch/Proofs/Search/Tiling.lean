import TermSearch.Proofs.Search.Grammar

/-!
# Lexemes tile the text

Nothing of a search is lost between its lexemes: the text can be cut into blanks and the source texts of the lexemes,
in order (`Tiled`). A source text is never empty, the grammar reads the lexeme off it, a term keeps it as its text, and
a keyword is spelled by it.

One step of the scanner takes the blanks in front and one source text (`scanLexeme_spelledBy`); the cut of the whole
text follows by the recursion of the scanner.
-/

namespace TermSearch

open Text (isBlank dropBlanks)

/-! ## Source texts -/

/-- The words that a keyword is written with. -/
def Keyword.words : Keyword → List String
  | .and => ["and", "&&"]
  | .or => ["or", "||"]
  | .not => ["not"]

namespace Lexeme

/-- A term is spelled by the text that it keeps, and a keyword by one of its words in any ASCII case; a negation also
by a bare `!`. -/
def SpelledBy (source : List Char) : Lexeme → Prop
  | .term w => w.text = String.ofList source
  | .keyword k => source = ['!'] ∧ k = .not ∨ String.ofList (source.map Char.toLower) ∈ k.words

/-- Whether the lexeme is a term without a value. -/
def isVoid : Lexeme → Bool
  | .term w => w.isVoid
  | .keyword _ => false

end Lexeme

/-! ## One lexeme -/

theorem bang_of_toLower {c : Char} (h : c.toLower = '!') : c = '!' := by
  unfold Char.toLower at h
  split at h
  case isTrue hc =>
    -- only a capital letter changes, and what it becomes is a letter
    have hlow : 65 ≤ c.val.toNat := hc.1
    have hhigh : c.val.toNat ≤ 90 := hc.2
    have hsum : (c.val + ('a'.val - 'A'.val)).toNat = 33 := congrArg (fun d : Char => d.val.toNat) h
    have hshift : ('a'.val - 'A'.val).toNat = 32 := rfl
    rw [UInt32.toNat_add, hshift] at hsum
    omega
  case isFalse => exact h

theorem Keyword.spelledBy_of_ofWord? {word : List Char} {k : Keyword} (h : ofWord? word = some k) :
    (Lexeme.keyword k).SpelledBy word := by
  rw [Lexeme.SpelledBy]
  unfold ofWord? at h
  split at h
  case h_6 hbang =>
    have hword : word.map Char.toLower = ['!'] := String.ofList_injective hbang
    obtain ⟨c, rfl, hc⟩ := List.map_eq_singleton_iff.mp hword
    exact .inl ⟨by rw [bang_of_toLower hc], (Option.some.inj h).symm⟩
  case h_7 => cases h
  all_goals
    obtain rfl := Option.some.inj h
    exact .inr (by simp [words, *])

namespace Lexeme

theorem scanKeyword?_eq_some {c : Char} {rest after : List Char} {k : Keyword}
    (h : scanKeyword? c rest = some (k, after)) :
    Keyword.ofWord? (c :: rest.takeWhile isWordChar) = some k ∧ after = rest.dropWhile isWordChar := by
  rw [scanKeyword?, Option.map_eq_some_iff] at h
  obtain ⟨k', hk, h⟩ := h
  obtain ⟨rfl, rfl⟩ := Prod.mk.inj h
  exact ⟨hk, rfl⟩

/-- A fielded term keeps its source text, and one without a value leaves nothing. -/
theorem scanFielded?_eq_some {c : Char} {rest after : List Char} {w : WrittenTerm}
    (h : scanFielded? c rest = some (w, after)) :
    w.text = String.ofList (consumed (c :: rest) after) ∧ (w.isVoid → after = []) := by
  unfold scanFielded? at h
  split at h
  case isTrue =>
    rw [Option.map_eq_some_iff] at h
    obtain ⟨⟨op, afterSign⟩, hsign, h⟩ := h
    dsimp only at h
    split at h
    · obtain ⟨rfl, rfl⟩ := Prod.mk.inj h
      exact ⟨by simp [consumed], fun _ => rfl⟩
    · obtain ⟨rfl, rfl⟩ := Prod.mk.inj h
      exact ⟨rfl, by simp [WrittenTerm.isVoid]⟩
  case isFalse => cases h

/-- **A lexeme is spelled by what the scanner takes for it.** -/
theorem scanLexeme_spelledBy (c : Char) (rest : List Char) :
    (scanLexeme c rest).1.SpelledBy (consumed (c :: rest) (scanLexeme c rest).2) := by
  unfold scanLexeme
  split
  · next k after h =>
    obtain ⟨hk, rfl⟩ := scanKeyword?_eq_some h
    have hword : consumed (c :: rest) (rest.dropWhile isWordChar) = c :: rest.takeWhile isWordChar := by
      have := consumed_of_append (c :: rest.takeWhile isWordChar) (rest.dropWhile isWordChar)
      rwa [List.cons_append, List.takeWhile_append_dropWhile] at this
    exact hword ▸ Keyword.spelledBy_of_ofWord? hk
  · split
    · next hn =>
      rw [startsNegation, Bool.and_eq_true, decide_eq_true_eq] at hn
      exact .inl ⟨hn.1 ▸ consumed_of_append [c] rest, rfl⟩
    · split
      · next h => exact (scanFielded?_eq_some h).1
      · rfl

/-- Behind a term without a value there is nothing. -/
theorem scanLexeme_void {c : Char} {rest : List Char} (h : (scanLexeme c rest).1.isVoid) :
    (scanLexeme c rest).2 = [] := by
  unfold scanLexeme at h ⊢
  cases hk : scanKeyword? c rest with
  | some found => simp [hk, isVoid] at h
  | none =>
    cases hn : startsNegation c rest with
    | true => simp [hk, hn, isVoid] at h
    | false =>
      cases hf : scanFielded? c rest with
      | some found =>
        simp only [hk, hn, hf, Bool.false_eq_true, if_false] at h ⊢
        exact (scanFielded?_eq_some hf).2 h
      | none => simp [hk, hn, hf, isVoid, scanBare, WrittenTerm.isVoid] at h

end Lexeme

/-! ## The whole text -/

/-- **A text is tiled by lexemes**: blanks and source texts alternate, from the first character to the last. -/
inductive Tiled : List Char → List Lexeme → Prop
  /-- Blanks at the end. -/
  | blanks {gap : List Char} (blank : ∀ c ∈ gap, isBlank c) : Tiled gap []
  /-- Blanks, and the source text of a lexeme in front of a text that is tiled by the others. -/
  | lexeme {gap source rest : List Char} {l : Lexeme} {ls : List Lexeme} (blank : ∀ c ∈ gap, isBlank c)
      (source_ne_nil : source ≠ []) (reads : Grammar.lexeme.run (source ++ rest) = some (l, rest))
      (spelled : l.SpelledBy source) (tiled : Tiled rest ls) : Tiled (gap ++ (source ++ rest)) (l :: ls)

theorem lexChars_tiled (cs : List Char) : Tiled cs (lexChars cs) := by
  induction cs using lexChars.induct with
  | case1 cs h =>
    rw [lexChars_of_dropBlanks_nil h]
    exact .blanks (List.dropWhile_eq_nil_iff.mp h)
  | case2 cs c rest h _ ih =>
    have hshorter := (Lexeme.scanLexeme_suffix c rest).length_le
    have hsource : Lexeme.consumed (c :: rest) (Lexeme.scanLexeme c rest).2 ++ (Lexeme.scanLexeme c rest).2 =
        c :: rest :=
      Lexeme.consumed_append ((Lexeme.scanLexeme_suffix c rest).trans (List.suffix_cons _ _))
    have hne : Lexeme.consumed (c :: rest) (Lexeme.scanLexeme c rest).2 ≠ [] := by
      intro hnil
      rw [hnil, List.nil_append] at hsource
      rw [hsource] at hshorter
      exact absurd hshorter (Nat.not_succ_le_self _)
    have hreads : Grammar.lexeme.run (c :: rest) = some (Lexeme.scanLexeme c rest) :=
      Grammar.lexeme_run_cons (Lexeme.isWordChar_of_dropBlanks h) rest
    have hblank : ∀ d ∈ cs.takeWhile isBlank, isBlank d := fun d hd => List.mem_takeWhile_imp hd
    have htiled := Tiled.lexeme hblank hne (hsource.symm ▸ hreads) (Lexeme.scanLexeme_spelledBy c rest) ih
    rwa [hsource, ← h, dropBlanks, List.takeWhile_append_dropWhile, ← lexChars_of_dropBlanks_cons h] at htiled

theorem lexChars_void_last (cs : List Char) : ∀ l ∈ (lexChars cs).dropLast, l.isVoid = false := by
  induction cs using lexChars.induct with
  | case1 cs h => simp [lexChars_of_dropBlanks_nil h]
  | case2 cs c rest h _ ih =>
    rw [lexChars_of_dropBlanks_cons h]
    cases hvoid : (Lexeme.scanLexeme c rest).1.isVoid with
    | true =>
      rw [Lexeme.scanLexeme_void hvoid, lexChars_of_dropBlanks_nil rfl]
      simp
    | false =>
      intro l hl
      cases hrest : lexChars (Lexeme.scanLexeme c rest).2 with
      | nil => simp [hrest] at hl
      | cons l' ls =>
        rw [hrest] at hl ih
        rw [List.dropLast_cons_cons] at hl
        rcases List.mem_cons.mp hl with rfl | hl
        · exact hvoid
        · exact ih l hl

/-- **Every search is read to its end and nothing of it is lost.** The grammar takes the whole text, the lexemes tile
it, and a term without a value can only be the last of them. -/
theorem lex_lossless (input : String) :
    Grammar.search.run input.toList = some (lex input, []) ∧ Tiled input.toList (lex input) ∧
      ∀ l ∈ (lex input).dropLast, l.isVoid = false :=
  ⟨Grammar.search_run _, lexChars_tiled _, lexChars_void_last _⟩

end TermSearch
