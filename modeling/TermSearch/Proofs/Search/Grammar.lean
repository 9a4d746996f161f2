import Mathlib.Data.List.DropRight
import Mathlib.Data.List.Monad
import TermSearch.Search.Lexeme

/-!
# The grammar of searches

The syntax of a search as a grammar: readers that may refuse, put together by sequence, repetition and ordered
choice. A choice tries its next alternative on the same text when one has refused, however far that one came, and
nothing in the grammar is prepared for a text that no alternative takes.

The scanner never refuses and never goes back. The equations of this module say that the two agree, one level after
the other: words and signs, quoted values, values, the four alternatives of a lexeme (`lexeme_run`), and the whole
search: the grammar takes every text to its end, and what it reads are the lexemes of the scanner (`search_run`).
-/

namespace TermSearch

open Text (isBlank dropBlanks)

namespace Grammar

/-! ## Readers -/

/-- Takes something off the front of a text, or refuses the text. -/
abbrev Reader (α : Type) := StateT (List Char) Option α

variable {α : Type}

/-- One character that passes a test. -/
def one (p : Char → Bool) : Reader Char := fun
  | [] => none
  | c :: rest => if p c then some (c, rest) else none

/-- The end of the text. -/
def atEnd : Reader Unit := fun
  | [] => some ((), [])
  | _ :: _ => none

/-- What a reader reads, which stays in the text. -/
def ahead (r : Reader α) : Reader α := fun cs => (r cs).map fun (a, _) => (a, cs)

/-- What a reader reads, and the characters it takes. -/
def sourced (r : Reader α) : Reader (α × List Char) := fun cs =>
  (r cs).map fun (a, rest) => ((a, Lexeme.consumed cs rest), rest)

/-- What a reader reads again and again, until it refuses. One that takes nothing would never refuse and reads once
only. -/
def repeated (r : Reader α) (cs : List Char) : List α × List Char :=
  match r cs with
  | none => ([], cs)
  | some (a, rest) =>
    if rest.length < cs.length then
      let (as, left) := repeated r rest
      (a :: as, left)
    else ([a], rest)
termination_by cs.length

/-- A reader as often as it reads, perhaps never. -/
def many (r : Reader α) : Reader (List α) := fun cs => some (repeated r cs)

/-! ## Words and signs -/

/-- Blanks, perhaps none. -/
def blanks : Reader Unit := do
  let _ ← many (one isBlank)

/-- A run of characters that are not blank. -/
def word : Reader (List Char) := do
  let first ← one Lexeme.isWordChar
  return first :: (← many (one Lexeme.isWordChar))

/-- The name of a field. -/
def name : Reader (List Char) := do
  let first ← one Lexeme.isNameStart
  return first :: (← many (one Lexeme.isNameChar))

/-- A given character. -/
def char (c : Char) : Reader Unit := do
  let _ ← one (· == c)

/-- A sign between a field and a value; the longer ones are tried first. -/
def sign : Reader Operator :=
  (do char '<'; char '='; return .lte) <|> (do char '>'; char '='; return .gte) <|>
  (do char '<'; return .lt) <|> (do char '>'; return .gt) <|>
  (do char ':'; return .eq) <|> (do char '~'; return .like)

/-! ## Values -/

/-- One character between quotation marks: a mark behind a backslash, or any other character. -/
def quotedChar (mark : Char) : Reader Char :=
  (do char '\\'; one (· == mark)) <|> one (· != mark)

/-- A text between quotation marks, and whether the closing one is there. -/
def quoted (mark : Char) : Reader (List Char × Bool) := do
  char mark
  let content ← many (quotedChar mark)
  return (content, (← optional (char mark)).isSome)

/-- A value in quotation marks counts as quoted when they are closed. -/
def quotedValue (mark : Char) (style : Quoting) : Reader (List Char × Quoting) := do
  let (content, closed) ← quoted mark
  return (content, if closed then style else .none)

/-- A value without quotation marks around it, and without any inside. -/
def plainValue : Reader (List Char × Quoting) := do
  return ((← word).filter (!Lexeme.isMark ·), .none)

/-- A value. -/
def value : Reader (List Char × Quoting) :=
  quotedValue '\'' .single <|> quotedValue '"' .double <|> plainValue

/-! ## Lexemes -/

/-- A word that is a keyword. -/
def keyword : Reader Keyword := do
  Keyword.ofWord? (← word)

/-- A `!` in front of something. -/
def negation : Reader Keyword := do
  char '!'
  let _ ← ahead (one Lexeme.isWordChar)
  return .not

/-- A field name, a sign and perhaps a value, with blanks around the sign. -/
def fielded : Reader WrittenTerm := do
  let ((name, operator, value), source) ← sourced do
    let name ← name
    blanks
    let operator ← sign
    blanks
    return (name, operator, ← optional value)
  return {
    field := some (String.ofList name), operator
    value := value.map fun v => String.ofList v.1
    quoting := (value.map Prod.snd).getD .none
    text := String.ofList source }

/-- A value alone. -/
def bare : Reader WrittenTerm := do
  let ((content, quoting), source) ← sourced value
  return { field := none, operator := .eq, value := some (String.ofList content), quoting,
           text := String.ofList source }

/-- A lexeme: the first of four readings that succeeds. -/
def lexeme : Reader Lexeme :=
  .keyword <$> keyword <|> .keyword <$> negation <|> .term <$> fielded <|> .term <$> bare

/-- A lexeme and the blanks behind it. -/
def spaced : Reader Lexeme := do
  let l ← lexeme
  blanks
  return l

/-- **A search**: lexemes with blanks around them, up to the end of the text. -/
def search : Reader (List Lexeme) := do
  blanks
  let lexemes ← many spaced
  atEnd
  return lexemes

/-! ## What the readers take -/

@[simp] theorem one_run_nil (p : Char → Bool) : (one p).run [] = none := rfl

@[simp] theorem one_run_cons (p : Char → Bool) (c : Char) (rest : List Char) :
    (one p).run (c :: rest) = if p c then some (c, rest) else none := rfl

@[simp] theorem atEnd_run_nil : atEnd.run [] = some ((), []) := rfl

@[simp] theorem ahead_run (r : Reader α) (cs : List Char) :
    (ahead r).run cs = (r.run cs).map fun p => (p.1, cs) := rfl

@[simp] theorem sourced_run (r : Reader α) (cs : List Char) :
    (sourced r).run cs = (r.run cs).map fun p => ((p.1, Lexeme.consumed cs p.2), p.2) := rfl

@[simp] theorem many_run (r : Reader α) (cs : List Char) : (many r).run cs = some (repeated r cs) := rfl

theorem repeated_of_none {r : Reader α} {cs : List Char} (h : r.run cs = none) : repeated r cs = ([], cs) := by
  rw [repeated]
  split
  · rfl
  · next h' => exact absurd (h.symm.trans h') (by simp)

theorem repeated_of_some {r : Reader α} {cs rest : List Char} {a : α} (h : r.run cs = some (a, rest))
    (hlt : rest.length < cs.length) :
    repeated r cs = (a :: (repeated r rest).1, (repeated r rest).2) := by
  rw [repeated]
  split
  · next h' => exact absurd (h.symm.trans h') (by simp)
  · next a' rest' h' =>
    obtain ⟨rfl, rfl⟩ : a = a' ∧ rest = rest' := by simpa using h.symm.trans h'
    rw [if_pos hlt]

theorem repeated_one (p : Char → Bool) (cs : List Char) :
    repeated (one p) cs = (cs.takeWhile p, cs.dropWhile p) := by
  induction cs with
  | nil => exact repeated_of_none rfl
  | cons c rest ih =>
    cases hp : p c with
    | false => rw [repeated_of_none (by simp [hp]), List.takeWhile_cons_of_neg (by simp [hp]),
        List.dropWhile_cons_of_neg (by simp [hp])]
    | true =>
      have hone : (one p).run (c :: rest) = some (c, rest) := by simp [hp]
      rw [repeated_of_some hone (Nat.lt_succ_self _), ih, List.takeWhile_cons_of_pos hp,
        List.dropWhile_cons_of_pos hp]

/-! ## Words and signs -/

@[simp] theorem blanks_run (cs : List Char) : blanks.run cs = some ((), dropBlanks cs) := by
  simp [blanks, repeated_one, dropBlanks]

@[simp] theorem char_run_nil (d : Char) : (char d).run [] = none := rfl

@[simp] theorem char_run_cons (d c : Char) (rest : List Char) :
    (char d).run (c :: rest) = if c = d then some ((), rest) else none := by
  by_cases h : c = d <;> simp [char, h]

@[simp] theorem word_run_nil : word.run [] = none := rfl

@[simp] theorem word_run_cons (c : Char) (rest : List Char) :
    word.run (c :: rest) = if Lexeme.isWordChar c then
      some (c :: rest.takeWhile Lexeme.isWordChar, rest.dropWhile Lexeme.isWordChar) else none := by
  by_cases h : Lexeme.isWordChar c <;> simp [word, h, repeated_one]

@[simp] theorem name_run_cons (c : Char) (rest : List Char) :
    name.run (c :: rest) = if Lexeme.isNameStart c then
      some (c :: rest.takeWhile Lexeme.isNameChar, rest.dropWhile Lexeme.isNameChar) else none := by
  by_cases h : Lexeme.isNameStart c <;> simp [name, h, repeated_one]

theorem char_run_of_ne {d : Char} {cs : List Char} (h : ∀ rest, cs = d :: rest → False) :
    (char d).run cs = none := by
  cases cs with
  | nil => rfl
  | cons c rest =>
    have hc : c ≠ d := fun hc => h rest (hc ▸ rfl)
    rw [char_run_cons, if_neg hc]

@[simp] theorem sign_run (cs : List Char) : sign.run cs = Lexeme.scanSign? cs := by
  unfold Lexeme.scanSign?
  split
  case h_3 rest hless => simp [sign, char_run_of_ne hless]
  case h_4 rest hgreater => simp [sign, char_run_of_ne hgreater]
  case h_7 hless hgreater hcolon htilde =>
    -- without the sign of one character there is none of two either
    simp [sign, char_run_of_ne hless, char_run_of_ne hgreater, char_run_of_ne hcolon, char_run_of_ne htilde]
  all_goals simp [sign]

/-! ## Values -/

@[simp] theorem quotedChar_run_nil (mark : Char) : (quotedChar mark).run [] = none := by
  simp [quotedChar]

theorem quotedChar_run_mark {mark : Char} (hmark : mark ≠ '\\') (rest : List Char) :
    (quotedChar mark).run (mark :: rest) = none := by
  simp [quotedChar, hmark]

theorem quotedChar_run_escaped (mark : Char) (rest : List Char) :
    (quotedChar mark).run ('\\' :: mark :: rest) = some (mark, rest) := by
  simp [quotedChar]

theorem quotedChar_run_plain {mark c : Char} (hc : c ≠ mark) {rest : List Char}
    (h : ¬(c = '\\' ∧ rest.head? = some mark)) : (quotedChar mark).run (c :: rest) = some (c, rest) := by
  by_cases hb : c = '\\'
  · -- the backslash is refused as an escape, then taken for itself
    have hrest : (one (· == mark)).run rest = none := by
      cases rest with
      | nil => rfl
      | cons d rest =>
        have hd : d ≠ mark := fun hd => h ⟨hb, by rw [hd, List.head?_cons]⟩
        simp [hd]
    simp [quotedChar, hrest, hb, hb ▸ hc]
  · simp [quotedChar, hb, hc]

theorem repeated_quotedChar {mark : Char} (hmark : mark ≠ '\\') (cs : List Char) :
    repeated (quotedChar mark) cs = ((Lexeme.scanQuoted mark cs).1,
      if (Lexeme.scanQuoted mark cs).2.1 then mark :: (Lexeme.scanQuoted mark cs).2.2 else []) := by
  fun_induction Lexeme.scanQuoted mark cs with
  | case1 => exact repeated_of_none (quotedChar_run_nil mark)
  | case2 => exact repeated_of_none (quotedChar_run_mark hmark [])
  | case3 c hc =>
    rw [repeated_of_some (quotedChar_run_plain hc (by simp)) (Nat.lt_succ_self _),
      repeated_of_none (quotedChar_run_nil mark)]
    rfl
  | case4 d rest => exact repeated_of_none (quotedChar_run_mark hmark (d :: rest))
  | case5 c d rest hc hcd content closed after hs ih =>
    obtain ⟨rfl, rfl⟩ := hcd
    have hlt : rest.length < ('\\' :: d :: rest).length := by simp only [List.length_cons]; omega
    rw [repeated_of_some (quotedChar_run_escaped d rest) hlt, ih, hs]
  | case6 c d rest hc hcd content closed after hs ih =>
    rw [repeated_of_some (quotedChar_run_plain hc (by simpa using hcd)) (Nat.lt_succ_self _), ih, hs]

theorem quoted_run_cons {mark : Char} (hmark : mark ≠ '\\') (c : Char) (rest : List Char) :
    (quoted mark).run (c :: rest) = if c = mark then
      some (((Lexeme.scanQuoted mark rest).1, (Lexeme.scanQuoted mark rest).2.1),
        (Lexeme.scanQuoted mark rest).2.2) else none := by
  by_cases hc : c = mark
  · cases hclosed : (Lexeme.scanQuoted mark rest).2.1 with
    | true => simp [quoted, hc, repeated_quotedChar hmark, hclosed, optional]
    | false => simp [quoted, hc, repeated_quotedChar hmark, hclosed, optional, Lexeme.scanQuoted_open mark rest hclosed]
  · simp [quoted, hc]

@[simp] theorem value_run_nil : value.run [] = none := by
  simp [value, quotedValue, quoted, plainValue]

/-- A value stands in front of every text that does not start with a blank. -/
theorem value_run_cons {c : Char} (hc : Lexeme.isWordChar c) (rest : List Char) :
    value.run (c :: rest) = some (((Lexeme.scanValue c rest).1, (Lexeme.scanValue c rest).2.1),
      (Lexeme.scanValue c rest).2.2) := by
  unfold Lexeme.scanValue
  by_cases hs : c = '\''
  · simp [value, quotedValue, quoted_run_cons, hs]
  · by_cases hd : c = '"'
    · simp [value, quotedValue, quoted_run_cons, hd]
    · simp [value, quotedValue, quoted_run_cons, plainValue, hs, hd, hc]

/-! ## Lexemes -/

theorem keyword_run_cons {c : Char} (hc : Lexeme.isWordChar c) (rest : List Char) :
    keyword.run (c :: rest) = Lexeme.scanKeyword? c rest := by
  rw [Lexeme.scanKeyword?]
  cases h : Keyword.ofWord? (c :: rest.takeWhile Lexeme.isWordChar) with
  | none => simp [keyword, hc, h]
  | some k => simp [keyword, hc, h]

theorem negation_run_cons (c : Char) (rest : List Char) :
    negation.run (c :: rest) = if Lexeme.startsNegation c rest then some (.not, rest) else none := by
  rw [Lexeme.startsNegation]
  by_cases hc : c = '!'
  · cases rest with
    | nil => simp [negation, hc]
    | cons d rest => by_cases hd : Lexeme.isWordChar d <;> simp [negation, hc, hd]
  · simp [negation, hc]

theorem fielded_run_cons (c : Char) (rest : List Char) :
    fielded.run (c :: rest) = Lexeme.scanFielded? c rest := by
  unfold Lexeme.scanFielded?
  by_cases hc : Lexeme.isNameStart c
  · cases hsign : Lexeme.scanSign? (dropBlanks (rest.dropWhile Lexeme.isNameChar)) with
    | none => simp [fielded, hc, hsign]
    | some found =>
      cases hval : dropBlanks found.2 with
      | nil => simp [fielded, hc, hsign, hval, optional, Lexeme.consumed]
      | cons d more =>
        simp [fielded, hc, hsign, hval, optional, value_run_cons (Lexeme.isWordChar_of_dropBlanks hval)]
  · simp [fielded, hc]

theorem bare_run_cons {c : Char} (hc : Lexeme.isWordChar c) (rest : List Char) :
    bare.run (c :: rest) = some (Lexeme.scanBare c rest) := by
  simp [bare, value_run_cons hc, Lexeme.scanBare]

@[simp] theorem lexeme_run_nil : lexeme.run [] = none := by
  simp [lexeme, keyword, negation, fielded, name, bare]

/-- **The four readings agree**, the choice between them included. -/
theorem lexeme_run_cons {c : Char} (hc : Lexeme.isWordChar c) (rest : List Char) :
    lexeme.run (c :: rest) = some (Lexeme.scanLexeme c rest) := by
  unfold Lexeme.scanLexeme
  cases hk : Lexeme.scanKeyword? c rest with
  | some found => simp [lexeme, keyword_run_cons hc, hk]
  | none =>
    by_cases hn : Lexeme.startsNegation c rest
    · simp [lexeme, keyword_run_cons hc, hk, negation_run_cons, hn]
    · cases hf : Lexeme.scanFielded? c rest with
      | some found => simp [lexeme, keyword_run_cons hc, hk, negation_run_cons, hn, fielded_run_cons, hf]
      | none =>
        simp [lexeme, keyword_run_cons hc, hk, negation_run_cons, hn, fielded_run_cons, hf, bare_run_cons hc]

theorem spaced_run_cons {c : Char} (hc : Lexeme.isWordChar c) (rest : List Char) :
    spaced.run (c :: rest) = some ((Lexeme.scanLexeme c rest).1, dropBlanks (Lexeme.scanLexeme c rest).2) := by
  simp [spaced, lexeme_run_cons hc]

/-! ## The whole search -/

theorem repeated_spaced (cs : List Char) : repeated spaced (dropBlanks cs) = (lexChars cs, []) := by
  induction cs using lexChars.induct with
  | case1 cs h => rw [lexChars_of_dropBlanks_nil h, h, repeated_of_none (by simp [spaced])]
  | case2 cs c rest h _ ih =>
    have hlt : (dropBlanks (Lexeme.scanLexeme c rest).2).length < (c :: rest).length :=
      Nat.lt_succ_of_le ((List.dropWhile_suffix _).length_le.trans (Lexeme.scanLexeme_suffix c rest).length_le)
    have hspaced := spaced_run_cons (Lexeme.isWordChar_of_dropBlanks h) rest
    rw [lexChars_of_dropBlanks_cons h, h, repeated_of_some hspaced hlt, ih]

/-- **The grammar takes every search to its end**, and reads the lexemes of the scanner. -/
theorem search_run (cs : List Char) : search.run cs = some (lexChars cs, []) := by
  simp [search, repeated_spaced]

end Grammar

end TermSearch
