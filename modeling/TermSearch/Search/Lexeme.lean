import TermSearch.Search.Term

/-!
# Lexemes of a search

A search is a sequence of keywords and terms with blanks between them. At the start of a lexeme four
readings are tried in order:

* a keyword, when the whole word up to the next blank spells one;
* a negation, when a `!` stands directly before something;
* a field name, a sign and a value, with blanks allowed around the sign, the value perhaps missing;
* a value alone, which every character can start.

So no text is refused (`lex` is a total function), and since every reading takes at least one character
(`scanLexeme_length_lt`) the scan ends. What a reading leaves is always a tail of what it was given, so
`consumed` cuts out the source text of a lexeme exactly.
-/

namespace TermSearch

open Text (isBlank dropBlanks)

/-- A term as written, before it is known whether it is negated. -/
structure WrittenTerm where
  field : Option String
  operator : Operator
  /-- Missing when nothing follows the sign. -/
  value : Option String
  quoting : Quoting
  /-- The source text. -/
  text : String
  deriving DecidableEq, Repr

namespace WrittenTerm

/-- The term, negated or not; a term without a value is void and gives none. -/
def finish? (w : WrittenTerm) (negated : Bool) : Option Term :=
  w.value.map fun value =>
    { Term.make w.field w.operator value w.quoting negated with text := w.text }

/-- Whether the term has no value. -/
def isVoid (w : WrittenTerm) : Bool := w.value.isNone

end WrittenTerm

/-- A lexical unit of a search. -/
inductive Lexeme where
  | keyword (keyword : Keyword)
  | term (term : WrittenTerm)
  deriving DecidableEq, Repr

namespace Lexeme

/-! ## Words, values and signs -/

/-- Whether a character belongs to a word. -/
def isWordChar (c : Char) : Bool := !isBlank c

/-- Whether a character can start a field name. -/
def isNameStart (c : Char) : Bool := c.isAlpha || c = '_'

/-- Whether a character can stand in a field name after its start. -/
def isNameChar (c : Char) : Bool := c.isAlphanum || c = '_' || c = '-'

/-- The content of a quoted value after its opening mark, whether the closing mark was found, and what
follows it. A backslash before the mark stands for the mark, and any other backslash for itself. -/
def scanQuoted (mark : Char) : List Char → List Char × Bool × List Char
  | [] => ([], false, [])
  | [c] => if c = mark then ([], true, []) else ([c], false, [])
  | c :: d :: rest =>
    if c = mark then ([], true, d :: rest)
    else if c = '\\' ∧ d = mark then
      let (content, closed, after) := scanQuoted mark rest
      (mark :: content, closed, after)
    else
      let (content, closed, after) := scanQuoted mark (d :: rest)
      (c :: content, closed, after)

/-- Whether a character is a quotation mark. -/
def isMark (c : Char) : Bool := c = '\'' || c = '"'

/-- The value at the front of `c :: rest`, how it was quoted, and what follows it. A value in quotation
marks that is never closed runs to the end and counts as unquoted; an unquoted value is a word without
its quotation marks. -/
def scanValue (c : Char) (rest : List Char) : List Char × Quoting × List Char :=
  if c = '\'' then
    let (content, closed, after) := scanQuoted '\'' rest
    (content, if closed then .single else .none, after)
  else if c = '"' then
    let (content, closed, after) := scanQuoted '"' rest
    (content, if closed then .double else .none, after)
  else
    ((c :: rest.takeWhile isWordChar).filter (!isMark ·), .none, rest.dropWhile isWordChar)

/-- The comparison sign at the front of a text, and what follows it. -/
def scanSign? : List Char → Option (Operator × List Char)
  | '<' :: '=' :: rest => some (.lte, rest)
  | '>' :: '=' :: rest => some (.gte, rest)
  | '<' :: rest => some (.lt, rest)
  | '>' :: rest => some (.gt, rest)
  | ':' :: rest => some (.eq, rest)
  | '~' :: rest => some (.like, rest)
  | _ => none

/-! ## One lexeme -/

/-- The characters of `cs` in front of its tail `rest`. -/
def consumed (cs rest : List Char) : List Char := cs.take (cs.length - rest.length)

/-- The keyword that the word at the front of `c :: rest` spells, and what follows it. -/
def scanKeyword? (c : Char) (rest : List Char) : Option (Keyword × List Char) :=
  (Keyword.ofWord? (c :: rest.takeWhile isWordChar)).map (·, rest.dropWhile isWordChar)

/-- Whether `c :: rest` starts with a `!` attached to something. -/
def startsNegation (c : Char) (rest : List Char) : Bool :=
  c = '!' && rest.head?.any isWordChar

/-- The fielded term at the front of `c :: rest`, and what follows it. -/
def scanFielded? (c : Char) (rest : List Char) : Option (WrittenTerm × List Char) :=
  if isNameStart c then
    let name := c :: rest.takeWhile isNameChar
    (scanSign? (dropBlanks (rest.dropWhile isNameChar))).map fun (operator, afterSign) =>
      match dropBlanks afterSign with
      | [] =>
        ({ field := some (String.ofList name), operator, value := none, quoting := .none,
           text := String.ofList (c :: rest) }, [])
      | d :: more =>
        let (value, quoting, after) := scanValue d more
        ({ field := some (String.ofList name), operator, value := some (String.ofList value), quoting,
           text := String.ofList (consumed (c :: rest) after) }, after)
  else none

/-- The term without a field at the front of `c :: rest`, and what follows it. -/
def scanBare (c : Char) (rest : List Char) : WrittenTerm × List Char :=
  let (value, quoting, after) := scanValue c rest
  ({ field := none, operator := .eq, value := some (String.ofList value), quoting,
     text := String.ofList (consumed (c :: rest) after) }, after)

/-- The lexeme at the front of `c :: rest`, and what follows it. -/
def scanLexeme (c : Char) (rest : List Char) : Lexeme × List Char :=
  match scanKeyword? c rest with
  | some (k, after) => (.keyword k, after)
  | none =>
    if startsNegation c rest then (.keyword .not, rest)
    else match scanFielded? c rest with
      | some (w, after) => (.term w, after)
      | none =>
        let (w, after) := scanBare c rest
        (.term w, after)

/-! ## Equations -/

/-- What is left without its blanks starts with a word. -/
theorem isWordChar_of_dropBlanks {cs rest : List Char} {c : Char} (h : dropBlanks cs = c :: rest) :
    isWordChar c = true := by
  rw [isWordChar, Text.isBlank_of_dropBlanks h, Bool.not_false]

section Quoted

attribute [local simp] scanQuoted

theorem scanQuoted_mark (mark : Char) (rest : List Char) : scanQuoted mark (mark :: rest) = ([], true, rest) := by
  cases rest <;> simp

theorem scanQuoted_escaped {mark : Char} (hmark : mark ≠ '\\') (rest : List Char) :
    scanQuoted mark ('\\' :: mark :: rest) = (mark :: (scanQuoted mark rest).1, (scanQuoted mark rest).2) := by
  rw [scanQuoted, if_neg (Ne.symm hmark), if_pos ⟨rfl, rfl⟩]

theorem scanQuoted_plain {mark c : Char} (hc : c ≠ mark) {rest : List Char}
    (h : ¬(c = '\\' ∧ rest.head? = some mark)) :
    scanQuoted mark (c :: rest) = (c :: (scanQuoted mark rest).1, (scanQuoted mark rest).2) := by
  cases rest with
  | nil => simp [hc]
  | cons d rest =>
    rw [List.head?_cons, Option.some.injEq] at h
    rw [scanQuoted, if_neg hc, if_neg h]

end Quoted

/-- The part that is consumed and what is left make up the text. -/
theorem consumed_append {cs rest : List Char} (h : rest <:+ cs) : consumed cs rest ++ rest = cs := by
  obtain ⟨front, rfl⟩ := h
  rw [consumed, List.length_append, Nat.add_sub_cancel, List.take_left']
  rfl

theorem consumed_of_append (front rest : List Char) : consumed (front ++ rest) rest = front := by
  rw [consumed, List.length_append, Nat.add_sub_cancel, List.take_left']
  rfl

/-! ## Progress -/

theorem scanQuoted_suffix (mark : Char) (cs : List Char) : (scanQuoted mark cs).2.2 <:+ cs := by
  fun_induction scanQuoted mark cs with
  | case1 => exact List.suffix_refl _
  | case2 => exact List.nil_suffix
  | case3 => exact List.nil_suffix
  | case4 => exact List.suffix_cons _ _
  | case5 c d rest _ _ _ _ _ hs ih =>
    rw [hs] at ih
    exact ih.trans ((List.suffix_cons _ _).trans (List.suffix_cons _ _))
  | case6 c d rest _ _ _ _ _ hs ih =>
    rw [hs] at ih
    exact ih.trans (List.suffix_cons _ _)

/-- Without a closing mark nothing is left. -/
theorem scanQuoted_open (mark : Char) (cs : List Char) (h : (scanQuoted mark cs).2.1 = false) :
    (scanQuoted mark cs).2.2 = [] := by
  fun_induction scanQuoted mark cs <;> simp_all

theorem scanValue_suffix (c : Char) (rest : List Char) : (scanValue c rest).2.2 <:+ rest := by
  unfold scanValue
  split
  · exact scanQuoted_suffix _ _
  · split
    · exact scanQuoted_suffix _ _
    · exact List.dropWhile_suffix _

theorem scanSign?_suffix {cs rest : List Char} {op : Operator} (h : scanSign? cs = some (op, rest)) :
    rest <:+ cs := by
  unfold scanSign? at h
  split at h <;> simp only [Option.some.injEq, Prod.mk.injEq, reduceCtorEq] at h
  all_goals obtain ⟨-, rfl⟩ := h
  · exact (List.suffix_cons _ _).trans (List.suffix_cons _ _)
  · exact (List.suffix_cons _ _).trans (List.suffix_cons _ _)
  all_goals exact List.suffix_cons _ _

theorem scanFielded?_suffix {c : Char} {rest after : List Char} {w : WrittenTerm}
    (h : scanFielded? c rest = some (w, after)) : after <:+ rest := by
  unfold scanFielded? at h
  split at h
  · simp only [Option.map_eq_some_iff] at h
    obtain ⟨⟨op, afterSign⟩, hsign, h⟩ := h
    have hname : afterSign <:+ rest :=
      (scanSign?_suffix hsign).trans ((List.dropWhile_suffix _).trans (List.dropWhile_suffix _))
    dsimp only at h
    split at h
    · simp only [Prod.mk.injEq] at h
      rw [← h.2]
      exact List.nil_suffix
    · next d more hd =>
      simp only [Prod.mk.injEq] at h
      rw [← h.2]
      have hmore : d :: more <:+ afterSign := hd ▸ List.dropWhile_suffix _
      exact (scanValue_suffix d more).trans ((List.suffix_cons _ _).trans (hmore.trans hname))
  · cases h

/-- What a lexeme leaves is a tail of the text after its first character. -/
theorem scanLexeme_suffix (c : Char) (rest : List Char) : (scanLexeme c rest).2 <:+ rest := by
  unfold scanLexeme
  split
  · next k after h =>
    simp only [scanKeyword?, Option.map_eq_some_iff, Prod.mk.injEq] at h
    obtain ⟨_, _, _, rfl⟩ := h
    exact List.dropWhile_suffix _
  · split
    · exact List.suffix_refl _
    · split
      · next h => exact scanFielded?_suffix h
      · exact scanValue_suffix c rest

theorem scanLexeme_length_lt {cs rest : List Char} {c : Char} (h : dropBlanks cs = c :: rest) :
    (scanLexeme c rest).2.length < cs.length := by
  have h1 := (scanLexeme_suffix c rest).length_le
  have h2 : (c :: rest).length ≤ cs.length := h ▸ (List.dropWhile_suffix (l := cs) isBlank).length_le
  simp only [List.length_cons] at h2
  omega

end Lexeme

/-- The lexemes of a text, in order. -/
def lexChars (cs : List Char) : List Lexeme :=
  match h : dropBlanks cs with
  | [] => []
  | c :: rest =>
    have := Lexeme.scanLexeme_length_lt h
    (Lexeme.scanLexeme c rest).1 :: lexChars (Lexeme.scanLexeme c rest).2
termination_by cs.length

theorem lexChars_of_dropBlanks_nil {cs : List Char} (h : dropBlanks cs = []) : lexChars cs = [] := by
  rw [lexChars]
  split
  · rfl
  · next h' => exact absurd (h.symm.trans h') (by simp)

theorem lexChars_of_dropBlanks_cons {cs rest : List Char} {c : Char} (h : dropBlanks cs = c :: rest) :
    lexChars cs = (Lexeme.scanLexeme c rest).1 :: lexChars (Lexeme.scanLexeme c rest).2 := by
  rw [lexChars]
  split
  · next h' => exact absurd (h.symm.trans h') (by simp)
  · next c' rest' h' =>
    obtain ⟨rfl, rfl⟩ : c = c' ∧ rest = rest' := by simpa using h.symm.trans h'
    rfl

theorem lexChars_cons {c : Char} (hc : Lexeme.isWordChar c) (rest : List Char) :
    lexChars (c :: rest) = (Lexeme.scanLexeme c rest).1 :: lexChars (Lexeme.scanLexeme c rest).2 := by
  rw [Lexeme.isWordChar, Bool.not_eq_true'] at hc
  exact lexChars_of_dropBlanks_cons (List.dropWhile_cons_of_neg (by rw [hc]; exact Bool.false_ne_true))

theorem lexChars_blank (rest : List Char) : lexChars (' ' :: rest) = lexChars rest := by
  have hdrop : dropBlanks (' ' :: rest) = dropBlanks rest := rfl
  cases h : dropBlanks rest with
  | nil => rw [lexChars_of_dropBlanks_nil h, lexChars_of_dropBlanks_nil (hdrop.trans h)]
  | cons c more => rw [lexChars_of_dropBlanks_cons h, lexChars_of_dropBlanks_cons (hdrop.trans h)]

/-- **The lexemes of a search**; every text has them. -/
def lex (input : String) : List Lexeme := lexChars input.toList

end TermSearch
