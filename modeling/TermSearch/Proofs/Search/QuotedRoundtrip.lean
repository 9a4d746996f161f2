import TermSearch.Proofs.Search.Runs
import TermSearch.Proofs.Search.Tiling

/-!
# Parsing undoes printing

A term with its value in quotation marks can say anything: whatever the value is, it is read back from its printed
form, so long as it does not end in a backslash. Terms are printed one behind the other with single blanks and
connectives between them.

The marks carry the argument. The first word of a printed term has a quotation mark in it, so it is never a keyword;
between the marks the scanner takes back what printing put in (`scanQuoted_escape`); and it stops at the closing mark,
whatever comes behind. So the lexemes of a printed search are the stretches that were printed, and grouping keeps
their terms in order.
-/

namespace TermSearch

open Text (isBlank dropBlanks)

/-! ## Terms to print -/

/-- A quotation mark. -/
inductive Mark where
  | single | double
  deriving DecidableEq, Repr

/-- The character of a mark. -/
def Mark.char : Mark → Char
  | .single => '\''
  | .double => '"'

/-- The quoting that a mark stands for. -/
def Mark.quoting : Mark → Quoting
  | .single => .single
  | .double => .double

/-- A sign between a field and its value. -/
inductive Sign where
  | colon | tilde | less | greater | atMost | atLeast
  deriving DecidableEq, Repr

/-- The characters of a sign. -/
def Sign.chars : Sign → List Char
  | .colon => [':']
  | .tilde => ['~']
  | .less => ['<']
  | .greater => ['>']
  | .atMost => ['<', '=']
  | .atLeast => ['>', '=']

/-- The operator that a sign stands for. -/
def Sign.operator : Sign → Operator
  | .colon => .eq
  | .tilde => .like
  | .less => .lt
  | .greater => .gt
  | .atMost => .lte
  | .atLeast => .gte

/-- The name of a field: a letter or an underscore, then letters, digits, underscores and dashes. -/
structure FieldName where
  first : Char
  others : List Char
  isNameStart : Lexeme.isNameStart first
  isNameChar : ∀ c ∈ others, Lexeme.isNameChar c

/-- A term to print in quotation marks. -/
structure QuotedTerm where
  negated : Bool
  field : Option (FieldName × Sign)
  value : String
  mark : Mark
  /-- A backslash at the end of the value would escape the closing mark. -/
  value_end : value.toList.getLast? ≠ some '\\'

/-- A value with a backslash in front of every mark. -/
def escape (mark : Char) (value : List Char) : List Char :=
  value.flatMap fun c => if c = mark then ['\\', c] else [c]

namespace QuotedTerm

variable (q : QuotedTerm)

/-- The field and the sign as printed. -/
def fieldChars : List Char :=
  match q.field with
  | none => []
  | some (name, sign) => name.first :: (name.others ++ sign.chars)

/-- The term as printed, without its negation. -/
def body : List Char :=
  q.fieldChars ++ q.mark.char :: (escape q.mark.char q.value.toList ++ [q.mark.char])

/-- The term as printed. -/
def print : List Char := (if q.negated then ['!'] else []) ++ q.body

/-- The name of the field. -/
def fieldName : Option String := q.field.map fun f => String.ofList (f.1.first :: f.1.others)

/-- The operator that is printed; a term without a field has none but `eq`. -/
def operator : Operator := (q.field.map fun f => f.2.operator).getD .eq

/-- The term that was printed. -/
def term : Term :=
  { Term.make q.fieldName q.operator q.value q.mark.quoting q.negated with text := String.ofList q.body }

/-- What is written of it, apart from the negation. -/
def written : WrittenTerm where
  field := q.fieldName
  operator := q.operator
  value := some q.value
  quoting := q.mark.quoting
  text := String.ofList q.body

end QuotedTerm

/-- What stands between two printed terms: a blank, or a connective between blanks. -/
def joiner : Option Predicate → List Char
  | none => [' ']
  | some p => ' ' :: p.name.toList ++ [' ']

/-- **A search as printed.** -/
def printSearch (first : QuotedTerm) (others : List (Option Predicate × QuotedTerm)) : String :=
  String.ofList (first.print ++ others.flatMap fun next => joiner next.1 ++ next.2.print)

/-! ## Between the marks -/

namespace Lexeme

/-- A printed value starts with the mark only if it is empty. -/
theorem head?_escape {mark : Char} (hmark : mark ≠ '\\') {value : List Char} (hne : value ≠ []) (rest : List Char) :
    (escape mark value ++ rest).head? ≠ some mark := by
  cases value with
  | nil => exact absurd rfl hne
  | cons c value =>
    by_cases hc : c = mark
    · simp [escape, hc, Ne.symm hmark]
    · simp [escape, hc]

/-- **Between the marks a value is read back**, and the scan stops at the closing one. -/
theorem scanQuoted_escape {mark : Char} (hmark : mark ≠ '\\') {value : List Char}
    (hend : value.getLast? ≠ some '\\') (rest : List Char) :
    scanQuoted mark (escape mark value ++ mark :: rest) = (value, true, rest) := by
  induction value with
  | nil => exact scanQuoted_mark mark rest
  | cons c value ih =>
    have hih : scanQuoted mark (escape mark value ++ mark :: rest) = (value, true, rest) := by
      cases value with
      | nil => exact scanQuoted_mark mark rest
      | cons d value => exact ih (by rwa [List.getLast?_cons_cons] at hend)
    by_cases hc : c = mark
    · have hprint : escape mark (c :: value) ++ mark :: rest =
          '\\' :: mark :: (escape mark value ++ mark :: rest) := by simp [escape, hc]
      rw [hprint, scanQuoted_escaped hmark, hih, hc]
    · have hprint : escape mark (c :: value) ++ mark :: rest = c :: (escape mark value ++ mark :: rest) := by
        simp [escape, hc]
      have hplain : ¬(c = '\\' ∧ (escape mark value ++ mark :: rest).head? = some mark) := by
        rintro ⟨rfl, hhead⟩
        have hne : value ≠ [] := by
          rintro rfl
          exact hend rfl
        exact head?_escape hmark hne _ hhead
      rw [hprint, scanQuoted_plain hc hplain, hih]

theorem scanValue_mark (mark : Mark) (rest : List Char) :
    scanValue mark.char rest = ((scanQuoted mark.char rest).1,
      if (scanQuoted mark.char rest).2.1 then mark.quoting else .none, (scanQuoted mark.char rest).2.2) := by
  cases mark <;> rfl

theorem scanValue_escape (mark : Mark) {value : List Char} (hend : value.getLast? ≠ some '\\') (rest : List Char) :
    scanValue mark.char (escape mark.char value ++ mark.char :: rest) = (value, mark.quoting, rest) := by
  have hmark : mark.char ≠ '\\' := by cases mark <;> decide
  rw [scanValue_mark, scanQuoted_escape hmark hend, if_pos rfl]

/-! ## The first word -/

theorem isWordChar_mark (mark : Mark) : isWordChar mark.char = true := by
  cases mark <;> decide

/-- The characters that keywords are spelled with, in lower case. -/
def keywordChars : List Char := ['a', 'n', 'd', 'o', 'r', 't', '&', '|', '!']

/-- A word with a character in it that no keyword has is no keyword. -/
theorem ofWord?_of_mem {d : Char} {word : List Char} (h : d ∈ word) (hd : d.toLower ∉ keywordChars) :
    Keyword.ofWord? word = none := by
  cases hk : Keyword.ofWord? word with
  | none => rfl
  | some k =>
    refine absurd ?_ hd
    rcases Keyword.spelledBy_of_ofWord? hk with ⟨rfl, -⟩ | hspelled
    · rw [List.mem_singleton.mp h]
      decide
    · have hlower : d.toLower ∈ (String.ofList (word.map Char.toLower)).toList := by
        rw [String.toList_ofList]
        exact List.mem_map_of_mem h
      have hwords : ∀ spelling ∈ k.words, ∀ e ∈ spelling.toList, e ∈ keywordChars := by
        cases k <;> simp [Keyword.words, keywordChars]
      exact hwords _ hspelled _ hlower

/-- A word with a mark in it is no keyword. -/
theorem ofWord?_of_mark (mark : Mark) {word : List Char} (h : mark.char ∈ word) : Keyword.ofWord? word = none :=
  ofWord?_of_mem h (by cases mark <;> decide)

/-- **A text whose first word reaches a mark does not start with a keyword.** -/
theorem scanKeyword?_of_mark (mark : Mark) {c : Char} {rest front tail : List Char}
    (hfront : ∀ d ∈ front, isWordChar d) (h : c :: rest = front ++ mark.char :: tail) :
    scanKeyword? c rest = none := by
  have hword : (c :: rest).takeWhile isWordChar = front ++ mark.char :: tail.takeWhile isWordChar := by
    rw [h, List.takeWhile_append_of_pos hfront, List.takeWhile_cons_of_pos (isWordChar_mark mark)]
  have hc : isWordChar c = true := by
    by_contra hc
    rw [List.takeWhile_cons_of_neg hc] at hword
    simp at hword
  rw [List.takeWhile_cons_of_pos hc] at hword
  rw [scanKeyword?, hword, ofWord?_of_mark mark (by simp), Option.map_none]

/-- No character between the space and the first control character beyond ASCII is blank. -/
theorem isWordChar_of_bounds {c : Char} (h : 33 ≤ c.toNat) (h' : c.toNat ≤ 132) : isWordChar c = true := by
  have hblank : isBlank c = false := by
    simp only [isBlank, Text.blankRanges, List.any_cons, List.any_nil, Bool.or_false, Bool.or_eq_false_iff,
      Bool.and_eq_false_iff, decide_eq_false_iff_not, Nat.not_le]
    omega
  rw [isWordChar, hblank, Bool.not_false]

theorem isWordChar_of_isAlphanum {c : Char} (h : c.isAlphanum) : isWordChar c = true := by
  have hkind : (c.isUpper || c.isLower || c.isDigit) = true := h
  rw [Bool.or_eq_true, Bool.or_eq_true] at hkind
  rcases hkind with (hupper | hlower) | hdigit
  · have hrange : 65 ≤ c.toNat ∧ c.toNat ≤ 90 := of_decide_eq_true hupper
    exact isWordChar_of_bounds (by omega) (by omega)
  · have hrange : (decide (97 ≤ c.toNat) && decide (c.toNat ≤ 122)) = true := hlower
    rw [Bool.and_eq_true, decide_eq_true_eq, decide_eq_true_eq] at hrange
    exact isWordChar_of_bounds (by omega) (by omega)
  · have hrange : (decide (48 ≤ c.toNat) && decide (c.toNat ≤ 57)) = true := hdigit
    rw [Bool.and_eq_true, decide_eq_true_eq, decide_eq_true_eq] at hrange
    exact isWordChar_of_bounds (by omega) (by omega)

theorem isWordChar_of_isNameChar {c : Char} (h : isNameChar c) : isWordChar c = true := by
  rw [isNameChar, Bool.or_eq_true, Bool.or_eq_true, decide_eq_true_eq, decide_eq_true_eq] at h
  rcases h with (h | rfl) | rfl
  · exact isWordChar_of_isAlphanum h
  · decide
  · decide

theorem isNameChar_of_isNameStart {c : Char} (h : isNameStart c) : isNameChar c := by
  rw [isNameStart, Bool.or_eq_true] at h
  rw [isNameChar, Char.isAlphanum]
  rcases h with h | h <;> simp [h]

theorem isWordChar_sign (sign : Sign) : ∀ c ∈ sign.chars, isWordChar c :=
  List.all_eq_true.mp (by cases sign <;> rfl)

/-- A name ends where the sign starts. -/
theorem span_name (name : FieldName) (sign : Sign) (rest : List Char) :
    (name.others ++ (sign.chars ++ rest)).takeWhile isNameChar = name.others ∧
      (name.others ++ (sign.chars ++ rest)).dropWhile isNameChar = sign.chars ++ rest := by
  have hsign : (sign.chars ++ rest).takeWhile isNameChar = [] ∧
      (sign.chars ++ rest).dropWhile isNameChar = sign.chars ++ rest := by
    cases sign <;> exact ⟨rfl, rfl⟩
  rw [List.takeWhile_append_of_pos name.isNameChar, List.dropWhile_append_of_pos name.isNameChar, hsign.1, hsign.2,
    List.append_nil]
  exact ⟨rfl, rfl⟩

theorem scanSign?_chars (sign : Sign) (mark : Mark) (rest : List Char) :
    scanSign? (dropBlanks (sign.chars ++ mark.char :: rest)) = some (sign.operator, mark.char :: rest) := by
  cases sign <;> cases mark <;> rfl

theorem dropBlanks_mark (mark : Mark) (rest : List Char) : dropBlanks (mark.char :: rest) = mark.char :: rest := by
  cases mark <;> rfl

end Lexeme

/-! ## One printed term -/

namespace QuotedTerm

open Lexeme

variable (q : QuotedTerm)

theorem fieldChars_of_none (h : q.field = none) : q.fieldChars = [] := by
  rw [fieldChars, h]

theorem fieldChars_of_some {name : FieldName} {sign : Sign} (h : q.field = some (name, sign)) :
    q.fieldChars = name.first :: (name.others ++ sign.chars) := by
  rw [fieldChars, h]

theorem isWordChar_fieldChars : ∀ c ∈ q.fieldChars, isWordChar c := by
  intro c hc
  cases hf : q.field with
  | none =>
    rw [q.fieldChars_of_none hf] at hc
    cases hc
  | some field =>
    obtain ⟨name, sign⟩ := field
    rw [q.fieldChars_of_some hf, List.mem_cons, List.mem_append] at hc
    rcases hc with rfl | hc | hc
    · exact isWordChar_of_isNameChar (isNameChar_of_isNameStart name.isNameStart)
    · exact isWordChar_of_isNameChar (name.isNameChar c hc)
    · exact isWordChar_sign sign c hc

theorem body_append (tail : List Char) : q.body ++ tail =
    q.fieldChars ++ q.mark.char :: (escape q.mark.char q.value.toList ++ q.mark.char :: tail) := by
  simp [body]

section Body

variable {q} {c : Char} {rest tail : List Char} (h : q.body ++ tail = c :: rest)
include h

theorem consumed_body : consumed (c :: rest) tail = q.body := h ▸ consumed_of_append q.body tail

theorem scanKeyword?_body : scanKeyword? c rest = none :=
  scanKeyword?_of_mark q.mark q.isWordChar_fieldChars (h.symm.trans (q.body_append tail))

theorem scanBare_body (hf : q.field = none) : scanFielded? c rest = none ∧ scanBare c rest = (q.written, tail) := by
  have hchars := h.symm.trans (q.body_append tail)
  rw [q.fieldChars_of_none hf, List.nil_append, List.cons.injEq] at hchars
  have hname : ¬isNameStart c := by
    rw [hchars.1]
    cases q.mark <;> decide
  have hvalue : scanValue c rest = (q.value.toList, q.mark.quoting, tail) := by
    rw [hchars.1, hchars.2, scanValue_escape q.mark q.value_end]
  constructor
  · rw [scanFielded?, if_neg hname]
  · rw [scanBare, hvalue]
    simp [written, fieldName, operator, hf, consumed_body h]

theorem scanFielded?_body {name : FieldName} {sign : Sign} (hf : q.field = some (name, sign)) :
    scanFielded? c rest = some (q.written, tail) := by
  have hchars := h.symm.trans (q.body_append tail)
  rw [q.fieldChars_of_some hf, List.cons_append, List.append_assoc, List.cons.injEq] at hchars
  obtain ⟨rfl, hrest⟩ := hchars
  obtain ⟨htake, hdrop⟩ := span_name name sign
    (q.mark.char :: (escape q.mark.char q.value.toList ++ q.mark.char :: tail))
  rw [← hrest] at htake hdrop
  rw [scanFielded?, if_pos name.isNameStart, htake, hdrop, scanSign?_chars, Option.map_some]
  simp only [dropBlanks_mark, scanValue_escape q.mark q.value_end, consumed_body h]
  simp [written, fieldName, operator, hf]

theorem start_body : isNameStart c ∨ c = q.mark.char := by
  have hchars := h.symm.trans (q.body_append tail)
  cases hf : q.field with
  | none =>
    rw [q.fieldChars_of_none hf, List.nil_append, List.cons.injEq] at hchars
    exact .inr hchars.1
  | some field =>
    rw [q.fieldChars_of_some hf, List.cons_append, List.cons.injEq] at hchars
    exact .inl (hchars.1 ▸ field.1.isNameStart)

theorem isWordChar_body : isWordChar c := by
  rcases start_body h with hname | rfl
  · exact isWordChar_of_isNameChar (isNameChar_of_isNameStart hname)
  · exact isWordChar_mark q.mark

theorem startsNegation_body : startsNegation c rest = false := by
  have hc : c ≠ '!' := by
    rintro rfl
    rcases start_body h with hname | hmark
    · exact absurd hname (by decide)
    · revert hmark
      cases q.mark <;> decide
  rw [startsNegation, decide_eq_false hc, Bool.false_and]

/-- **A printed term is one lexeme**, whatever is printed behind it. -/
theorem scanLexeme_body : scanLexeme c rest = (.term q.written, tail) := by
  rw [scanLexeme, scanKeyword?_body h]
  dsimp only
  rw [startsNegation_body h, if_neg Bool.false_ne_true]
  cases hf : q.field with
  | none =>
    obtain ⟨hfielded, hbare⟩ := scanBare_body h hf
    rw [hfielded, hbare]
  | some field => rw [scanFielded?_body h hf]

end Body

end QuotedTerm

/-! ## The printed search -/

/-- The keyword of a connective. -/
def Predicate.keyword : Predicate → Keyword
  | .and => .and
  | .or => .or

/-- A keyword as a word of its own. -/
theorem lexChars_keyword {c : Char} {word : List Char} {k : Keyword} (hword : (c :: word).all Lexeme.isWordChar)
    (hk : Keyword.ofWord? (c :: word) = some k) (rest : List Char) :
    lexChars (c :: (word ++ ' ' :: rest)) = .keyword k :: lexChars rest := by
  obtain ⟨hc, hword⟩ := List.forall_mem_cons.mp (List.all_eq_true.mp hword)
  have hscan : Lexeme.scanKeyword? c (word ++ ' ' :: rest) = some (k, ' ' :: rest) := by
    have htake : (' ' :: rest).takeWhile Lexeme.isWordChar = [] := rfl
    have hdrop : (' ' :: rest).dropWhile Lexeme.isWordChar = ' ' :: rest := rfl
    rw [Lexeme.scanKeyword?, List.takeWhile_append_of_pos hword, List.dropWhile_append_of_pos hword, htake, hdrop,
      List.append_nil, hk, Option.map_some]
  rw [lexChars_cons hc, Lexeme.scanLexeme, hscan, lexChars_blank]

theorem lexChars_connective (p : Predicate) (rest : List Char) :
    lexChars (p.name.toList ++ ' ' :: rest) = .keyword p.keyword :: lexChars rest := by
  cases p with
  | and => exact lexChars_keyword (c := 'a') rfl rfl rest
  | or => exact lexChars_keyword (c := 'o') rfl rfl rest

namespace QuotedTerm

theorem exists_body (q : QuotedTerm) (tail : List Char) : ∃ c rest, q.body ++ tail = c :: rest :=
  List.exists_cons_of_ne_nil (by simp [body])

theorem lexChars_body (q : QuotedTerm) (tail : List Char) :
    lexChars (q.body ++ tail) = .term q.written :: lexChars tail := by
  obtain ⟨c, rest, h⟩ := q.exists_body tail
  rw [h, lexChars_cons (isWordChar_body h), scanLexeme_body h]

/-- A `!` in front of a printed term is a negation: the word it starts has a mark in it. -/
theorem lexChars_negated (q : QuotedTerm) (tail : List Char) :
    lexChars ('!' :: (q.body ++ tail)) = .keyword .not :: lexChars (q.body ++ tail) := by
  have hfront : ∀ d ∈ '!' :: q.fieldChars, Lexeme.isWordChar d :=
    List.forall_mem_cons.mpr ⟨by decide, q.isWordChar_fieldChars⟩
  have hkeyword : Lexeme.scanKeyword? '!' (q.body ++ tail) = none :=
    Lexeme.scanKeyword?_of_mark q.mark hfront (by rw [body_append, List.cons_append])
  have hbang : Lexeme.startsNegation '!' (q.body ++ tail) = true := by
    obtain ⟨c, rest, h⟩ := q.exists_body tail
    rw [h, Lexeme.startsNegation, List.head?_cons, Option.any_some, isWordChar_body h]
    rfl
  rw [lexChars_cons (by decide), Lexeme.scanLexeme, hkeyword]
  dsimp only
  rw [if_pos hbang]

/-- The stretch of a printed term and the connective before it. -/
def stretch (connective : Option Predicate) (q : QuotedTerm) : Stretch where
  keywords := connective.toList.map Predicate.keyword ++ if q.negated then [.not] else []
  term := q.written

theorem lexChars_print (q : QuotedTerm) (tail : List Char) :
    lexChars (q.print ++ tail) = (q.stretch none).lexemes ++ lexChars tail := by
  cases hn : q.negated with
  | true => simp [print, stretch, Stretch.lexemes, hn, lexChars_negated, lexChars_body]
  | false => simp [print, stretch, Stretch.lexemes, hn, lexChars_body]

/-- **What is printed is read as the stretch it stands for.** -/
theorem lexChars_printed (connective : Option Predicate) (q : QuotedTerm) (tail : List Char) :
    lexChars (joiner connective ++ q.print ++ tail) = (q.stretch connective).lexemes ++ lexChars tail := by
  cases connective with
  | none =>
    rw [joiner, List.append_assoc, List.singleton_append, lexChars_blank, lexChars_print]
  | some p =>
    have hchars : joiner (some p) ++ q.print ++ tail = ' ' :: (p.name.toList ++ ' ' :: (q.print ++ tail)) := by
      simp [joiner]
    rw [hchars, lexChars_blank, lexChars_connective, lexChars_print]
    rfl

/-- The stretch holds the term that was printed. -/
theorem finish?_stretch (connective : Option Predicate) (q : QuotedTerm) :
    (q.stretch connective).finish? = some q.term := by
  have hnot : (q.stretch connective).keywords.contains .not = q.negated := by
    cases hn : q.negated <;> rcases connective with _ | _ | _ <;> simp [stretch, hn, Predicate.keyword]
  rw [Stretch.finish?, hnot]
  rfl

end QuotedTerm

theorem lexChars_others (others : List (Option Predicate × QuotedTerm)) :
    lexChars (others.flatMap fun next => joiner next.1 ++ next.2.print) =
      (others.map fun next => next.2.stretch next.1).flatMap Stretch.lexemes := by
  induction others with
  | nil => exact lexChars_of_dropBlanks_nil rfl
  | cons next others ih =>
    rw [List.flatMap_cons, QuotedTerm.lexChars_printed, ih, List.map_cons, List.flatMap_cons]

/-- **Parsing undoes printing**: the terms of a printed search are the terms that were printed, in order. -/
theorem parseSearch_printSearch (first : QuotedTerm) (others : List (Option Predicate × QuotedTerm)) :
    (parseSearch (printSearch first others)).terms = (first :: others.map Prod.snd).map QuotedTerm.term := by
  -- a blank in front of the first term changes nothing, and then all are printed alike
  have hlex : lex (printSearch first others) =
      (((none, first) :: others).map fun next => next.2.stretch next.1).flatMap Stretch.lexemes := by
    rw [← lexChars_others, lex, printSearch, String.toList_ofList, List.flatMap_cons]
    exact (lexChars_blank _).symm
  have hslots := Slot.collect_stretches (((none, first) :: others).map fun next => next.2.stretch next.1) []
  rw [List.map_nil, List.append_nil, ← hlex] at hslots
  have hterm : (Slot.term ∘ Stretch.slot) ∘ (fun next : Option Predicate × QuotedTerm => next.2.stretch next.1) =
      some ∘ fun next => next.2.term := funext fun next => next.2.finish?_stretch next.1
  rw [parseSearch, Group.terms_ofLexemes, hslots, List.filterMap_map, List.filterMap_map, hterm,
    List.filterMap_eq_map, List.map_cons, List.map_cons, List.map_map]
  rfl

-- a field that is spelled like a keyword, and values with words, blanks and marks in them
example : printSearch
    ⟨true, some (⟨'o', ['r'], rfl, List.all_eq_true.mp rfl⟩, .atMost), "a and b", .double, by decide⟩
    [(some .or, ⟨false, none, "it's", .single, by decide⟩), (none, ⟨false, none, "!", .double, by decide⟩)] =
    "!or<=\"a and b\" or 'it\\'s' \"!\"" := by decide

end TermSearch
