import TermSearch.Proofs.Sql.Identifier
import TermSearch.Proofs.Sql.Reading

/-!
# Comparisons are read as they stand

The expression that compares a column is one operand, whatever the name of the column is: the name is all inside
quotation marks, and no word behind it is a connective. So the expression is read as itself (`Dialect.read_comparison`).
-/

namespace TermSearch.Sql

/-! ## Texts that stay in the operand -/

/-- The end of no word, and of nothing that can begin a comment. -/
def Frame.Quiet (f : Frame) : Prop := lastWord f.operand = [] ∧ lastChar f.operand ≠ some '/'

theorem Frame.Quiet.push {f : Frame} {c : Char} (hword : isWordChar c = false) (hslash : c ≠ '/') : (f.push c).Quiet :=
  ⟨if_neg (by simp [hword]), by simpa [Frame.push, lastChar] using hslash⟩

/-- More characters in the last operand. -/
def Frame.pushAll (f : Frame) (cs : List Char) : Frame := cs.foldl Frame.push f

theorem Frame.pushAll_eq (f : Frame) (cs : List Char) :
    f.pushAll cs = { f with operand := (cs.map Piece.char).reverse ++ f.operand, text := cs.reverse ++ f.text } := by
  induction cs generalizing f with
  | nil => rfl
  | cons c cs ih =>
    rw [Frame.pushAll, List.foldl_cons, ← Frame.pushAll, ih]
    simp [Frame.push]

namespace Dialect

variable {d : Dialect}

/-- A text is read as more of the same operand. -/
def Adds (d : Dialect) (cs : List Char) : Prop :=
  ∀ f : Frame, f.Quiet → (f.pushAll cs).Quiet ∧
    d.run { closing := none, top := f, below := [] } cs = some { closing := none, top := f.pushAll cs, below := [] }

theorem Adds.nil : d.Adds [] := fun _ hf => ⟨hf, rfl⟩

theorem Adds.append {cs ds : List Char} (h : d.Adds cs) (h' : d.Adds ds) : d.Adds (cs ++ ds) := by
  intro f hf
  obtain ⟨hquiet, hrun⟩ := h f hf
  obtain ⟨hquiet', hrun'⟩ := h' _ hquiet
  have happend : f.pushAll (cs ++ ds) = (f.pushAll cs).pushAll ds := List.foldl_append
  rw [happend, run_append, hrun, Option.bind_some]
  exact ⟨hquiet', hrun'⟩

/-- A character outside words. -/
theorem step_of_quiet {f : Frame} (hf : f.Quiet) {c : Char} (hword : isWordChar c = false) (hopen : c ≠ '(')
    (hclose : c ≠ ')') (hdash : c ≠ '-') (below : List Frame) :
    d.step { closing := none, top := f, below } c = some { closing := d.closing? c, top := f.push c, below } := by
  have hcomment : beginsComment (lastChar f.operand) c = false := by
    unfold beginsComment
    split
    · exact absurd rfl hdash
    · next hlast => exact absurd hlast hf.2
    · rfl
  unfold step
  simp [hcomment, hopen, hclose, hword, Frame.settle_of_lastWord hf.1]

theorem adds_signs {cs : List Char} (h : cs.all (fun c => isPlain c && !isWordChar c) = true) : d.Adds cs := by
  induction cs with
  | nil => exact .nil
  | cons c cs ih =>
    rw [List.all_cons, Bool.and_eq_true, Bool.and_eq_true, Bool.not_eq_true'] at h
    obtain ⟨⟨hplain, hword⟩, hcs⟩ := h
    have hfirst : d.Adds [c] := by
      intro f hf
      refine ⟨.push hword (ne_of_isPlain hplain rfl), ?_⟩
      rw [run_cons, step_of_quiet hf hword (ne_of_isPlain hplain rfl) (ne_of_isPlain hplain rfl)
        (ne_of_isPlain hplain rfl), d.plain c hplain]
      rfl
    exact hfirst.append (ih hcs)

/-- Inside quotation marks a doubled mark closes and opens again. -/
theorem run_escapeMark (c : Char) (f : Frame) :
    d.run { closing := some '"', top := f, below := [] } (escapeMark c) =
      some { closing := some '"', top := f.pushAll (escapeMark c), below := [] } := by
  unfold escapeMark
  by_cases hc : c = '"'
  · rw [if_pos hc]
    have hquiet : (f.push '"').Quiet := .push rfl (by decide)
    have hagain := step_of_quiet (d := d) hquiet (c := '"') rfl (by decide) (by decide) (by decide) []
    rw [d.quotationMark] at hagain
    rw [run_cons]
    show d.run { closing := none, top := f.push '"', below := [] } ['"'] = _
    rw [run_cons, hagain]
    rfl
  · rw [if_neg hc, run_cons]
    unfold step
    simp only [if_neg hc]
    rfl

theorem run_flatMap_escapeMark (segment : List Char) (f : Frame) :
    d.run { closing := some '"', top := f, below := [] } (segment.flatMap escapeMark) =
      some { closing := some '"', top := f.pushAll (segment.flatMap escapeMark), below := [] } := by
  induction segment generalizing f with
  | nil => rfl
  | cons c segment ih =>
    have happend : f.pushAll ((c :: segment).flatMap escapeMark) =
        (f.pushAll (escapeMark c)).pushAll (segment.flatMap escapeMark) := by
      rw [List.flatMap_cons]
      exact List.foldl_append
    rw [happend, List.flatMap_cons, run_append, run_escapeMark, Option.bind_some, ih]

/-- A text in marks that close it is read on behind the second one. -/
theorem adds_quoted (segment : List Char) : d.Adds ('"' :: (segment.flatMap escapeMark ++ ['"'])) := by
  intro f hf
  have hopen := step_of_quiet (d := d) hf (c := '"') rfl (by decide) (by decide) (by decide) []
  rw [d.quotationMark] at hopen
  have happend : f.pushAll ('"' :: (segment.flatMap escapeMark ++ ['"'])) =
      ((f.push '"').pushAll (segment.flatMap escapeMark)).push '"' := by
    rw [Frame.pushAll, List.foldl_cons, List.foldl_append]
    rfl
  rw [happend, run_cons, hopen, Option.bind_some, run_append, run_flatMap_escapeMark, Option.bind_some]
  exact ⟨.push rfl (by decide), rfl⟩

theorem adds_quoteChars (name : List Char) : d.Adds (quoteChars name) :=
  quoteChars_ind .nil (fun _ _ h h' => h.append h') (adds_signs rfl) (adds_signs rfl) adds_quoted name

theorem lastWord_chars {letters : List Char} (h : letters.all isWordChar = true) (rest : List Piece) :
    lastWord (letters.map Piece.char ++ rest) = letters ++ lastWord rest := by
  induction letters with
  | nil => rfl
  | cons c letters ih =>
    rw [List.all_cons, Bool.and_eq_true] at h
    rw [List.map_cons, List.cons_append, lastWord, if_pos h.1, ih h.2, List.cons_append]

theorem isWordChar_of_isUpper {c : Char} (h : c.isUpper = true) : isWordChar c = true := by
  have halnum : c.isAlphanum = (c.isUpper || c.isLower || c.isDigit) := rfl
  simp [isWordChar, halnum, h]

/-- A word that is no connective. -/
theorem adds_word (letters : List Char) (hupper : letters.all Char.isUpper = true)
    (hword : ∀ operand, lastWord operand = letters.reverse → connective? operand = none) :
    d.Adds (letters ++ [' ']) := by
  intro f hf
  have hletters : letters.all isWordChar = true :=
    List.all_eq_true.mpr fun c hc => isWordChar_of_isUpper (List.all_eq_true.mp hupper c hc)
  have hrun : ∀ (ls : List Char) (g : Frame), ls.all Char.isUpper = true →
      d.run { closing := none, top := g, below := [] } ls = some { closing := none, top := g.pushAll ls, below := [] } := by
    intro ls
    induction ls with
    | nil => exact fun _ _ => rfl
    | cons c ls ih =>
      intro g hls
      rw [List.all_cons, Bool.and_eq_true] at hls
      have hplain : isPlain c = true := by simp [isPlain, hls.1]
      have hstar : c ≠ '*' := by
        rintro rfl
        cases hls.1
      rw [run_cons, step_plain hplain hstar, if_pos (isWordChar_of_isUpper hls.1), Option.bind_some]
      exact ih (g.push c) hls.2
  have hlast : lastWord (f.pushAll letters).operand = letters.reverse := by
    rw [Frame.pushAll_eq, ← List.map_reverse, lastWord_chars (by simpa using hletters), hf.1, List.append_nil]
  have hsettle : (f.pushAll letters).settle = f.pushAll letters := by
    unfold Frame.settle
    rw [hword _ hlast]
  have happend : f.pushAll (letters ++ [' ']) = (f.pushAll letters).push ' ' := List.foldl_append
  rw [happend, run_append, hrun letters f hupper, Option.bind_some, run_cons, step_plain rfl (by decide),
    if_neg (by decide), hsettle]
  exact ⟨.push rfl (by decide), rfl⟩

theorem adds_escapeClause : d.Adds "'\\'".toList := by
  intro f hf
  have hopen := step_of_quiet (d := d) hf (c := '\'') rfl (by decide) (by decide) (by decide) []
  rw [d.apostrophe] at hopen
  show _ ∧ d.run _ ['\'', '\\', '\''] = _
  rw [run_cons, hopen]
  exact ⟨.push rfl (by decide), rfl⟩

/-! ## Comparisons -/

/-- An operand of characters is read as its text if there are no blanks around it. -/
theorem operandReading_chars {cs : List Char} (hfirst : cs.head?.any Char.isWhitespace = false)
    (hlast : cs.getLast?.any Char.isWhitespace = false) :
    operandReading (cs.map Piece.char).reverse = .atom (String.ofList cs) := by
  have hgroup : ∀ text reading, (cs.map Piece.char).reverse.filter (!·.isBlank) ≠ [.group text reading] := by
    intro text reading heq
    have hmem : Piece.group text reading ∈ (cs.map Piece.char).reverse.filter (!·.isBlank) := by
      rw [heq]
      exact List.mem_singleton.mpr rfl
    simpa using (List.mem_filter.mp hmem).1
  have hdrop : ∀ cs : List Char, cs.head?.any Char.isWhitespace = false →
      (cs.map Piece.char).dropWhile Piece.isBlank = cs.map Piece.char := by
    intro cs h
    cases cs with
    | nil => rfl
    | cons c cs => exact List.dropWhile_cons_of_neg (by simpa [Piece.isBlank] using h)
  have htext : (cs.map Piece.char).flatMap Piece.text = cs := by
    rw [List.flatMap_map]
    exact List.flatMap_singleton' cs
  unfold operandReading
  split
  · next text reading heq => exact absurd heq (hgroup text reading)
  · dsimp only
    rw [← List.map_reverse, hdrop _ (by rwa [List.head?_reverse]), List.map_reverse, List.reverse_reverse,
      hdrop cs hfirst, htext]

/-- A text that is all one operand is read as itself. -/
theorem Adds.read {text : String} (h : d.Adds text.toList) (hfirst : text.toList.head?.any Char.isWhitespace = false)
    (hlast : text.toList.getLast?.any Char.isWhitespace = false) : d.read? text = some (.atom text) := by
  obtain ⟨hquiet, hrun⟩ := h .fresh ⟨rfl, by simp [Frame.fresh, lastChar]⟩
  have hreading : operandReading ((text.toList.map Piece.char).reverse ++ Frame.fresh.operand) = .atom text := by
    rw [show Frame.fresh.operand = [] from rfl, List.append_nil, operandReading_chars hfirst hlast, String.ofList_toList]
  unfold read?
  rw [show d.run .start text.toList = _ from hrun]
  show some (Frame.reading _) = _
  unfold Frame.reading
  rw [Frame.settle_of_lastWord hquiet.1, Frame.pushAll_eq]
  show some (Formula.join .or [.join .and [operandReading _]]) = _
  rw [hreading]
  rfl

/-- An identifier begins with a character that is no blank. -/
theorem quoteChars_head (name : List Char) : ∃ c cs, quoteChars name = c :: cs ∧ c.isWhitespace = false := by
  have hsegment : ∀ segment, ∃ c cs, quoteSegment segment = c :: cs ∧ c.isWhitespace = false := by
    intro segment
    unfold quoteSegment
    by_cases h : segment = ['*']
    · rw [if_pos h, h]
      exact ⟨'*', [], rfl, by decide⟩
    · rw [if_neg h]
      exact ⟨'"', _, rfl, by decide⟩
  unfold quoteChars
  obtain ⟨segment, segments, hsplit⟩ := List.exists_cons_of_ne_nil (Text.splitOn_ne_nil '.' name)
  obtain ⟨c, cs, hfirst, hblank⟩ := hsegment segment
  rw [hsplit]
  cases segments with
  | nil => exact ⟨c, cs, hfirst, hblank⟩
  | cons next more =>
    refine ⟨c, cs ++ '.' :: Text.joinWith '.' ((next :: more).map quoteSegment), ?_, hblank⟩
    rw [List.map_cons, List.map_cons, Text.joinWith, hfirst]
    rfl

/-- **A comparison is read as itself**, whatever the column is called. -/
theorem read_comparison (d : Dialect) (column : String) (op : Operator) :
    d.read? (comparison column op) = some (.atom (comparison column op)) := by
  have htail : ∀ tail : String, d.Adds tail.toList → tail.toList.getLast?.any Char.isWhitespace = false →
      tail ≠ "" → d.read? (quoteName column ++ tail) = some (.atom (quoteName column ++ tail)) := by
    intro tail hadds hlast hne
    have htext : (quoteName column ++ tail).toList = quoteChars column.toList ++ tail.toList := by
      rw [String.toList_append, quoteName, String.toList_ofList]
    obtain ⟨c, cs, hhead, hblank⟩ := quoteChars_head column.toList
    refine Adds.read ?_ ?_ ?_
    · rw [htext]
      exact (adds_quoteChars column.toList).append hadds
    · rw [htext, hhead]
      exact hblank
    · have hsome : tail.toList ≠ [] := fun h => hne (String.toList_eq_nil_iff.mp h)
      rw [htext, List.getLast?_append, List.getLast?_eq_some_getLast hsome, Option.some_or,
        ← List.getLast?_eq_some_getLast hsome]
      exact hlast
  have hpattern : ∀ words : List Char, d.Adds words → ∀ tail : String,
      tail.toList = ' ' :: (words ++ '?' :: (' ' :: ("ESCAPE ".toList ++ "'\\'".toList))) →  d.Adds tail.toList := by
    intro words hwords tail htail
    have hescape : d.Adds "ESCAPE ".toList := adds_word "ESCAPE".toList rfl fun operand h => by
      unfold connective?
      rw [h]
      rfl
    rw [htail]
    have hblank : d.Adds [' '] := adds_signs rfl
    have hmark : d.Adds "? ".toList := adds_signs rfl
    exact hblank.append (hwords.append (hmark.append (hescape.append adds_escapeClause)))
  have hlike : d.Adds "LIKE ".toList := adds_word "LIKE".toList rfl fun operand h => by
    unfold connective?
    rw [h]
    rfl
  have hnot : d.Adds "NOT ".toList := adds_word "NOT".toList rfl fun operand h => by
    unfold connective?
    rw [h]
    rfl
  unfold comparison
  rw [String.append_assoc, String.append_assoc, String.append_assoc]
  cases op with
  | like => exact htail _ (hpattern _ hlike _ rfl) (by decide) (by decide)
  | notLike => exact htail _ (hpattern _ (hnot.append hlike) _ rfl) (by decide) (by decide)
  | _ => exact htail _ (adds_signs (by decide)) (by decide) (by decide)

end Dialect

end TermSearch.Sql
