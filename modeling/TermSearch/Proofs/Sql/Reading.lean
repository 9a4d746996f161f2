import TermSearch.Proofs.Sql.Outline

/-!
# Reading conditions

How the text of a condition is read: quotations are opaque, brackets group, `AND` binds tighter than `OR`, and what
stands between connectives and is not one group in brackets is a single operand, kept as text. Both words are always
connectives, also the one that belongs to a `BETWEEN`.

`Dialect.read?` goes through the text once. It keeps what it has read of each open bracket in a `Frame`, so a text in
brackets is read as it is read alone (`run_brackets`), whatever stands around it, and texts in brackets with a
connective between them are read as joined by it (`read_bracketed`).

A text can be read if its brackets are nested, its quotations are closed and it has no comment (`Dialect.Balanced`).
-/

namespace TermSearch.Sql

/-! ## Dialects -/

/-- The characters besides brackets that conditions are made of outside quotations and raw expressions. -/
def isPlain (c : Char) : Bool := c.isUpper || " .*=!<>?".toList.contains c

/-- How quotations are written. -/
structure Dialect where
  /-- The mark that ends the quotation that a character begins. -/
  closing? : Char → Option Char
  apostrophe : closing? '\'' = some '\''
  quotationMark : closing? '"' = some '"'
  plain : ∀ c, isPlain c = true → closing? c = none

namespace Dialect

/-- Texts in apostrophes and names in quotation marks. -/
def standard : Dialect where
  closing? c := if c = '\'' ∨ c = '"' then some c else none
  apostrophe := rfl
  quotationMark := rfl
  plain c h := by
    refine if_neg ?_
    rintro (rfl | rfl) <;> exact absurd h (by decide)

/-- Names may also stand between grave accents or in square brackets. -/
def sqlite : Dialect where
  closing? c := if c = '[' then some ']' else if c = '\'' ∨ c = '"' ∨ c = Char.ofNat 96 then some c else none
  apostrophe := rfl
  quotationMark := rfl
  plain c h := by
    rw [if_neg, if_neg]
    · rintro (rfl | rfl | rfl) <;> exact absurd h (by decide)
    · rintro rfl
      exact absurd h (by decide)

end Dialect

/-- Whether a character can stand in a word. -/
def isWordChar (c : Char) : Bool := c.isAlphanum || c = '_' || c = '$' || 128 ≤ c.toNat

/-- Whether a character begins a comment behind another one outside quotations. -/
def beginsComment : Option Char → Char → Bool
  | some '-', '-' => true
  | some '/', '*' => true
  | _, _ => false

/-! ## Frames -/

/-- A part of an operand: a character, or what stood in brackets and how it is read. -/
inductive Piece where
  | char (c : Char)
  | group (text : List Char) (reading : Formula String)

namespace Piece

/-- Whether the part is a blank. -/
def isBlank : Piece → Bool
  | .char c => c.isWhitespace
  | .group _ _ => false

/-- The part as it stood in the text. -/
def text : Piece → List Char
  | .char c => [c]
  | .group text _ => '(' :: (text ++ [')'])

end Piece

/-- The letters of the word that the parts end in. Parts and letters are listed from the last to the first. -/
def lastWord : List Piece → List Char
  | .char c :: rest => if isWordChar c then c :: lastWord rest else []
  | _ => []

/-- The character that the parts end in. -/
def lastChar : List Piece → Option Char
  | .char c :: _ => some c
  | _ => none

/-- The connective that the parts end in. -/
def connective? (operand : List Piece) : Option Predicate :=
  match (lastWord operand).map Char.toUpper with
  | ['D', 'N', 'A'] => some .and
  | ['R', 'O'] => some .or
  | _ => none

/-- The reading of an operand: that of a group if there is nothing else, or else the text without blanks around it. -/
def operandReading (operand : List Piece) : Formula String :=
  match operand.filter (!·.isBlank) with
  | [.group _ reading] => reading
  | _ =>
    let pieces := ((operand.dropWhile Piece.isBlank).reverse).dropWhile Piece.isBlank
    .atom (String.ofList (pieces.flatMap Piece.text))

/-- What has been read since a bracket was opened. -/
structure Frame where
  /-- What is joined by `OR` so far. -/
  disjuncts : List (Formula String)
  /-- What is joined by `AND` since then. -/
  conjuncts : List (Formula String)
  /-- The parts of the last operand, from the last to the first. -/
  operand : List Piece
  /-- The whole text, from the last character to the first. -/
  text : List Char

namespace Frame

/-- Nothing read yet. -/
def fresh : Frame := { disjuncts := [], conjuncts := [], operand := [], text := [] }

/-- One more character in the last operand. -/
def push (f : Frame) (c : Char) : Frame := { f with operand := .char c :: f.operand, text := c :: f.text }

/-- The last operand finished by a connective. -/
def divide (f : Frame) : Predicate → Frame
  | .and => { f with conjuncts := f.conjuncts ++ [operandReading f.operand], operand := [] }
  | .or =>
    { f with
      disjuncts := f.disjuncts ++ [.join .and (f.conjuncts ++ [operandReading f.operand])]
      conjuncts := []
      operand := [] }

/-- The end of a word: a connective finishes the operand before it. -/
def settle (f : Frame) : Frame :=
  match connective? f.operand with
  | some p => { f with operand := f.operand.drop (lastWord f.operand).length }.divide p
  | none => f

/-- How all is read. -/
def reading (f : Frame) : Formula String := .join .or (f.settle.divide .or).disjuncts

/-- A bracket closed inside another. -/
def enclose (f inner : Frame) : Frame :=
  { f with
    operand := .group inner.text.reverse inner.reading :: f.operand
    text := ')' :: (inner.text ++ '(' :: f.text) }

end Frame

/-! ## Reading -/

/-- A text in the middle of being read: the end of the open quotation, and the open brackets from inside out. -/
structure Reader where
  closing : Option Char
  top : Frame
  below : List Frame

namespace Reader

/-- The start of a text. -/
def start : Reader := { closing := none, top := .fresh, below := [] }

end Reader

namespace Dialect

/-- One more character read. A comment and a bracket that closes nothing cannot be read. -/
def step (d : Dialect) (s : Reader) (c : Char) : Option Reader :=
  match s.closing with
  | some mark => some { s with closing := if c = mark then none else some mark, top := s.top.push c }
  | none =>
    if beginsComment (lastChar s.top.operand) c then none
    else if c = '(' then some { closing := none, top := .fresh, below := s.top.settle :: s.below }
    else if c = ')' then
      match s.below with
      | [] => none
      | outer :: below => some { closing := none, top := outer.enclose s.top, below }
    else
      let top := if isWordChar c then s.top else s.top.settle
      some { s with closing := d.closing? c, top := top.push c }

/-- Characters read one after the other. -/
def run (d : Dialect) (s : Reader) (cs : List Char) : Option Reader := cs.foldlM d.step s

/-- **The reading of a condition**, if all its brackets and quotations are closed. -/
def read? (d : Dialect) (text : String) : Option (Formula String) :=
  match d.run .start text.toList with
  | some { closing := none, top, below := [] } => some top.reading
  | _ => none

end Dialect

/-! ## Texts in brackets -/

theorem beginsComment_of_ne {c : Char} (last : Option Char) (hdash : c ≠ '-') (hstar : c ≠ '*') :
    beginsComment last c = false := by
  unfold beginsComment
  split
  · exact absurd rfl hdash
  · exact absurd rfl hstar
  · rfl

namespace Frame

theorem lastWord_eq_nil {operand : List Piece} (h : ∀ piece ∈ operand, piece.isBlank = true) :
    lastWord operand = [] := by
  cases operand with
  | nil => rfl
  | cons piece rest =>
    have hpiece := h piece List.mem_cons_self
    cases piece with
    | group text reading => rfl
    | char c =>
      have hword : isWordChar c = false := by
        have hblank : c = ' ' ∨ c = '\t' ∨ c = '\r' ∨ c = '\n' := by
          simpa [Piece.isBlank, Char.isWhitespace, or_assoc] using hpiece
        rcases hblank with rfl | rfl | rfl | rfl <;> decide
      rw [lastWord, if_neg (by simp [hword])]

theorem settle_of_lastWord {f : Frame} (h : lastWord f.operand = []) : f.settle = f := by
  unfold settle connective?
  rw [h]
  rfl

end Frame

namespace Dialect

variable (d : Dialect)

theorem run_append (s : Reader) (cs ds : List Char) :
    d.run s (cs ++ ds) = (d.run s cs).bind fun s' => d.run s' ds := List.foldlM_append

theorem run_cons (s : Reader) (c : Char) (cs : List Char) :
    d.run s (c :: cs) = (d.step s c).bind fun s' => d.run s' cs := List.foldlM_cons

variable {d}

/-- A bracket that is open all the time makes no difference. -/
theorem step_below {s s' : Reader} {c : Char} (h : d.step s c = some s') (more : List Frame) :
    d.step { s with below := s.below ++ more } c = some { s' with below := s'.below ++ more } := by
  obtain ⟨closing, top, below⟩ := s
  unfold step at h ⊢
  cases closing with
  | some mark =>
    cases h
    rfl
  | none =>
    dsimp only at h ⊢
    by_cases hcomment : beginsComment (lastChar top.operand) c = true
    · rw [if_pos hcomment] at h
      cases h
    rw [if_neg hcomment] at h ⊢
    by_cases hopen : c = '('
    · rw [if_pos hopen] at h ⊢
      cases h
      rfl
    rw [if_neg hopen] at h ⊢
    by_cases hclose : c = ')'
    · rw [if_pos hclose] at h ⊢
      cases below with
      | nil => cases h
      | cons outer below =>
        cases h
        rfl
    · rw [if_neg hclose] at h ⊢
      cases h
      rfl

theorem run_below {s s' : Reader} {cs : List Char} (h : d.run s cs = some s') (more : List Frame) :
    d.run { s with below := s.below ++ more } cs = some { s' with below := s'.below ++ more } := by
  induction cs generalizing s with
  | nil =>
    cases h
    rfl
  | cons c cs ih =>
    rw [run_cons] at h ⊢
    obtain ⟨next, hstep, hrun⟩ := Option.bind_eq_some_iff.mp h
    rw [step_below hstep more]
    exact ih hrun

/-- What a text leaves that can be read. -/
theorem run_of_read? {text : String} {reading : Formula String} (h : d.read? text = some reading) :
    ∃ inner : Frame, inner.reading = reading ∧
      d.run .start text.toList = some { closing := none, top := inner, below := [] } := by
  unfold read? at h
  split at h
  · next top hrun =>
    cases h
    exact ⟨top, rfl, hrun⟩
  · cases h

/-- **A text in brackets is read as it is read alone**, and becomes one part of the operand around it. -/
theorem run_brackets {text : String} {reading : Formula String} (h : d.read? text = some reading) :
    ∃ inner : Frame, inner.reading = reading ∧ ∀ (f : Frame) (below : List Frame), lastWord f.operand = [] →
      d.run { closing := none, top := f, below } ('(' :: (text.toList ++ [')'])) =
        some { closing := none, top := f.enclose inner, below } := by
  obtain ⟨inner, hreading, hrun⟩ := run_of_read? h
  refine ⟨inner, hreading, fun f below hword => ?_⟩
  have hopen : d.step { closing := none, top := f, below } '(' =
      some { closing := none, top := .fresh, below := f :: below } := by
    unfold step
    simp [beginsComment_of_ne, Frame.settle_of_lastWord hword]
  -- inside the bracket all goes as it does for the text alone
  have hinner : d.run { closing := none, top := .fresh, below := f :: below } text.toList =
      some { closing := none, top := inner, below := f :: below } := run_below hrun (f :: below)
  have hclose : d.step { closing := none, top := inner, below := f :: below } ')' =
      some { closing := none, top := f.enclose inner, below } := by
    unfold step
    simp [beginsComment_of_ne]
  rw [run_cons, hopen, Option.bind_some, run_append, hinner, Option.bind_some, run_cons, hclose]
  rfl

/-! ## Connectives -/

theorem ne_of_isPlain {c mark : Char} (h : isPlain c = true) (hmark : isPlain mark = false) : c ≠ mark := by
  rintro rfl
  rw [h] at hmark
  cases hmark

theorem step_plain {c : Char} (h : isPlain c = true) (hstar : c ≠ '*') (f : Frame) (below : List Frame) :
    d.step { closing := none, top := f, below } c =
      some { closing := none, top := (if isWordChar c then f else f.settle).push c, below } := by
  have hdash : c ≠ '-' := ne_of_isPlain h rfl
  have hcomment := beginsComment_of_ne (lastChar f.operand) hdash hstar
  have hopen : c ≠ '(' := ne_of_isPlain h rfl
  have hclose : c ≠ ')' := ne_of_isPlain h rfl
  unfold step
  simp only [hcomment, if_neg hopen, if_neg hclose, d.plain c h, Bool.false_eq_true, if_false]

/-- A word between blanks ends at the second one. -/
theorem run_word {letters : List Char} (h : letters.all Char.isUpper = true) (f : Frame) (below : List Frame) :
    d.run { closing := none, top := f, below } (' ' :: (letters ++ [' '])) =
      some { closing := none, top := (letters.foldl Frame.push (f.settle.push ' ')).settle.push ' ', below } := by
  have hspace : ∀ g : Frame, d.step { closing := none, top := g, below } ' ' =
      some { closing := none, top := g.settle.push ' ', below } := fun g => step_plain rfl (by decide) g below
  rw [run_cons, hspace, Option.bind_some, run_append]
  generalize f.settle.push ' ' = g
  induction letters generalizing g with
  | nil =>
    show d.run { closing := none, top := g, below } [' '] = _
    rw [run_cons, hspace]
    rfl
  | cons c letters ih =>
    rw [List.all_cons, Bool.and_eq_true] at h
    obtain ⟨hupper, hletters⟩ := h
    have hplain : isPlain c = true := by simp [isPlain, hupper]
    have halpha : c.isAlphanum = (c.isUpper || c.isLower || c.isDigit) := rfl
    have hword : isWordChar c = true := by simp [isWordChar, halpha, hupper]
    have hstar : c ≠ '*' := by
      rintro rfl
      cases hupper
    rw [run_cons, step_plain hplain hstar, if_pos hword, Option.bind_some]
    exact ih hletters (g.push c)

end Dialect

/-- The letters of a connective. -/
def connectiveLetters : Predicate → List Char
  | .and => ['A', 'N', 'D']
  | .or => ['O', 'R']

theorem connectiveWord_toList (p : Predicate) : (connectiveWord p).toList = ' ' :: (connectiveLetters p ++ [' ']) := by
  cases p <;> rfl

theorem operandReading_group {before after : List Piece} (text : List Char) (reading : Formula String)
    (hbefore : ∀ piece ∈ before, piece.isBlank = true) (hafter : ∀ piece ∈ after, piece.isBlank = true) :
    operandReading (before ++ .group text reading :: after) = reading := by
  have hblank : ∀ pieces : List Piece, (∀ piece ∈ pieces, piece.isBlank = true) →
      pieces.filter (!·.isBlank) = [] := by
    intro pieces hpieces
    rw [List.filter_eq_nil_iff]
    intro piece hpiece
    simp [hpieces piece hpiece]
  unfold operandReading
  rw [List.filter_append, hblank before hbefore, List.nil_append, List.filter_cons_of_pos (by rfl),
    hblank after hafter]

/-- A connective ends the operand before it. -/
theorem Frame.settle_letters (f : Frame) (p : Predicate) :
    ((connectiveLetters p).foldl Frame.push (f.push ' ')).settle =
      { (f.push ' ').divide p with text := ((connectiveLetters p).foldl Frame.push (f.push ' ')).text } := by
  cases p <;> rfl

/-! ## Texts joined -/

/-- The frame waits for one more operand behind those that are done, and the connective joins them. -/
structure Frame.Awaits (p : Predicate) (done : List (Formula String)) (f : Frame) : Prop where
  blank : ∀ piece ∈ f.operand, piece.isBlank = true
  conjuncts : f.conjuncts = if p = .and then done else []
  disjuncts : f.disjuncts = if p = .or then done else []

namespace Frame.Awaits

variable {d : Dialect} {p : Predicate} {done : List (Formula String)} {f : Frame}

theorem fresh (p : Predicate) : Frame.fresh.Awaits p [] where
  blank _ h := nomatch h
  conjuncts := by simp [Frame.fresh]
  disjuncts := by simp [Frame.fresh]

theorem lastWord_eq_nil (h : f.Awaits p done) : lastWord f.operand = [] := Frame.lastWord_eq_nil h.blank

/-- A group is the last operand. -/
theorem reading_enclose (h : f.Awaits p done) (inner : Frame) :
    (f.enclose inner).reading = .join p (done ++ [inner.reading]) := by
  have hsettle : (f.enclose inner).settle = f.enclose inner := Frame.settle_of_lastWord rfl
  have hgroup : operandReading (f.enclose inner).operand = inner.reading :=
    @operandReading_group [] f.operand _ _ (by simp) h.blank
  unfold Frame.reading
  rw [hsettle]
  show Formula.join .or (f.disjuncts ++ [.join .and (f.conjuncts ++ [operandReading (f.enclose inner).operand])]) = _
  rw [hgroup, h.conjuncts, h.disjuncts]
  cases p <;> rfl

/-- A connective behind a group finishes it as an operand. -/
theorem run_connective (h : f.Awaits p done) (inner : Frame) (below : List Frame) :
    ∃ g : Frame, g.Awaits p (done ++ [inner.reading]) ∧
      d.run { closing := none, top := f.enclose inner, below } (connectiveWord p).toList =
        some { closing := none, top := g, below } := by
  have hletters : (connectiveLetters p).all Char.isUpper = true := by cases p <;> rfl
  have hsettle : (f.enclose inner).settle = f.enclose inner := Frame.settle_of_lastWord rfl
  have hgroup : operandReading ((f.enclose inner).push ' ').operand = inner.reading :=
    @operandReading_group [.char ' '] f.operand _ _ (by decide) h.blank
  rw [connectiveWord_toList, Dialect.run_word hletters, hsettle, Frame.settle_letters]
  refine ⟨_, ⟨?_, ?_, ?_⟩, rfl⟩
  · cases p <;> simp [Frame.push, Frame.divide, Piece.isBlank]
  · cases p with
    | and =>
      show f.conjuncts ++ [operandReading ((f.enclose inner).push ' ').operand] = done ++ [inner.reading]
      rw [hgroup, h.conjuncts]
      rfl
    | or => rfl
  · cases p with
    | and => exact h.disjuncts
    | or =>
      show f.disjuncts ++ [.join .and (f.conjuncts ++ [operandReading ((f.enclose inner).push ' ').operand])] =
        done ++ [inner.reading]
      rw [hgroup, h.conjuncts, h.disjuncts]
      rfl

end Frame.Awaits

namespace Dialect

variable {d : Dialect}

/-- The operands left over are read one after the other, each in its brackets. -/
theorem run_bracketed {α : Type} (p : Predicate) (text : α → String) (reading : α → Formula String) {parts : List α}
    (h : ∀ a ∈ parts, d.read? (text a) = some (reading a)) (hne : parts ≠ []) {done : List (Formula String)}
    {f : Frame} (hf : f.Awaits p done) :
    ∃ top : Frame, top.reading = .join p (done ++ parts.map reading) ∧
      d.run { closing := none, top := f, below := [] } (bracketed (connectiveWord p) (parts.map text)).toList =
        some { closing := none, top, below := [] } := by
  induction parts generalizing done f with
  | nil => exact absurd rfl hne
  | cons a parts ih =>
    rw [List.forall_mem_cons] at h
    obtain ⟨inner, hinner, hrun⟩ := run_brackets h.1
    have hbrackets := hrun f [] hf.lastWord_eq_nil
    cases parts with
    | nil =>
      refine ⟨f.enclose inner, ?_, ?_⟩
      · rw [hf.reading_enclose, hinner]
        rfl
      · rw [List.map_singleton, bracketed_single]
        exact hbrackets
    | cons next parts =>
      -- the connective leaves a frame that waits for the next operand
      obtain ⟨g, hg, hword⟩ := hf.run_connective (d := d) inner []
      obtain ⟨top, htop, hrest⟩ := ih h.2 (List.cons_ne_nil _ _) hg
      refine ⟨top, ?_, ?_⟩
      · rw [htop, hinner, List.append_assoc]
        rfl
      · rw [List.map_cons, List.map_cons, bracketed_cons_cons, run_append, hbrackets, Option.bind_some, run_append,
          hword, Option.bind_some]
        exact hrest

/-- **Texts in brackets with a connective between them are read as joined by it.** -/
theorem read_bracketed {α : Type} (p : Predicate) (text : α → String) (reading : α → Formula String) {parts : List α}
    (h : ∀ a ∈ parts, d.read? (text a) = some (reading a)) (hne : parts ≠ []) :
    d.read? (bracketed (connectiveWord p) (parts.map text)) = some (.join p (parts.map reading)) := by
  obtain ⟨top, htop, hrun⟩ := run_bracketed p text reading h hne (.fresh p)
  have hstart : d.run .start (bracketed (connectiveWord p) (parts.map text)).toList =
      some { closing := none, top, below := [] } := hrun
  unfold read?
  rw [hstart]
  exact congrArg some htop

example : standard.read? "(a = 'x OR y' OR b) AND (NOT (c) and d)" =
    some (.joined .and [.joined .or [.atom "a = 'x OR y'", .atom "b"],
      .joined .and [.atom "NOT (c)", .atom "d"]]) := by rfl

end Dialect

/-! ## Texts that can be read -/

/-- A text in the middle of being checked. -/
structure Nesting where
  /-- The mark that ends the open quotation. -/
  closing : Option Char
  /-- The number of open brackets. -/
  depth : Nat
  /-- The character before, unless it was a bracket. -/
  last : Option Char

namespace Dialect

/-- One more character checked: no bracket is closed that is not open, and no comment begins. -/
def nest (d : Dialect) (s : Nesting) (c : Char) : Option Nesting :=
  match s.closing with
  | some mark => some { s with closing := if c = mark then none else some mark, last := some c }
  | none =>
    if beginsComment s.last c then none
    else if c = '(' then some { closing := none, depth := s.depth + 1, last := none }
    else if c = ')' then
      match s.depth with
      | 0 => none
      | depth + 1 => some { closing := none, depth, last := none }
    else some { s with closing := d.closing? c, last := some c }

/-- Characters checked one after the other. -/
def nestAll (d : Dialect) (s : Nesting) (cs : List Char) : Option Nesting := cs.foldlM d.nest s

/-- **A text whose brackets are nested and closed**, with its quotations closed and without comments. -/
def Balanced (d : Dialect) (text : String) : Prop :=
  ∃ last, d.nestAll { closing := none, depth := 0, last := none } text.toList =
    some { closing := none, depth := 0, last }

end Dialect

/-- What a check sees of a text that is being read. -/
def Reader.nesting (s : Reader) : Nesting :=
  { closing := s.closing, depth := s.below.length, last := lastChar s.top.operand }

namespace Dialect

variable {d : Dialect}

/-- A check goes along with the reading. -/
theorem nest_nesting (s : Reader) (c : Char) : d.nest s.nesting c = (d.step s c).map Reader.nesting := by
  obtain ⟨closing, top, below⟩ := s
  show d.nest { closing, depth := below.length, last := lastChar top.operand } c = _
  unfold nest step
  cases closing with
  | some mark => rfl
  | none =>
    dsimp only
    by_cases hcomment : beginsComment (lastChar top.operand) c = true
    · rw [if_pos hcomment, if_pos hcomment]
      rfl
    rw [if_neg hcomment, if_neg hcomment]
    by_cases hopen : c = '('
    · rw [if_pos hopen, if_pos hopen]
      rfl
    rw [if_neg hopen, if_neg hopen]
    by_cases hclose : c = ')'
    · rw [if_pos hclose, if_pos hclose]
      cases below <;> rfl
    · rw [if_neg hclose, if_neg hclose]
      rfl

theorem nestAll_nesting (s : Reader) (cs : List Char) :
    d.nestAll s.nesting cs = (d.run s cs).map Reader.nesting := by
  induction cs generalizing s with
  | nil => rfl
  | cons c cs ih =>
    unfold nestAll
    rw [List.foldlM_cons, nest_nesting, run_cons]
    cases d.step s c with
    | none => rfl
    | some next => exact ih next

/-- **A balanced text can be read.** -/
theorem Balanced.readable {text : String} (h : d.Balanced text) : ∃ reading, d.read? text = some reading := by
  obtain ⟨last, hnest⟩ := h
  have hrun := nestAll_nesting (d := d) Reader.start text.toList
  have hstart : Reader.start.nesting = { closing := none, depth := 0, last := none } := rfl
  rw [hstart, hnest] at hrun
  obtain ⟨⟨closing, top, below⟩, hsome, hnesting⟩ := Option.map_eq_some_iff.mp hrun.symm
  have hclosing : closing = none := congrArg Nesting.closing hnesting
  have hbelow : below = [] := List.eq_nil_of_length_eq_zero (congrArg Nesting.depth hnesting)
  subst hclosing hbelow
  refine ⟨top.reading, ?_⟩
  unfold read?
  rw [hsome]

end Dialect

end TermSearch.Sql
