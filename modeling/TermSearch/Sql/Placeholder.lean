/-!
# Placeholders

A `?` outside quotation marks stands for a bound value. `QuoteState.next` follows the text one character at a
time and knows whether a quotation, with either mark, is open; a doubled mark closes the quotation and opens
it again at once, so it needs no case of its own. `number` writes a number behind each placeholder; the numbers come
from a counter, which goes on from one expression of a statement to the next.
-/

namespace TermSearch.Sql

/-- Whether a quotation is open, and by which mark. -/
abbrev QuoteState := Option Char

/-- The state after one more character. -/
def QuoteState.next (state : QuoteState) (c : Char) : QuoteState :=
  match state with
  | some mark => if c = mark then none else some mark
  | none => if c = '\'' ∨ c = '"' then some c else none

/-- Whether a character in this state is a placeholder. -/
def isPlaceholder (state : QuoteState) (c : Char) : Bool := state.isNone && c = '?'

/-- The state after a text. -/
def QuoteState.after (state : QuoteState) (cs : List Char) : QuoteState := cs.foldl QuoteState.next state

/-- The number of placeholders in a text that starts in this state. -/
def countFrom (state : QuoteState) : List Char → Nat
  | [] => 0
  | c :: rest => (if isPlaceholder state c then 1 else 0) + countFrom (state.next c) rest

/-- Writes a text that starts in this state with a number behind each placeholder. The counter holds the last number
that is in use. -/
def numberChars (state : QuoteState) : List Char → StateM Nat (List Char)
  | [] => return []
  | c :: rest => do
    if isPlaceholder state c then
      let number ← modifyGet fun used => (used + 1, used + 1)
      return c :: ((Nat.repr number).toList ++ (← numberChars (state.next c) rest))
    else
      return c :: (← numberChars (state.next c) rest)

/-- **Numbers the placeholders of an expression.** -/
def number (expression : String) : StateM Nat String :=
  return String.ofList (← numberChars none expression.toList)

/-- The number of placeholders in an expression. -/
def placeholderCount (expression : String) : Nat := countFrom none expression.toList

/-! ## What is written -/

/-- The text with each placeholder followed by its number, the first being `used + 1`. -/
def numberFrom (state : QuoteState) (used : Nat) : List Char → List Char
  | [] => []
  | c :: rest =>
    if isPlaceholder state c then
      c :: ((Nat.repr (used + 1)).toList ++ numberFrom (state.next c) (used + 1) rest)
    else c :: numberFrom (state.next c) used rest

/-- The expression with its placeholders numbered on from `used`. -/
def numbered (expression : String) (used : Nat) : String :=
  String.ofList (numberFrom none used expression.toList)

/-- The counter goes on by one for each placeholder. -/
theorem numberChars_run (state : QuoteState) (cs : List Char) (used : Nat) :
    (numberChars state cs).run used = (numberFrom state used cs, used + countFrom state cs) := by
  induction cs generalizing state used with
  | nil => rfl
  | cons c cs ih =>
    rw [numberChars, numberFrom, countFrom]
    split
    · have hstep := ih (state.next c) (used + 1)
      rw [Nat.add_assoc] at hstep
      exact congrArg (fun p : List Char × Nat => (c :: ((Nat.repr (used + 1)).toList ++ p.1), p.2)) hstep
    · rw [Nat.zero_add]
      exact congrArg (fun p : List Char × Nat => (c :: p.1, p.2)) (ih (state.next c) used)

/-- **Numbering** writes the numbered expression, and the counter goes on by the number of placeholders. -/
theorem number_run (expression : String) (used : Nat) :
    (number expression).run used = (numbered expression used, used + placeholderCount expression) :=
  congrArg (fun p : List Char × Nat => (String.ofList p.1, p.2)) (numberChars_run none expression.toList used)

/-! ## Texts put together -/

theorem countFrom_append (state : QuoteState) (cs ds : List Char) :
    countFrom state (cs ++ ds) = countFrom state cs + countFrom (state.after cs) ds := by
  induction cs generalizing state with
  | nil => simp [countFrom, QuoteState.after]
  | cons c cs ih =>
    simp only [List.cons_append, countFrom, ih, QuoteState.after, List.foldl_cons]
    omega

theorem numberFrom_append (state : QuoteState) (used : Nat) (cs ds : List Char) :
    numberFrom state used (cs ++ ds) =
      numberFrom state used cs ++ numberFrom (state.after cs) (used + countFrom state cs) ds := by
  induction cs generalizing state used with
  | nil => simp [numberFrom, countFrom, QuoteState.after]
  | cons c cs ih =>
    simp only [List.cons_append, numberFrom, countFrom, QuoteState.after, List.foldl_cons]
    split
    · simp [ih, QuoteState.after, Nat.add_assoc]
    · simp [ih, QuoteState.after]

end TermSearch.Sql
