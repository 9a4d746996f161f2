/-!
# Sets of code points

A set is a list of ranges in ascending order that do not touch. Tables write a range as one or two hexadecimal
numbers, a dash between the two, and separate ranges by blanks.
-/

namespace TermSearch.Unicode

/-- Ranges of code points in ascending order, ends included. -/
structure CodeSet where
  ranges : List (Nat × Nat)
  deriving DecidableEq, Repr

namespace CodeSet

/-- Whether a code point lies in one of the ranges; ranges beyond it need not be looked at. -/
def holdsIn (n : Nat) : List (Nat × Nat) → Bool
  | [] => false
  | (low, high) :: rest => if n < low then false else n ≤ high || holdsIn n rest

/-- Whether a code point is in the set. -/
def holds (s : CodeSet) (n : Nat) : Bool := holdsIn n s.ranges

/-- The set of one range. -/
def ofRange (low high : Nat) : CodeSet := ⟨[(low, high)]⟩

/-- The value of an upper-case hexadecimal digit. -/
def digitValue (c : Char) : Nat :=
  if c ≤ '9' then c.toNat - '0'.toNat else c.toNat - 'A'.toNat + 10

/-- The ranges of a line: `low` and `current` are the numbers of the range read so far, the former missing
until a dash has been read. -/
def readLine (low : Option Nat) (current : Nat) : List Char → List (Nat × Nat)
  | [] => [(low.getD current, current)]
  | c :: rest =>
    if c = ' ' then (low.getD current, current) :: readLine none 0 rest
    else if c = '-' then readLine (some current) 0 rest
    else readLine low (16 * current + digitValue c) rest

/-- The set that the lines of a table write. -/
def ofLines (lines : List String) : CodeSet :=
  ⟨lines.flatMap fun line => readLine none 0 line.toList⟩

end CodeSet

end TermSearch.Unicode
