import TermSearch.Unicode.CaseFold
import TermSearch.Unicode.CodeSet

/-!
# Sets of characters in patterns

A set is built from tables of ranges by union, intersection and complement, and can be closed under case: it then
holds every character that folds like one of its members, or only the ASCII letters that do.
-/

namespace TermSearch.Regex

open Unicode (CodeSet)

/-- A set of characters. -/
inductive CharSet where
  | ranges (set : CodeSet)
  | union (a b : CharSet)
  | inter (a b : CharSet)
  | complement (a : CharSet)
  /-- The set with every variant of its members in case. -/
  | folded (a : CharSet)
  /-- The set with the other case of each ASCII letter in it. -/
  | foldedAscii (a : CharSet)
  deriving Repr

namespace CharSet

/-- Whether a code point is in the set. -/
def holds : CharSet → Nat → Bool
  | .ranges s, n => s.holds n
  | .union a b, n => a.holds n || b.holds n
  | .inter a b, n => a.holds n && b.holds n
  | .complement a, n => !a.holds n
  | .folded a, n => a.holds n || (Unicode.variants n).any a.holds
  | .foldedAscii a, n => a.holds n || (Unicode.otherAscii? n).any a.holds

/-- Whether a character is in the set. -/
def contains (s : CharSet) (c : Char) : Bool := s.holds c.toNat

/-- The set without members. -/
def none : CharSet := .ranges ⟨[]⟩

/-- The set of one character. -/
def single (c : Char) : CharSet := .ranges (.ofRange c.toNat c.toNat)

/-- The members of one set that are not in another. -/
def minus (a b : CharSet) : CharSet := .inter a (.complement b)

/-- The members of exactly one of two sets. -/
def symmetric (a b : CharSet) : CharSet := .union (minus a b) (minus b a)

/-- The members of any of several sets. -/
def unions (sets : List CharSet) : CharSet := sets.foldl .union none

/-- The members of any of several tables. -/
def ofTables (tables : List CodeSet) : CharSet := unions (tables.map .ranges)

/-- The set, or its complement if `negated` holds. -/
def negate (s : CharSet) (negated : Bool) : CharSet := if negated then .complement s else s

/-- About how many ranges the set has. -/
def rangeCount : CharSet → Nat
  | .ranges s => s.ranges.length
  | .union a b => a.rangeCount + b.rangeCount
  | .inter a b => max a.rangeCount b.rangeCount
  | .complement a => a.rangeCount + 1
  | .folded a => 2 * a.rangeCount
  | .foldedAscii a => 2 * a.rangeCount

end CharSet

end TermSearch.Regex
