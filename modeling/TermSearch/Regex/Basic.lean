import TermSearch.Regex.CharSet
import TermSearch.Unicode.Property

/-!
# Regular expressions

An expression takes a place in a text to places at or after it. `ends` computes all of them, so alternatives need
no order and no going back, and whether an expression occurs in a text is whether it leads anywhere from some
place (`occursIn`). A place knows the character before it and the text after it, which is all that the conditions
on a place ask for.

Repetition without an upper bound collects places until no new one appears; there are only finitely many after a
given one, and their number bounds the search (`closure`).
-/

namespace TermSearch

/-! ## Expressions -/

namespace Regex

/-- A condition on a place in a text. -/
inductive Look where
  | textStart
  | textEnd
  /-- At the start of a line; with `crlf`, a line may end in a carriage return. -/
  | lineStart (crlf : Bool)
  | lineEnd (crlf : Bool)
  /-- Between a word character and something else. -/
  | wordBoundary (unicode : Bool)
  | notWordBoundary (unicode : Bool)
  | wordStart (unicode : Bool)
  | wordEnd (unicode : Bool)
  /-- Not after a word character. -/
  | wordStartHalf (unicode : Bool)
  /-- Not before a word character. -/
  | wordEndHalf (unicode : Bool)
  deriving DecidableEq, Repr

end Regex

/-- A regular expression. -/
inductive Regex where
  /-- Nothing, anywhere. -/
  | empty
  /-- One character of a set. -/
  | chars (set : Regex.CharSet)
  /-- Nothing, at places that meet a condition. -/
  | look (condition : Regex.Look)
  | concat (first second : Regex)
  | either (first second : Regex)
  /-- At least `min` times, and at most `max` times if that is given. -/
  | repeated (body : Regex) (min : Nat) (max : Option Nat)
  deriving Repr

namespace Regex

/-! ## Places -/

/-- A place in a text. -/
structure Place where
  index : Nat
  previous : Option Char
  rest : List Char
  deriving Repr

/-- The first place of a text. -/
def Place.start (text : List Char) : Place := { index := 0, previous := none, rest := text }

/-- The place after `c` and before `rest`. -/
def Place.after (p : Place) (c : Char) (rest : List Char) : Place :=
  { index := p.index + 1, previous := some c, rest }

/-- A place and all later ones. -/
def Place.onward (index : Nat) (previous : Option Char) : List Char → List Place
  | [] => [{ index, previous, rest := [] }]
  | c :: rest => { index, previous, rest := c :: rest } :: Place.onward (index + 1) (some c) rest

/-- Whether a character belongs to words. -/
def isWordChar (unicode : Bool) (c : Char) : Bool :=
  if unicode then Unicode.Property.word.holds c.toNat else c.isAlphanum || c = '_'

/-- Whether a condition holds at a place. -/
def Look.holds (p : Place) : Look → Bool
  | .textStart => p.previous.isNone
  | .textEnd => p.rest.isEmpty
  | .lineStart false => p.previous.all (· = '\n')
  | .lineStart true =>
    p.previous.all (· = '\n') || (p.previous = some '\r' && p.rest.head? ≠ some '\n')
  | .lineEnd false => p.rest.head?.all (· = '\n')
  | .lineEnd true =>
    p.rest.head?.all (· = '\r') || (p.rest.head? = some '\n' && p.previous ≠ some '\r')
  | .wordBoundary u => p.previous.any (isWordChar u) != p.rest.head?.any (isWordChar u)
  | .notWordBoundary u => p.previous.any (isWordChar u) == p.rest.head?.any (isWordChar u)
  | .wordStart u => !p.previous.any (isWordChar u) && p.rest.head?.any (isWordChar u)
  | .wordEnd u => p.previous.any (isWordChar u) && !p.rest.head?.any (isWordChar u)
  | .wordStartHalf u => !p.previous.any (isWordChar u)
  | .wordEndHalf u => !p.rest.head?.any (isWordChar u)

/-! ## Sets of places -/

/-- A set of places with one more. -/
def addPlace (places : List Place) (p : Place) : List Place :=
  if places.any (·.index == p.index) then places else p :: places

/-- The places that a step leads to from any of a set. -/
def advance (step : Place → List Place) (places : List Place) : List Place :=
  (places.flatMap step).foldl addPlace []

/-- The places after exactly `n` steps; none are left when one step leads nowhere. -/
def times (step : Place → List Place) : Nat → List Place → List Place
  | 0, places => places
  | n + 1, places => if places.isEmpty then [] else times step n (advance step places)

/-- The places in `seen` and those after at most `n` steps from `frontier`. -/
def closure (step : Place → List Place) : Nat → List Place → List Place → List Place
  | 0, _, seen => seen
  | n + 1, frontier, seen =>
    let new := (advance step frontier).filter fun p => !seen.any (·.index == p.index)
    if new.isEmpty then seen else closure step n new (new ++ seen)

/-- The places that an expression leads to from a place. -/
def ends : Regex → Place → List Place
  | .empty, p => [p]
  | .chars set, p =>
    match p.rest with
    | [] => []
    | c :: rest => if set.contains c then [p.after c rest] else []
  | .look condition, p => if condition.holds p then [p] else []
  | .concat a b, p => advance (ends b) (ends a p)
  | .either a b, p => (ends a p ++ ends b p).foldl addPlace []
  | .repeated body min max, p =>
    let least := times (ends body) min [p]
    match max with
    | none => closure (ends body) (p.rest.length + 1) least least
    | some most => closure (ends body) (most - min) least least

/-- **Whether an expression occurs somewhere in a text.** -/
def occursIn (r : Regex) (text : String) : Bool :=
  (Place.onward 0 none text.toList).any fun p => !(ends r p).isEmpty

/-! ## Size -/

/-- Whether an expression takes no character, so that repeating it changes nothing. -/
def isStill : Regex → Bool
  | .empty => true
  | .chars _ => false
  | .look _ => true
  | .concat a b => a.isStill && b.isStill
  | .either a b => a.isStill && b.isStill
  | .repeated body _ max => body.isStill || max == some 0

/-- About how many bytes a compiled form of the expression would take. This is an estimate by the kinds of parts; what
an engine measures is the form it compiles to. -/
def cost : Regex → Nat
  | .empty => 0
  | .chars set => if set.rangeCount ≤ 1 then 32 else 60 * set.rangeCount
  | .look _ => 24
  | .concat a b => a.cost + b.cost
  | .either a b => a.cost + b.cost + 24
  | .repeated body min max => body.cost * (max.getD (min + 1))

end Regex

end TermSearch
