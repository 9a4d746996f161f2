import TermSearch.PatternEngine
import TermSearch.Regex.Bracket

/-!
# Reading patterns

A pattern is read part by part. The parts of the branch that is being read, the branches of its group that are
finished, and the groups around it are kept in a `Reading`; every step takes at least one character, so the length
of the pattern bounds the number of steps. A repetition applies to the part before it, which may not be missing or
be a mere setting of flags. Flags set inside a group hold to its end, across its branches.

Whether a repetition prefers many or few rounds makes no difference to whether a pattern occurs in a text, so the
sign for it is read and dropped.
-/

namespace TermSearch.Regex

/-! ## Parts -/

/-- A part of a pattern, and how deeply groups, repetitions and lists are nested in it. -/
structure Part where
  /-- Missing for a setting of flags. -/
  regex : Option Regex
  depth : Nat

/-- Expressions one after the other. -/
def sequence : List Regex → Regex
  | [] => .empty
  | [r] => r
  | r :: rest => .concat r (sequence rest)

/-- Expressions to choose from. -/
def choice : List Regex → Regex
  | [] => .empty
  | [r] => r
  | r :: rest => .either r (choice rest)

/-- A list of parts as one: more than one part makes one more level. -/
def Part.combine (join : List Regex → Regex) (parts : List Part) : Part where
  regex := some (join (parts.filterMap (·.regex)))
  depth := (if 2 ≤ parts.length then 1 else 0) + (parts.map (·.depth)).foldl max 0

/-- The part that stands for an expression in a group or a repetition. -/
def Part.wrap (r : Regex) (depth : Nat) : Part := { regex := some r, depth := depth + 1 }

/-- A part without inner structure. -/
def Part.leaf (r : Regex) : Part := { regex := some r, depth := 0 }

/-- A group in the course of reading: its finished branches, the parts of the branch being read, newest
first, and the flags to return to after it. -/
structure Level where
  branches : List Part
  parts : List Part
  flagsAfter : Flags

/-- What has been read: the groups that are open, innermost first, the names given to groups, and the flags
that hold now. -/
structure Reading where
  level : Level
  outer : List Level
  names : List (List Char)
  flags : Flags

/-- The parts of a branch as one. -/
def Level.branch (l : Level) : Part := .combine sequence l.parts.reverse

/-- The whole group as one part. -/
def Level.whole (l : Level) : Part :=
  if l.branches.isEmpty then l.branch else .combine choice (l.branch :: l.branches).reverse

namespace Reading

/-- The reading with one more part. -/
def add (r : Reading) (p : Part) : Reading := { r with level := { r.level with parts := p :: r.level.parts } }

/-- The reading with the branch closed. -/
def alternate (r : Reading) : Reading :=
  { r with level := { r.level with branches := r.level.branch :: r.level.branches, parts := [] } }

/-- The reading inside a new group that is read with these flags. -/
def openGroup (r : Reading) (flags : Flags) : Reading :=
  { r with level := { branches := [], parts := [], flagsAfter := r.flags }
           outer := r.level :: r.outer
           flags }

/-- The reading after the group that is open. -/
def closeGroup (r : Reading) : Option Reading :=
  match r.outer with
  | [] => none
  | level :: outer =>
    let whole := r.level.whole
    some <| add { r with level, outer, flags := r.level.flagsAfter }
      (.wrap (whole.regex.getD .empty) whole.depth)

/-- A repetition; of an expression that takes no character one round does for all. -/
def rounds (body : Regex) (min : Nat) (max : Option Nat) : Regex :=
  if body.isStill then .repeated body (Nat.min min 1) (some (Nat.min (max.getD 1) 1))
  else .repeated body min max

/-- The reading with the last part repeated. -/
def repeatLast (r : Reading) (min : Nat) (max : Option Nat) : Option Reading :=
  match r.level.parts with
  | { regex := some body, depth } :: parts =>
    some { r with level :=
      { r.level with parts := .wrap (rounds body min max) depth :: parts } }
  | _ => none

end Reading

/-! ## Repetitions -/

/-- The digits at the front of a text, and what follows them. -/
def readCountDigits (f : Flags) : Nat → List Char → List Char → List Char × List Char
  | 0, cs, done => (done.reverse, cs)
  | fuel + 1, cs, done =>
    match cs with
    | c :: rest =>
      if Number.isDigit c then readCountDigits f fuel (f.skip rest) (c :: done)
      else (done.reverse, cs)
    | [] => (done.reverse, [])

/-- A count below `2 ^ 32`, blanks around it dropped, and what follows it. -/
def readCount (f : Flags) (cs : List Char) : Option (Nat × List Char) :=
  let (digits, rest) := readCountDigits f cs.length (Text.dropBlanks cs) []
  let n := Number.digitsValue digits
  if digits.isEmpty || Nat.pow 2 32 ≤ n then none else some (n, Text.dropBlanks rest)

/-- The bounds of a counted repetition after its opening brace, and what follows its closing brace. -/
def readBounds (f : Flags) (cs : List Char) : Option ((Nat × Option Nat) × List Char) := do
  let (low, rest) ← readCount f (f.skip cs)
  match rest with
  | '\x7d' :: after => return ((low, some low), after)
  | ',' :: more =>
    match f.skip more with
    | '\x7d' :: after => return ((low, none), after)
    | more =>
      let (high, rest) ← readCount f more
      match rest with
      | '\x7d' :: after =>
        guard (low ≤ high)
        return ((low, some high), after)
      | _ => none
  | _ => none

/-- The text without a question mark at its front. -/
def dropQuestion : List Char → List Char
  | '?' :: rest => rest
  | cs => cs

/-! ## Groups and flags -/

/-- The flags with one of them set. -/
def Flags.set (f : Flags) (value : Bool) : Char → Option Flags
  | 'i' => some { f with ignoreCase := value }
  | 'm' => some { f with multiLine := value }
  | 's' => some { f with dotAll := value }
  | 'R' => some { f with crlf := value }
  | 'x' => some { f with extended := value }
  | 'u' => some { f with unicode := value }
  | 'U' => some f
  | _ => none

/-- The flags that the signs up to a colon or a closing bracket set, what ended them, and what follows. Each
sign stands at most once, and a minus sign is followed by at least one flag. -/
def readFlags (f : Flags) (value : Bool) (seen : List Char) :
    List Char → Option (Flags × Char × List Char)
  | [] => none
  | c :: rest =>
    if c = ':' ∨ c = ')' then
      if seen.head? = some '-' then none else some (f, c, rest)
    else if seen.contains c then none
    else if c = '-' then readFlags f false (c :: seen) rest
    else match f.set value c with
      | some f => readFlags f value (c :: seen) rest
      | none => none

/-- Whether a character can stand in the name of a group. -/
def isNameChar (first : Bool) (c : Char) : Bool :=
  c = '_' || Unicode.Property.alphabetic.holds c.toNat ||
    (!first && (c = '.' || c = '[' || c = ']' ||
      Unicode.Category.number.any (·.holds c.toNat)))

/-- The name of a group up to the closing angle, and what follows it. -/
def readGroupName (cs : List Char) : Option (List Char × List Char) :=
  let name := cs.takeWhile (· ≠ '>')
  match cs.dropWhile (· ≠ '>'), name with
  | _ :: rest, c :: more =>
    if isNameChar true c && more.all (isNameChar false) then some (name, rest) else none
  | _, _ => none

/-- The reading after an opening bracket and what belongs to it. -/
def readGroup (r : Reading) (cs : List Char) : Option (Reading × List Char) :=
  let named (cs : List Char) : Option (Reading × List Char) := do
    let (name, rest) ← readGroupName cs
    guard !(r.names.contains name)
    return ({ r with names := name :: r.names }.openGroup r.flags, rest)
  match r.flags.skip cs with
  | '?' :: '=' :: _ => none
  | '?' :: '!' :: _ => none
  | '?' :: '<' :: '=' :: _ => none
  | '?' :: '<' :: '!' :: _ => none
  | '?' :: 'P' :: '<' :: rest => named rest
  | '?' :: '<' :: rest => named rest
  | '?' :: rest =>
    match readFlags r.flags true [] rest with
    | some (flags, ':', after) => some (r.openGroup flags, after)
    | some (flags, _, after) =>
      if rest.head? = some ')' then none
      else some ({ r with flags }.add { regex := none, depth := 0 }, after)
    | none => none
  | cs => some (r.openGroup r.flags, cs)

/-! ## Whole patterns -/

/-- The set of characters that the point stands for. -/
def pointSet (f : Flags) : CharSet :=
  if f.dotAll then .complement .none
  else if f.crlf then .complement (.union (.single '\n') (.single '\r'))
  else .complement (.single '\n')

/-- A character that stands for itself, or for its variants in case. -/
def literal (f : Flags) (c : Char) : Regex := .chars (f.fold (.single c))

/-- The condition at the start of a text or a line. -/
def startLook (f : Flags) : Look := if f.multiLine then .lineStart f.crlf else .textStart

/-- The condition at the end of a text or a line. -/
def endLook (f : Flags) : Look := if f.multiLine then .lineEnd f.crlf else .textEnd

/-- One step of reading, and what is left to read. -/
def readStep (r : Reading) (c : Char) (rest : List Char) : Option (Reading × List Char) :=
  let f := r.flags
  match c with
  | '(' => readGroup r rest
  | ')' => r.closeGroup.map (·, rest)
  | '|' => some (r.alternate, rest)
  | '?' => (r.repeatLast 0 (some 1)).map (·, dropQuestion rest)
  | '*' => (r.repeatLast 0 none).map (·, dropQuestion rest)
  | '+' => (r.repeatLast 1 none).map (·, dropQuestion rest)
  | '\x7b' =>
    (readBounds f rest).bind fun ((low, high), after) =>
      (r.repeatLast low high).map (·, dropQuestion (f.skip after))
  | '[' =>
    (readClass f (rest.length + 1) rest).map fun (set, after) =>
      (r.add (.wrap (.chars set.chars) set.depth), after)
  | '\\' =>
    (readEscape f rest).map fun (escape, after) =>
      match escape with
      | .literal c => (r.add (.leaf (literal f c)), after)
      | .set s => (r.add (.leaf (.chars s)), after)
      | .look condition => (r.add (.leaf (.look condition)), after)
  | '.' => if f.unicode then some (r.add (.leaf (.chars (pointSet f))), rest) else none
  | '^' => some (r.add (.leaf (.look (startLook f))), rest)
  | '$' => some (r.add (.leaf (.look (endLook f))), rest)
  | c => some (r.add (.leaf (literal f c)), rest)

/-- The reading at the end of a pattern. -/
def readAll : Nat → Reading → List Char → Option Reading
  | 0, _, _ => none
  | fuel + 1, r, cs =>
    match r.flags.skip cs with
    | [] => some r
    | c :: rest => (readStep r c rest).bind fun (r, rest) => readAll fuel r rest

/-- How deeply a pattern may be nested. -/
def nestLimit : Nat := 250

/-- The refusal of a text that is no pattern. Its report leaves out what is wrong with it, and where. -/
def malformed : PatternRefusal := .malformed "regex parse error"

/-- **The expression that a pattern writes**, read with these flags at its start. -/
def parse (flags : Flags) (pattern : String) : Except PatternRefusal Regex :=
  let cs := pattern.toList
  let start : Reading :=
    { level := { branches := [], parts := [], flagsAfter := flags }, outer := [], names := [], flags }
  match readAll (cs.length + 1) start cs with
  | none => .error malformed
  | some r =>
    let whole := r.level.whole
    if !r.outer.isEmpty ∨ nestLimit < whole.depth then .error malformed
    else
      let regex := whole.regex.getD .empty
      if PatternRefusal.sizeLimit < regex.cost then .error .tooLarge else .ok regex

/-! ## The engine -/

/-- The flags at the start of a pattern; what they do not set is set in patterns only. -/
def Flags.ofPattern (f : PatternFlags) : Flags where
  ignoreCase := f.ignoreCase
  multiLine := f.multiLine
  dotAll := f.dotAll
  crlf := false
  extended := false
  unicode := true

/-- **The engine that reads patterns as expressions.** -/
instance engine : PatternEngine where
  read flags pattern := (parse (.ofPattern flags) pattern).map occursIn
  sameCase := Unicode.sameCase

end TermSearch.Regex
