import TermSearch.Regex.Escape

/-!
# Classes in brackets

A class lists characters, ranges, classes by name and nested classes; `&&`, `--` and `~~` combine what stands
before them with what follows, from left to right. A class of an expression that ignores case is closed under
case, and so are both sides of an operation.

How deeply a class is nested counts: a nested class, a list of parts and an operation are one level each.

Reading takes at least one character a step, so the length of the text bounds it.
-/

namespace TermSearch.Regex

/-- An operation between the parts of a class. -/
inductive SetOp where
  | inter | minus | symmetric
  deriving DecidableEq, Repr

/-- The result of an operation on two sets. -/
def SetOp.apply (op : SetOp) (a b : CharSet) : CharSet :=
  match op with
  | .inter => .inter a b
  | .minus => .minus a b
  | .symmetric => .symmetric a b

/-- The table of an ASCII class. -/
def asciiClass? : String → Option CharSet
  | "alnum" => some (.ranges (.ofLines ["30-39 41-5A 61-7A"]))
  | "alpha" => some (.ranges (.ofLines ["41-5A 61-7A"]))
  | "ascii" => some (.ranges (.ofLines ["0-7F"]))
  | "blank" => some (.ranges (.ofLines ["9 20"]))
  | "cntrl" => some (.ranges (.ofLines ["0-1F 7F"]))
  | "digit" => some (.ranges (.ofLines ["30-39"]))
  | "graph" => some (.ranges (.ofLines ["21-7E"]))
  | "lower" => some (.ranges (.ofLines ["61-7A"]))
  | "print" => some (.ranges (.ofLines ["20-7E"]))
  | "punct" => some (.ranges (.ofLines ["21-2F 3A-40 5B-60 7B-7E"]))
  | "space" => some (.ranges (.ofLines ["9-D 20"]))
  | "upper" => some (.ranges (.ofLines ["41-5A"]))
  | "word" => some (.ranges (.ofLines ["30-39 41-5A 5F 61-7A"]))
  | "xdigit" => some (.ranges (.ofLines ["30-39 41-46 61-66"]))
  | _ => none

/-- The named class at the front of a text such as `[:alpha:]`, after its first bracket. -/
def readAsciiClass? (cs : List Char) : Option (CharSet × Bool × List Char) := do
  let (negated, cs) ← match cs with
    | ':' :: '^' :: rest => some (true, rest)
    | ':' :: rest => some (false, rest)
    | _ => none
  match cs.dropWhile (· ≠ ':') with
  | ':' :: ']' :: rest =>
    let set ← asciiClass? (String.ofList (cs.takeWhile (· ≠ ':')))
    return (set, negated, rest)
  | _ => none

/-- One member of a class: a character or an escape. -/
def readMember (f : Flags) : List Char → Option (Escape × List Char)
  | '\\' :: rest => readEscape f rest
  | c :: rest => some (.literal c, rest)
  | [] => none

/-- The set of a member that is no end of a range. A condition is no member. -/
def memberSet? (f : Flags) : Escape → Option CharSet
  | .literal c => if f.unicode || c.toNat < 128 then some (.single c) else none
  | .set s => some s
  | .look _ => none

/-- A member or a range at the front of a text. A dash before a closing bracket or another dash does not make
a range. -/
def readRange (f : Flags) (cs : List Char) : Option (CharSet × List Char) := do
  let (first, rest) ← readMember f cs
  match f.skip rest with
  | [] => none
  | '-' :: afterDash =>
    match f.skip afterDash with
    | ']' :: _ => return (← memberSet? f first, f.skip rest)
    | '-' :: _ => return (← memberSet? f first, f.skip rest)
    | [] => none
    | next =>
      let (last, rest) ← readMember f next
      match first, last with
      | .literal low, .literal high =>
        guard (low ≤ high && (f.unicode || high.toNat < 128))
        return (.ranges (.ofRange low.toNat high.toNat), rest)
      | _, _ => none
  | rest => return (← memberSet? f first, rest)

/-- A part of a class, and how deeply classes, lists and operations are nested in it. -/
structure ClassPart where
  chars : CharSet
  depth : Nat

/-- The part that is a character, a range or a class by name. -/
def ClassPart.leaf (s : CharSet) : ClassPart := { chars := s, depth := 0 }

/-- A list of parts as one: more than one part makes one more level. -/
def ClassPart.list (parts : List ClassPart) : ClassPart where
  chars := .unions (parts.map (·.chars))
  depth := (if 2 ≤ parts.length then 1 else 0) + (parts.map (·.depth)).foldl max 0

/-- A class in the course of reading: the parts since the last operation, and that operation with what stands
before it. -/
structure OpenClass where
  parts : List ClassPart
  pending : Option (SetOp × ClassPart)

/-- What has been read so far as one part. -/
def OpenClass.close (o : OpenClass) (f : Flags) : ClassPart :=
  let last := ClassPart.list o.parts
  match o.pending with
  | none => last
  | some (op, before) =>
    { chars := op.apply (f.fold before.chars) (f.fold last.chars), depth := max before.depth last.depth + 1 }

/-- The class with one more part. -/
def OpenClass.add (o : OpenClass) (p : ClassPart) : OpenClass := { o with parts := o.parts ++ [p] }

/-- The class after an operation sign. -/
def OpenClass.operate (o : OpenClass) (f : Flags) (op : SetOp) : OpenClass :=
  { parts := [], pending := some (op, o.close f) }

/-- The dashes at the front of a class, which stand for themselves. -/
def readDashes (f : Flags) : Nat → List Char → List ClassPart → List ClassPart × List Char
  | 0, cs, done => (done, cs)
  | fuel + 1, cs, done =>
    match cs with
    | '-' :: rest => readDashes f fuel (f.skip rest) (.leaf (.single '-') :: done)
    | cs => (done, cs)

mutual

/-- A class after its opening bracket, and what follows its closing bracket. The depth is that of what it holds. -/
def readClass (f : Flags) : Nat → List Char → Option (ClassPart × List Char)
  | 0, _ => none
  | fuel + 1, cs =>
    let cs := f.skip cs
    let (negated, cs) : Bool × List Char :=
      match cs with
      | '^' :: rest => (true, f.skip rest)
      | cs => (false, cs)
    let (dashes, cs) := readDashes f cs.length cs []
    let (parts, cs) : List ClassPart × List Char :=
      match dashes, cs with
      | [], ']' :: rest => ([.leaf (.single ']')], f.skip rest)
      | dashes, cs => (dashes, cs)
    if cs.isEmpty then none
    else
      match readParts f fuel { parts, pending := none } cs with
      | none => none
      | some (all, rest) =>
        if negated && !f.unicode then none
        else some ({ all with chars := (f.fold all.chars).negate negated }, rest)

/-- The parts of a class up to its closing bracket. -/
def readParts (f : Flags) : Nat → OpenClass → List Char → Option (ClassPart × List Char)
  | 0, _, _ => none
  | fuel + 1, o, cs =>
    match f.skip cs with
    | [] => none
    | ']' :: rest => some (o.close f, rest)
    | '[' :: rest =>
      match readAsciiClass? rest with
      | some (set, negated, after) =>
        if negated && !f.unicode then none
        else readParts f fuel (o.add (.leaf ((f.fold set).negate negated))) after
      | none =>
        match readClass f fuel rest with
        | some (inner, after) => readParts f fuel (o.add { inner with depth := inner.depth + 1 }) after
        | none => none
    | '&' :: '&' :: rest => readParts f fuel (o.operate f .inter) rest
    | '-' :: '-' :: rest => readParts f fuel (o.operate f .minus) rest
    | '~' :: '~' :: rest => readParts f fuel (o.operate f .symmetric) rest
    | cs =>
      match readRange f cs with
      | some (set, rest) => readParts f fuel (o.add (.leaf set)) rest
      | none => none

end

end TermSearch.Regex
