import TermSearch.Json.Reader
import TermSearch.Regex.Basic
import TermSearch.Regex.BreakProperty
import TermSearch.Text.Blank
import TermSearch.Unicode.Age

/-!
# Escapes in patterns

What a backslash introduces: a character by its code or by its special meaning, a class of characters, or a
condition on a place. The functions read from the text after the backslash and answer with what was meant and the
text that follows; anything with no meaning is refused.

Flags say how a pattern is to be read from some point on. In the extended layout blanks and comments between the
parts of a pattern are left out (`skip`).
-/

namespace TermSearch.Regex

open Text (isBlank)

/-! ## Flags and layout -/

/-- How a pattern is read. -/
structure Flags where
  ignoreCase : Bool
  /-- Whether conditions on text ends hold at line ends too. -/
  multiLine : Bool
  /-- Whether the point stands for a line feed too. -/
  dotAll : Bool
  /-- Whether lines may end in a carriage return. -/
  crlf : Bool
  /-- Whether blanks and comments are left out. -/
  extended : Bool
  unicode : Bool
  deriving DecidableEq, Repr

/-- The text without the blanks and comments at its front; `fuel` bounds the number of comments. -/
def skipLayout : Nat → List Char → List Char
  | 0, cs => cs
  | fuel + 1, cs =>
    match Text.dropBlanks cs with
    | '#' :: rest => skipLayout fuel ((rest.dropWhile (· ≠ '\n')).drop 1)
    | rest => rest

/-- The text without what the layout leaves out. -/
def Flags.skip (f : Flags) (cs : List Char) : List Char :=
  if f.extended then skipLayout cs.length cs else cs

/-- The set closed under case if case is ignored, within ASCII if the pattern is not read as Unicode text. -/
def Flags.fold (f : Flags) (s : CharSet) : CharSet :=
  if !f.ignoreCase then s else if f.unicode then .folded s else .foldedAscii s

/-- What an escape stands for. -/
inductive Escape where
  | literal (c : Char)
  | set (s : CharSet)
  | look (condition : Look)

/-! ## Characters by code -/

/-- Hexadecimal digits up to a closing brace, and what follows it. -/
def readBraced (f : Flags) : Nat → List Char → List Char → Option (List Char × List Char)
  | 0, _, _ => none
  | fuel + 1, cs, done =>
    match f.skip cs with
    | '\x7d' :: rest => some (done.reverse, f.skip rest)
    | c :: rest => if (Json.hexValue? c).isSome then readBraced f fuel rest (c :: done) else none
    | [] => none

/-- A given number of hexadecimal digits, and what follows them. -/
def readDigits (f : Flags) : Nat → List Char → List Char → Option (List Char × List Char)
  | 0, cs, done => some (done.reverse, cs)
  | n + 1, cs, done =>
    match cs with
    | c :: rest =>
      if (Json.hexValue? c).isSome then readDigits f n (f.skip rest) (c :: done) else none
    | [] => none

/-- The character with a code in hexadecimal digits. -/
def charOfHex? (digits : List Char) : Option Char :=
  if digits.isEmpty then none
  else
    let significant := digits.dropWhile (· = '0')
    if 8 < significant.length then none
    else (Json.hexNumber? significant).bind Json.scalar?

/-- A character by its code: digits in braces, or exactly `count` digits. Outside of Unicode text two digits are a
byte, which is a character only in ASCII. -/
def readHex (f : Flags) (count : Nat) (cs : List Char) : Option (Escape × List Char) :=
  match f.skip cs with
  | '\x7b' :: rest => do
    let (digits, rest) ← readBraced f (rest.length + 1) rest []
    return (.literal (← charOfHex? digits), rest)
  | cs => do
    let (digits, rest) ← readDigits f count cs []
    let c ← charOfHex? digits
    guard (f.unicode || count ≠ 2 || c.toNat < 128)
    return (.literal c, rest)

/-! ## Classes -/

/-- The decimal digits of all scripts, or of ASCII. -/
def digitSet (f : Flags) : CharSet :=
  .ranges (if f.unicode then Unicode.Category.decimalNumber else .ofLines ["30-39"])

/-- The blank characters, or those of ASCII. -/
def spaceSet (f : Flags) : CharSet :=
  .ranges (if f.unicode then Unicode.Property.whiteSpace else .ofLines ["9-D 20"])

/-- The word characters, or those of ASCII. -/
def wordSet (f : Flags) : CharSet :=
  .ranges (if f.unicode then Unicode.Property.word else .ofLines ["30-39 41-5A 5F 61-7A"])

/-- The complement of a set, which has no meaning for ASCII sets. -/
def negate? (f : Flags) (s : CharSet) : Option CharSet :=
  if f.unicode then some (.complement s) else none

/-- The class that a letter stands for. -/
def letterClass? (f : Flags) : Char → Option CharSet
  | 'd' => some (digitSet f)
  | 's' => some (spaceSet f)
  | 'w' => some (wordSet f)
  | 'D' => negate? f (digitSet f)
  | 'S' => negate? f (spaceSet f)
  | 'W' => negate? f (wordSet f)
  | _ => none

/-- A name as properties are looked up: in lower case, without separators and without `is` in front. -/
def normalName (name : List Char) : String :=
  let lower := name.map Char.toLower
  let dropped := if ['i', 's'].isPrefixOf lower then lower.drop 2 else lower
  let kept := dropped.filter fun c => c ≠ ' ' ∧ c ≠ '_' ∧ c ≠ '-' ∧ c.toNat < 128
  String.ofList (if kept = ['c'] ∧ dropped.length < lower.length then ['i', 's', 'c'] else kept)

/-- The set of a general category. -/
def categorySet? (name : String) : Option CharSet :=
  (Unicode.Category.named? name).map fun (tables, negated) =>
    (CharSet.ofTables tables).negate negated

/-- The set of a script. -/
def scriptSet? (name : String) : Option CharSet := (Unicode.Script.named? name).map .ranges

/-- The set of a property, a general category or a script, looked up in this order. Three names that could
also be those of properties are not looked up there. -/
def propertySet? (name : String) : Option CharSet :=
  let property :=
    if name = "cf" ∨ name = "sc" ∨ name = "lc" then none
    else (Unicode.Property.named? name).map .ranges
  property <|> categorySet? name <|> scriptSet? name

/-- The set of the characters that are used in a script, of whatever script they are. -/
def extensionSet? (name : String) : Option CharSet :=
  (Unicode.Script.find? name).map fun e =>
    .union (.minus (.ranges e.table) (.ofTables Unicode.Script.sharedTables)) (.ofTables e.sharedTables)

/-- The set of a property with a value. -/
def valueSet? (property value : String) : Option CharSet :=
  match property with
  | "gc" | "generalcategory" => categorySet? value
  | "sc" | "script" => scriptSet? value
  | "scx" | "scriptextensions" => extensionSet? value
  | "age" => (Unicode.Age.upTo? value).map .ofTables
  | "gcb" | "graphemeclusterbreak" => graphemeBreak? value
  | "wb" | "wordbreak" => wordBreak? value
  | "sb" | "sentencebreak" => sentenceBreak? value
  | _ => none

/-- The text before and after the first place where `mark` stands. -/
def cutAt? (mark : List Char) : List Char → Option (List Char × List Char)
  | [] => none
  | c :: rest =>
    if mark.isPrefixOf (c :: rest) then some ([], (c :: rest).drop mark.length)
    else (cutAt? mark rest).map fun (before, after) => (c :: before, after)

/-- The set that the text between the braces of a class names, and whether it is negated there. -/
def namedSet? (name : List Char) : Option (CharSet × Bool) :=
  match cutAt? ['!', '='] name with
  | some (property, value) => (valueSet? (normalName property) (normalName value)).map (·, true)
  | none =>
    match cutAt? [':'] name <|> cutAt? ['='] name with
    | some (property, value) => (valueSet? (normalName property) (normalName value)).map (·, false)
    | none => (propertySet? (normalName name)).map (·, false)

/-- The characters up to a closing brace, and what follows it. -/
def readName (f : Flags) : Nat → List Char → List Char → Option (List Char × List Char)
  | 0, _, _ => none
  | fuel + 1, cs, done =>
    match f.skip cs with
    | '\x7d' :: rest => some (done.reverse, rest)
    | c :: rest => readName f fuel rest (c :: done)
    | [] => none

/-- A class of characters with a property, after its `p` or `P`. -/
def readProperty (f : Flags) (negated : Bool) (cs : List Char) : Option (Escape × List Char) := do
  guard f.unicode
  let (name, rest) ← match f.skip cs with
    | '\x7b' :: rest => readName f (rest.length + 1) rest []
    | '\\' :: _ => none
    | c :: rest => some ([c], f.skip rest)
    | [] => none
  let (set, negatedInside) ← namedSet? name
  return (.set ((f.fold set).negate (negated != negatedInside)), rest)

/-! ## Conditions -/

/-- The condition between the braces after a word boundary. -/
def boundaryNamed? (f : Flags) (name : List Char) : Option Look :=
  match String.ofList name with
  | "start" => some (.wordStart f.unicode)
  | "end" => some (.wordEnd f.unicode)
  | "start-half" => some (.wordStartHalf f.unicode)
  | "end-half" => some (.wordEndHalf f.unicode)
  | _ => none

/-- Whether a character can stand in the name of a boundary. -/
def isBoundaryChar (c : Char) : Bool := c.isAlpha || c = '-'

/-- The characters of a boundary's name, and what follows them. -/
def readBoundaryName (f : Flags) : Nat → List Char → List Char → List Char × List Char
  | 0, cs, done => (done.reverse, cs)
  | fuel + 1, cs, done =>
    match cs with
    | c :: rest =>
      if isBoundaryChar c then readBoundaryName f fuel (f.skip rest) (c :: done)
      else (done.reverse, cs)
    | [] => (done.reverse, [])

/-- A word boundary, after its `b`. Braces that do not start with a name belong to a repetition. -/
def readBoundary (f : Flags) (cs : List Char) : Option (Escape × List Char) :=
  let plain := some (.look (.wordBoundary f.unicode), cs)
  match cs with
  | '\x7b' :: rest =>
    match f.skip rest with
    | [] => none
    | c :: more =>
      if isBoundaryChar c then
        match readBoundaryName f (more.length + 1) (c :: more) [] with
        | (name, '\x7d' :: after) => (boundaryNamed? f name).map fun look => (.look look, after)
        | _ => none
      else plain
  | _ => plain

/-! ## All escapes -/

/-- Whether a character with no meaning of its own may still be escaped: ASCII that is neither a letter nor
a digit, but for the two angles. -/
def isEscapable (c : Char) : Bool :=
  c.toNat < 128 && !c.isAlphanum && c ≠ '<' && c ≠ '>'

/-- The character or condition that one letter stands for. -/
def letterEscape? (f : Flags) : Char → Option Escape
  | 'a' => some (.literal '\x07')
  | 'f' => some (.literal '\x0c')
  | 't' => some (.literal '\t')
  | 'n' => some (.literal '\n')
  | 'r' => some (.literal '\r')
  | 'v' => some (.literal '\x0b')
  | 'A' => some (.look .textStart)
  | 'z' => some (.look .textEnd)
  | 'B' => some (.look (.notWordBoundary f.unicode))
  | '<' => some (.look (.wordStart f.unicode))
  | '>' => some (.look (.wordEnd f.unicode))
  | _ => none

/-- **What an escape stands for**, read after its backslash, and what follows it. -/
def readEscape (f : Flags) (cs : List Char) : Option (Escape × List Char) :=
  match cs with
  | [] => none
  | 'x' :: rest => readHex f 2 rest
  | 'u' :: rest => readHex f 4 rest
  | 'U' :: rest => readHex f 8 rest
  | 'p' :: rest => readProperty f false rest
  | 'P' :: rest => readProperty f true rest
  | 'b' :: rest => readBoundary f rest
  | c :: rest =>
    if ['d', 's', 'w', 'D', 'S', 'W'].contains c then (letterClass? f c).map fun s => (.set s, rest)
    else if isEscapable c then some (.literal c, rest)
    else (letterEscape? f c).map (·, rest)

end TermSearch.Regex
