import TermSearch.Json.Reader
import TermSearch.Toml.Table

/-!
# Reading TOML

A document is read line by line: a header, a key with a value, or nothing, each with a comment behind it if need
be. Values are text, integers, truth values, lists and tables; a document with numbers that are no integers or with
dates is refused, since nothing that is declared in TOML here is of these kinds. Integers have to fit in 64 bits.

Every function that calls itself on what a value left is bounded by the length of the text.
-/

namespace TermSearch.Toml

/-! ## Blanks and comments -/

/-- Whether a character separates within a line. -/
def isSpace (c : Char) : Bool := c = ' ' || c = '\t'

/-- The text without the blanks at its front. -/
def skipSpace (cs : List Char) : List Char := cs.dropWhile isSpace

/-- Whether a character may stand in comments and text of one line. -/
def isPrintable (c : Char) : Bool := c = '\t' || (32 ≤ c.toNat && c.toNat ≠ 127)

/-- The text after a comment. -/
def skipComment : List Char → List Char
  | '#' :: rest => rest.dropWhile isPrintable
  | cs => cs

/-- The text after a line's end; the end of the text ends its last line. -/
def endLine? : List Char → Option (List Char)
  | [] => some []
  | '\n' :: rest => some rest
  | '\r' :: '\n' :: rest => some rest
  | _ => none

/-- The text after the blanks, comments and line ends that may stand inside brackets. -/
def skipLines : Nat → List Char → Option (List Char)
  | 0, cs => some cs
  | fuel + 1, cs =>
    match skipComment (skipSpace cs) with
    | '\n' :: rest => skipLines fuel rest
    | '\r' :: '\n' :: rest => skipLines fuel rest
    | '\r' :: _ => none
    | rest => if (skipSpace cs).head? = some '#' ∧ !rest.isEmpty then none else some rest

/-! ## Text -/

/-- The character that a letter after a backslash stands for. -/
def letterEscape? : Char → Option Char
  | 'b' => some '\x08'
  | 't' => some '\t'
  | 'n' => some '\n'
  | 'f' => some '\x0c'
  | 'r' => some '\r'
  | 'e' => some '\x1b'
  | '"' => some '"'
  | '\\' => some '\\'
  | _ => none

/-- The character that a code of a given number of digits stands for, and what follows the code. -/
def codeEscape? (count : Nat) (cs : List Char) : Option (Char × List Char) := do
  let digits := cs.take count
  guard (digits.length = count)
  let code ← Json.hexNumber? digits
  let c ← Json.scalar? code
  return (c, cs.drop count)

/-- The character that an escape stands for, read after its backslash, and what follows it. -/
def readEscape? : List Char → Option (Char × List Char)
  | 'x' :: rest => codeEscape? 2 rest
  | 'u' :: rest => codeEscape? 4 rest
  | 'U' :: rest => codeEscape? 8 rest
  | c :: rest => (letterEscape? c).map (·, rest)
  | [] => none

/-- The text up to a quotation mark on the same line, and what follows the mark. -/
def readBasic : Nat → List Char → List Char → Option (String × List Char)
  | 0, _, _ => none
  | fuel + 1, cs, done =>
    match cs with
    | '"' :: rest => some (String.ofList done.reverse, rest)
    | '\\' :: rest => (readEscape? rest).bind fun (c, rest) => readBasic fuel rest (c :: done)
    | c :: rest => if isPrintable c then readBasic fuel rest (c :: done) else none
    | [] => none

/-- The text up to an apostrophe on the same line, and what follows it. -/
def readLiteral (cs : List Char) : Option (String × List Char) :=
  let body := cs.takeWhile fun c => isPrintable c && c ≠ '\''
  match cs.drop body.length with
  | '\'' :: rest => some (String.ofList body, rest)
  | _ => none

/-- The text without the line end that directly follows three opening marks. -/
def dropFirstLineEnd : List Char → List Char
  | '\n' :: rest => rest
  | '\r' :: '\n' :: rest => rest
  | cs => cs

/-- Three closing marks at the front of a text: up to two more marks in front of them belong to the
content. -/
def closing? (mark : Char) (cs : List Char) : Option (List Char × List Char) :=
  let marks := (cs.takeWhile (· = mark)).length
  if marks < 3 then none
  else
    let extra := min (marks - 3) 2
    some (List.replicate extra mark, cs.drop (extra + 3))

/-- The text up to three quotation marks, and what follows them. A backslash at the end of a line takes the
line end with it and all blanks up to the next character. -/
def readLongBasic : Nat → List Char → List Char → Option (String × List Char)
  | 0, _, _ => none
  | fuel + 1, cs, done =>
    match closing? '"' cs with
    | some (extra, rest) => some (String.ofList (done.reverse ++ extra), rest)
    | none =>
      match cs with
      | '\\' :: rest =>
        match skipSpace rest with
        | '\n' :: more => readLongBasic fuel (dropBlankLines fuel more) done
        | '\r' :: '\n' :: more => readLongBasic fuel (dropBlankLines fuel more) done
        | _ => (readEscape? rest).bind fun (c, rest) => readLongBasic fuel rest (c :: done)
      | '\r' :: '\n' :: rest => readLongBasic fuel rest ('\n' :: done)
      | c :: rest => if isPrintable c || c = '\n' then readLongBasic fuel rest (c :: done) else none
      | [] => none
where
  /-- The text without the blanks and line ends at its front. -/
  dropBlankLines : Nat → List Char → List Char
    | 0, cs => cs
    | fuel + 1, cs =>
      match skipSpace cs with
      | '\n' :: rest => dropBlankLines fuel rest
      | '\r' :: '\n' :: rest => dropBlankLines fuel rest
      | rest => rest

/-- The text up to three apostrophes, and what follows them. -/
def readLongLiteral : Nat → List Char → List Char → Option (String × List Char)
  | 0, _, _ => none
  | fuel + 1, cs, done =>
    match closing? '\'' cs with
    | some (extra, rest) => some (String.ofList (done.reverse ++ extra), rest)
    | none =>
      match cs with
      | '\r' :: '\n' :: rest => readLongLiteral fuel rest ('\n' :: done)
      | c :: rest => if isPrintable c || c = '\n' then readLongLiteral fuel rest (c :: done) else none
      | [] => none

/-- A text in any of the four ways to quote it, and what follows it. -/
def readText : List Char → Option (String × List Char)
  | '"' :: '"' :: '"' :: rest => readLongBasic (rest.length + 1) (dropFirstLineEnd rest) []
  | '\'' :: '\'' :: '\'' :: rest => readLongLiteral (rest.length + 1) (dropFirstLineEnd rest) []
  | '"' :: rest => readBasic (rest.length + 1) rest []
  | '\'' :: rest => readLiteral rest
  | _ => none

/-! ## Integers and truth values -/

/-- The digits of a number without the underscores, each of which stands between two digits. -/
def plainDigits? : List Char → Option (List Char)
  | [] => none
  | [c] => if c = '_' then none else some [c]
  | c :: '_' :: rest => if c = '_' then none else (plainDigits? rest).map (c :: ·)
  | c :: rest => if c = '_' then none else (plainDigits? rest).map (c :: ·)

/-- The number of digits in a base. -/
def numberInBase? (base : Nat) (cs : List Char) : Option Nat := do
  (← plainDigits? cs).foldlM (fun n c => do
    let d ← Json.hexValue? c
    guard (d < base)
    return base * n + d) 0

/-- The number of decimal digits, without zeros in front. -/
def decimal? (cs : List Char) : Option Nat :=
  if 1 < cs.length ∧ cs.head? = some '0' then none else numberInBase? 10 cs

/-- The integer that a word writes. -/
def integer? (word : List Char) : Option Int := do
  let i : Int ← match word with
    | '0' :: 'x' :: digits => (numberInBase? 16 digits).map Int.ofNat
    | '0' :: 'o' :: digits => (numberInBase? 8 digits).map Int.ofNat
    | '0' :: 'b' :: digits => (numberInBase? 2 digits).map Int.ofNat
    | '+' :: digits => (decimal? digits).map Int.ofNat
    | '-' :: digits => (decimal? digits).map fun n => -(n : Int)
    | digits => (decimal? digits).map Int.ofNat
  guard (-(Nat.pow 2 63 : Int) ≤ i ∧ i < (Nat.pow 2 63 : Int))
  return i

/-- Whether a character can stand in a value without quotation marks. -/
def isWordChar (c : Char) : Bool := c.isAlphanum || c = '_' || c = '-' || c = '+' || c = '.' || c = ':'

/-- The value of a word. -/
def wordValue? (word : List Char) : Option Value :=
  if word = ['t', 'r', 'u', 'e'] then some (.boolean true)
  else if word = ['f', 'a', 'l', 's', 'e'] then some (.boolean false)
  else (integer? word).map .integer

/-! ## Keys -/

/-- Whether a character can stand in a key without quotation marks. -/
def isKeyChar (c : Char) : Bool := c.isAlphanum || c = '_' || c = '-'

/-- One part of a key, and what follows it. -/
def readKeyPart : List Char → Option (String × List Char)
  | '"' :: rest => readBasic (rest.length + 1) rest []
  | '\'' :: rest => readLiteral rest
  | cs =>
    let part := cs.takeWhile isKeyChar
    if part.isEmpty then none else some (String.ofList part, cs.dropWhile isKeyChar)

/-- A dotted key with blanks around its parts, and what follows it. -/
def readKey : Nat → List Char → Option (List String × List Char)
  | 0, _ => none
  | fuel + 1, cs => do
    let (part, rest) ← readKeyPart (skipSpace cs)
    match skipSpace rest with
    | '.' :: rest =>
      let (parts, rest) ← readKey fuel rest
      return (part :: parts, rest)
    | rest => return ([part], rest)

/-! ## Values -/

mutual

/-- A value, and what follows it. -/
def readValue : Nat → List Char → Option (Value × List Char)
  | 0, _ => none
  | fuel + 1, cs =>
    match cs with
    | '"' :: _ => (readText cs).map fun (s, rest) => (.text s, rest)
    | '\'' :: _ => (readText cs).map fun (s, rest) => (.text s, rest)
    | '[' :: rest => readItems fuel rest []
    | '\x7b' :: rest => readPairs fuel rest []
    | cs => (wordValue? (cs.takeWhile isWordChar)).map (·, cs.dropWhile isWordChar)

/-- The items of a list up to its closing bracket; `done` are those read, newest first. -/
def readItems : Nat → List Char → List Value → Option (Value × List Char)
  | 0, _, _ => none
  | fuel + 1, cs, done =>
    match skipLines cs.length cs with
    | none => none
    | some (']' :: rest) => some (.list done.reverse, rest)
    | some cs =>
      match readValue fuel cs with
      | none => none
      | some (item, rest) =>
        match skipLines rest.length rest with
        | some (',' :: rest) => readItems fuel rest (item :: done)
        | some (']' :: rest) => some (.list (item :: done).reverse, rest)
        | _ => none

/-- The entries of a table up to its closing brace. -/
def readPairs : Nat → List Char → Entries → Option (Value × List Char)
  | 0, _, _ => none
  | fuel + 1, cs, done =>
    match skipLines cs.length cs with
    | none => none
    | some ('\x7d' :: rest) => some (.table .inline done, rest)
    | some cs =>
      match readKey (cs.length + 1) cs with
      | some (keys, '=' :: rest) =>
        match readValue fuel (skipSpace rest) with
        | none => none
        | some (value, rest) =>
          match done.addDotted? keys value with
          | none => none
          | some done =>
            match skipLines rest.length rest with
            | some (',' :: rest) => readPairs fuel rest done
            | some ('\x7d' :: rest) => some (.table .inline done, rest)
            | _ => none
      | _ => none

end

/-! ## Documents -/

/-- What has been read: the entries of the document, and the path of the last header. -/
structure Reading where
  entries : Entries
  path : List String

/-- One line's content, and what follows it on the line. -/
def readLine (r : Reading) (cs : List Char) : Option (Reading × List Char) :=
  match cs with
  | '[' :: '[' :: rest => do
    let (keys, rest) ← readKey (rest.length + 1) rest
    match rest with
    | ']' :: ']' :: rest => return ({ entries := ← r.entries.openItem? keys, path := keys }, rest)
    | _ => none
  | '[' :: rest => do
    let (keys, rest) ← readKey (rest.length + 1) rest
    match rest with
    | ']' :: rest => return ({ entries := ← r.entries.openTable? keys, path := keys }, rest)
    | _ => none
  | cs => do
    let (keys, rest) ← readKey (cs.length + 1) cs
    match rest with
    | '=' :: rest =>
      let (value, rest) ← readValue (rest.length + 1) (skipSpace rest)
      return ({ r with entries := ← r.entries.addBelow? keys value r.path }, rest)
    | _ => none

/-- The lines of a document. -/
def readLines : Nat → Reading → List Char → Option Entries
  | 0, _, _ => none
  | fuel + 1, r, cs =>
    match skipSpace cs with
    | [] => some r.entries
    | c :: rest =>
      if c = '#' ∨ c = '\n' ∨ c = '\r' then
        (endLine? (skipComment (c :: rest))).bind (readLines fuel r)
      else do
        let (r, rest) ← readLine r (c :: rest)
        let rest ← endLine? (skipComment (skipSpace rest))
        readLines fuel r rest

/-- **The entries of a document**, which may start with a byte order mark. -/
def parse? (text : String) : Option Entries :=
  let cs := match text.toList with
    | '\ufeff' :: rest => rest
    | cs => cs
  readLines (cs.length + 1) { entries := [], path := [] } cs

end TermSearch.Toml
