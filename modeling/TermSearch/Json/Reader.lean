import TermSearch.Json.Basic
import TermSearch.Number.Decimal

/-!
# Reading JSON text

Text is cut into tokens, and the tokens are read as one value. `Token.scan` ends because each token
takes at least one character. Reading a value ends because each step takes at least one token, so the
number of tokens bounds the depth of the recursion.

A number without fraction and exponent is an integer when it fits in 64 bits, signed or not; zero with
a minus sign is a binary64 number, as every other number is. Its significand keeps as many digits as
fit in 64 bits and is then scaled by one power of ten (`JsonNumber.scale?`), each step rounded on its
own.
-/

namespace TermSearch

open Number

/-! ## Numbers -/

namespace JsonNumber

/-- The first number that needs more than 64 bits. -/
def wordLimit : Nat := Nat.pow 2 64

/-- Digits appended to a significand for as long as it fits in 64 bits, and the digits left over. -/
def keepDigits : Nat → List Char → Nat × List Char
  | n, [] => (n, [])
  | n, c :: rest =>
    let next := 10 * n + (c.toNat - '0'.toNat)
    if next < wordLimit then keepDigits next rest else (n, c :: rest)

/-- Ten to a power as a binary64 number. -/
def powerOfTen (n : Nat) : Binary64 := ⟨false, Binary64.roundUnits (Nat.pow 10 n * Binary64.one) 1⟩

/-- A number divided by a power of ten, `10³⁰⁸` at a time and at most `fuel` times. -/
def scaleDown? : Nat → Binary64 → Nat → Option Binary64
  | 0, x, _ => some x
  | fuel + 1, x, n =>
    if n ≤ 308 then x.div? (powerOfTen n)
    else if x.units = 0 then some x
    else (x.div? (powerOfTen 308)).bind (scaleDown? fuel · (n - 308))

/-- A significand times a power of ten: the significand rounded, then one rounded product or
quotient, or several quotients for an exponent below `-308`. -/
def scale? (significand : Nat) (exponent : Int) : Option Binary64 :=
  let x : Binary64 := .ofInt significand
  if exponent < 0 then scaleDown? 4 x exponent.natAbs
  else if exponent.toNat ≤ 308 then x.mul? (powerOfTen exponent.toNat)
  else if significand = 0 then some x
  else none

/-- The number that a literal writes. -/
def read? (literal : List Char) : Option JsonNumber :=
  let (negative, unsigned) : Bool × List Char :=
    match literal with
    | '-' :: rest => (true, rest)
    | rest => (false, rest)
  let whole := unsigned.takeWhile isDigit
  let afterWhole := unsigned.dropWhile isDigit
  let (significand, dropped) := keepDigits 0 whole
  let signed (x : Binary64) : JsonNumber := .float (if negative then x.neg else x)
  if whole.isEmpty then none
  else if afterWhole.isEmpty then
    if !dropped.isEmpty then (scale? significand dropped.length).map signed
    else if !negative then some (.int significand)
    else if significand = 0 ∨ Nat.pow 2 63 < significand then some (signed (.ofInt significand))
    else some (.int (-significand))
  else
    let (point, fraction, afterFraction) : Bool × List Char × List Char :=
      match afterWhole with
      | '.' :: rest => (true, rest.takeWhile isDigit, rest.dropWhile isDigit)
      | rest => (false, [], rest)
    let (full, unused) := keepDigits significand fraction
    if point && fraction.isEmpty then none
    else
      let shift : Int := (dropped.length : Int) - ((fraction.length : Int) - unused.length)
      (readExponent? afterFraction).bind fun e => (scale? full (shift + e)).map signed

end JsonNumber

namespace Json

/-! ## Tokens -/

/-- A lexical unit of JSON text. -/
inductive Token where
  | openArray | closeArray | openObject | closeObject | comma | colon
  | null | true | false
  | string (value : String)
  | number (value : JsonNumber)

/-- The value of a hexadecimal digit. -/
def hexValue? (c : Char) : Option Nat :=
  if '0' ≤ c ∧ c ≤ '9' then some (c.toNat - '0'.toNat)
  else if 'a' ≤ c ∧ c ≤ 'f' then some (c.toNat - 'a'.toNat + 10)
  else if 'A' ≤ c ∧ c ≤ 'F' then some (c.toNat - 'A'.toNat + 10)
  else none

/-- The value of a run of hexadecimal digits. -/
def hexNumber? (cs : List Char) : Option Nat :=
  cs.foldlM (fun n c => (hexValue? c).map (16 * n + ·)) 0

/-- The character with a code point, if it is one. -/
def scalar? (n : Nat) : Option Char :=
  if n < 0xD800 ∨ (0xDFFF < n ∧ n ≤ 0x10FFFF) then some (Char.ofNat n) else none

/-- The character of a pair of surrogates. -/
def surrogatePair? (high low : Nat) : Option Char :=
  if 0xDC00 ≤ low ∧ low ≤ 0xDFFF then scalar? (0x10000 + (high - 0xD800) * 0x400 + (low - 0xDC00))
  else none

/-- The character that stands after a backslash for another one. -/
def letterEscape? : Char → Option Char
  | '"' => some '"'
  | '\\' => some '\\'
  | '/' => some '/'
  | 'b' => some '\x08'
  | 'f' => some '\x0c'
  | 'n' => some '\n'
  | 'r' => some '\r'
  | 't' => some '\t'
  | _ => none

/-- The content of a string literal, given the text after its opening mark, and what follows its
closing mark. -/
def readString? (cs : List Char) (done : List Char) : Option (String × List Char) :=
  match cs with
  | [] => none
  | '"' :: rest => some (String.ofList done.reverse, rest)
  | '\\' :: 'u' :: a :: b :: c :: d :: rest =>
    match hexNumber? [a, b, c, d] with
    | none => none
    | some unit =>
      if 0xD800 ≤ unit ∧ unit ≤ 0xDBFF then
        match rest with
        | '\\' :: 'u' :: e :: f :: g :: h :: after =>
          match (hexNumber? [e, f, g, h]).bind (surrogatePair? unit) with
          | some ch => readString? after (ch :: done)
          | none => none
        | _ => none
      else match scalar? unit with
        | some ch => readString? rest (ch :: done)
        | none => none
  | '\\' :: c :: rest =>
    match letterEscape? c with
    | some ch => readString? rest (ch :: done)
    | none => none
  | c :: rest => if c.toNat < 32 then none else readString? rest (c :: done)
termination_by cs.length
decreasing_by all_goals (simp_all; try omega)

/-- The rest of a string literal is shorter than the literal. -/
theorem readString?_length {cs done : List Char} {s : String} {rest : List Char}
    (h : readString? cs done = some (s, rest)) : rest.length < cs.length := by
  fun_induction readString? cs done <;> simp_all <;> omega

/-- Whether a character can stand in a number or in one of the three names. -/
def isLiteralChar (c : Char) : Bool :=
  c.isAlphanum || c = '-' || c = '+' || c = '.'

/-- The token that a run of literal characters writes. -/
def literal? (cs : List Char) : Option Token :=
  if cs = ['n', 'u', 'l', 'l'] then some .null
  else if cs = ['t', 'r', 'u', 'e'] then some .true
  else if cs = ['f', 'a', 'l', 's', 'e'] then some .false
  else (JsonNumber.read? cs).map .number

/-- The token that a punctuation mark writes. -/
def punctuation? : Char → Option Token
  | '[' => some .openArray
  | ']' => some .closeArray
  | '\x7b' => some .openObject
  | '\x7d' => some .closeObject
  | ',' => some .comma
  | ':' => some .colon
  | _ => none

/-- Whether a character may stand between tokens. -/
def isSpace (c : Char) : Bool := c = ' ' || c = '\n' || c = '\r' || c = '\t'

theorem length_dropWhile_le (p : Char → Bool) (cs : List Char) :
    (cs.dropWhile p).length ≤ cs.length :=
  (List.dropWhile_sublist p).length_le

/-- The tokens of a text. -/
def Token.scan (cs : List Char) (done : List Token) : Option (List Token) :=
  match cs with
  | [] => some done.reverse
  | c :: rest =>
    if isSpace c then Token.scan rest done
    else if c = '"' then
      match h : readString? rest [] with
      | none => none
      | some (s, after) =>
        have := readString?_length h
        Token.scan after (.string s :: done)
    else match punctuation? c with
      | some token => Token.scan rest (token :: done)
      | none =>
        if isLiteralChar c then
          have := length_dropWhile_le isLiteralChar rest
          match literal? (c :: rest.takeWhile isLiteralChar) with
          | some token => Token.scan (rest.dropWhile isLiteralChar) (token :: done)
          | none => none
        else none
termination_by cs.length
decreasing_by all_goals (simp_all; try omega)

/-! ## Values -/

mutual

/-- The value at the front of the tokens, and the tokens after it. -/
def readValue? : Nat → List Token → Option (Json × List Token)
  | 0, _ => none
  | fuel + 1, tokens =>
    match tokens with
    | .null :: rest => some (.null, rest)
    | .true :: rest => some (.bool true, rest)
    | .false :: rest => some (.bool false, rest)
    | .string s :: rest => some (.string s, rest)
    | .number n :: rest => some (.number n, rest)
    | .openArray :: .closeArray :: rest => some (.array [], rest)
    | .openArray :: rest => readItems? fuel rest []
    | .openObject :: .closeObject :: rest => some (.object .nil, rest)
    | .openObject :: rest => readFields? fuel rest .nil
    | _ => none

/-- The array whose items up to here are `done`, newest first. -/
def readItems? : Nat → List Token → List Json → Option (Json × List Token)
  | 0, _, _ => none
  | fuel + 1, tokens, done =>
    match readValue? fuel tokens with
    | some (item, .comma :: rest) => readItems? fuel rest (item :: done)
    | some (item, .closeArray :: rest) => some (.array (item :: done).reverse, rest)
    | _ => none

/-- The object whose members up to here are `done`. -/
def readFields? : Nat → List Token → KeyMap Json → Option (Json × List Token)
  | 0, _, _ => none
  | fuel + 1, tokens, done =>
    match tokens with
    | .string key :: .colon :: rest =>
      match readValue? fuel rest with
      | some (value, .comma :: rest) => readFields? fuel rest (KeyMap.insert key value done)
      | some (value, .closeObject :: rest) => some (.object (KeyMap.insert key value done), rest)
      | _ => none
    | _ => none

end

/-- The value that a whole text writes. -/
def parse? (text : String) : Option Json :=
  match Token.scan text.toList [] with
  | none => none
  | some tokens =>
    match readValue? (tokens.length + 1) tokens with
    | some (value, []) => some value
    | _ => none

end Json

end TermSearch
