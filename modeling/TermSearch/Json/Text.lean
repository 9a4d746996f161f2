import TermSearch.Json.Basic
import TermSearch.Number.Shortest

/-!
# Compact text of JSON values

Values are written without blanks, members in key order. In a string the quotation mark, the
backslash and the characters below the blank are escaped, the usual five of these by a letter and the
others by four hexadecimal digits; everything else stands as it is. An integer is written without a
point and a binary64 number always with a point or an exponent, so the text tells the kinds apart.
-/

namespace TermSearch

/-- The text of a number. -/
def JsonNumber.render : JsonNumber → String
  | .int (.ofNat n) => Nat.repr n
  | .int (.negSucc n) => "-" ++ Nat.repr (n + 1)
  | .float x => x.toText

namespace Json

/-- The lower-case hexadecimal digit of a value below sixteen. -/
def hexDigit (n : Nat) : Char :=
  if n < 10 then Char.ofNat ('0'.toNat + n) else Char.ofNat ('a'.toNat + n - 10)

/-- How one character is written inside a string. -/
def escapeChar (c : Char) : List Char :=
  if c = '"' then ['\\', '"']
  else if c = '\\' then ['\\', '\\']
  else if c = '\n' then ['\\', 'n']
  else if c = '\r' then ['\\', 'r']
  else if c = '\t' then ['\\', 't']
  else if c.toNat = 8 then ['\\', 'b']
  else if c.toNat = 12 then ['\\', 'f']
  else if c.toNat < 32 then ['\\', 'u', '0', '0', hexDigit (c.toNat / 16), hexDigit (c.toNat % 16)]
  else [c]

/-- A text as a string literal. -/
def quoteText (s : String) : String :=
  String.ofList ('"' :: (s.toList.flatMap escapeChar ++ ['"']))

mutual

/-- The compact text of a value. -/
def render : Json → String
  | .null => "null"
  | .bool true => "true"
  | .bool false => "false"
  | .number n => n.render
  | .string s => quoteText s
  | .array items => "[" ++ String.intercalate "," (renderItems items) ++ "]"
  | .object fields => "\x7b" ++ String.intercalate "," (renderFields fields) ++ "\x7d"

/-- The texts of the items of an array. -/
def renderItems : List Json → List String
  | [] => []
  | item :: items => render item :: renderItems items

/-- The texts of the members of an object. -/
def renderFields : {low : Option String} → Entries Json low → List String
  | _, .nil => []
  | _, .cons key _ value rest => (quoteText key ++ ":" ++ render value) :: renderFields rest

end

end Json

end TermSearch
