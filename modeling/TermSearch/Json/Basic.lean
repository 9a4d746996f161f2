import TermSearch.KeyMap
import TermSearch.Number.Binary64

/-!
# JSON values

The values that documents, selectors and bound parameters are made of. A number is an integer or a
binary64 number, and the two kinds differ as values (`3` is not `3.0`) though they can have one
magnitude: `Number.toBinary64` is the common measure, `Json.same` the equality that tells them
apart. The members of an object are a map, so their keys ascend.
-/

namespace TermSearch

open Number (Binary64)

/-- A JSON number: an integer in the 64-bit range, signed or not, or a finite binary64 number. -/
inductive JsonNumber where
  | int (value : Int)
  | float (value : Binary64)
  deriving DecidableEq, Repr

namespace JsonNumber

/-- The binary64 number nearest to a number. -/
def toBinary64 : JsonNumber → Binary64
  | .int i => .ofInt i
  | .float x => x

/-- The order by magnitude, whatever the kinds. -/
def compare (x y : JsonNumber) : Ordering := x.toBinary64.compare y.toBinary64

/-- Equality within a kind; the two zeros are equal. -/
def same : JsonNumber → JsonNumber → Bool
  | .int i, .int j => i == j
  | .float x, .float y => x.sameValue y
  | _, _ => false

end JsonNumber

/-- A JSON value. -/
inductive Json where
  | null
  | bool (value : Bool)
  | number (value : JsonNumber)
  | string (value : String)
  | array (items : List Json)
  | object (fields : Entries Json none)
  deriving Repr, Inhabited

namespace Json

mutual

/-- Equality of values: kind by kind, numbers as `JsonNumber.same` has it. -/
def same : Json → Json → Bool
  | .null, .null => true
  | .bool a, .bool b => a == b
  | .number a, .number b => a.same b
  | .string a, .string b => a == b
  | .array a, .array b => sameItems a b
  | .object a, .object b => sameFields a b
  | _, _ => false

/-- Equality of two runs of values. -/
def sameItems : List Json → List Json → Bool
  | [], [] => true
  | a :: as, b :: bs => same a b && sameItems as bs
  | _, _ => false

/-- Equality of two runs of members. -/
def sameFields : {low low' : Option String} → Entries Json low → Entries Json low' → Bool
  | _, _, .nil, .nil => true
  | _, _, .cons k _ a as, .cons l _ b bs => k == l && same a b && sameFields as bs
  | _, _, _, _ => false

end

mutual

/-- How deeply containers are nested. -/
def depth : Json → Nat
  | .array items => itemsDepth items + 1
  | .object fields => fieldsDepth fields + 1
  | _ => 0

/-- The depth of the deepest item. -/
def itemsDepth : List Json → Nat
  | [] => 0
  | item :: items => max (depth item) (itemsDepth items)

/-- The depth of the deepest member. -/
def fieldsDepth : {low : Option String} → Entries Json low → Nat
  | _, .nil => 0
  | _, .cons _ _ value rest => max (depth value) (fieldsDepth rest)

end

/-- The members of an object. -/
def fields? : Json → Option (KeyMap Json)
  | .object fields => some fields
  | _ => none

/-- The items of an array. -/
def items? : Json → Option (List Json)
  | .array items => some items
  | _ => none

/-- The value is neither an array nor an object. -/
def IsScalar (value : Json) : Prop := value.items? = none ∧ value.fields? = none

/-- The text of a string. -/
def text? : Json → Option String
  | .string s => some s
  | _ => none

/-- The value of a boolean. -/
def bool? : Json → Option Bool
  | .bool b => some b
  | _ => none

/-- Whether the value is null. -/
def isNull : Json → Bool
  | .null => true
  | _ => false

/-- The member of an object with this key. -/
def member? (key : String) (value : Json) : Option Json :=
  value.fields?.bind (·.get? key)

/-- The object with these members. -/
def ofFields (entries : List (String × Json)) : Json := .object (KeyMap.ofList entries)

/-- The array of these texts. -/
def ofTexts (texts : List String) : Json := .array (texts.map .string)

/-- The integer as a value. -/
def ofNat (n : Nat) : Json := .number (.int n)

/-- A value that may be absent, null when it is. -/
def ofOption {α : Type} (f : α → Json) : Option α → Json
  | none => .null
  | some a => f a

end Json

end TermSearch
