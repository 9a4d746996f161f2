import TermSearch.Json.Basic
import TermSearch.Number.Decimal
import TermSearch.Text.Split

/-!
# Paths into documents

A dotted path leads from a document to the values found at it. An object is left through the member of a
segment's name, an array through the item of a segment's number, or, when the segment is no number, through the
member of that name of each item. An array that a path ends at is found together with its items.

`pointed?` follows a path to one place only: through an array it needs the number of an item.
-/

namespace TermSearch.Document

open Number (isDigit digitsValue)

/-- The index that a segment writes: digits, perhaps after a plus sign, for a number below `2 ^ 64`. -/
def index? (segment : String) : Option Nat :=
  let digits := match segment.toList with
    | '+' :: rest => rest
    | cs => cs
  if digits.isEmpty || !digits.all isDigit then none
  else if digitsValue digits < Nat.pow 2 64 then some (digitsValue digits) else none

/-- The values that one segment leads to from a value. -/
def follow (segment : String) : Json → List Json
  | .object fields => (fields.get? segment).toList
  | .array items =>
    match index? segment with
    | some i => items[i]?.toList
    | none => items.filterMap (·.member? segment)
  | _ => []

/-- The values that the segments of a path lead to, level by level. -/
def reach (segments : List String) (values : List Json) : List Json :=
  segments.foldl (fun level segment => level.flatMap (follow segment)) values

/-- A value found, and its items if it is an array. -/
def expand (value : Json) : List Json := value :: value.items?.getD []

/-- **The values found at a path.** -/
def resolve (document : Json) (path : String) : List Json :=
  (reach (Text.segments path) [document]).flatMap expand

/-! ## Single places -/

/-- The index that a segment writes exactly: without a sign and without zeros in front. -/
def plainIndex? (segment : String) : Option Nat :=
  match segment.toList with
  | '+' :: _ => none
  | '0' :: _ :: _ => none
  | _ => index? segment

/-- The value in the one place that a segment names. -/
def step? (segment : String) : Json → Option Json
  | .object fields => fields.get? segment
  | .array items => (plainIndex? segment).bind fun i => items[i]?
  | _ => none

/-- The value in the one place that a path names. -/
def pointed? (document : Json) (path : String) : Option Json :=
  (Text.segments path).foldlM (fun value segment => step? segment value) document

end TermSearch.Document
