import TermSearch.Json.Basic
import TermSearch.Number.Decimal
import TermSearch.Text.Blank

/-!
# Stored values against wanted ones

A stored value is compared with one from a selector, which often comes from the text of a search. Numbers are
compared by magnitude, whatever their kinds, and a wanted text is read as the kind that is stored: as a number
beside a number, as a truth value beside one. A stored text is only ever compared as text.
-/

namespace TermSearch.Document

open Number (Binary64)

/-- The number that a text writes, blanks around it aside. -/
def readNumber? (text : String) : Option Binary64 := Binary64.ofText? (Text.trim text)

/-- The truth value that a text names, in any ASCII case and blanks around it aside. -/
def readBool? (text : String) : Option Bool :=
  match String.ofList ((Text.trim text).toList.map Char.toLower) with
  | "true" => some true
  | "false" => some false
  | _ => none

/-- Whether a stored value equals a wanted one. -/
def equalValues : Json → Json → Bool
  | .number x, .number y => x.toBinary64.sameValue y.toBinary64
  | .number x, .string text => (readNumber? text).any x.toBinary64.sameValue
  | .bool b, .string text => readBool? text == some b
  | found, wanted => found.same wanted

/-- The order of truth values: the false one first. -/
def compareBools : Bool → Bool → Ordering
  | false, true => .lt
  | true, false => .gt
  | _, _ => .eq

/-- The order of a stored value and a wanted one, if they can be ordered. -/
def valueOrder? : Json → Json → Option Ordering
  | .number x, .number y => some (x.compare y)
  | .number x, .string text => (readNumber? text).map x.toBinary64.compare
  | .string x, .string y => some (Ord.compare x y)
  | .bool x, .bool y => some (compareBools x y)
  | _, _ => none

end TermSearch.Document
