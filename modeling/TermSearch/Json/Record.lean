import TermSearch.Json.Basic

/-!
# Records in JSON

A record is written as an object with a member for each field, or as an array with the fields in order. A
member that is no field is ignored; an array may end early but not have more items than there are fields.
One of several names is written as a string, or as an object whose only member has that name and the value
null.
-/

namespace TermSearch.Json

/-- The fields of a record, by name. -/
def record? (names : List String) : Json → Option (KeyMap Json)
  | .object fields => some fields
  | .array items =>
    if items.length ≤ names.length then some (KeyMap.ofList (names.zip items)) else none
  | _ => none

/-- The only member of an object. -/
def variant? : Json → Option (String × Json)
  | .object (.cons name _ value .nil) => some (name, value)
  | _ => none

/-- One of several names. -/
def choice? {α : Type} (ofName? : String → Option α) : Json → Option α
  | .string name => ofName? name
  | .object (.cons name _ .null .nil) => ofName? name
  | _ => none

/-- A text or null. -/
def optionalText? : Json → Option (Option String)
  | .null => some none
  | .string s => some (some s)
  | _ => none

end TermSearch.Json
