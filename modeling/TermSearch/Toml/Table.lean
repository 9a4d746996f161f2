/-!
# TOML tables

A document is a table of entries in the order they are written. How a table came about decides what may
still be added to it: one with a header of its own or in braces is closed, one that was only named on the way
to another may still get a header, and one that was made by a dotted key may be extended by dotted keys
alone. A list in brackets is closed too, while a list of tables grows by one table with every header in
double brackets.
-/

namespace TermSearch.Toml

/-- How a table came about. -/
inductive TableKind where
  /-- By a header of its own. -/
  | headed
  /-- On the way to the table of a header. -/
  | implied
  /-- By a dotted key. -/
  | dotted
  /-- In braces. -/
  | inline
  deriving DecidableEq, Repr

/-- A value of the kinds that this reader knows. -/
inductive Value where
  | text (s : String)
  | integer (i : Int)
  | boolean (b : Bool)
  | list (items : List Value)
  | table (kind : TableKind) (entries : List (String × Value))
  /-- The tables of headers in double brackets, newest first. -/
  | tables (items : List (List (String × Value)))
  deriving Repr

/-- The entries of a table. -/
abbrev Entries := List (String × Value)

namespace Entries

/-- The value of a key. -/
def get? (entries : Entries) (key : String) : Option Value :=
  (entries.find? (·.1 = key)).map (·.2)

/-- The entries with another value for a key, or with the key at the end if it is new. -/
def set (entries : Entries) (key : String) (value : Value) : Entries :=
  if entries.any (·.1 = key) then
    entries.map fun entry => if entry.1 = key then (key, value) else entry
  else entries ++ [(key, value)]

/-- The entries with a new one; a key stands only once. -/
def add? (entries : Entries) (key : String) (value : Value) : Option Entries :=
  if entries.any (·.1 = key) then none else some (entries ++ [(key, value)])

/-- The entries with a value under a dotted key. -/
def addDotted? : List String → Value → Entries → Option Entries
  | [], _, _ => none
  | [key], value, entries => entries.add? key value
  | key :: next :: rest, value, entries =>
    match entries.get? key with
    | none => (addDotted? (next :: rest) value []).map fun inner => entries.set key (.table .dotted inner)
    | some (.table .implied inner) =>
      (addDotted? (next :: rest) value inner).map fun inner => entries.set key (.table .implied inner)
    | some (.table .dotted inner) =>
      (addDotted? (next :: rest) value inner).map fun inner => entries.set key (.table .dotted inner)
    | some _ => none

/-- The entries after a header in single brackets. -/
def openTable? : List String → Entries → Option Entries
  | [], _ => none
  | [key], entries =>
    match entries.get? key with
    | none => some (entries.set key (.table .headed []))
    | some (.table .implied inner) => some (entries.set key (.table .headed inner))
    | some _ => none
  | key :: next :: rest, entries =>
    match entries.get? key with
    | none => (openTable? (next :: rest) []).map fun inner => entries.set key (.table .implied inner)
    | some (.table .inline _) => none
    | some (.table kind inner) =>
      (openTable? (next :: rest) inner).map fun inner => entries.set key (.table kind inner)
    | some (.tables (last :: before)) =>
      (openTable? (next :: rest) last).map fun last => entries.set key (.tables (last :: before))
    | some _ => none

/-- The entries after a header in double brackets. -/
def openItem? : List String → Entries → Option Entries
  | [], _ => none
  | [key], entries =>
    match entries.get? key with
    | none => some (entries.set key (.tables [[]]))
    | some (.tables items) => some (entries.set key (.tables ([] :: items)))
    | some _ => none
  | key :: next :: rest, entries =>
    match entries.get? key with
    | none => (openItem? (next :: rest) []).map fun inner => entries.set key (.table .implied inner)
    | some (.table .inline _) => none
    | some (.table kind inner) =>
      (openItem? (next :: rest) inner).map fun inner => entries.set key (.table kind inner)
    | some (.tables (last :: before)) =>
      (openItem? (next :: rest) last).map fun last => entries.set key (.tables (last :: before))
    | some _ => none

/-- The entries after a line `keys = value` below the header of the table at a path. -/
def addBelow? (keys : List String) (value : Value) : List String → Entries → Option Entries
  | [], entries => addDotted? keys value entries
  | key :: path, entries =>
    match entries.get? key with
    | some (.table kind inner) =>
      (addBelow? keys value path inner).map fun inner => entries.set key (.table kind inner)
    | some (.tables (last :: before)) =>
      (addBelow? keys value path last).map fun last => entries.set key (.tables (last :: before))
    | _ => none

end Entries

end TermSearch.Toml
