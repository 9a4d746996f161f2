import TermSearch.Json.Record
import TermSearch.Text.Split

/-!
# Connection settings

How a database is opened. Settings are read from a record that has to name the path; each other field has a
default. Two paths are the same when they have the same steps, so a closing slash and steps that stay in place
make no difference.
-/

namespace TermSearch.Sql

/-- The settings of a connection. -/
structure Config where
  /-- The database file. -/
  path : String
  /-- Whether changes are logged ahead of being made. -/
  walMode : Bool
  /-- Whether references between tables are enforced. -/
  foreignKeys : Bool
  /-- How long to wait for a locked database. -/
  busyTimeoutMs : Nat
  /-- The size of the page cache; a negative number counts kibibytes. -/
  cacheSize : Int
  /-- The size of the file's mapping into memory; zero turns it off. -/
  mmapSize : Nat
  deriving DecidableEq, Repr

namespace Config

/-- The path that stands for a database in memory. -/
def transientPath : String := ":memory:"

/-- The settings where nothing else is said. -/
def standard : Config where
  path := "burrow.db"
  walMode := true
  foreignKeys := true
  busyTimeoutMs := 5000
  cacheSize := -64000
  mmapSize := 0

/-- The standard settings for a file. -/
def ofPath (path : String) : Config := { standard with path }

/-- The settings for a database in memory. -/
def memory : Config := { standard with path := transientPath, walMode := false }

/-- Whether the database is kept in memory. -/
def isMemory (c : Config) : Bool := c.path = transientPath

/-! ## Paths -/

/-- The steps of a path, and whether it starts at the root. Empty steps and steps that stay in place are
left out; one of the latter is kept at the start of a relative path. -/
def pathSteps (path : String) : Bool × List (List Char) :=
  let parts := Text.splitOn '/' path.toList
  let moves := parts.filter fun p => p ≠ [] ∧ p ≠ ['.']
  if ['/'].isPrefixOf path.toList then (true, moves)
  else (false, if parts.head? = some ['.'] then ['.'] :: moves else moves)

/-- Whether two settings are the same. -/
def same (a b : Config) : Bool :=
  pathSteps a.path == pathSteps b.path && decide ({ a with path := "" } = { b with path := "" })

/-! ## As a record -/

/-- The fields of the record, in order. -/
def fieldNames : List String :=
  ["path", "wal_mode", "foreign_keys", "busy_timeout_ms", "cache_size", "mmap_size"]

/-- The natural number of a value that fits in so many bits. -/
def unsigned? (bits : Nat) : Json → Option Nat
  | .number (.int (.ofNat n)) => if n < Nat.pow 2 bits then some n else none
  | _ => none

/-- The integer of a value that fits in so many bits, one of which is the sign. -/
def signed? (bits : Nat) : Json → Option Int
  | .number (.int i) =>
    let bound : Int := Nat.pow 2 (bits - 1)
    if -bound ≤ i ∧ i < bound then some i else none
  | _ => none

/-- The settings of a record. -/
def ofJson? (value : Json) : Option Config := do
  let fields ← value.record? fieldNames
  let optional {α : Type} (name : String) (read? : Json → Option α) (default : α) : Option α :=
    (fields.get? name).elim (some default) read?
  return {
    path := ← (← fields.get? "path").text?
    walMode := ← optional "wal_mode" Json.bool? standard.walMode
    foreignKeys := ← optional "foreign_keys" Json.bool? standard.foreignKeys
    busyTimeoutMs := ← optional "busy_timeout_ms" (unsigned? 32) standard.busyTimeoutMs
    cacheSize := ← optional "cache_size" (signed? 64) standard.cacheSize
    mmapSize := ← optional "mmap_size" (unsigned? 64) standard.mmapSize }

/-- The settings as a record. -/
def toJson (c : Config) : Json :=
  .ofFields [("path", .string c.path), ("wal_mode", .bool c.walMode),
    ("foreign_keys", .bool c.foreignKeys), ("busy_timeout_ms", .ofNat c.busyTimeoutMs),
    ("cache_size", .number (.int c.cacheSize)), ("mmap_size", .ofNat c.mmapSize)]

end Config

end TermSearch.Sql
