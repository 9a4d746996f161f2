import TermSearch.Definition.Basic
import TermSearch.Json.Basic
import TermSearch.Toml.Reader

/-!
# Surfaces

A surface says in TOML what a search may ask for: the fields that are permitted, other names for fields, and the
entries that search in fields. `Surface.read?` takes a document only if each key is known and of its kind, and
`Surface.apply` declares on a draft what the surface says: first the permitted fields, then the names in key
order, then the entries in turn.
-/

namespace TermSearch

/-- How an entry searches in its fields. -/
inductive EntryKind where
  /-- By its own field if the term has one, else by any of the fields. -/
  | inFields
  | anyOf
  | allOf
  /-- By the term's own field only. -/
  | specific
  deriving DecidableEq, Repr

namespace EntryKind

/-- All kinds. -/
def all : List EntryKind := [.inFields, .anyOf, .allOf, .specific]

/-- The name of a kind. -/
def name : EntryKind → String
  | .inFields => "in"
  | .anyOf => "any_of"
  | .allOf => "all_of"
  | .specific => "specific"

/-- The kind with a name. -/
def ofName? (name : String) : Option EntryKind := all.find? (·.name = name)

end EntryKind

/-- One entry that searches in fields. -/
structure SurfaceEntry where
  kind : EntryKind
  fields : List String
  /-- The field that a term has to carry for it to be spread over the fields. -/
  field : Option String
  /-- Whether the term is used up. -/
  consume : Bool
  rank : Int
  deriving DecidableEq, Repr

/-- What a search may ask for. -/
structure Surface where
  /-- The fields that terms may carry; none listed means any. -/
  permit : List String
  /-- Other names of fields. -/
  aliases : KeyMap String
  search : List SurfaceEntry
  deriving DecidableEq, Repr

/-- The surface that says nothing. -/
def Surface.empty : Surface := { permit := [], aliases := .nil, search := [] }

/-! ## Reading -/

namespace Toml.Value

/-- The text of a value. -/
def text? : Value → Option String
  | .text s => some s
  | _ => none

/-- The truth value of a value. -/
def boolean? : Value → Option Bool
  | .boolean b => some b
  | _ => none

/-- The integer of a value. -/
def integer? : Value → Option Int
  | .integer i => some i
  | _ => none

/-- The entries of a table. -/
def entries? : Value → Option Entries
  | .table _ entries => some entries
  | _ => none

/-- The items of a list, written in brackets or as headed tables. -/
def items? : Value → Option (List Value)
  | .list items => some items
  | .tables items => some (items.reverse.map (.table .headed))
  | _ => none

/-- Whether a value is a list or a table without content. -/
def isHollow : Value → Bool
  | .list [] => true
  | .table _ [] => true
  | _ => false

/-- The texts of a list. -/
def texts? (v : Value) : Option (List String) := v.items?.bind (·.mapM text?)

end Toml.Value

namespace SurfaceEntry

/-- The fields of an entry, in the order a list gives them. -/
def fieldNames : List String := ["kind", "fields", "field", "consume", "rank"]

/-- A kind by its name, or as a table whose only key is the name. -/
def kind? : Toml.Value → Option EntryKind
  | .text name => EntryKind.ofName? name
  | .table _ [(name, content)] => if content.isHollow then EntryKind.ofName? name else none
  | _ => none

/-- The entry of a table, all of whose keys have to be known, or of a list of its fields in order. -/
def ofValue? (v : Toml.Value) : Option SurfaceEntry := do
  let entries : Toml.Entries ← match v with
    | .table _ entries => if entries.all (fieldNames.contains ·.1) then some entries else none
    | v => v.items?.map fieldNames.zip
  let optional {α : Type} (name : String) (read? : Toml.Value → Option α) (default : α) : Option α :=
    (entries.get? name).elim (some default) read?
  return {
    kind := ← (entries.get? "kind").bind kind?
    fields := ← (entries.get? "fields").bind Toml.Value.texts?
    field := ← optional "field" (fun v => v.text?.map some) none
    consume := ← optional "consume" Toml.Value.boolean? true
    rank := ← optional "rank" Toml.Value.integer? 0 }

end SurfaceEntry

namespace Surface

/-- **The surface that a document writes.** -/
def read? (toml : String) : Option Surface := do
  let entries ← Toml.parse? toml
  guard (entries.all (["permit", "aliases", "search"].contains ·.1))
  let optional {α : Type} (name : String) (read? : Toml.Value → Option α) (default : α) : Option α :=
    (entries.get? name).elim (some default) read?
  let aliases ← optional "aliases" Toml.Value.entries? []
  return {
    permit := ← optional "permit" Toml.Value.texts? []
    aliases := .ofList (← aliases.mapM fun (field, target) => target.text?.map (field, ·))
    search := ← optional "search" (fun v => v.items?.bind (·.mapM SurfaceEntry.ofValue?)) [] }

end Surface

/-! ## As a value -/

/-- An entry as a record. -/
def SurfaceEntry.toJson (e : SurfaceEntry) : Json :=
  .ofFields <|
    [("kind", .string e.kind.name), ("fields", .ofTexts e.fields), ("consume", .bool e.consume),
      ("rank", .number (.int e.rank))] ++ e.field.toList.map fun field => ("field", .string field)

/-- A surface as a record that leaves out what is empty. -/
def Surface.toJson (s : Surface) : Json :=
  .ofFields <|
    (if s.permit.isEmpty then [] else [("permit", .ofTexts s.permit)]) ++
    (if s.aliases.isEmpty then []
      else [("aliases", .ofFields (s.aliases.toList.map fun (field, target) => (field, .string target)))]) ++
    (if s.search.isEmpty then [] else [("search", .array (s.search.map SurfaceEntry.toJson))])

/-! ## Declaring -/

variable {Q : Type} [Query Q]

/-- The draft after an entry is declared. -/
def SurfaceEntry.apply (d : Draft Q) (e : SurfaceEntry) : Draft Q :=
  let options : HelperOptions Q := { field := e.field, consume := e.consume, rank := e.rank }
  match e.kind with
  | .inFields => d.searchIn e.fields options
  | .anyOf => d.searchInAnyOf e.fields options
  | .allOf => d.searchInAllOf e.fields options
  | .specific => d.searchInSpecificFields e.fields options

/-- **The draft after a surface is declared.** -/
def Surface.apply (s : Surface) (d : Draft Q) : Draft Q :=
  let permitted := if s.permit.isEmpty then d else d.permit s.permit
  let aliased := s.aliases.toList.foldl (fun d (field, target) => d.rename field target) permitted
  s.search.foldl SurfaceEntry.apply aliased

end TermSearch
