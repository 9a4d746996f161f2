import TermSearch.Document.Selector

/-!
# Collections of documents

`Collection.find` answers a query over a list of documents: those its filter accepts, in the order its keys ask
for, a window of these, and of each the paths selected. Documents that all keys leave equal keep the order they
are stored in, so windows that follow one another never lose or repeat a document.
-/

namespace TermSearch.Document

/-! ## Order -/

/-- A key to sort by: a path, and whether the order along it is reversed. -/
structure OrderKey where
  path : String
  descending : Bool
  deriving DecidableEq, Repr

namespace OrderKey

/-- The text before and after the last blank. -/
def cutAtLastBlank? (cs : List Char) : Option (List Char × List Char) :=
  match cs.reverse.dropWhile (!Text.isBlank ·) with
  | [] => none
  | _ :: before => some (before.reverse, (cs.reverse.takeWhile (!Text.isBlank ·)).reverse)

/-- The key that a text writes: `age`, `-age`, `age desc` or `age asc`, the words in any ASCII case. -/
def parse (text : String) : OrderKey :=
  match Text.trimChars text.toList with
  | '-' :: rest => { path := String.ofList (Text.trimChars rest), descending := true }
  | cs =>
    let whole : OrderKey := { path := String.ofList cs, descending := false }
    match cutAtLastBlank? cs with
    | none => whole
    | some (path, word) =>
      let named (descending : Bool) : OrderKey :=
        { path := String.ofList (Text.trimChars path), descending }
      match String.ofList (word.map Char.toLower) with
      | "desc" => named true
      | "asc" => named false
      | _ => whole

/-- The rank of a kind of value. Missing values and null come first. -/
def rank : Option Json → Nat
  | none => 0
  | some .null => 0
  | some (.number _) => 1
  | some (.string _) => 2
  | some (.bool _) => 3
  | some (.array _) => 4
  | some (.object _) => 4

/-- The order of two values that may be missing: by kind, and within a kind by value where values of the
kind are ordered. -/
def compareFound (a b : Option Json) : Ordering :=
  (Ord.compare (rank a) (rank b)).then <|
    match a, b with
    | some x, some y => (valueOrder? x y).getD .eq
    | _, _ => .eq

/-- The order of two documents by a key, which looks at the first value found at its path. -/
def compare (key : OrderKey) (a b : Json) : Ordering :=
  let order := compareFound (resolve a key.path).head? (resolve b key.path).head?
  if key.descending then order.swap else order

end OrderKey

/-- The order of two documents by several keys: the first that tells them apart decides. -/
def compareBy (keys : List OrderKey) (a b : Json) : Ordering :=
  keys.foldr (fun key later => (key.compare a b).then later) .eq

/-- Documents in the order of keys; those that are equal stay in place. -/
def sortDocuments (keys : List OrderKey) (documents : List Json) : List Json :=
  documents.mergeSort fun a b => (compareBy keys a b).isLE

/-! ## Projection -/

/-- An object with a value placed at a path. Objects on the way are made where they are missing; where
something else stands in the way, nothing is placed. -/
def place (value : Json) : List String → KeyMap Json → KeyMap Json
  | [], fields => fields
  | [segment], fields => fields.insert segment value
  | segment :: next :: rest, fields =>
    match fields.get? segment with
    | none => fields.insert segment (.object (place value (next :: rest) .nil))
    | some (.object inner) => fields.insert segment (.object (place value (next :: rest) inner))
    | some _ => fields

/-- The document cut down to some paths, or whole if none are given. -/
def project (paths : List String) (document : Json) : Json :=
  if paths.isEmpty then document
  else
    .object <| paths.foldl (fun fields path =>
      match pointed? document path with
      | some value => place value (Text.segments path) fields
      | none => fields) .nil

/-! ## Finding -/

/-- The items from an offset on, at most as many as a limit allows. -/
def window {α : Type} (offset limit : Option Nat) (items : List α) : List α :=
  let rest := items.drop (offset.getD 0)
  limit.elim rest rest.take

/-- The documents that a filter accepts, in the order asked for. -/
def matching (filter : Filter) (order : List String) (documents : List Json) : List Json :=
  sortDocuments (order.map OrderKey.parse) (documents.filter filter.accepts)

/-- A named list of documents. -/
structure Collection where
  name : String
  documents : List Json

/-- **The answer to a query**: matching documents in order, a window of them, cut down to the paths selected. -/
def Collection.find [PatternEngine] (c : Collection) (clauses : Clauses Selector) : Except SelectorError (List Json) :=
  clauses.filter.compile.map fun filter =>
    (window clauses.offset clauses.limit (matching filter clauses.order c.documents)).map
      (project clauses.select)

end TermSearch.Document
