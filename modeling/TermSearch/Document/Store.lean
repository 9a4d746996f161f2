import TermSearch.Document.Collection
import TermSearch.Query.Basic
import TermSearch.Wildcard

/-!
# Document queries and the store that answers them

A store holds collections by name; putting in one under a name that is taken replaces the old one, while a
collection that was taken out before stays what it was. A query is a value of its own that says which collection
it asks and, by being attached, that a store may answer it.
-/

namespace TermSearch.Document

/-! ## The store -/

/-- Collections by name. -/
structure Store where
  collections : KeyMap Collection

namespace Store

/-- The store without collections. -/
def empty : Store := ⟨.nil⟩

/-- The store with a collection created or replaced. -/
def insert (s : Store) (name : String) (documents : List Json) : Store :=
  ⟨s.collections.insert name { name, documents }⟩

/-- The names of the collections in order. -/
def names (s : Store) : List String := s.collections.keys

end Store

/-- Why a query has no answer. -/
inductive DocumentError where
  | invalidSelector (cause : SelectorError)
  | unknownCollection (name : String)
  | noStore
  | noCollection

/-- The wording of the cause. -/
def DocumentError.message : DocumentError → String
  | .invalidSelector cause => "Invalid selector: " ++ cause.message
  | .unknownCollection name => "Unknown collection: " ++ name
  | .noStore => "Invalid operation: query has no document store"
  | .noCollection => "Invalid operation: query has no source collection"

/-- The collection with a name. -/
def Store.collection (s : Store) (name : String) : Except DocumentError Collection :=
  match s.collections.get? name with
  | some c => .ok c
  | none => .error (.unknownCollection name)

/-- The answer of a collection to a query. -/
def Collection.rows [PatternEngine] (c : Collection) (clauses : Clauses Selector) : Except DocumentError (List Json) :=
  match c.find clauses with
  | .ok rows => .ok rows
  | .error cause => .error (.invalidSelector cause)

/-! ## Queries -/

/-- A query over documents. -/
abbrev DocumentQuery := ClauseQuery Selector

/-- An operation on document queries. -/
inductive DocumentMethod where
  | edit (edit : ClauseEdit)
  /-- A value that has to be a selector, added to the filter. -/
  | filter (selector : Json)
  /-- A field with the value or operators it has to pass, added to the filter as it is. -/
  | filterEq (field : String) (value : Json)

/-- The pattern that a text has to match, in any case. -/
def likeCondition (value : String) : Json :=
  .ofFields [("$regex", .string (Wildcard.toRegex value)), ("$options", .string "i")]

/-- The object with one operator. -/
def operatorObject (operator : String) (operand : Json) : Json := .object (KeyMap.single operator operand)

/-- What a comparison asks of a field. -/
def comparison (op : Operator) (value : String) : Json :=
  match op with
  | .eq => .string value
  | .ne => operatorObject "$ne" (.string value)
  | .lt => operatorObject "$lt" (.string value)
  | .gt => operatorObject "$gt" (.string value)
  | .lte => operatorObject "$lte" (.string value)
  | .gte => operatorObject "$gte" (.string value)
  | .like => likeCondition value
  | .notLike => operatorObject "$not" (likeCondition value)

namespace DocumentQuery

/-- The query with a selector added to its filter. -/
def narrow (s : Selector) (q : DocumentQuery) : DocumentQuery := q.mapFilter (·.and s)

/-- The content of the clause with a name. -/
def clause (q : DocumentQuery) (name : String) : Except QueryError ClauseContent :=
  q.clauses.lookUp "DocumentQuery" name

/-- The query as a value. -/
def toJson (q : DocumentQuery) : Json :=
  .ofFields [("from", .ofOption .string q.clauses.source), ("filter", q.clauses.filter.toJson),
    ("select", .ofTexts q.clauses.select), ("order", .ofTexts q.clauses.order),
    ("limit", .ofOption .ofNat q.clauses.limit), ("offset", .ofOption .ofNat q.clauses.offset)]

end DocumentQuery

/-- The query after an operation. -/
def DocumentMethod.run [PatternEngine] (q : DocumentQuery) : DocumentMethod → Except QueryError DocumentQuery
  | .edit e => .ok (q.edit e)
  | .filter selector =>
    match Selector.parse selector with
    | .ok s => .ok (DocumentQuery.narrow s q)
    | .error cause => .error (.backend (DocumentError.invalidSelector cause).message)
  | .filterEq field value => .ok (DocumentQuery.narrow (.field field value) q)

instance [PatternEngine] : Query DocumentQuery where
  Method := DocumentMethod
  compare q field op value := DocumentQuery.narrow (.field field (comparison op value)) q
  merge := ClauseQuery.merge
  cleared := ClauseQuery.cleared
  render q := (DocumentQuery.toJson q).render
  perform m q := m.run q

/-! ## Answers -/

/-- The collection that a query asks, in a store. -/
def DocumentQuery.source (store : Store) (q : DocumentQuery) : Except DocumentError Collection :=
  if !q.attached then .error .noStore
  else match q.clauses.source with
    | none => .error .noCollection
    | some name => store.collection name

/-- The documents that answer a query. -/
def DocumentQuery.rows [PatternEngine] (store : Store) (q : DocumentQuery) : Except DocumentError (List Json) :=
  match DocumentQuery.source store q with
  | .ok collection => collection.rows q.clauses
  | .error cause => .error cause

/-- How many documents answer a query. -/
def DocumentQuery.count [PatternEngine] (store : Store) (q : DocumentQuery) : Except DocumentError Nat :=
  (DocumentQuery.rows store q).map List.length

/-- Whether no document answers a query. -/
def DocumentQuery.isEmpty [PatternEngine] (store : Store) (q : DocumentQuery) : Except DocumentError Bool :=
  (DocumentQuery.count store q).map (· == 0)

end TermSearch.Document
