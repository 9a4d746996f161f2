import TermSearch.Query.Error
import TermSearch.Search.Operator

/-!
# Clauses and how they merge

A query is made of nine clauses. When queries are merged, each clause follows one of three rules: lists are
put one after the other without repeating an item, of single values the last one that is present counts,
and conditions are combined under a connective. What a condition is, is left open (`Condition`): a backend
says how its conditions look and how several of them are joined.
-/

namespace TermSearch

/-! ## Kinds of clauses -/

/-- The clauses of a query. -/
inductive Clause where
  | select | from | joins | filter | having | group | order | limit | offset
  deriving DecidableEq, Repr

/-- What becomes of a clause when queries are merged. -/
inductive MergePolicy where
  /-- The items of all, each once, in the order of their first appearance. -/
  | accumulate
  /-- The value of the last query that has one. -/
  | lastWins
  /-- The conditions joined by the connective of the merge. -/
  | combine
  deriving DecidableEq, Repr

namespace Clause

/-- All clauses, in the order they are listed in. -/
def all : List Clause :=
  [.select, .from, .joins, .filter, .having, .group, .order, .limit, .offset]

/-- The name of a clause. -/
def name : Clause → String
  | .select => "select"
  | .from => "from"
  | .joins => "joins"
  | .filter => "filter"
  | .having => "having"
  | .group => "group"
  | .order => "order"
  | .limit => "limit"
  | .offset => "offset"

/-- The clause with a name; two of them have a second name. -/
def ofName? : String → Option Clause
  | "includes" => some .joins
  | "where" => some .filter
  | name => all.find? (·.name = name)

/-- How the clause merges. -/
def mergePolicy : Clause → MergePolicy
  | .select | .joins | .group | .order => .accumulate
  | .from | .limit | .offset => .lastWins
  | .filter | .having => .combine

end Clause

/-! ## Lists without repetition -/

/-- A list with one more item, unless it has it already. -/
def addNew (list : List String) (item : String) : List String :=
  if item ∈ list then list else list ++ [item]

/-- A list with those of the items added that it does not have yet. -/
def appendNew (list items : List String) : List String := items.foldl addNew list

theorem mem_addNew {list : List String} {item x : String} :
    x ∈ addNew list item ↔ x ∈ list ∨ x = item := by
  unfold addNew
  split
  · next h => exact ⟨.inl, fun hx => hx.elim id (fun e => e ▸ h)⟩
  · simp

theorem mem_appendNew {list items : List String} {x : String} :
    x ∈ appendNew list items ↔ x ∈ list ∨ x ∈ items := by
  unfold appendNew
  induction items generalizing list with
  | nil => simp
  | cons item items ih => rw [List.foldl_cons, ih, mem_addNew, List.mem_cons, or_assoc]

/-! ## Conditions -/

/-- Conditions of a backend: the empty one, the entries of one, and several non-empty ones joined. -/
class Condition (C : Type) where
  empty : C
  isEmpty : C → Bool
  /-- The texts of the single conditions. -/
  entries : C → List String
  /-- Several conditions as one, under a connective. -/
  join : Predicate → List C → C

/-- Conditions combined under a connective: empty ones are left out, and one alone stays as it is. -/
def Condition.combine {C : Type} [Condition C] (p : Predicate) (parts : List C) : C :=
  match parts.filter (!Condition.isEmpty ·) with
  | [] => Condition.empty
  | [part] => part
  | many => Condition.join p many

/-! ## Clauses -/

/-- The clauses of a query whose conditions are of the type `C`. -/
structure Clauses (C : Type) where
  select : List String
  joins : List String
  group : List String
  order : List String
  source : Option String
  limit : Option Nat
  offset : Option Nat
  filter : C
  having : C

/-- The content of one clause. -/
inductive ClauseContent where
  | list (items : List String)
  | source (name : Option String)
  | count (value : Option Nat)
  | conditions (entries : List String)
  deriving DecidableEq, Repr

namespace Clauses

variable {C : Type} [Condition C]

/-- No clause at all. -/
def empty : Clauses C where
  select := []
  joins := []
  group := []
  order := []
  source := none
  limit := none
  offset := none
  filter := Condition.empty
  having := Condition.empty

/-- The content of a clause. -/
def value (c : Clauses C) : Clause → ClauseContent
  | .select => .list c.select
  | .joins => .list c.joins
  | .group => .list c.group
  | .order => .list c.order
  | .from => .source c.source
  | .limit => .count c.limit
  | .offset => .count c.offset
  | .filter => .conditions (Condition.entries c.filter)
  | .having => .conditions (Condition.entries c.having)

/-- The content of the clause with a name; `queryType` is named in the error for other names. -/
def lookUp (c : Clauses C) (queryType name : String) : Except QueryError ClauseContent :=
  match Clause.ofName? name with
  | some kind => .ok (c.value kind)
  | none => .error (.noSuchClause queryType name)

/-- The clauses without their conditions. -/
def cleared (c : Clauses C) : Clauses C :=
  { c with filter := Condition.empty, having := Condition.empty }

/-- The last value that is present. -/
def lastPresent {α : Type} (values : List (Option α)) : Option α :=
  values.reverse.findSome? id

/-- **The merge of queries under a connective**, clause by clause. -/
def merge (p : Predicate) (queries : List (Clauses C)) : Clauses C where
  select := appendNew [] (queries.flatMap (·.select))
  joins := appendNew [] (queries.flatMap (·.joins))
  group := appendNew [] (queries.flatMap (·.group))
  order := appendNew [] (queries.flatMap (·.order))
  source := lastPresent (queries.map (·.source))
  limit := lastPresent (queries.map (·.limit))
  offset := lastPresent (queries.map (·.offset))
  filter := Condition.combine p (queries.map (·.filter))
  having := Condition.combine p (queries.map (·.having))

end Clauses

end TermSearch
