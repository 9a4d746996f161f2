import TermSearch.Query.Clause

/-!
# Queries of a backend

A backend offers immutable query values. Every backend can compare a field, merge queries, drop the
conditions of a query and show a query as text; beyond that each has operations of its own (`Method`), which
may refuse their arguments.

Most backends keep the nine clauses and only differ in what a condition is. Their queries are values of
`ClauseQuery C`, which also notes whether the query is attached to the place that can answer it.
-/

namespace TermSearch

/-- The queries of a backend. -/
class Query (Q : Type) where
  /-- The operations that only this backend has. -/
  Method : Type
  /-- The query constrained further: a field compared with a value. -/
  compare : Q → String → Operator → String → Q
  /-- The query merged with others under a connective. -/
  merge : Q → Predicate → List Q → Q
  /-- The query without its conditions. -/
  cleared : Q → Q
  /-- The query as text. -/
  render : Q → String
  /-- The query after an operation of the backend. -/
  perform : Method → Q → Except QueryError Q

/-- Queries are equivalent when they read the same. -/
def Query.equivalent {Q : Type} [Query Q] (a b : Q) : Bool := Query.render a == Query.render b

/-! ## Queries made of clauses -/

/-- A query given by its clauses. -/
structure ClauseQuery (C : Type) where
  clauses : Clauses C
  /-- Whether the query knows where to run. -/
  attached : Bool

/-- A change to the clauses that are not conditions. -/
inductive ClauseEdit where
  | select (items : List String)
  | joins (item : String)
  | group (item : String)
  | order (item : String)
  | source (name : String)
  | limit (value : Option Nat)
  | offset (value : Option Nat)
  deriving DecidableEq, Repr

/-- The clauses after a change: lists grow by what they do not have, single values are replaced. -/
def ClauseEdit.run {C : Type} (c : Clauses C) : ClauseEdit → Clauses C
  | .select items => { c with select := appendNew c.select items }
  | .joins item => { c with joins := appendNew c.joins [item] }
  | .group item => { c with group := appendNew c.group [item] }
  | .order item => { c with order := appendNew c.order [item] }
  | .source name => { c with source := some name }
  | .limit value => { c with limit := value }
  | .offset value => { c with offset := value }

namespace ClauseQuery

variable {C : Type} [Condition C]

/-- The query without any clause, attached to nothing. -/
def empty : ClauseQuery C := { clauses := .empty, attached := false }

/-- Everything in a source. -/
def ofSource (name : String) : ClauseQuery C :=
  { clauses := { Clauses.empty with source := some name }, attached := false }

/-- The query, attached. -/
def attach (q : ClauseQuery C) : ClauseQuery C := { q with attached := true }

/-- The query with its filter changed. -/
def mapFilter (f : C → C) (q : ClauseQuery C) : ClauseQuery C :=
  { q with clauses := { q.clauses with filter := f q.clauses.filter } }

/-- The query with its condition on groups changed. -/
def mapHaving (f : C → C) (q : ClauseQuery C) : ClauseQuery C :=
  { q with clauses := { q.clauses with having := f q.clauses.having } }

/-- The query with a clause changed that is no condition. -/
def edit (e : ClauseEdit) (q : ClauseQuery C) : ClauseQuery C := { q with clauses := e.run q.clauses }

/-- The merge of queries: of their clauses, attached when one of them is. Nothing to merge with leaves the
query as it is. -/
def merge (q : ClauseQuery C) (p : Predicate) : List (ClauseQuery C) → ClauseQuery C
  | [] => q
  | others =>
    { clauses := .merge p ((q :: others).map (·.clauses))
      attached := (q :: others).any (·.attached) }

/-- The query without its conditions. -/
def cleared (q : ClauseQuery C) : ClauseQuery C := { q with clauses := q.clauses.cleared }

end ClauseQuery

end TermSearch
