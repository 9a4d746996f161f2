import TermSearch.Json.Text
import TermSearch.Query.Basic
import TermSearch.Sql.Statement
import TermSearch.Wildcard

/-!
# Relational queries

Queries over the tables of a relational database. A comparison puts a placeholder into the statement and the
value into the list of bound values, so no value becomes part of the text. An expression that a rule adds has
to come with one value for each placeholder.
-/

namespace TermSearch.Sql

/-- A query over tables. -/
abbrev SqlQuery := ClauseQuery Expressions

/-- An operation on relational queries. -/
inductive SqlMethod where
  | edit (edit : ClauseEdit)
  /-- An expression with its values, added to the filter. -/
  | filter (expr : String) (binds : List Json)
  /-- A column that has to equal a value. -/
  | filterEq (column : String) (value : Json)
  /-- An expression with its values, added to the condition on groups. -/
  | having (expr : String) (binds : List Json)

/-- The comparison sign for an operator. -/
def comparisonSign : Operator → String
  | .eq => "="
  | .ne => "!="
  | .lt => "<"
  | .gt => ">"
  | .lte => "<="
  | .gte => ">="
  | .like => "LIKE"
  | .notLike => "NOT LIKE"

/-- Whether the operator compares with a pattern. -/
def comparesPattern : Operator → Bool
  | .like => true
  | .notLike => true
  | _ => false

/-- The expression that compares a column. -/
def comparison (column : String) (op : Operator) : String :=
  quoteName column ++ " " ++ comparisonSign op ++ " ?" ++
    (if comparesPattern op then " ESCAPE '\\'" else "")

/-- The value bound by a comparison. -/
def comparisonBind (op : Operator) (value : String) : Json :=
  .string (if comparesPattern op then Wildcard.toLike value else value)

/-- The values bound by the statement of a query, in order. -/
def SqlQuery.binds (q : SqlQuery) : List Json := q.clauses.filter.binds ++ q.clauses.having.binds

/-- The content of the clause with a name. -/
def SqlQuery.clause (q : SqlQuery) (name : String) : Except QueryError ClauseContent :=
  q.clauses.lookUp "SqlQuery" name

/-- The statement of a query. -/
def SqlQuery.sql (q : SqlQuery) : String := statement q.clauses

/-- The expression and its values, if there is one value for each placeholder. -/
def requireValues (expr : String) (binds : List Json) : Except QueryError Unit :=
  if placeholderCount expr = binds.length then .ok ()
  else .error (.bindCount expr (placeholderCount expr) binds.length)

/-- The query with a checked expression in its filter. -/
def addFilter (expr : String) (binds : List Json) (q : SqlQuery) : Except QueryError SqlQuery :=
  match requireValues expr binds with
  | .ok () => .ok (q.mapFilter (·.push expr binds))
  | .error cause => .error cause

/-- The query after an operation. -/
def SqlMethod.run (q : SqlQuery) : SqlMethod → Except QueryError SqlQuery
  | .edit e => .ok (q.edit e)
  | .filter expr binds => addFilter expr binds q
  | .filterEq column value => addFilter (quoteName column ++ " = ?") [value] q
  | .having expr binds =>
    match requireValues expr binds with
    | .ok () => .ok (q.mapHaving (·.push expr binds))
    | .error cause => .error cause

instance : Query SqlQuery where
  Method := SqlMethod
  compare q column op value :=
    q.mapFilter (·.push (comparison column op) [comparisonBind op value])
  merge := ClauseQuery.merge
  cleared := ClauseQuery.cleared
  render q := SqlQuery.sql q ++ " " ++ (Json.array (SqlQuery.binds q)).render
  perform m q := m.run q

/-! ## Running -/

/-- Why a query cannot be run. -/
inductive RunError where
  | noPool
  | noTable
  deriving DecidableEq, Repr

/-- The wording of the cause. -/
def RunError.message : RunError → String
  | .noPool => "Invalid operation: query has no connection pool"
  | .noTable => "Invalid operation: query has no source table"

/-- The statement and values to run, if the query is attached and has a table. -/
def SqlQuery.executable (q : SqlQuery) : Except RunError (String × List Json) :=
  if !q.attached then .error .noPool
  else if q.clauses.source.isNone then .error .noTable
  else .ok (SqlQuery.sql q, SqlQuery.binds q)

end TermSearch.Sql
