import TermSearch.Sql.Expressions
import TermSearch.Sql.Identifier
import TermSearch.Sql.Placeholder

/-!
# Statements

The clauses of a query as one `SELECT` statement. The placeholders of the conditions are numbered in the order
they stand in the statement, so that the values can be bound by position. An offset needs a limit in front of
it; without one the limit `-1` stands for no limit.
-/

namespace TermSearch.Sql

/-- A clause that is left out when its list is empty. -/
def listClause (word : String) (items : List String) : String :=
  if items.isEmpty then "" else word ++ String.intercalate ", " items

/-- A condition with its placeholders numbered, left out when there is none. -/
def conditionClause (word : String) (condition : Expressions) : StateM Nat String := do
  if condition.exprs.isEmpty then return "" else return word ++ (← number condition.joined)

/-- The clause that cuts a window out of the rows. -/
def windowClause : Option Nat → Option Nat → String
  | some limit, some offset => " LIMIT " ++ Nat.repr limit ++ " OFFSET " ++ Nat.repr offset
  | some limit, none => " LIMIT " ++ Nat.repr limit
  | none, some offset => " LIMIT -1 OFFSET " ++ Nat.repr offset
  | none, none => ""

/-- **The statement of a query.** The conditions share one counter of placeholders. -/
def statement (c : Clauses Expressions) : String :=
  let write : StateM Nat String := do
    let rows ← conditionClause " WHERE " c.filter
    let groups ← conditionClause " HAVING " c.having
    return "SELECT " ++ (if c.select.isEmpty then "*" else String.intercalate ", " c.select) ++
      c.source.elim "" (fun table => " FROM " ++ quoteName table) ++
      String.join (c.joins.map (" " ++ ·)) ++
      rows ++
      listClause " GROUP BY " c.group ++
      groups ++
      listClause " ORDER BY " c.order ++
      windowClause c.limit c.offset
  (write.run 0).1

/-! ## What is written -/

/-- The number of placeholders that a condition brings into the statement. -/
def conditionPlaceholders (condition : Expressions) : Nat :=
  if condition.exprs.isEmpty then 0 else placeholderCount condition.joined

/-- The text of a condition with its placeholders numbered on from `used`. -/
def conditionText (word : String) (condition : Expressions) (used : Nat) : String :=
  if condition.exprs.isEmpty then "" else word ++ numbered condition.joined used

theorem conditionClause_run (word : String) (condition : Expressions) (used : Nat) :
    (conditionClause word condition).run used =
      (conditionText word condition used, used + conditionPlaceholders condition) := by
  unfold conditionClause conditionText conditionPlaceholders
  split
  · rfl
  · simp only [StateT.run_bind, number_run]
    rfl

/-- The condition on groups is numbered on from the condition on rows. -/
theorem statement_eq (c : Clauses Expressions) :
    statement c =
      "SELECT " ++ (if c.select.isEmpty then "*" else String.intercalate ", " c.select) ++
        c.source.elim "" (fun table => " FROM " ++ quoteName table) ++
        String.join (c.joins.map (" " ++ ·)) ++
        conditionText " WHERE " c.filter 0 ++
        listClause " GROUP BY " c.group ++
        conditionText " HAVING " c.having (conditionPlaceholders c.filter) ++
        listClause " ORDER BY " c.order ++
        windowClause c.limit c.offset := by
  unfold statement
  simp only [StateT.run_bind, conditionClause_run, Nat.zero_add]
  rfl

end TermSearch.Sql
