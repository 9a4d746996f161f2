import TermSearch.Json.Basic
import TermSearch.Query.Clause

/-!
# Conditions as expressions

A condition is a list of expressions, each to hold, and the values bound to their placeholders from left to
right. Written as one expression, several are put in brackets, so nothing inside one can reach into its
neighbour.
-/

namespace TermSearch.Sql

/-- Expressions that all hold, and the values for their placeholders in order. -/
structure Expressions where
  exprs : List String
  binds : List Json

/-- The expressions in brackets with a word between neighbours. -/
def bracketed (separator : String) (exprs : List String) : String :=
  String.intercalate separator (exprs.map fun e => "(" ++ e ++ ")")

/-- The word between joined expressions. -/
def connectiveWord : Predicate → String
  | .and => " AND "
  | .or => " OR "

namespace Expressions

/-- No expression. -/
def empty : Expressions := { exprs := [], binds := [] }

/-- One more expression with its values. -/
def push (e : Expressions) (expr : String) (binds : List Json) : Expressions :=
  { exprs := e.exprs ++ [expr], binds := e.binds ++ binds }

/-- All expressions as one. -/
def joined (e : Expressions) : String :=
  match e.exprs with
  | [single] => single
  | exprs => bracketed (connectiveWord .and) exprs

/-- Several conditions as one expression. -/
def join (p : Predicate) (parts : List Expressions) : Expressions where
  exprs := [bracketed (connectiveWord p) (parts.map joined)]
  binds := parts.flatMap (·.binds)

end Expressions

instance : Condition Expressions where
  empty := .empty
  isEmpty e := e.exprs.isEmpty
  entries e := e.exprs
  join := .join

end TermSearch.Sql
