import TermSearch.Definition.Basic

/-!
# Compiling searches

A compiler turns a search tree into a query over its scope. Each term is visited by the matching rules in order
until one settles it; every rule starts from the scope, and what the rules build is gathered from left to right.
A group merges what its children gave under its connective, and a group whose children gave nothing gives nothing
itself. With nothing at all the answer is the scope.

Rules may call the compiler again. `Compiler.calls` makes what they can call from the calls one level down, so the
depth of such calls is bounded by a number, and every function here is total.
-/

namespace TermSearch

/-- A definition together with the scope that queries start from. -/
structure Compiler (Q : Type) where
  definition : Definition Q
  scope : Q

namespace Compiler

variable {Q : Type} [Query Q]

/-- The compiler for a definition with its own scope. -/
def ofDefinition (d : Definition Q) : Except DefinitionError (Compiler Q) :=
  match d.declarations.base with
  | some scope => .ok { definition := d, scope }
  | none => .error .noBaseScope

/-! ## Rules -/

/-- The query that a rule builds for a term, if it builds one, and the visit after it. A settled term is not
claimed, and nothing is built for it. -/
def runRuleWith (c : Compiler Q) (calls : Calls Q) (rule : String) (v : Visit) :
    Except QueryError (Option Q) × Visit :=
  match c.definition.declarations.rules.get? rule with
  | none => (.error (.definition (.undeclaredRule rule)), v)
  | some body =>
    match v.claim? rule with
    | none => (.ok none, v)
    | some claimed =>
      let o := body c.scope calls { visit := claimed, scope := .start c.scope v.term.negated }
      match o.failure with
      | some cause => (.error cause, o.state.visit)
      | none =>
        (.ok (if o.state.scope.touched then some o.state.scope.current else none), o.state.visit)

/-- The queries that the matching rules build for a term. -/
def runMatchers (c : Compiler Q) (calls : Calls Q) :
    List (Matcher Q) → Visit → Except QueryError (List Q)
  | [], _ => .ok []
  | m :: rest, v =>
    if v.isSettled then .ok []
    else if !m.accepts c.scope v then runMatchers c calls rest v
    else
      match c.runRuleWith calls m.rule v with
      | (.error cause, _) => .error cause
      | (.ok built, v) => (runMatchers c calls rest v).map (built.toList ++ ·)

/-- The queries of a term: none if a filter refuses it. Without any rule there is no answer. -/
def termQueries (c : Compiler Q) (calls : Calls Q) (t : Term) : Except QueryError (List Q) :=
  if !c.definition.hasRules then .error (.definition .noRules)
  else if c.definition.declarations.filters.all (· (.start t)) then
    c.runMatchers calls c.definition.matchers (.start t)
  else .ok []

/-! ## Trees -/

/-- Queries merged under a connective, if there are any. -/
def mergeAll (p : Predicate) : List Q → Option Q
  | [] => none
  | first :: rest => some (Query.merge first p rest)

mutual

/-- The queries of a node: those of a term, or the one of a group. -/
def nodeQueries (c : Compiler Q) (calls : Calls Q) : Node → Except QueryError (List Q)
  | .term t => c.termQueries calls t
  | .group children keywords =>
    (listQueries c calls children).map fun built =>
      (mergeAll (Keyword.connective keywords) built).toList

/-- The queries of nodes from left to right. -/
def listQueries (c : Compiler Q) (calls : Calls Q) : List Node → Except QueryError (List Q)
  | [] => .ok []
  | node :: nodes =>
    match nodeQueries c calls node with
    | .error cause => .error cause
    | .ok built => (listQueries c calls nodes).map (built ++ ·)

end

/-- The query of a tree: the scope when nothing was built. -/
def compileWith (c : Compiler Q) (calls : Calls Q) (root : Group) : Except QueryError Q :=
  (c.listQueries calls root.children).map fun built =>
    (mergeAll root.predicate built).getD c.scope

/-! ## Calls -/

/-- What rules can call, nested at most `depth` deep. -/
def calls (c : Compiler Q) : Nat → Calls Q
  | 0 =>
    { search := fun _ => .error .nestedTooDeep
      runRule := fun _ v => (.error .nestedTooDeep, v) }
  | depth + 1 =>
    { search := fun input => c.compileWith (calls c depth) (c.definition.declarations.language.parse input)
      runRule := fun rule v => c.runRuleWith (calls c depth) rule v }

/-- How deeply calls may be nested. Nothing else limits it: rules that call each other without end have no answer to
give, and the bound stands in for that with `QueryError.nestedTooDeep`. A compile that does not meet the bound
does not depend on it. -/
def maxDepth : Nat := 1000

/-- **The query of a tree.** -/
def compile (c : Compiler Q) (root : Group) : Except QueryError Q :=
  c.compileWith (c.calls maxDepth) root

/-- **The query of a search.** -/
def search (c : Compiler Q) (input : String) : Except QueryError Q :=
  c.compile (c.definition.declarations.language.parse input)

/-- The queries that the rules build for one term. -/
def queriesFor (c : Compiler Q) (t : Term) : Except QueryError (List Q) :=
  c.termQueries (c.calls maxDepth) t

/-- The query that one rule builds for a term, and the visit after it. -/
def runRule (c : Compiler Q) (rule : String) (v : Visit) : Except QueryError (Option Q) × Visit :=
  c.runRuleWith (c.calls maxDepth) rule v

end Compiler

end TermSearch
