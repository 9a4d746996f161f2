/-!
# What can go wrong with a query

A definition can be put together wrongly (`DefinitionError`), and building a query from a search can fail
(`QueryError`). Both are causes; `message` is their wording.
-/

namespace TermSearch

/-- What is wrong with a definition, or with how a compiler is made from it. -/
inductive DefinitionError where
  /-- Neither the definition nor its user gives a scope to start from. -/
  | noBaseScope
  | noRules
  | undeclaredRule (rule : String)
  | undeclaredCondition (name : String)
  | duplicateRule (rule : String)
  deriving DecidableEq, Repr

/-- The wording of the cause. -/
def DefinitionError.message : DefinitionError → String
  | .noBaseScope => "no base scope configured; pass one explicitly or set a base on the definition"
  | .noRules => "no rules defined for this compiler"
  | .undeclaredRule rule => "matcher references undeclared rule `" ++ rule ++ "`"
  | .undeclaredCondition name => "guard references undeclared condition `" ++ name ++ "`"
  | .duplicateRule rule => "rule `" ++ rule ++ "` is already declared on this definition"

/-- Why a query could not be built. -/
inductive QueryError where
  /-- A clause was asked for by a name that no clause has. -/
  | noSuchClause (queryType clause : String)
  /-- A condition came with more or fewer values than it has placeholders. -/
  | bindCount (expression : String) (expected found : Nat)
  /-- A term without a field was to be compared by its own field. -/
  | missingField (term : String)
  | invalidPattern (pattern reason : String)
  | definition (cause : DefinitionError)
  | backend (reason : String)
  /-- Rules kept starting searches or other rules beyond `Compiler.maxDepth`. There is no such error to be had
  from rules whose calls come to an end: it stands for calls that do not. -/
  | nestedTooDeep
  deriving DecidableEq, Repr

/-- The wording of the cause. -/
def QueryError.message : QueryError → String
  | .noSuchClause queryType clause => queryType ++ " has no \"" ++ clause ++ "\" clause"
  | .bindCount expression expected found =>
    "expected " ++ Nat.repr expected ++ " bind value(s) for `" ++ expression ++ "`, got " ++
      Nat.repr found
  | .missingField term => "term `" ++ term ++ "` has no field to compare against"
  | .invalidPattern pattern reason => "invalid pattern `" ++ pattern ++ "`: " ++ reason
  | .definition cause => cause.message
  | .backend reason => "backend error: " ++ reason
  | .nestedTooDeep => "rules are nested too deeply"

end TermSearch
