import TermSearch.Query.Scope

/-!
# Rules

A rule body works on one visit to a term and on a scope of its own. It may use up, drop or rename the term,
build on the scope, and call on the compiler it runs in: for another rule on the same term, or for a whole
search. What the compiler can be asked for is a value (`Calls`), so a body is a plain function and the depth of
calls is bounded where that value is made.
-/

namespace TermSearch

/-- What a rule body works on. -/
structure RuleState (Q : Type) where
  visit : Visit
  scope : Scope Q

/-- What the compiler answers to rule bodies. -/
structure Calls (Q : Type) where
  /-- The query of a search. -/
  search : String → Except QueryError Q
  /-- The query of a rule for a term, if it built one, and the visit after it. -/
  runRule : String → Visit → Except QueryError (Option Q) × Visit

/-- A rule body: given the compiler's scope and what the compiler answers, its effect. -/
abbrev RuleBody (Q : Type) := Q → Calls Q → RuleState Q → Outcome (RuleState Q)

/-- One step of a rule. -/
inductive RuleStep (Q : Type) [Query Q] where
  | consume
  | reject
  | rename (field : String)
  /-- Another rule for the same term; what it builds is added. -/
  | runRule (rule : String)
  /-- A whole search; what it builds is added. -/
  | search (input : String)
  | build (step : Step Q)

namespace RuleState

variable {Q : Type}

/-- The state with the visit changed. -/
def mapVisit (f : Visit → Visit) (s : RuleState Q) : RuleState Q := { s with visit := f s.visit }

/-- The state after an operation on its scope. -/
def onScope (s : RuleState Q) (o : Outcome (Scope Q)) : Outcome (RuleState Q) :=
  { state := { s with scope := o.state }, failure := o.failure }

/-- The state with a query added to its scope, if there is one. -/
def pushAll [Query Q] (s : RuleState Q) (added : Option Q) : RuleState Q :=
  { s with scope := added.elim s.scope s.scope.push }

end RuleState

namespace RuleStep

variable {Q : Type} [Query Q]

/-- The effect of a step. -/
def run (calls : Calls Q) (step : RuleStep Q) (s : RuleState Q) : Outcome (RuleState Q) :=
  match step with
  | .consume => .done (s.mapVisit Visit.consume)
  | .reject => .done (s.mapVisit Visit.reject)
  | .rename field => .done (s.mapVisit (·.rename field))
  | .runRule rule =>
    match calls.runRule rule s.visit with
    | (.ok added, visit) => .done ({ s with visit }.pushAll added)
    | (.error cause, visit) => .failed { s with visit } cause
  | .search input =>
    match calls.search input with
    | .ok query => .done (s.pushAll (some query))
    | .error cause => .failed s cause
  | .build step => s.onScope (step.run s.visit s.scope)

end RuleStep

namespace RuleBody

variable {Q : Type} [Query Q]

/-- The rule that takes steps in turn, up to the first that fails. A step may depend on the compiler's scope
and on the visit as it is when the step's turn comes. -/
def ofSteps : List (Q → Visit → RuleStep Q) → RuleBody Q
  | [], _, _, s => .done s
  | step :: steps, scope, calls, s =>
    ((step scope s.visit).run calls s).andThen (ofSteps steps scope calls)

/-- The rule that gives the term another field. -/
def rename (target : String) : RuleBody Q := ofSteps [fun _ _ => .rename target]

/-- The rule that builds by one operation and then uses the term up, if asked to. -/
def search (step : Step Q) (consume : Bool) : RuleBody Q :=
  ofSteps ((fun _ _ => .build step) :: if consume then [fun _ _ => .consume] else [])

end RuleBody

end TermSearch
