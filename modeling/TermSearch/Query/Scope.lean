import TermSearch.Query.Basic
import TermSearch.Definition.Visit

/-!
# Scopes

Rules build queries through a scope, never by hand. A scope is either single, with one query that each
operation replaces, or branching, where each operation starts anew from one root and adds a branch. A group
of operations runs in a branching scope of its own, whose root is the current query without its conditions;
its branches are merged and added as one query.

An operation answers with an `Outcome`: the scope it leaves and, if it failed, why. The scope after a failure
is stated too because a rule may go on after it.
-/

namespace TermSearch

/-- The state that an operation leaves, and what went wrong if anything did. -/
structure Outcome (σ : Type) where
  state : σ
  failure : Option QueryError

namespace Outcome

variable {σ : Type}

/-- An operation that worked. -/
def done (state : σ) : Outcome σ := { state, failure := none }

/-- An operation that failed. -/
def failed (state : σ) (cause : QueryError) : Outcome σ := { state, failure := some cause }

/-- The next operation, run only after one that worked. -/
def andThen (o : Outcome σ) (next : σ → Outcome σ) : Outcome σ :=
  match o.failure with
  | none => next o.state
  | some _ => o

@[simp] theorem andThen_done (s : σ) (next : σ → Outcome σ) : (done s).andThen next = next s := rfl

@[simp] theorem andThen_failed (s : σ) (e : QueryError) (next : σ → Outcome σ) :
    (failed s e).andThen next = failed s e := rfl

/-- Two operations in a row work only if the first does, and then end where the second does. -/
theorem andThen_works {o : Outcome σ} {next : σ → Outcome σ} (h : (o.andThen next).failure = none) :
    o.failure = none ∧ o.andThen next = next o.state := by
  obtain ⟨state, failure⟩ := o
  cases failure with
  | none => exact ⟨rfl, rfl⟩
  | some cause => cases h

end Outcome

/-- A query under construction. -/
inductive Scope (Q : Type) where
  /-- One query, and whether any operation has run on it. -/
  | single (query : Q) (negated touched : Bool)
  /-- Branches that each start from the root. -/
  | branching (root : Q) (negated : Bool) (branches : List Q)

namespace Scope

variable {Q : Type}

/-- A single scope on which no operation has run. -/
def start (query : Q) (negated : Bool) : Scope Q := .single query negated false

/-- A branching scope without branches. -/
def branch (root : Q) (negated : Bool) : Scope Q := .branching root negated []

/-- The query that operations start from. -/
def current : Scope Q → Q
  | .single query _ _ => query
  | .branching root _ _ => root

/-- Whether the term being compiled is negated. -/
def negated : Scope Q → Bool
  | .single _ negated _ => negated
  | .branching _ negated _ => negated

/-- Whether a single scope has been changed, or a branching one has branches. -/
def touched : Scope Q → Bool
  | .single _ _ touched => touched
  | .branching _ _ branches => !branches.isEmpty

/-- The branches of a branching scope. -/
def branches : Scope Q → List Q
  | .single _ _ _ => []
  | .branching _ _ branches => branches

/-- The scope with the result of an operation on its current query: in its place, or as a branch. -/
def put : Scope Q → Q → Scope Q
  | .single _ negated _, query => .single query negated true
  | .branching root negated branches, query => .branching root negated (branches ++ [query])

variable [Query Q]

/-- The scope with a finished query added: merged by *and*, or as a branch. -/
def push : Scope Q → Q → Scope Q
  | .single query negated _, added => .single (Query.merge query .and [added]) negated true
  | .branching root negated branches, added => .branching root negated (branches ++ [added])

/-- The branches merged under a connective, if there are any. -/
def merged? (s : Scope Q) (p : Predicate) : Option Q :=
  match s.branches with
  | [] => none
  | first :: rest => some (Query.merge first p rest)

/-- The branches merged under a connective; the current query without any. -/
def merged (s : Scope Q) (p : Predicate) : Q := (s.merged? p).getD s.current

/-! ## Operations -/

/-- An operation on the current query. -/
def apply (op : Q → Except QueryError Q) (s : Scope Q) : Outcome (Scope Q) :=
  match op s.current with
  | .ok query => .done (s.put query)
  | .error cause => .failed s cause

/-- A comparison of a field. -/
def compareWith (field : String) (op : Operator) (value : String) (s : Scope Q) : Scope Q :=
  s.put (Query.compare s.current field op value)

/-- A comparison of a field by the operator and the value of a term. -/
def compareBy (v : Visit) (field : String) (s : Scope Q) : Scope Q :=
  s.compareWith field v.term.operator v.term.value

/-- A comparison of the field that a term has. -/
def compare (v : Visit) (s : Scope Q) : Outcome (Scope Q) :=
  match v.field with
  | some field => .done (s.compareBy v field)
  | none => .failed s (.missingField v.render)

/-- Operations run in a branching scope of their own and added as one query, merged under a connective.
Branches inherit the negation; if an operation fails nothing is added. -/
def grouped (p : Predicate) (block : Scope Q → Outcome (Scope Q)) (s : Scope Q) : Outcome (Scope Q) :=
  let inner := block (branch (Query.cleared s.current) s.negated)
  match inner.failure with
  | some cause => .failed s cause
  | none => .done ((inner.state.merged? p).elim s s.push)

end Scope

/-! ## Operations as data -/

/-- One operation on a scope. -/
inductive Step (Q : Type) [Query Q] where
  /-- The term's own field compared. -/
  | compare
  | compareBy (field : String)
  | compareWith (field : String) (op : Operator) (value : String)
  | method (method : Query.Method Q)
  /-- The conditions dropped. -/
  | clear
  | push (query : Q)
  | fail (cause : QueryError)
  | grouped (p : Predicate) (steps : List (Step Q))
  /-- At least one of the steps; every one for a negated term. -/
  | anyOf (steps : List (Step Q))
  /-- Every one of the steps; at least one for a negated term. -/
  | allOf (steps : List (Step Q))

namespace Step

variable {Q : Type} [Query Q]

mutual

/-- The effect of an operation, for a term. -/
def run (v : Visit) : Step Q → Scope Q → Outcome (Scope Q)
  | .compare, s => s.compare v
  | .compareBy field, s => .done (s.compareBy v field)
  | .compareWith field op value, s => .done (s.compareWith field op value)
  | .method m, s => s.apply (Query.perform m)
  | .clear, s => .done (s.put (Query.cleared s.current))
  | .push query, s => .done (s.push query)
  | .fail cause, s => .failed s cause
  | .grouped p steps, s => s.grouped p (runAll v steps)
  | .anyOf steps, s => s.grouped (Predicate.or.under s.negated) (runAll v steps)
  | .allOf steps, s => s.grouped (Predicate.and.under s.negated) (runAll v steps)

/-- The effect of operations one after the other, up to the first that fails. -/
def runAll (v : Visit) : List (Step Q) → Scope Q → Outcome (Scope Q)
  | [], s => .done s
  | step :: steps, s => (run v step s).andThen (runAll v steps)

end

end Step

end TermSearch
