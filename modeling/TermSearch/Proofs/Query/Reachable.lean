import TermSearch.Query.Scope

/-!
# Queries that can be built

`Reachable u` holds of the queries that the operations of a backend lead to, as far as a `Usage` allows them:
comparisons, methods, merges with other such queries, dropping the conditions, and whole blocks of operations run
on a scope, with groups nested at will. `Reachable.holds` is the induction over them: a property of queries need
not look at blocks, because all that happens in a block is one of the other operations
(`Step.runAll_holds`).
-/

namespace TermSearch

variable {Q : Type} [Query Q]

/-! ## What is used -/

/-- Which operations may be used. -/
structure Usage (Q : Type) [Query Q] where
  /-- The queries to start from. -/
  start : Q → Prop
  /-- The fields that may be compared. -/
  field : String → Prop
  /-- The methods that may be called. -/
  method : Query.Method Q → Prop

namespace Step

mutual

/-- The finished queries that an operation adds. -/
def pushed : Step Q → List Q
  | .push query => [query]
  | .grouped _ steps | .anyOf steps | .allOf steps => pushedIn steps
  | .compare | .compareBy _ | .compareWith _ _ _ | .method _ | .clear | .fail _ => []

/-- The finished queries that operations add. -/
def pushedIn : List (Step Q) → List Q
  | [] => []
  | step :: steps => pushed step ++ pushedIn steps

end

mutual

/-- The operation is used as it may be, for a term. -/
def Within (u : Usage Q) (v : Visit) : Step Q → Prop
  | .compare => ∀ field ∈ v.field, u.field field
  | .compareBy field => u.field field
  | .compareWith field _ _ => u.field field
  | .method m => u.method m
  | .grouped _ steps | .anyOf steps | .allOf steps => AllWithin u v steps
  | .clear | .push _ | .fail _ => True

/-- The operations are used as they may be, for a term. -/
def AllWithin (u : Usage Q) (v : Visit) : List (Step Q) → Prop
  | [] => True
  | step :: steps => Within u v step ∧ AllWithin u v steps

end

end Step

/-- **The queries that can be built.** -/
inductive Reachable (u : Usage Q) : Q → Prop
  | start {q : Q} (h : u.start q) : Reachable u q
  | compare {q : Q} (h : Reachable u q) {field : String} (hfield : u.field field) (op : Operator) (value : String) :
    Reachable u (Query.compare q field op value)
  | method {q q' : Q} (h : Reachable u q) {m : Query.Method Q} (hm : u.method m)
    (hperform : Query.perform m q = .ok q') : Reachable u q'
  | cleared {q : Q} (h : Reachable u q) : Reachable u (Query.cleared q)
  | merge {q : Q} {others : List Q} (h : Reachable u q) (hothers : ∀ other ∈ others, Reachable u other)
    (p : Predicate) : Reachable u (Query.merge q p others)
  | block {q : Q} (h : Reachable u q) {v : Visit} {steps : List (Step Q)} (hsteps : Step.AllWithin u v steps)
    (hpushed : ∀ added ∈ Step.pushedIn steps, Reachable u added) (negated : Bool) :
    Reachable u (Step.runAll v steps (.start q negated)).state.current

/-! ## Induction -/

/-- A property that the operations keep, as far as they may be used. -/
structure Usage.Keeps (u : Usage Q) (P : Q → Prop) : Prop where
  compare : ∀ {q field} (op : Operator) (value : String), u.field field → P q → P (Query.compare q field op value)
  method : ∀ {q q' m}, u.method m → Query.perform m q = .ok q' → P q → P q'
  cleared : ∀ {q}, P q → P (Query.cleared q)
  merge : ∀ {q others} (p : Predicate), P q → (∀ other ∈ others, P other) → P (Query.merge q p others)

/-- The property holds of all queries in a scope. -/
def Scope.Holds (P : Q → Prop) : Scope Q → Prop
  | .single query _ _ => P query
  | .branching root _ branches => P root ∧ ∀ branch ∈ branches, P branch

variable {u : Usage Q} {P : Q → Prop}

namespace Scope

omit [Query Q] in
theorem Holds.current {s : Scope Q} (h : s.Holds P) : P s.current := by
  cases s with
  | single query negated touched => exact h
  | branching root negated branches => exact h.1

omit [Query Q] in
theorem Holds.put {s : Scope Q} (h : s.Holds P) {q : Q} (hq : P q) : (s.put q).Holds P := by
  cases s with
  | single query negated touched => exact hq
  | branching root negated branches =>
    refine ⟨h.1, fun branch hbranch => ?_⟩
    rcases List.mem_append.mp hbranch with hbranch | hbranch
    · exact h.2 branch hbranch
    · rw [List.mem_singleton.mp hbranch]
      exact hq

theorem Holds.push (hkeeps : u.Keeps P) {s : Scope Q} (h : s.Holds P) {q : Q} (hq : P q) : (s.push q).Holds P := by
  cases s with
  | single query negated touched =>
    refine hkeeps.merge .and h fun other hother => ?_
    rw [List.mem_singleton.mp hother]
    exact hq
  | branching root negated branches => exact Holds.put (s := .branching root negated branches) h hq

/-- A block that keeps the property makes a group that keeps it. -/
theorem Holds.grouped (hkeeps : u.Keeps P) {s : Scope Q} (h : s.Holds P) (p : Predicate)
    {block : Scope Q → Outcome (Scope Q)} (hblock : ∀ s : Scope Q, s.Holds P → (block s).state.Holds P) :
    (s.grouped p block).state.Holds P := by
  -- the block starts from a root without conditions and without branches
  have hinner : (block (branch (Query.cleared s.current) s.negated)).state.Holds P :=
    hblock _ ⟨hkeeps.cleared h.current, fun _ hnil => nomatch hnil⟩
  unfold Scope.grouped
  generalize block (branch (Query.cleared s.current) s.negated) = inner at hinner
  obtain ⟨state, failure⟩ := inner
  cases failure with
  | some cause => exact h
  | none =>
    show (Option.elim (merged? state p) s s.push).Holds P
    unfold merged?
    cases state with
    | single query negated touched => exact h
    | branching root negated branches =>
      cases branches with
      | nil => exact h
      | cons first rest =>
        refine Holds.push hkeeps h (hkeeps.merge p (hinner.2 first List.mem_cons_self) fun other hother => ?_)
        exact hinner.2 other (List.mem_cons_of_mem _ hother)

end Scope

namespace Step

mutual

theorem run_holds (hkeeps : u.Keeps P) {v : Visit} :
    ∀ (step : Step Q), Within u v step → (∀ added ∈ pushed step, P added) →
      ∀ s : Scope Q, s.Holds P → (run v step s).state.Holds P
  | .compare, hwithin, _, s, h => by
    rw [Within] at hwithin
    rw [run, Scope.compare]
    cases hfield : v.field with
    | none => exact h
    | some field => exact h.put (hkeeps.compare _ _ (hwithin field hfield) h.current)
  | .compareBy field, hwithin, _, s, h => by
    rw [Within] at hwithin
    rw [run]
    exact h.put (hkeeps.compare _ _ hwithin h.current)
  | .compareWith field op value, hwithin, _, s, h => by
    rw [Within] at hwithin
    rw [run]
    exact h.put (hkeeps.compare _ _ hwithin h.current)
  | .method m, hwithin, _, s, h => by
    rw [Within] at hwithin
    rw [run, Scope.apply]
    cases hperform : Query.perform m s.current with
    | error cause => exact h
    | ok q => exact h.put (hkeeps.method hwithin hperform h.current)
  | .clear, _, _, s, h => by
    rw [run]
    exact h.put (hkeeps.cleared h.current)
  | .push query, _, hpushed, s, h => by
    rw [run]
    exact h.push hkeeps (hpushed query (by simp [pushed]))
  | .fail cause, _, _, s, h => by
    rw [run]
    exact h
  | .grouped p steps, hwithin, hpushed, s, h => by
    rw [Within] at hwithin
    rw [run]
    exact h.grouped hkeeps p (runAll_holds hkeeps steps hwithin (by rwa [pushed] at hpushed))
  | .anyOf steps, hwithin, hpushed, s, h => by
    rw [Within] at hwithin
    rw [run]
    exact h.grouped hkeeps _ (runAll_holds hkeeps steps hwithin (by rwa [pushed] at hpushed))
  | .allOf steps, hwithin, hpushed, s, h => by
    rw [Within] at hwithin
    rw [run]
    exact h.grouped hkeeps _ (runAll_holds hkeeps steps hwithin (by rwa [pushed] at hpushed))

/-- **What operations keep, blocks of them keep**: of all queries in the scope, whether the block fails or not. -/
theorem runAll_holds (hkeeps : u.Keeps P) {v : Visit} :
    ∀ (steps : List (Step Q)), AllWithin u v steps → (∀ added ∈ pushedIn steps, P added) →
      ∀ s : Scope Q, s.Holds P → (runAll v steps s).state.Holds P
  | [], _, _, s, h => by
    rw [runAll]
    exact h
  | step :: steps, hwithin, hpushed, s, h => by
    rw [AllWithin] at hwithin
    rw [pushedIn] at hpushed
    have hfirst := run_holds hkeeps step hwithin.1 (fun added ha => hpushed added (List.mem_append_left _ ha)) s h
    have hrest := runAll_holds hkeeps steps hwithin.2 fun added ha => hpushed added (List.mem_append_right _ ha)
    rw [runAll]
    unfold Outcome.andThen
    cases (run v step s).failure with
    | some cause => exact hfirst
    | none => exact hrest _ hfirst

end

end Step

/-- **What queries to start from have and operations keep, all queries have that can be built.** -/
theorem Reachable.holds {q : Q} (h : Reachable u q) (hstart : ∀ q, u.start q → P q) (hkeeps : u.Keeps P) : P q := by
  induction h with
  | start h => exact hstart _ h
  | compare _ hfield op value ih => exact hkeeps.compare op value hfield ih
  | method _ hm hperform ih => exact hkeeps.method hm hperform ih
  | cleared _ ih => exact hkeeps.cleared ih
  | merge _ _ p ih ihothers => exact hkeeps.merge p ih ihothers
  | block _ hsteps _ negated ih ihpushed =>
    exact (Step.runAll_holds hkeeps _ hsteps ihpushed (.start _ negated) ih).current

/-- What operations keep, fewer operations keep too. -/
theorem Usage.Keeps.mono {u u' : Usage Q} (h : u'.Keeps P) (hfield : ∀ field, u.field field → u'.field field)
    (hmethod : ∀ m, u.method m → u'.method m) : u.Keeps P where
  compare op value hused := h.compare op value (hfield _ hused)
  method hused := h.method (hmethod _ hused)
  cleared := h.cleared
  merge := h.merge

/-! ## Queries made of clauses -/

/-- The queries made of clauses that nothing has been done to. -/
inductive ClauseQuery.IsStart {C : Type} [Condition C] : ClauseQuery C → Prop
  | empty : IsStart .empty
  | ofSource (name : String) : IsStart (.ofSource name)
  | attach {q : ClauseQuery C} (h : IsStart q) : IsStart q.attach

theorem ClauseQuery.IsStart.conditions {C : Type} [Condition C] {q : ClauseQuery C} (h : q.IsStart) :
    q.clauses.filter = Condition.empty ∧ q.clauses.having = Condition.empty := by
  induction h with
  | empty => exact ⟨rfl, rfl⟩
  | ofSource name => exact ⟨rfl, rfl⟩
  | attach _ ih => exact ih

end TermSearch
