import TermSearch.Query.Scope
import TermSearch.Query.Transcript

/-!
# Operations that fail

An operation on a scope that fails leaves the scope as it was, with its query, its branches and whether it has been
touched (`Step.run_failed`). A group may fail behind any number of operations that worked, but these have run in a scope
of their own, which is then dropped (`Scope.grouped_failed`).

So a caller who catches failures and goes on (`Attempt`) builds what the operations build that have not failed, as if
the others had never been issued: this holds for whole runs, with failures caught at any depth
(`Attempt.runAll_eq_keptAll`).
-/

namespace TermSearch

namespace Outcome

variable {σ : Type}

/-- What comes of an operation for a caller who catches a failure of it, or passes it on. -/
def settle (o : Outcome σ) (caught : Bool) : Outcome σ := if caught then .done o.state else o

theorem andThen_done_right (o : Outcome σ) : o.andThen done = o := by
  obtain ⟨state, failure⟩ := o
  cases failure <;> rfl

theorem andThen_assoc (o : Outcome σ) (f g : σ → Outcome σ) :
    (o.andThen f).andThen g = o.andThen fun s => (f s).andThen g := by
  obtain ⟨state, failure⟩ := o
  cases failure <;> rfl

theorem andThen_congr {o : Outcome σ} {f g : σ → Outcome σ} (h : f o.state = g o.state) :
    o.andThen f = o.andThen g := by
  obtain ⟨state, failure⟩ := o
  cases failure with
  | none => exact h
  | some cause => rfl

end Outcome

variable {Q : Type} [Query Q]

/-! ## Single operations -/

namespace Scope

omit [Query Q] in
theorem apply_failed {op : Q → Except QueryError Q} {s : Scope Q} {cause : QueryError}
    (h : (s.apply op).failure = some cause) : (s.apply op).state = s := by
  unfold apply at h ⊢
  cases hop : op s.current with
  | error e => rfl
  | ok query =>
    rw [hop] at h
    cases h

theorem compare_failed {v : Visit} {s : Scope Q} {cause : QueryError} (h : (s.compare v).failure = some cause) :
    (s.compare v).state = s := by
  unfold compare at h ⊢
  cases hfield : v.field with
  | none => rfl
  | some field =>
    rw [hfield] at h
    cases h

/-- **A group that fails changes nothing**, whatever has been done in it before. -/
theorem grouped_failed {p : Predicate} {block : Scope Q → Outcome (Scope Q)} {s : Scope Q} {cause : QueryError}
    (h : (s.grouped p block).failure = some cause) : (s.grouped p block).state = s := by
  unfold grouped at h ⊢
  generalize block (branch (Query.cleared s.current) s.negated) = inner at h ⊢
  obtain ⟨state, failure⟩ := inner
  cases failure with
  | none => cases h
  | some e => rfl

/-- Of a block, all that matters is what it makes of the root of the group. -/
theorem grouped_congr {p : Predicate} {block block' : Scope Q → Outcome (Scope Q)} {s : Scope Q}
    (h : block (branch (Query.cleared s.current) s.negated) = block' (branch (Query.cleared s.current) s.negated)) :
    s.grouped p block = s.grouped p block' := by
  unfold grouped
  rw [h]

end Scope

namespace Step

/-- **An operation that fails changes nothing.** -/
theorem run_failed {v : Visit} {step : Step Q} {s : Scope Q} {cause : QueryError}
    (h : (step.run v s).failure = some cause) : (step.run v s).state = s := by
  cases step with
  | compare =>
    rw [run] at h ⊢
    exact Scope.compare_failed h
  | method m =>
    rw [run] at h ⊢
    exact Scope.apply_failed h
  | fail e => rw [run]; rfl
  | grouped p steps | anyOf steps | allOf steps =>
    rw [run] at h ⊢
    exact Scope.grouped_failed h
  | compareBy field | compareWith field op value | clear | push query =>
    rw [run] at h
    cases h

theorem runAll_append (v : Visit) (steps more : List (Step Q)) (s : Scope Q) :
    runAll v (steps ++ more) s = (runAll v steps s).andThen (runAll v more) := by
  induction steps generalizing s with
  | nil =>
    rw [List.nil_append, runAll]
    rfl
  | cons step steps ih =>
    rw [List.cons_append, runAll, runAll, Outcome.andThen_assoc]
    exact Outcome.andThen_congr (ih _)

theorem runAll_singleton (v : Visit) (step : Step Q) (s : Scope Q) : runAll v [step] s = step.run v s := by
  rw [runAll, Outcome.andThen_congr (g := .done) (by rw [runAll]), Outcome.andThen_done_right]

end Step

/-! ## Callers who go on -/

/-- What a caller does: an operation, or a group in which more is done. A failure of it is caught or passed on. -/
inductive Attempt (Q : Type) [Query Q] where
  | operation (step : Step Q) (caught : Bool)
  /-- The connective of the group may depend on whether the term is negated. -/
  | group (connective : Bool → Predicate) (attempts : List (Attempt Q)) (caught : Bool)

namespace Attempt

mutual

/-- What comes of an attempt, for a term. -/
def run (v : Visit) : Attempt Q → Scope Q → Outcome (Scope Q)
  | .operation step caught, s => (step.run v s).settle caught
  | .group connective attempts caught, s => (s.grouped (connective s.negated) (runAll v attempts)).settle caught

/-- What comes of attempts one after the other, up to the first failure that is passed on. -/
def runAll (v : Visit) : List (Attempt Q) → Scope Q → Outcome (Scope Q)
  | [], s => .done s
  | attempt :: attempts, s => (run v attempt s).andThen (runAll v attempts)

end

mutual

/-- The operation of an attempt, unless it fails and the failure is caught; in a group, those of its attempts. -/
def kept (v : Visit) : Attempt Q → Scope Q → List (Step Q)
  | .operation step caught, s => if caught && (step.run v s).failure.isSome then [] else [step]
  | .group connective attempts caught, s =>
    if caught && (s.grouped (connective s.negated) (runAll v attempts)).failure.isSome then []
    else [.grouped (connective s.negated) (keptAll v attempts (.branch (Query.cleared s.current) s.negated))]

/-- The operations of attempts that are not caught failing. -/
def keptAll (v : Visit) : List (Attempt Q) → Scope Q → List (Step Q)
  | [], _ => []
  | attempt :: attempts, s => kept v attempt s ++ keptAll v attempts (run v attempt s).state

end

/-- An operation that changes nothing when it fails may be left out where its failure is caught. -/
theorem settle_eq_runAll {v : Visit} {o : Outcome (Scope Q)} {caught : Bool} {step : Step Q} {s : Scope Q}
    (hstep : step.run v s = o) (hfailed : ∀ cause, o.failure = some cause → o.state = s) :
    o.settle caught = Step.runAll v (if caught && o.failure.isSome then [] else [step]) s := by
  obtain ⟨state, failure⟩ := o
  cases failure with
  | none =>
    rw [Option.isSome_none, Bool.and_false, if_neg Bool.false_ne_true, Step.runAll_singleton, hstep]
    cases caught <;> rfl
  | some cause =>
    cases caught with
    | false => rw [Bool.false_and, if_neg Bool.false_ne_true, Step.runAll_singleton, hstep]; rfl
    | true =>
      have hstate : state = s := hfailed cause rfl
      show Outcome.done state = Step.runAll v [] s
      rw [Step.runAll, hstate]

mutual

theorem run_eq_kept (v : Visit) : ∀ (attempt : Attempt Q) (s : Scope Q),
    run v attempt s = Step.runAll v (kept v attempt s) s
  | .operation step caught, s => by
    rw [run, kept]
    exact settle_eq_runAll rfl fun _ => Step.run_failed
  | .group connective attempts caught, s => by
    rw [run, kept]
    refine settle_eq_runAll ?_ fun _ => Scope.grouped_failed
    rw [Step.run]
    exact Scope.grouped_congr (runAll_eq_keptAll v attempts _).symm

/-- **Caught failures might as well not have happened**: attempts come to what the operations come to that are left
without those that were caught failing. -/
theorem runAll_eq_keptAll (v : Visit) : ∀ (attempts : List (Attempt Q)) (s : Scope Q),
    runAll v attempts s = Step.runAll v (keptAll v attempts s) s
  | [], s => by rw [runAll, keptAll, Step.runAll]
  | attempt :: attempts, s => by
    rw [runAll, keptAll, Step.runAll_append, ← run_eq_kept v attempt s]
    exact Outcome.andThen_congr (runAll_eq_keptAll v attempts _)

end

/-- The comparison of the coat worked, but it is gone with its group. -/
example : (runAll (.start (.bare "fox"))
    [.group (fun _ => .or) [.operation (.compareBy "coat") false, .operation (.fail .nestedTooDeep) false] true,
      .operation (.compareBy "name") false]
    (.start (⟨""⟩ : Transcript) false)).state.current = ⟨"name:eq:fox"⟩ := by rfl

end Attempt

/-- **A failure changes nothing.** Of an operation that fails, the scope is left as it was: of the operations of rules,
of any operation that is applied to the current query, and of a group with any block. So a caller who catches failures,
at whatever depth, builds what is built by the operations that were not caught failing. -/
theorem failure_changes_nothing (v : Visit) (s : Scope Q) :
    (∀ (step : Step Q) cause, (step.run v s).failure = some cause → (step.run v s).state = s) ∧
      (∀ (op : Q → Except QueryError Q) cause, (s.apply op).failure = some cause → (s.apply op).state = s) ∧
      (∀ p (block : Scope Q → Outcome (Scope Q)) cause,
        (s.grouped p block).failure = some cause → (s.grouped p block).state = s) ∧
      ∀ attempts : List (Attempt Q),
        Attempt.runAll v attempts s = Step.runAll v (Attempt.keptAll v attempts s) s :=
  ⟨fun _ _ => Step.run_failed, fun _ _ => Scope.apply_failed, fun _ _ _ => Scope.grouped_failed,
    fun attempts => Attempt.runAll_eq_keptAll v attempts s⟩

end TermSearch
