import TermSearch.Proofs.Definition.Course
import TermSearch.Proofs.Definition.SurfaceStages

/-!
# Runs of rules

A rule works on its scope by operations, and the query that it builds is that of the scope where they lead
(`Scope.Takes`). A rule made of steps has operations that can be listed (`RuleBody.ofSteps_takes`), so for a definition
of such rules the compilation of a tree comes with the runs of its rules, from left to right
(`Compiler.exists_runsFor`). What is shown of a tree through the operations of its runs (`Compiler.RunsFor`) is
therefore shown of every tree that compiles.
-/

namespace TermSearch

variable {Q : Type} [Query Q]

/-! ## Operations on the scope of a rule -/

/-- Operations lead from one scope to another, one after the other. One that fails is none of them: it changes
nothing. -/
inductive Scope.Takes : Scope Q → List (Step Q) → Scope Q → Prop
  | done (s : Scope Q) : Takes s [] s
  | step {step : Step Q} {steps : List (Step Q)} {s s' : Scope Q} (v : Visit)
    (hworks : (step.run v s).failure = none) (h : Takes (step.run v s).state steps s') : Takes s (step :: steps) s'

theorem Scope.Takes.trans {s s' s'' : Scope Q} {steps more : List (Step Q)} (h : s.Takes steps s')
    (h' : s'.Takes more s'') : s.Takes (steps ++ more) s'' := by
  induction h with
  | done _ => exact h'
  | step v hworks _ ih => exact .step v hworks (ih h')

/-- The operations that a step of a rule applies to the scope. What another rule or a search builds is added. -/
def RuleStep.operations (calls : Calls Q) (s : RuleState Q) : RuleStep Q → List (Step Q)
  | .consume | .reject | .rename _ => []
  | .runRule rule =>
    match calls.runRule rule s.visit with
    | (.ok (some added), _) => [.push added]
    | _ => []
  | .search input =>
    match calls.search input with
    | .ok added => [.push added]
    | .error _ => []
  | .build step => [step]

theorem RuleStep.run_takes {calls : Calls Q} {step : RuleStep Q} {s : RuleState Q}
    (h : (step.run calls s).failure = none) :
    s.scope.Takes (step.operations calls s) (step.run calls s).state.scope := by
  have hpush : ∀ added : Q, s.scope.Takes [.push added] (s.scope.push added) := by
    intro added
    have hrun : (Step.push added).run s.visit s.scope = .done (s.scope.push added) := by rw [Step.run]
    refine .step s.visit ?_ ?_
    · rw [hrun]
      rfl
    · rw [hrun]
      exact .done _
  cases step with
  | consume | reject | rename => exact .done _
  | runRule rule =>
    rw [run] at h ⊢
    rw [operations]
    rcases hrule : calls.runRule rule s.visit with ⟨cause | added, visit⟩
    · rw [hrule] at h
      cases h
    · cases added with
      | none => exact .done _
      | some added => exact hpush added
  | search input =>
    rw [run] at h ⊢
    rw [operations]
    cases hsearch : calls.search input with
    | error cause =>
      rw [hsearch] at h
      cases h
    | ok added => exact hpush added
  | build step => exact .step s.visit h (.done _)

namespace RuleBody

/-- The operations that a rule made of steps applies to its scope. -/
def operations (scope : Q) (calls : Calls Q) : List (Q → Visit → RuleStep Q) → RuleState Q → List (Step Q)
  | [], _ => []
  | step :: steps, s =>
    (step scope s.visit).operations calls s ++
      operations scope calls steps ((step scope s.visit).run calls s).state

/-- **The operations of a rule made of steps** lead to the scope that it leaves, if it works. -/
theorem ofSteps_takes {scope : Q} {calls : Calls Q} {steps : List (Q → Visit → RuleStep Q)} {s : RuleState Q}
    (h : (ofSteps steps scope calls s).failure = none) :
    s.scope.Takes (operations scope calls steps s) (ofSteps steps scope calls s).state.scope := by
  induction steps generalizing s with
  | nil => exact .done _
  | cons step steps ih =>
    rw [ofSteps] at h ⊢
    obtain ⟨hworks, hrun⟩ := Outcome.andThen_works h
    rw [hrun] at h ⊢
    exact (RuleStep.run_takes hworks).trans (ih h)

end RuleBody

/-- A run of a rule. -/
structure RuleRun (Q : Type) [Query Q] where
  /-- The matcher and the visit that it found. -/
  application : Matcher Q × Visit
  /-- The operations that the rule applied to its scope. -/
  steps : List (Step Q)

namespace Compiler

variable {c : Compiler Q} {calls : Calls Q}

/-- What a rule starts from. -/
def startState (c : Compiler Q) (e : Matcher Q × Visit) : RuleState Q :=
  { visit := SearchStage.claimed e.1.rule e.2, scope := .start c.scope e.2.term.negated }

/-- The operations of a run are those that the body of the rule applied. -/
def Performed (c : Compiler Q) (calls : Calls Q) (r : RuleRun Q) : Prop :=
  ∃ body, c.definition.declarations.rules.get? r.application.1.rule = some body ∧
    r.application.2.isSettled = false ∧
    (c.startState r.application).scope.Takes r.steps (body c.scope calls (c.startState r.application)).state.scope

/-- These are the runs of rules for the terms of a tree, from left to right. -/
def RunsFor (c : Compiler Q) (root : Group) (runs : List (RuleRun Q)) : Prop :=
  runs.map RuleRun.application = root.terms.flatMap (c.termApplications (c.calls maxDepth)) ∧
    ∀ r ∈ runs, c.Performed (c.calls maxDepth) r

omit [Query Q] in
/-- The rule of an open term answers with the scope that its body leaves. -/
theorem built_of_open {e : Matcher Q × Visit} (hopen : e.2.isSettled = false) {body : RuleBody Q}
    (hget : c.definition.declarations.rules.get? e.1.rule = some body) :
    c.built calls e =
      match (body c.scope calls (c.startState e)).failure with
      | some cause => .error cause
      | none =>
        let s := (body c.scope calls (c.startState e)).state.scope
        .ok (if s.touched then some s.current else none) := by
  unfold built runRuleWith startState
  simp only [hget, claim?_of_open hopen]
  cases (body c.scope calls
    { visit := SearchStage.claimed e.1.rule e.2, scope := .start c.scope e.2.term.negated }).failure <;> rfl

/-- A run builds the query of the scope that its operations lead to, if they have touched it. -/
theorem built_of_performed {r : RuleRun Q} (h : c.Performed calls r) {result : Option Q}
    (hbuilt : c.built calls r.application = .ok result) :
    ∃ s, (Scope.start c.scope r.application.2.term.negated).Takes r.steps s ∧
      result = if s.touched then some s.current else none := by
  obtain ⟨body, hget, hopen, htakes⟩ := h
  refine ⟨_, htakes, ?_⟩
  rw [built_of_open hopen hget] at hbuilt
  split at hbuilt
  · cases hbuilt
  · exact (Except.ok.inj hbuilt).symm

/-- A rule made of steps applies the operations of these steps, if it works. -/
theorem performed_ofSteps {r : RuleRun Q} {steps : List (Q → Visit → RuleStep Q)}
    (hget : c.definition.declarations.rules.get? r.application.1.rule = some (.ofSteps steps))
    (hopen : r.application.2.isSettled = false) {result : Option Q} (hbuilt : c.built calls r.application = .ok result)
    (hsteps : r.steps = RuleBody.operations c.scope calls steps (c.startState r.application)) :
    c.Performed calls r := by
  refine ⟨_, hget, hopen, ?_⟩
  rw [hsteps]
  refine RuleBody.ofSteps_takes ?_
  rw [built_of_open hopen hget] at hbuilt
  split at hbuilt
  · cases hbuilt
  · assumption

/-- When a tree is compiled, every matcher that runs its rule finds the term open, and the rule works. -/
theorem built_of_compile {root : Group} {q : Q} (h : c.compile root = .ok q) :
    ∀ e ∈ root.terms.flatMap (c.termApplications (c.calls maxDepth)),
      e.2.isSettled = false ∧ ∃ result, c.built (c.calls maxDepth) e = .ok result := by
  intro e he
  obtain ⟨t, ht, happlication⟩ := List.mem_flatMap.mp he
  constructor
  · have hcourse := List.mem_of_mem_filter happlication
    unfold termCourse at hcourse
    split at hcourse
    · exact open_of_mem_course hcourse
    · cases hcourse
  · obtain ⟨queries, hterm⟩ := compile_ok_iff.mp ⟨q, h⟩ t ht
    obtain ⟨results, hresults, -⟩ := termQueries_ok hterm
    exact (mapM_ok hresults).1 e happlication

/-- **Every tree that compiles under rules made of steps has its runs.** -/
theorem exists_runsFor {root : Group} {q : Q} (h : c.compile root = .ok q)
    (hrules : ∀ rule body, c.definition.declarations.rules.get? rule = some body → ∃ steps, body = .ofSteps steps) :
    ∃ runs, c.RunsFor root runs := by
  have hperformed : ∀ e ∈ root.terms.flatMap (c.termApplications (c.calls maxDepth)),
      ∃ steps, c.Performed (c.calls maxDepth) { application := e, steps } := by
    intro e he
    obtain ⟨hopen, result, hbuilt⟩ := built_of_compile h e he
    cases hget : c.definition.declarations.rules.get? e.1.rule with
    | none =>
      unfold built runRuleWith at hbuilt
      rw [hget] at hbuilt
      cases hbuilt
    | some body =>
      obtain ⟨steps, rfl⟩ := hrules _ _ hget
      exact ⟨RuleBody.operations c.scope _ steps (c.startState e), performed_ofSteps hget hopen hbuilt rfl⟩
  choose steps hsteps using hperformed
  refine ⟨List.attach _ |>.map fun e => { application := e.1, steps := steps e.1 e.2 }, ?_, fun r hr => ?_⟩
  · rw [List.map_map]
    exact List.attach_map_subtype_val _
  · obtain ⟨e, -, rfl⟩ := List.mem_map.mp hr
    exact hsteps e.1 e.2

end Compiler

end TermSearch
