import TermSearch.Definition.Compiler

/-!
# The bound on nested calls

Nothing limits how deeply rules may start searches and other rules; `Compiler.maxDepth` is a bound that only keeps
every function total, and `QueryError.nestedTooDeep` the answer of the calls beyond it. A compile does not depend on
the bound as long as these calls do not count: whatever they answer (`Compiler.callsOver`), the query is the same
(`Compiler.Keeps`), and then every larger bound gives it too (`Compiler.compileWith_of_keeps`). A body made of steps
hands on the failures of what it calls, so the answers of such rules say themselves whether the bound was met: all
bounds under which the answer is not `nestedTooDeep` have the same answer (`Compiler.compile_bound_irrelevant`).
-/

namespace TermSearch

variable {Q : Type} [Query Q]

/-! ## Answers that were cut short -/

/-- Calls that answer as others do, except where they were cut short. -/
structure Calls.Refines (a b : Calls Q) : Prop where
  search : ∀ input, a.search input = .error .nestedTooDeep ∨ a.search input = b.search input
  runRule : ∀ rule v, (a.runRule rule v).1 = .error .nestedTooDeep ∨ a.runRule rule v = b.runRule rule v

/-- A body that fails if a call was cut short, and does not look beyond the answers it gets. -/
def RuleBody.PassesOn (body : RuleBody Q) : Prop :=
  ∀ (scope : Q) (s : RuleState Q) (a b : Calls Q), a.Refines b →
    (body scope a s).failure = some .nestedTooDeep ∨ body scope a s = body scope b s

variable {a b : Calls Q}

theorem RuleStep.run_refines (h : a.Refines b) (step : RuleStep Q) (s : RuleState Q) :
    (step.run a s).failure = some .nestedTooDeep ∨ step.run a s = step.run b s := by
  cases step with
  | runRule rule =>
    rcases h.runRule rule s.visit with hcut | heq
    · rcases hanswer : a.runRule rule s.visit with ⟨answer, visit⟩
      obtain rfl : answer = .error .nestedTooDeep := by rw [← hcut, hanswer]
      exact .inl (by simp only [RuleStep.run, hanswer, Outcome.failed])
    · exact .inr (by simp only [RuleStep.run, heq])
  | search input =>
    rcases h.search input with hcut | heq
    · exact .inl (by simp only [RuleStep.run, hcut, Outcome.failed])
    · exact .inr (by simp only [RuleStep.run, heq])
  | consume => exact .inr rfl
  | reject => exact .inr rfl
  | rename field => exact .inr rfl
  | build step => exact .inr rfl

/-- **A body made of steps hands on what its calls fail with.** -/
theorem RuleBody.passesOn_ofSteps (steps : List (Q → Visit → RuleStep Q)) : (RuleBody.ofSteps steps).PassesOn := by
  intro scope s a b h
  induction steps generalizing s with
  | nil => exact .inr rfl
  | cons step rest ih =>
    rw [ofSteps, ofSteps]
    rcases RuleStep.run_refines h (step scope s.visit) s with hcut | heq
    · left
      simp only [Outcome.andThen, hcut]
    · rw [heq]
      unfold Outcome.andThen
      split
      · exact ih _
      · exact .inr rfl

namespace Compiler

variable {c : Compiler Q}

/-! ## Calls over other calls -/

/-- The calls that are `depth` levels above other calls. -/
def callsOver (c : Compiler Q) (bottom : Calls Q) : Nat → Calls Q
  | 0 => bottom
  | depth + 1 =>
    { search := fun input =>
        c.compileWith (callsOver c bottom depth) (c.definition.declarations.language.parse input)
      runRule := fun rule v => c.runRuleWith (callsOver c bottom depth) rule v }

theorem calls_add (c : Compiler Q) (extra depth : Nat) :
    c.calls (extra + depth) = c.callsOver (c.calls extra) depth := by
  induction depth with
  | zero => rfl
  | succ depth ih => rw [← Nat.add_assoc, calls, callsOver, ih]

/-- A compile within a bound: what the calls beyond it answer does not count. -/
def Keeps (c : Compiler Q) (depth : Nat) (root : Group) : Prop :=
  ∀ bottom, c.compileWith (c.callsOver bottom depth) root = c.compileWith (c.calls depth) root

/-- **A compile within a bound is the same under every larger one**, whatever its rules are. -/
theorem compileWith_of_keeps {depth depth' : Nat} {root : Group} (h : c.Keeps depth root) (hle : depth ≤ depth') :
    c.compileWith (c.calls depth') root = c.compileWith (c.calls depth) root := by
  obtain ⟨extra, rfl⟩ := Nat.exists_eq_add_of_le' hle
  rw [calls_add]
  exact h _

/-! ## Rules that hand on failures -/

mutual

theorem nodeQueries_refines
    (h : ∀ t, c.termQueries a t = .error .nestedTooDeep ∨ c.termQueries a t = c.termQueries b t) :
    ∀ node : Node, c.nodeQueries a node = .error .nestedTooDeep ∨ c.nodeQueries a node = c.nodeQueries b node
  | .term t => by
    rw [nodeQueries, nodeQueries]
    exact h t
  | .group children keywords => by
    rw [nodeQueries, nodeQueries]
    rcases listQueries_refines h children with hcut | heq
    · exact .inl (by rw [hcut]; rfl)
    · exact .inr (by rw [heq])

theorem listQueries_refines
    (h : ∀ t, c.termQueries a t = .error .nestedTooDeep ∨ c.termQueries a t = c.termQueries b t) :
    ∀ nodes : List Node, c.listQueries a nodes = .error .nestedTooDeep ∨ c.listQueries a nodes = c.listQueries b nodes
  | [] => .inr rfl
  | node :: nodes => by
    rw [listQueries, listQueries]
    rcases nodeQueries_refines h node with hcut | heq
    · exact .inl (by rw [hcut])
    · rw [heq]
      cases c.nodeQueries b node with
      | error cause => exact .inr rfl
      | ok built =>
        rcases listQueries_refines h nodes with hcut | heq
        · exact .inl (by rw [hcut]; rfl)
        · exact .inr (by rw [heq])

end

section PassesOn

variable (hpass : ∀ rule body, c.definition.declarations.rules.get? rule = some body → body.PassesOn)

include hpass

omit [Query Q] in
theorem runRuleWith_refines (h : a.Refines b) (rule : String) (v : Visit) :
    (c.runRuleWith a rule v).1 = .error .nestedTooDeep ∨ c.runRuleWith a rule v = c.runRuleWith b rule v := by
  unfold runRuleWith
  cases hget : c.definition.declarations.rules.get? rule with
  | none => exact .inr rfl
  | some body =>
    cases v.claim? rule with
    | none => exact .inr rfl
    | some claimed =>
      rcases hpass rule body hget c.scope { visit := claimed, scope := .start c.scope v.term.negated } a b h with
        hcut | heq
      · exact .inl (by simp only [hcut])
      · exact .inr (by simp only [heq])

omit [Query Q] in
theorem runMatchers_refines (h : a.Refines b) (ms : List (Matcher Q)) (v : Visit) :
    c.runMatchers a ms v = .error .nestedTooDeep ∨ c.runMatchers a ms v = c.runMatchers b ms v := by
  induction ms generalizing v with
  | nil => exact .inr rfl
  | cons m rest ih =>
    rw [runMatchers, runMatchers]
    split
    · exact .inr rfl
    · split
      · exact ih v
      · rcases runRuleWith_refines hpass h m.rule v with hcut | heq
        · rcases hanswer : c.runRuleWith a m.rule v with ⟨answer, visit⟩
          obtain rfl : answer = .error .nestedTooDeep := by rw [← hcut, hanswer]
          exact .inl rfl
        · rw [heq]
          rcases c.runRuleWith b m.rule v with ⟨cause | built, visit⟩
          · exact .inr rfl
          · rcases ih visit with hcut | heq
            · exact .inl (by simp only [hcut, Except.map])
            · exact .inr (by simp only [heq])

omit [Query Q] in
theorem termQueries_refines (h : a.Refines b) (t : Term) :
    c.termQueries a t = .error .nestedTooDeep ∨ c.termQueries a t = c.termQueries b t := by
  unfold termQueries
  split
  · exact .inr rfl
  · split
    · exact runMatchers_refines hpass h _ _
    · exact .inr rfl

theorem compileWith_refines (h : a.Refines b) (root : Group) :
    c.compileWith a root = .error .nestedTooDeep ∨ c.compileWith a root = c.compileWith b root := by
  unfold compileWith
  rcases listQueries_refines (termQueries_refines hpass h) root.children with hcut | heq
  · exact .inl (by rw [hcut]; rfl)
  · exact .inr (by rw [heq])

/-- Calls within a bound answer as if there were others beyond it, except where they were cut short. -/
theorem calls_refines (bottom : Calls Q) (depth : Nat) : (c.calls depth).Refines (c.callsOver bottom depth) := by
  induction depth with
  | zero => exact ⟨fun _ => .inl rfl, fun _ _ => .inl rfl⟩
  | succ depth ih => exact ⟨fun _ => compileWith_refines hpass ih _, fun rule v => runRuleWith_refines hpass ih rule v⟩

/-- **An answer other than `nestedTooDeep` keeps within the bound.** -/
theorem keeps_of_ne {depth : Nat} {root : Group} (h : c.compileWith (c.calls depth) root ≠ .error .nestedTooDeep) :
    c.Keeps depth root := fun bottom =>
  ((compileWith_refines hpass (calls_refines hpass bottom depth) root).resolve_left h).symm

/-- **The bound does not show in an answer that does not name it**: another bound gives the same, if it is not met
either. -/
theorem compile_bound_irrelevant {root : Group} (h : c.compile root ≠ .error .nestedTooDeep) {depth : Nat}
    (hdepth : c.compileWith (c.calls depth) root ≠ .error .nestedTooDeep) :
    c.compileWith (c.calls depth) root = c.compile root := by
  rcases Nat.le_total depth maxDepth with hle | hle
  · exact (compileWith_of_keeps (keeps_of_ne hpass hdepth) hle).symm
  · exact compileWith_of_keeps (keeps_of_ne hpass h) hle

end PassesOn

end Compiler

end TermSearch
