import TermSearch.Definition.Compiler

/-!
# Properties of compiled queries

A rule works on a single scope, and an operation can change its query in five ways only (`Scope.run_single`). A
property of queries that rules establish and merging keeps holds of everything a compiler builds
(`Compiler.compile_holds`).

`Scope.LeadsTo` is the reach of a rule body that uses the operations in any order, on any condition and whether
they fail or not, as long as it does not drop the conditions of its own scope.
-/

namespace TermSearch

variable {Q : Type}

section Operations

variable [Query Q]

/-! ## Operations on a single scope -/

namespace Scope

/-- How an operation can change the query of a single scope. -/
inductive Change (step : Step Q) (q : Q) : Q → Prop
  | none : Change step q q
  | compare (field : String) (op : Operator) (value : String) : Change step q (Query.compare q field op value)
  | method {m : Query.Method Q} {q' : Q} (h : Query.perform m q = .ok q') : Change step q q'
  | clear (h : step = .clear) : Change step q (Query.cleared q)
  | push (added : Q) : Change step q (Query.merge q .and [added])

theorem grouped_single (p : Predicate) (block : Scope Q → Outcome (Scope Q)) (q : Q) (negated touched : Bool) :
    (grouped p block (.single q negated touched)).state = .single q negated touched ∨
      ∃ added, (grouped p block (.single q negated touched)).state =
        .single (Query.merge q .and [added]) negated true := by
  unfold grouped
  cases hfailure : (block (branch (Query.cleared (Scope.single q negated touched).current)
      (Scope.single q negated touched).negated)).failure with
  | some cause =>
    simp only [hfailure]
    exact .inl rfl
  | none =>
    simp only [hfailure]
    cases hmerged : (block (branch (Query.cleared (Scope.single q negated touched).current)
        (Scope.single q negated touched).negated)).state.merged? p with
    | none => exact .inl rfl
    | some added => exact .inr ⟨added, rfl⟩

/-- **A single scope stays single**, and its query changes in one of few ways. -/
theorem run_single (v : Visit) (step : Step Q) (q : Q) (negated touched : Bool) :
    ∃ q' touched', (step.run v (.single q negated touched)).state = .single q' negated touched' ∧
      Change step q q' := by
  -- whatever its block does, a group ends in one push or in none
  have hgrouped : ∀ (p : Predicate) (block : Scope Q → Outcome (Scope Q)),
      ∃ q' touched', (grouped p block (.single q negated touched)).state = .single q' negated touched' ∧
        Change step q q' := by
    intro p block
    rcases grouped_single p block q negated touched with h | ⟨added, h⟩
    · exact ⟨q, touched, h, .none⟩
    · exact ⟨_, true, h, .push added⟩
  cases step with
  | compare =>
    rw [Step.run, Scope.compare]
    cases v.field with
    | none => exact ⟨q, touched, rfl, .none⟩
    | some field => exact ⟨_, true, rfl, .compare field _ _⟩
  | compareBy field =>
    rw [Step.run]
    exact ⟨_, true, rfl, .compare field _ _⟩
  | compareWith field op value =>
    rw [Step.run]
    exact ⟨_, true, rfl, .compare field op value⟩
  | method m =>
    rw [Step.run, Scope.apply]
    cases hperform : Query.perform m q with
    | error cause =>
      refine ⟨q, touched, ?_, .none⟩
      rw [current, hperform]
      rfl
    | ok q' =>
      refine ⟨q', true, ?_, .method hperform⟩
      rw [current, hperform]
      rfl
  | clear =>
    rw [Step.run]
    exact ⟨_, true, rfl, .clear rfl⟩
  | push added =>
    rw [Step.run]
    exact ⟨_, true, rfl, .push added⟩
  | fail cause =>
    rw [Step.run]
    exact ⟨q, touched, rfl, .none⟩
  | grouped p steps =>
    rw [Step.run]
    exact hgrouped p _
  | anyOf steps =>
    rw [Step.run]
    exact hgrouped _ _
  | allOf steps =>
    rw [Step.run]
    exact hgrouped _ _

/-- Operations lead from one scope to another, none of them dropping its conditions. -/
inductive LeadsTo : Scope Q → Scope Q → Prop
  | refl (s : Scope Q) : LeadsTo s s
  | step {s s' : Scope Q} (h : LeadsTo s s') (v : Visit) (step : Step Q) (hclear : step ≠ .clear) :
    LeadsTo s (step.run v s').state

/-- What holds of the query of a single scope and is kept by comparisons, methods and conjunctions, holds
wherever operations lead to. -/
theorem LeadsTo.current_holds {P : Q → Prop}
    (hcompare : ∀ q field op value, P q → P (Query.compare q field op value))
    (hmethod : ∀ q m q', Query.perform m q = .ok q' → P q → P q')
    (hpush : ∀ q added, P q → P (Query.merge q .and [added])) {q : Q} {negated touched : Bool} {s : Scope Q}
    (h : LeadsTo (.single q negated touched) s) (hq : P q) :
    ∃ q' touched', s = .single q' negated touched' ∧ P q' := by
  induction h with
  | refl => exact ⟨q, touched, rfl, hq⟩
  | step _ v step hclear ih =>
    obtain ⟨q', touched', rfl, hq'⟩ := ih
    obtain ⟨q'', touched'', hrun, hchange⟩ := run_single v step q' negated touched'
    refine ⟨q'', touched'', hrun, ?_⟩
    cases hchange with
    | none => exact hq'
    | compare field op value => exact hcompare _ _ _ _ hq'
    | method hperform => exact hmethod _ _ _ hperform hq'
    | clear h => exact absurd h hclear
    | push added => exact hpush _ _ hq'

theorem LeadsTo.trans {s s' s'' : Scope Q} (h : LeadsTo s s') (h' : LeadsTo s' s'') : LeadsTo s s'' := by
  induction h' with
  | refl => exact h
  | step _ v step hclear ih => exact .step ih v step hclear

end Scope

/-! ## Rules -/

/-- The rule builds on its scope without dropping the conditions there. -/
def RuleBody.KeepsConditions (body : RuleBody Q) : Prop :=
  ∀ (scope : Q) (calls : Calls Q) (s : RuleState Q), s.scope.LeadsTo (body scope calls s).state.scope

theorem RuleStep.run_leadsTo (calls : Calls Q) (step : RuleStep Q) (hclear : step ≠ .build .clear)
    (s : RuleState Q) : s.scope.LeadsTo (step.run calls s).state.scope := by
  -- a rule or a search that is called hands over at most one query, which is pushed
  have hpush : ∀ (visit : Visit) (added : Option Q),
      s.scope.LeadsTo (RuleState.pushAll { s with visit } added).scope := by
    intro visit added
    cases added with
    | none => exact .refl _
    | some q =>
      have hstep := Scope.LeadsTo.step (.refl s.scope) visit (.push q) (by simp)
      rw [Step.run] at hstep
      exact hstep
  cases step with
  | consume => exact .refl _
  | reject => exact .refl _
  | rename field => exact .refl _
  | runRule rule =>
    rcases hcall : calls.runRule rule s.visit with ⟨built, visit⟩
    cases built with
    | error cause =>
      simp only [run, hcall]
      exact .refl _
    | ok added =>
      simp only [run, hcall]
      exact hpush visit added
  | search input =>
    cases hcall : calls.search input with
    | error cause =>
      simp only [run, hcall]
      exact .refl _
    | ok q =>
      simp only [run, hcall]
      exact hpush s.visit (some q)
  | build step => exact .step (.refl _) s.visit step fun h => hclear (h ▸ rfl)

/-- **A rule that takes steps keeps the conditions** if none of its steps drops them. -/
theorem RuleBody.keepsConditions_ofSteps {steps : List (Q → Visit → RuleStep Q)}
    (h : ∀ step ∈ steps, ∀ scope v, step scope v ≠ .build .clear) : (ofSteps steps).KeepsConditions := by
  intro scope calls s
  induction steps generalizing s with
  | nil => exact .refl _
  | cons step steps ih =>
    rw [List.forall_mem_cons] at h
    have hfirst := RuleStep.run_leadsTo calls (step scope s.visit) (h.1 scope s.visit) s
    rw [ofSteps]
    unfold Outcome.andThen
    cases ((step scope s.visit).run calls s).failure with
    | some cause => exact hfirst
    | none => exact hfirst.trans (ih h.2 _)

end Operations

/-! ## Compilers -/

namespace Compiler

variable {c : Compiler Q} {calls : Calls Q} {P : Q → Prop}

/-- What rules build over the scope of the compiler has the property. -/
def RulesEstablish (c : Compiler Q) (P : Q → Prop) : Prop :=
  ∀ name body, c.definition.declarations.rules.get? name = some body →
    ∀ (calls : Calls Q) (v : Visit) (negated : Bool),
      P (body c.scope calls { visit := v, scope := .start c.scope negated }).state.scope.current

theorem runRuleWith_holds (hrules : c.RulesEstablish P) {rule : String} {v v' : Visit} {q : Q}
    (h : c.runRuleWith calls rule v = (.ok (some q), v')) : P q := by
  unfold runRuleWith at h
  cases hget : c.definition.declarations.rules.get? rule with
  | none =>
    rw [hget] at h
    simp at h
  | some body =>
    rw [hget] at h
    cases hclaim : v.claim? rule with
    | none => simp [hclaim] at h
    | some claimed =>
      have hP := hrules rule body hget calls claimed v.term.negated
      simp only [hclaim] at h
      split at h
      · simp at h
      · split at h
        · obtain ⟨hq, _⟩ := Prod.mk.inj h
          rw [← Option.some.inj (Except.ok.inj hq)]
          exact hP
        · simp at h

theorem runMatchers_hold (hrules : c.RulesEstablish P) {ms : List (Matcher Q)} {v : Visit} {queries : List Q}
    (h : c.runMatchers calls ms v = .ok queries) : ∀ q ∈ queries, P q := by
  induction ms generalizing v queries with
  | nil =>
    rw [runMatchers] at h
    cases h
    simp
  | cons m rest ih =>
    rw [runMatchers] at h
    split at h
    · cases h
      simp
    · split at h
      · exact ih h
      · split at h
        · cases h
        · next built v' hrun =>
          cases hrest : runMatchers c calls rest v' with
          | error cause =>
            rw [hrest] at h
            cases h
          | ok more =>
            rw [hrest] at h
            cases h
            intro q hq
            -- the query is that of this matcher or of a later one
            rcases List.mem_append.mp hq with hq | hq
            · rw [Option.mem_toList] at hq
              rw [hq] at hrun
              exact runRuleWith_holds hrules hrun
            · exact ih hrest q hq

theorem termQueries_hold (hrules : c.RulesEstablish P) {t : Term} {queries : List Q}
    (h : c.termQueries calls t = .ok queries) : ∀ q ∈ queries, P q := by
  unfold termQueries at h
  split at h
  · cases h
  · split at h
    · exact runMatchers_hold hrules h
    · cases h
      simp

variable [Query Q]

theorem mergeAll_holds (hmerge : ∀ p first rest, (∀ q ∈ first :: rest, P q) → P (Query.merge first p rest))
    {p : Predicate} {queries : List Q} (h : ∀ q ∈ queries, P q) : ∀ q ∈ mergeAll p queries, P q := by
  cases queries with
  | nil => simp [mergeAll]
  | cons first rest =>
    intro q hq
    cases hq
    exact hmerge p first rest h

/-- What the rules build for a term has the property. -/
def TermHolds (c : Compiler Q) (calls : Calls Q) (P : Q → Prop) (t : Term) : Prop :=
  ∀ queries, c.termQueries calls t = .ok queries → ∀ q ∈ queries, P q

mutual

theorem nodeQueries_hold (hmerge : ∀ p first rest, (∀ q ∈ first :: rest, P q) → P (Query.merge first p rest)) :
    ∀ (node : Node) (queries : List Q), (∀ t ∈ node.terms, c.TermHolds calls P t) →
      c.nodeQueries calls node = .ok queries → ∀ q ∈ queries, P q
  | .term t, queries, hterms, h => by
    rw [nodeQueries] at h
    exact hterms t (by simp [Node.terms]) queries h
  | .group children keywords, queries, hterms, h => by
    rw [nodeQueries] at h
    rw [Node.terms] at hterms
    cases hchildren : c.listQueries calls children with
    | error cause =>
      rw [hchildren] at h
      cases h
    | ok built =>
      rw [hchildren] at h
      cases h
      intro q hq
      rw [Option.mem_toList] at hq
      exact mergeAll_holds hmerge (listQueries_hold hmerge children built hterms hchildren) q hq

theorem listQueries_hold (hmerge : ∀ p first rest, (∀ q ∈ first :: rest, P q) → P (Query.merge first p rest)) :
    ∀ (nodes : List Node) (queries : List Q), (∀ t ∈ Node.listTerms nodes, c.TermHolds calls P t) →
      c.listQueries calls nodes = .ok queries → ∀ q ∈ queries, P q
  | [], queries, _, h => by
    rw [listQueries] at h
    cases h
    simp
  | node :: nodes, queries, hterms, h => by
    rw [listQueries] at h
    rw [Node.listTerms, List.forall_mem_append] at hterms
    cases hnode : c.nodeQueries calls node with
    | error cause =>
      rw [hnode] at h
      cases h
    | ok built =>
      rw [hnode] at h
      cases hnodes : c.listQueries calls nodes with
      | error cause =>
        simp only [hnodes] at h
        cases h
      | ok more =>
        simp only [hnodes] at h
        cases h
        intro q hq
        rcases List.mem_append.mp hq with hq | hq
        · exact nodeQueries_hold hmerge node built hterms.1 hnode q hq
        · exact listQueries_hold hmerge nodes more hterms.2 hnodes q hq

end

/-- **The query of a tree has a property** that the scope has, that holds of what is built for its terms and that
merging keeps. -/
theorem compile_holds_of_terms (hscope : P c.scope)
    (hmerge : ∀ p first rest, (∀ q ∈ first :: rest, P q) → P (Query.merge first p rest)) {root : Group}
    (hterms : ∀ t ∈ root.terms, c.TermHolds (c.calls maxDepth) P t) {q : Q} (h : c.compile root = .ok q) : P q := by
  unfold compile compileWith at h
  cases hlist : c.listQueries (c.calls maxDepth) root.children with
  | error cause =>
    rw [hlist] at h
    cases h
  | ok built =>
    rw [hlist] at h
    cases h
    have hbuilt := mergeAll_holds hmerge (p := root.predicate) (listQueries_hold hmerge _ _ hterms hlist)
    -- a tree that builds nothing is answered by the scope
    show P ((mergeAll root.predicate built).getD c.scope)
    cases hanswer : mergeAll root.predicate built with
    | none => exact hscope
    | some q => exact hbuilt q hanswer

/-- **The query of a tree has a property** that the scope has, that rules establish and that merging keeps. -/
theorem compile_holds (hscope : P c.scope) (hrules : c.RulesEstablish P)
    (hmerge : ∀ p first rest, (∀ q ∈ first :: rest, P q) → P (Query.merge first p rest)) {root : Group} {q : Q}
    (h : c.compile root = .ok q) : P q :=
  compile_holds_of_terms hscope hmerge (fun _ _ _ => termQueries_hold hrules) h

end Compiler

end TermSearch
