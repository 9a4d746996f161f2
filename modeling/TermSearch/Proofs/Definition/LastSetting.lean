import TermSearch.Proofs.Definition.RuleRun
import TermSearch.Proofs.Definition.TwoSearches
import TermSearch.Proofs.Query.Setting

/-!
# Which value of a setting is left

Every rule starts from a full copy of the scope, so the query it builds has the settings of the scope unless the rule
replaces them (`Compiler.valueOf_eq_left`), and of the queries that are merged the last one with a value wins
(`Compiler.get_compile`). What one rule sets is therefore kept if the scope has no value itself; if it has one, the
next query to the right that still carries it brings it back (`Compiler.compile_setting`).
-/

namespace TermSearch

section Settings

variable {α C : Type} [Condition C] [Query (ClauseQuery C)] [ClauseBackend C] {c : Compiler (ClauseQuery C)}
  {calls : Calls (ClauseQuery C)}

/-- **What operations leave can be told from them alone**: the value, and whether they have touched the scope. -/
theorem Scope.Takes.left_eq (k : Setting α) {steps : List (Step (ClauseQuery C))} {q : ClauseQuery C}
    {negated touched : Bool} {s : Scope (ClauseQuery C)} (h : Takes (.single q negated touched) steps s) :
    s.touched = (touched || (k.left (k.get q.clauses) steps).isSome) ∧
      k.get s.current.clauses = (k.left (k.get q.clauses) steps).getD (k.get q.clauses) := by
  generalize hstart : Scope.single q negated touched = start at h
  induction h generalizing q touched with
  | done s =>
    subst hstart
    exact ⟨(Bool.or_false _).symm, rfl⟩
  | @step step steps s s' v hworks h ih =>
    subst hstart
    obtain ⟨q', hstate, hvalue⟩ := k.run_single_value v step q negated touched hworks
    obtain ⟨htouched, hleft⟩ := ih hstate.symm
    rw [Setting.left, htouched, hleft, hvalue]
    generalize k.nextValue (k.get q.clauses) step = next
    generalize k.left (next.getD (k.get q.clauses)) steps = later
    cases next <;> cases later <;> simp

namespace Compiler

/-- The value that the query of a run of a rule has, if it builds one. -/
def valueOf (c : Compiler (ClauseQuery C)) (calls : Calls (ClauseQuery C)) (k : Setting α)
    (e : Matcher (ClauseQuery C) × Visit) : Option (Option α) :=
  match c.built calls e with
  | .ok (some q) => some (k.get q.clauses)
  | _ => none

/-- The values of the queries that runs of rules build. -/
def valuesOf (c : Compiler (ClauseQuery C)) (k : Setting α) (runs : List (RuleRun (ClauseQuery C))) :
    List (Option α) :=
  runs.filterMap fun r => c.valueOf (c.calls maxDepth) k r.application

/-- The query that a run of a rule builds has a value. -/
def Carries (c : Compiler (ClauseQuery C)) (k : Setting α) (r : RuleRun (ClauseQuery C)) : Prop :=
  ∃ value, c.valueOf (c.calls maxDepth) k r.application = some (some value)

omit [Condition C] [Query (ClauseQuery C)] [ClauseBackend C] in
theorem filterMap_valueOf (k : Setting α) {es : List (Matcher (ClauseQuery C) × Visit)}
    {results : List (Option (ClauseQuery C))} (h : es.mapM (c.built calls) = .ok results) :
    es.filterMap (c.valueOf calls k) = results.reduceOption.map fun q => k.get q.clauses := by
  induction es generalizing results with
  | nil =>
    cases h
    rfl
  | cons e es ih =>
    rw [List.mapM_cons] at h
    cases hfirst : c.built calls e with
    | error cause =>
      rw [hfirst] at h
      cases h
    | ok result =>
      rw [hfirst] at h
      cases hrest : es.mapM (c.built calls) with
      | error cause =>
        rw [hrest] at h
        cases h
      | ok more =>
        rw [hrest] at h
        cases h
        have hvalue : c.valueOf calls k e = result.map fun q => k.get q.clauses := by
          unfold valueOf
          rw [hfirst]
          cases result <;> rfl
        rw [List.filterMap_cons, hvalue, ih hrest]
        cases result <;> rfl

/-- **The query of a tree has the last value of all queries that were built**, or none was built. -/
theorem get_compile (k : Setting α) {root : Group} {q : ClauseQuery C} (h : c.compile root = .ok q)
    {runs : List (RuleRun (ClauseQuery C))} (hruns : c.RunsFor root runs) :
    k.get q.clauses = Clauses.lastPresent (c.valuesOf k runs) ∨ q = c.scope ∧ c.valuesOf k runs = [] := by
  have hvalues : c.valuesOf k runs = (runs.map RuleRun.application).filterMap (c.valueOf (c.calls maxDepth) k) := by
    rw [List.filterMap_map]
    rfl
  rw [hvalues, hruns.1, List.filterMap_flatMap]
  refine compile_gathers_or (R := fun q values => k.get q.clauses = Clauses.lastPresent values) ?_ ?_ h
  · intro p first rest gathered hgathered
    have hvalues : List.Forall₂ Eq ((first :: rest).map fun q => k.get q.clauses)
        (gathered.map Clauses.lastPresent) := by
      rw [List.forall₂_map_left_iff, List.forall₂_map_right_iff]
      exact hgathered
    rw [List.forall₂_eq_eq_eq] at hvalues
    rw [k.get_mergeQueries, hvalues, Clauses.lastPresent_flatten]
  · intro t queries hqueries
    obtain ⟨results, hresults, rfl⟩ := termQueries_ok hqueries
    refine ⟨results.reduceOption.map fun q => [k.get q.clauses], ?_, ?_⟩
    · rw [List.forall₂_map_right_iff, List.forall₂_same]
      exact fun q _ => (Clauses.lastPresent_singleton _).symm
    · rw [filterMap_valueOf k hresults, ← List.flatMap_def, List.map_eq_flatMap]

/-- The query of a run has the value that the operations of the run leave. -/
theorem valueOf_eq_left (k : Setting α) {r : RuleRun (ClauseQuery C)} (h : c.Performed calls r)
    {result : Option (ClauseQuery C)} (hbuilt : c.built calls r.application = .ok result) :
    c.valueOf calls k r.application = k.left (k.get c.scope.clauses) r.steps := by
  obtain ⟨s, htakes, hresult⟩ := built_of_performed h hbuilt
  obtain ⟨htouched, hget⟩ := htakes.left_eq k
  unfold valueOf
  rw [hbuilt, hresult, htouched, Bool.false_or]
  cases hleft : k.left (k.get c.scope.clauses) r.steps with
  | none => rfl
  | some value =>
    rw [hleft] at hget
    exact congrArg some hget

omit [Condition C] [ClauseBackend C] in
theorem mem_valuesOf {k : Setting α} {runs : List (RuleRun (ClauseQuery C))} {x : α} :
    some x ∈ c.valuesOf k runs ↔ ∃ r ∈ runs, c.valueOf (c.calls maxDepth) k r.application = some (some x) :=
  List.mem_filterMap

/-- Queries with a value hide those of all runs to the left of them. -/
theorem get_compile_of_mem (k : Setting α) {root : Group} {q : ClauseQuery C} (h : c.compile root = .ok q)
    {before after : List (RuleRun (ClauseQuery C))} (hruns : c.RunsFor root (before ++ after)) {x : α}
    (hx : some x ∈ c.valuesOf k after) : k.get q.clauses = Clauses.lastPresent (c.valuesOf k after) := by
  have hvalues : c.valuesOf k (before ++ after) = c.valuesOf k before ++ c.valuesOf k after := List.filterMap_append
  rcases get_compile k h hruns with hlast | ⟨-, hnil⟩
  · rw [hlast, hvalues, Clauses.lastPresent_append]
    cases hpresent : Clauses.lastPresent (c.valuesOf k after) with
    | none => exact absurd hx (Clauses.lastPresent_eq_none_iff.mp hpresent x)
    | some y => rfl
  · rw [hvalues] at hnil
    exact absurd (List.append_eq_nil_iff.mp hnil).2 (List.ne_nil_of_mem hx)

/-- **What one rule sets the source, the limit or the offset to is left in the end**, wherever its term stands, if the
scope has no value. If it has one, then what the rule leaves is only kept if no query to the right still carries a
value; else the value of the scope is left. -/
theorem compile_setting (k : Setting α) {root : Group} {q : ClauseQuery C} (hcompile : c.compile root = .ok q)
    {before after : List (RuleRun (ClauseQuery C))} {mine : RuleRun (ClauseQuery C)}
    (hruns : c.RunsFor root (before ++ mine :: after)) (hafter : ∀ r ∈ after, k.givenIn r.steps = []) :
    (k.get c.scope.clauses = none → k.Keeps mine.steps → k.givenIn mine.steps ≠ [] →
        ∃ v ∈ k.givenIn mine.steps, k.get q.clauses = some v) ∧
      ((∀ r ∈ after, ¬ c.Carries k r) → ∀ v, k.left (k.get c.scope.clauses) mine.steps = some (some v) →
        k.get q.clauses = some v) ∧
      ((∃ r ∈ after, c.Carries k r) → k.get q.clauses = k.get c.scope.clauses) := by
  have hleft : ∀ r ∈ before ++ mine :: after,
      c.valueOf (c.calls maxDepth) k r.application = k.left (k.get c.scope.clauses) r.steps := by
    intro r hr
    obtain ⟨-, result, hbuilt⟩ := built_of_compile hcompile r.application
      (by rw [← hruns.1]; exact List.mem_map_of_mem hr)
    exact valueOf_eq_left k (hruns.2 r hr) hbuilt
  -- a value to the right is that of the scope
  have hscope : ∀ x, some x ∈ c.valuesOf k after → some x = k.get c.scope.clauses := by
    intro x hx
    obtain ⟨r, hr, hvalue⟩ := mem_valuesOf.mp hx
    rw [hleft r (by simp [hr])] at hvalue
    refine (k.left_mem hvalue).resolve_right fun hgiven => ?_
    rw [hafter r hr] at hgiven
    cases hgiven
  have hkept : (∀ r ∈ after, ¬ c.Carries k r) → ∀ v, k.left (k.get c.scope.clauses) mine.steps = some (some v) →
      k.get q.clauses = some v := by
    intro hnone v hv
    have hmine : c.valuesOf k (mine :: after) = some v :: c.valuesOf k after :=
      List.filterMap_cons_some ((hleft mine (by simp)).trans hv)
    have hrest : Clauses.lastPresent (c.valuesOf k after) = none := by
      refine Clauses.lastPresent_eq_none_iff.mpr fun x hx => ?_
      obtain ⟨r, hr, hvalue⟩ := mem_valuesOf.mp hx
      exact hnone r hr ⟨x, hvalue⟩
    rw [get_compile_of_mem k hcompile hruns (by rw [hmine]; exact List.mem_cons_self), hmine,
      Clauses.lastPresent_cons, hrest, Option.none_or]
  refine ⟨fun hbase hkeeps hgiven => ?_, hkept, ?_⟩
  · obtain ⟨v, hv, hmine⟩ := k.left_of_given hkeeps hgiven
    rw [hbase] at hkept hscope
    refine ⟨v, hv, hkept (fun r hr hcarries => ?_) v hmine⟩
    obtain ⟨x, hvalue⟩ := hcarries
    cases hscope x (mem_valuesOf.mpr ⟨r, hr, hvalue⟩)
  · rintro ⟨r, hr, x, hvalue⟩
    have hx : some x ∈ c.valuesOf k after := mem_valuesOf.mpr ⟨r, hr, hvalue⟩
    rw [List.append_cons] at hruns
    rw [get_compile_of_mem k hcompile hruns hx]
    cases hpresent : Clauses.lastPresent (c.valuesOf k after) with
    | none => exact absurd hx (Clauses.lastPresent_eq_none_iff.mp hpresent x)
    | some y => exact hscope y (Clauses.mem_of_lastPresent hpresent)

end Compiler

end Settings

/-! ## Two orders of two terms -/

namespace Compiler

/-- Terms with the field `name` are compared, and a term with the field `top` asks for one row. -/
def ranking : Definition Sql.SqlQuery where
  declarations :=
    { Declarations.none with
      rules := .ofList [("name", .search .compare true),
        ("top", .search (.method (Sql.SqlMethod.edit (.limit (some 1)))) true)] }
  matchers :=
    [{ rule := "name", rank := 0, fields := .only ["name"], onlyIf := none, exceptIf := none },
      { rule := "top", rank := 0, fields := .only ["top"], onlyIf := none, exceptIf := none }]

/-- A search for badgers, and how many of them at the most. -/
def badgers (limit : Option Nat) : Compiler Sql.SqlQuery where
  definition := ranking
  scope := (ClauseQuery.ofSource "badgers").edit (.limit limit)

/-- The run for the term `name:bob`. -/
def runOfName : RuleRun Sql.SqlQuery where
  application := (ranking.matchers[0], .start (.make (some "name") .eq "bob" .none false))
  steps := [.compare]

/-- The run for the term `top:one`. -/
def runOfTop : RuleRun Sql.SqlQuery where
  application := (ranking.matchers[1], .start (.make (some "top") .eq "one" .none false))
  steps := [.method (Sql.SqlMethod.edit (.limit (some 1)))]

/-- The search for the terms of two runs. -/
def searchFor (first second : RuleRun Sql.SqlQuery) : Group where
  children := [.term first.application.2.term, .term second.application.2.term]
  keywords := []

theorem runsFor_searchFor (limit : Option Nat) {first second : RuleRun Sql.SqlQuery}
    (hfirst : first = runOfName ∨ first = runOfTop) (hsecond : second = runOfName ∨ second = runOfTop) :
    (badgers limit).RunsFor (searchFor first second) [first, second] := by
  have hperformed : ∀ r, r = runOfName ∨ r = runOfTop →
      (badgers limit).Performed ((badgers limit).calls maxDepth) r := by
    rintro r (rfl | rfl)
    · exact performed_ofSteps rfl rfl rfl rfl
    · exact performed_ofSteps rfl rfl rfl rfl
  refine ⟨?_, fun r hr => ?_⟩
  · rcases hfirst with rfl | rfl <;> rcases hsecond with rfl | rfl <;> rfl
  · rcases List.mem_pair.mp hr with rfl | rfl
    · exact hperformed _ hfirst
    · exact hperformed _ hsecond

/-- One row is wanted with `top:one` in front if the scope has no limit, and with `top:one` at the end in any case. -/
theorem compile_setting_top :
    (∃ q, (badgers none).compile (searchFor runOfTop runOfName) = .ok q ∧ Setting.limit.get q.clauses = some 1) ∧
      ∃ q, (badgers (some 10)).compile (searchFor runOfName runOfTop) = .ok q ∧
        Setting.limit.get q.clauses = some 1 := by
  have hfront : (badgers none).RunsFor (searchFor runOfTop runOfName) ([] ++ runOfTop :: [runOfName]) :=
    runsFor_searchFor none (.inr rfl) (.inl rfl)
  have hend : (badgers (some 10)).RunsFor (searchFor runOfName runOfTop) ([runOfName] ++ runOfTop :: []) :=
    runsFor_searchFor (some 10) (.inl rfl) (.inr rfl)
  constructor
  · have hspares : ∀ r ∈ [runOfName], Setting.limit.givenIn r.steps = [] := by
      intro r hr
      rw [List.mem_singleton.mp hr]
      rfl
    have hkeeps : Setting.limit.Keeps runOfTop.steps := by
      intro m hm
      cases List.mem_singleton.mp hm
      exact nofun
    obtain ⟨v, hv, hlimit⟩ := (compile_setting .limit rfl hfront hspares).1 rfl hkeeps (List.cons_ne_nil 1 [])
    exact ⟨_, rfl, hlimit.trans (congrArg some (List.mem_singleton.mp hv))⟩
  · exact ⟨_, rfl, (compile_setting .limit rfl hend (fun r hr => nomatch hr)).2.1 (fun r hr => nomatch hr) 1 rfl⟩

/-- With `top:one` in front of a search for ten badgers at the most, ten rows are wanted, although nothing else gives a
limit: the query for `name:bob` carries that of the scope. -/
theorem compile_setting_fails_top :
    ∃ q, (badgers (some 10)).compile (searchFor runOfTop runOfName) = .ok q ∧
      (badgers (some 10)).RunsFor (searchFor runOfTop runOfName) [runOfTop, runOfName] ∧
      Setting.limit.givenIn runOfTop.steps = [1] ∧ Setting.limit.givenIn runOfName.steps = [] ∧
      Setting.limit.get q.clauses = some 10 :=
  ⟨_, rfl, runsFor_searchFor (some 10) (.inr rfl) (.inl rfl), rfl, rfl, rfl⟩

end Compiler

end TermSearch
