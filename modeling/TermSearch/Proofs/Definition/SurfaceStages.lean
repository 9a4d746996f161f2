import TermSearch.Definition.Compiler
import TermSearch.Definition.Surface
import TermSearch.Proofs.Definition.Stages

/-!
# What a surface does with a term

A surface declares stages: one for each other name of a field, and one or two for each entry (`Surface.stages`).
The names come first in the order of the definition, so they settle which field the entries see
(`Surface.seenField`); of the entries that accept it, those up to the first that uses the term up build a query
each (`SearchStage.applicable`). `Surface.termQueries_eq` says that the compiler of a surface answers a term with
just these queries.
-/

namespace TermSearch

/-! ## Stages of a surface -/

/-- How a stage searches: by the field of the term, or by each of some fields under a connective. -/
inductive SearchForm where
  | own
  | spread (p : Predicate) (fields : List String)

/-- One stage of an entry that searches. -/
structure SearchStage where
  fields : AcceptedFields
  form : SearchForm
  consume : Bool
  rank : Int

/-- The fields that an entry accepts which spreads a term over fields. -/
def SurfaceEntry.spreadFilter (e : SurfaceEntry) : AcceptedFields :=
  match e.field with
  | some field => .only [field]
  | none => .fieldless

/-- The stages of an entry. -/
def SurfaceEntry.stages (e : SurfaceEntry) : List SearchStage :=
  let own : SearchStage := { fields := .only e.fields, form := .own, consume := e.consume, rank := e.rank }
  let spread (p : Predicate) : SearchStage :=
    { fields := e.spreadFilter, form := .spread p e.fields, consume := e.consume, rank := e.rank }
  match e.kind with
  | .inFields => [own, spread .or]
  | .anyOf => [spread .or]
  | .allOf => [spread .and]
  | .specific => [own]

namespace Surface

/-- The stages of all entries, in the order they run in. -/
def searchStages (s : Surface) : List SearchStage :=
  (s.search.flatMap SurfaceEntry.stages).mergeSort fun a b => decide (a.rank ≤ b.rank)

/-- Whether a term may be searched for. -/
def permits (s : Surface) (t : Term) : Bool := s.permit.isEmpty || t.field.all (decide <| · ∈ s.permit)

/-- The field after one more name is replaced. -/
def seeAlias (seen : Option String) (a : String × String) : Option String :=
  if seen = some a.1 then some a.2 else seen

/-- The field that entries see, names being replaced in key order. -/
def seenField (s : Surface) (t : Term) : Option String := s.aliases.toList.foldl seeAlias t.field

/-- The ranks of the entries are not below the least one, which renaming has. -/
def RanksFit (s : Surface) : Prop := ∀ e ∈ s.search, renameRank ≤ e.rank

end Surface

/-- The stages that build something for a field: those that accept it, up to the first that uses the term up. -/
def SearchStage.applicable (field : Option String) : List SearchStage → List SearchStage
  | [] => []
  | st :: rest =>
    if st.fields.allows field then
      if st.consume then [st] else st :: applicable field rest
    else applicable field rest

theorem SearchStage.mem_of_mem_applicable {st : SearchStage} {seen : Option String} {stages : List SearchStage}
    (h : st ∈ applicable seen stages) : st ∈ stages ∧ st.fields.allows seen = true := by
  induction stages with
  | nil => cases h
  | cons first stages ih =>
    rw [applicable] at h
    split at h
    · next hallows =>
      split at h
      · rw [List.mem_singleton.mp h]
        exact ⟨List.mem_cons_self, hallows⟩
      · rcases List.mem_cons.mp h with rfl | h
        · exact ⟨List.mem_cons_self, hallows⟩
        · exact ⟨List.mem_cons_of_mem _ (ih h).1, (ih h).2⟩
    · exact ⟨List.mem_cons_of_mem _ (ih h).1, (ih h).2⟩

/-- The form compares at least one field, and good ones only. -/
def SearchForm.Compares (good : String → Prop) (seen : Option String) : SearchForm → Prop
  | .own => ∃ field, seen = some field ∧ good field
  | .spread _ fields => fields ≠ [] ∧ ∀ field ∈ fields, good field

/-- A stage of an entry is the one for a field of its own or the one that spreads. -/
theorem SurfaceEntry.form_of_mem {e : SurfaceEntry} {st : SearchStage} (hst : st ∈ e.stages) :
    (st.fields = .only e.fields ∧ st.form = .own) ∨ ∃ p, st.form = .spread p e.fields := by
  unfold stages at hst
  split at hst
  · rcases List.mem_cons.mp hst with rfl | hst
    · exact .inl ⟨rfl, rfl⟩
    · rw [List.mem_singleton.mp hst]
      exact .inr ⟨_, rfl⟩
  · rw [List.mem_singleton.mp hst]
    exact .inr ⟨_, rfl⟩
  · rw [List.mem_singleton.mp hst]
    exact .inr ⟨_, rfl⟩
  · rw [List.mem_singleton.mp hst]
    exact .inl ⟨rfl, rfl⟩

/-- **A stage that accepts a term compares fields of its entry**, if the entry has fields. -/
theorem SurfaceEntry.compares_of_mem {e : SurfaceEntry} {st : SearchStage} {seen : Option String}
    {good : String → Prop} (hst : st ∈ e.stages) (hallows : st.fields.allows seen = true) (hne : e.fields ≠ [])
    (hgood : ∀ field ∈ e.fields, good field) : st.form.Compares good seen := by
  rcases form_of_mem hst with ⟨honly, hform⟩ | ⟨p, hform⟩
  · rw [hform]
    rw [honly] at hallows
    simp only [AcceptedFields.allows, AcceptedFields.only, AcceptedFields.isAny, List.isEmpty_map,
      Bool.or_eq_true, List.isEmpty_iff, decide_eq_true_eq, List.mem_map] at hallows
    rcases hallows with hnil | ⟨field, hmem, rfl⟩
    · exact absurd hnil hne
    · exact ⟨field, rfl, hgood field hmem⟩
  · rw [hform]
    exact ⟨hne, hgood⟩

variable {Q : Type} [Query Q]

/-! ## As stages of a definition -/

/-- The operation of a form. -/
def SearchForm.step : SearchForm → Step Q
  | .own => .compare
  | .spread .or fields => .anyOf (fields.map .compareBy)
  | .spread .and fields => .allOf (fields.map .compareBy)

/-- A stage of an entry as a stage of a definition. -/
def SearchStage.stage (st : SearchStage) : Stage Q :=
  { fields := st.fields, rank := st.rank, body := .search st.form.step st.consume }

/-- The stage that gives a field another name. -/
def aliasStage (a : String × String) : Stage Q :=
  { fields := .only [a.1], rank := renameRank, body := .rename a.2 }

namespace Surface

/-- The stages that a surface declares. -/
def stages (s : Surface) : List (Stage Q) :=
  s.aliases.toList.map aliasStage ++ (s.search.flatMap SurfaceEntry.stages).map SearchStage.stage

theorem hasStages_aliases {d : Draft Q} {stages : List (Stage Q)} (h : d.HasStages stages)
    (aliases : List (String × String)) :
    (aliases.foldl (fun d (field, target) => d.rename field target) d).HasStages
      (stages ++ aliases.map aliasStage) := by
  induction aliases generalizing d stages with
  | nil => simpa using h
  | cons a aliases ih =>
    rw [List.foldl_cons, List.map_cons, ← List.singleton_append, ← List.append_assoc]
    exact ih (h.generate "alias" (aliasStage a))

theorem hasStages_entry {d : Draft Q} {stages : List (Stage Q)} (h : d.HasStages stages) (e : SurfaceEntry) :
    (e.apply d).HasStages (stages ++ e.stages.map SearchStage.stage) := by
  obtain ⟨kind, fields, field, consume, rank⟩ := e
  have hown := h.generate "search_in_specific_fields"
    (SearchStage.stage { fields := .only fields, form := .own, consume, rank })
  cases kind with
  | inFields =>
    have hboth := hown.generate "search_in_any_of" (SearchStage.stage
      { fields := SurfaceEntry.spreadFilter ⟨.inFields, fields, field, consume, rank⟩, form := .spread .or fields,
        consume, rank })
    rw [List.append_assoc] at hboth
    exact hboth
  | anyOf =>
    exact h.generate "search_in_any_of" (SearchStage.stage
      { fields := SurfaceEntry.spreadFilter ⟨.anyOf, fields, field, consume, rank⟩, form := .spread .or fields,
        consume, rank })
  | allOf =>
    exact h.generate "search_in_all_of" (SearchStage.stage
      { fields := SurfaceEntry.spreadFilter ⟨.allOf, fields, field, consume, rank⟩, form := .spread .and fields,
        consume, rank })
  | specific => exact hown

theorem hasStages_entries {d : Draft Q} {stages : List (Stage Q)} (h : d.HasStages stages)
    (entries : List SurfaceEntry) :
    (entries.foldl SurfaceEntry.apply d).HasStages
      (stages ++ (entries.flatMap SurfaceEntry.stages).map SearchStage.stage) := by
  induction entries generalizing d stages with
  | nil => simpa using h
  | cons e entries ih =>
    rw [List.foldl_cons, List.flatMap_cons, List.map_append, ← List.append_assoc]
    exact ih (hasStages_entry h e)

/-- **A surface declares its stages.** -/
theorem apply_hasStages (s : Surface) : (s.apply (Definition.start : Draft Q)).HasStages s.stages := by
  have hpermit : (if s.permit.isEmpty then (Definition.start : Draft Q)
      else Definition.start.permit s.permit).HasStages [] := by
    split
    · exact .start
    · exact Draft.HasStages.start.filter _
  have haliases := hasStages_aliases hpermit s.aliases.toList
  rw [List.nil_append] at haliases
  exact hasStages_entries haliases s.search

/-- Terms are refused for their field alone. -/
theorem apply_filters (s : Surface) (t : Term) :
    (s.apply (Definition.start : Draft Q)).declarations.filters.all (· (.start t)) = s.permits t := by
  have hentry : ∀ (d : Draft Q) (e : SurfaceEntry), (e.apply d).declarations.filters = d.declarations.filters := by
    intro d e
    unfold SurfaceEntry.apply
    cases e.kind with
    | inFields => exact (Draft.generate_filters _ _ _ _).trans (Draft.generate_filters _ _ _ _)
    | anyOf => exact Draft.generate_filters _ _ _ _
    | allOf => exact Draft.generate_filters _ _ _ _
    | specific => exact Draft.generate_filters _ _ _ _
  have halias : ∀ (d : Draft Q) (a : String × String),
      (d.rename a.1 a.2).declarations.filters = d.declarations.filters :=
    fun d a => Draft.generate_filters _ _ _ _
  unfold apply
  rw [Draft.foldl_filters hentry, Draft.foldl_filters halias]
  unfold permits
  split
  · next h => simp [h, Definition.start, Declarations.none]
  · next h => simp [h, Definition.start, Declarations.none, Draft.permit, Draft.filter, Draft.declare, Visit.start]

/-- The names come first, and the entries in the order of their ranks. -/
theorem sort_stages {s : Surface} (h : s.RanksFit) :
    Stage.sort (s.stages : List (Stage Q)) =
      s.aliases.toList.map aliasStage ++ s.searchStages.map SearchStage.stage := by
  have hrank : ∀ e : SurfaceEntry, ∀ st ∈ e.stages, st.rank = e.rank := by
    intro e st hst
    unfold SurfaceEntry.stages at hst
    split at hst <;> simp at hst
    · rcases hst with rfl | rfl <;> rfl
    · rw [hst]
    · rw [hst]
    · rw [hst]
  have hmap : ∀ l : List SearchStage, (l.mergeSort fun a b => decide (a.rank ≤ b.rank)).map SearchStage.stage =
      (l.map SearchStage.stage).mergeSort fun a b : Stage Q => decide (a.rank ≤ b.rank) :=
    fun l => List.map_mergeSort fun _ _ _ _ => rfl
  unfold Stage.sort stages searchStages
  rw [hmap, mergeSort_append_of_le]
  · exact List.pairwise_map.mpr (List.pairwise_of_forall fun _ _ => Int.le_refl _)
  · intro a ha b hb
    obtain ⟨_, _, rfl⟩ := List.mem_map.mp ha
    obtain ⟨st, hst, rfl⟩ := List.mem_map.mp hb
    obtain ⟨e, he, hst⟩ := List.mem_flatMap.mp hst
    show renameRank ≤ st.rank
    rw [hrank e st hst]
    exact h e he

end Surface

/-! ## Runs -/

namespace SearchForm

/-- What a form builds for a term that is seen with a field, starting from a scope. -/
def build (scope : Q) (t : Term) (seen : Option String) : SearchForm → Except QueryError (Option Q)
  | .own =>
    match seen with
    | some field => .ok (some (Query.compare scope field t.operator t.value))
    | none => .error (.missingField (t.renderWith none))
  | .spread p fields =>
    .ok ((Compiler.mergeAll (p.under t.negated)
        (fields.map fun field => Query.compare (Query.cleared scope) field t.operator t.value)).map
      fun added => Query.merge scope .and [added])

theorem runAll_compareBy (v : Visit) (root : Q) (negated : Bool) (branches : List Q) (fields : List String) :
    Step.runAll v (fields.map .compareBy) (.branching root negated branches) =
      .done (.branching root negated
        (branches ++ fields.map fun field => Query.compare root field v.term.operator v.term.value)) := by
  induction fields generalizing branches with
  | nil => simp [Step.runAll]
  | cons field fields ih =>
    rw [List.map_cons, Step.runAll, Step.run, Outcome.andThen_done]
    simp only [Scope.compareBy, Scope.compareWith, Scope.put, Scope.current]
    rw [ih, List.append_assoc]
    rfl

theorem render_eq (v : Visit) : v.render = v.term.renderWith v.field := by
  obtain ⟨term, shown, state, claimedBy⟩ := v
  cases shown <;> rfl

/-- The query of a scope on which something has run. -/
def builtIn (s : Scope Q) : Option Q := if s.touched then some s.current else none

/-- What a form builds is what its operation leaves behind. -/
theorem build_eq (scope : Q) (v : Visit) (form : SearchForm) :
    form.build scope v.term v.field =
      match (form.step.run v (.start scope v.term.negated)).failure with
      | some cause => .error cause
      | none => .ok (builtIn (form.step.run v (.start scope v.term.negated)).state) := by
  have hspread : ∀ (p : Predicate) (fields : List String),
      Scope.grouped p (Step.runAll v (fields.map .compareBy)) (.start scope v.term.negated) =
        .done ((Compiler.mergeAll p
          (fields.map fun field => Query.compare (Query.cleared scope) field v.term.operator v.term.value)).elim
            (.start scope v.term.negated) (Scope.start scope v.term.negated).push) := by
    intro p fields
    unfold Scope.grouped Scope.branch
    rw [runAll_compareBy, List.nil_append]
    cases fields <;> rfl
  have hbuilt : ∀ added : Option Q,
      builtIn (added.elim (.start scope v.term.negated) (Scope.start scope v.term.negated).push) =
        added.map fun q => Query.merge scope .and [q] := by
    intro added
    cases added <;> rfl
  cases form with
  | own =>
    unfold step Step.run Scope.compare build
    cases hfield : v.field with
    | some field => rfl
    | none =>
      have hrender : v.render = v.term.renderWith none := by rw [render_eq, hfield]
      rw [hrender]
      rfl
  | spread p fields =>
    have hrun : (SearchForm.spread p fields).step.run v (.start scope v.term.negated) =
        Scope.grouped (p.under v.term.negated) (Step.runAll v (fields.map .compareBy))
          (.start scope v.term.negated) := by
      cases p <;> rfl
    rw [hrun, hspread]
    exact congrArg Except.ok (hbuilt _).symm

end SearchForm

namespace SearchStage

/-- The queries of stages that all run, up to the first that fails. -/
def buildAll (scope : Q) (t : Term) (seen : Option String) : List SearchStage → Except QueryError (List Q)
  | [] => .ok []
  | st :: rest =>
    match st.form.build scope t seen with
    | .error cause => .error cause
    | .ok built => (buildAll scope t seen rest).map (built.toList ++ ·)

/-- The visit after a rule has claimed it. -/
def claimed (rule : String) (v : Visit) : Visit := { v with claimedBy := v.claimedBy ++ [rule] }

/-- The visit after a stage has run under a name. -/
def after (st : SearchStage) (rule : String) (v : Visit) : Visit :=
  if st.consume then (claimed rule v).consume else claimed rule v

theorem after_term (st : SearchStage) (rule : String) (v : Visit) : (st.after rule v).term = v.term := by
  unfold after Visit.consume
  repeat' split
  all_goals rfl

theorem after_field (st : SearchStage) (rule : String) (v : Visit) : (st.after rule v).field = v.field := by
  unfold after Visit.consume
  repeat' split
  all_goals rfl

theorem after_isSettled {v : Visit} (h : v.isSettled = false) (st : SearchStage) (rule : String) :
    (st.after rule v).isSettled = st.consume := by
  have hclaimed : (claimed rule v).isSettled = false := h
  unfold after Visit.consume
  split
  · next hconsume =>
    rw [if_neg (by simp [hclaimed]), hconsume]
    rfl
  · next hconsume => simpa [hclaimed] using hconsume

end SearchStage

/-- The effect of the rule that builds by one operation. -/
theorem RuleBody.search_eq (step : Step Q) (consume : Bool) (scope : Q) (calls : Calls Q) (s : RuleState Q) :
    RuleBody.search step consume scope calls s =
      match (step.run s.visit s.scope).failure with
      | some cause => .failed { s with scope := (step.run s.visit s.scope).state } cause
      | none => .done { visit := if consume then s.visit.consume else s.visit,
                        scope := (step.run s.visit s.scope).state } := by
  show (s.onScope (step.run s.visit s.scope)).andThen _ = _
  obtain ⟨state, failure⟩ := step.run s.visit s.scope
  cases failure with
  | some cause => rfl
  | none => cases consume <;> rfl

namespace Compiler

variable {c : Compiler Q} {calls : Calls Q} {v : Visit}

theorem claim?_of_open (h : v.isSettled = false) (rule : String) :
    v.claim? rule = some (SearchStage.claimed rule v) := by
  simp [Visit.claim?, h, SearchStage.claimed]

/-- The run of a stage that searches. -/
theorem runRuleWith_search {rule : String} {st : SearchStage} (hopen : v.isSettled = false)
    (hget : c.definition.declarations.rules.get? rule = some st.stage.body) :
    c.runRuleWith calls rule v =
      match st.form.build c.scope v.term v.field with
      | .error cause => (.error cause, SearchStage.claimed rule v)
      | .ok built => (.ok built, st.after rule v) := by
  have hterm : (SearchStage.claimed rule v).term = v.term := rfl
  have hbuild := SearchForm.build_eq c.scope (SearchStage.claimed rule v) st.form
  rw [show (SearchStage.claimed rule v).field = v.field from rfl, hterm] at hbuild
  rw [hbuild]
  unfold runRuleWith
  rw [hget]
  simp only [claim?_of_open hopen, SearchStage.stage, RuleBody.search_eq]
  cases (st.form.step.run (SearchStage.claimed rule v) (.start c.scope v.term.negated)).failure <;> rfl

/-- The run of a stage that renames. -/
theorem runRuleWith_rename {rule target : String} (hopen : v.isSettled = false)
    (hget : c.definition.declarations.rules.get? rule = some (.rename target)) :
    c.runRuleWith calls rule v = (.ok none, (SearchStage.claimed rule v).rename target) := by
  unfold runRuleWith
  rw [hget]
  simp only [claim?_of_open hopen]
  rfl

omit [Query Q] in
theorem accepts_of_runs {m : Matcher Q} {st : Stage Q} (h : c.definition.declarations.Runs m st) (scope : Q)
    (v : Visit) : m.accepts scope v = st.fields.allows v.field := by
  rw [h.1]
  simp [Matcher.accepts, Stage.matcher]

/-- A matcher that renames accepts one field. -/
theorem accepts_of_alias {m : Matcher Q} {a : String × String} (h : c.definition.declarations.Runs m (aliasStage a))
    (scope : Q) (v : Visit) : m.accepts scope v = decide (v.field = some a.1) := by
  rw [accepts_of_runs h]
  simp [aliasStage, AcceptedFields.allows, AcceptedFields.only, AcceptedFields.isAny]

/-- **Names are replaced** before anything else, and nothing is built meanwhile. -/
theorem runMatchers_aliases (calls : Calls Q) {ms : List (Matcher Q)} (rest : List (Matcher Q))
    {aliases : List (String × String)}
    (h : List.Forall₂ c.definition.declarations.Runs ms (aliases.map aliasStage)) (hopen : v.isSettled = false) :
    ∃ v', c.runMatchers calls (ms ++ rest) v = c.runMatchers calls rest v' ∧ v'.isSettled = false ∧
      v'.term = v.term ∧ v'.field = aliases.foldl Surface.seeAlias v.field := by
  induction aliases generalizing ms v with
  | nil =>
    cases h
    exact ⟨v, rfl, hopen, rfl, rfl⟩
  | cons a aliases ih =>
    rw [List.map_cons] at h
    obtain ⟨m, ms', hm, hms, rfl⟩ := List.forall₂_cons_right_iff.mp h
    have haccepts := accepts_of_alias hm c.scope v
    by_cases hfield : v.field = some a.1
    · -- the rest goes on with the term under its new name
      obtain ⟨v', hrun, hopen', hterm, hseen⟩ :=
        ih (v := (SearchStage.claimed m.rule v).rename a.2) hms hopen
      refine ⟨v', ?_, hopen', hterm, ?_⟩
      · rw [List.cons_append, runMatchers, if_neg (by simp [hopen]), if_neg (by simp [haccepts, hfield]),
          runRuleWith_rename hopen hm.2, ← hrun]
        show (c.runMatchers calls (ms' ++ rest) _).map ([] ++ ·) = _
        cases c.runMatchers calls (ms' ++ rest) ((SearchStage.claimed m.rule v).rename a.2) <;> rfl
      · rw [List.foldl_cons, hseen, Surface.seeAlias, if_pos hfield]
        rfl
    · obtain ⟨v', hrun, hopen', hterm, hseen⟩ := ih (v := v) hms hopen
      refine ⟨v', ?_, hopen', hterm, ?_⟩
      · rw [List.cons_append, runMatchers, if_neg (by simp [hopen]), if_pos (by simp [haccepts, hfield]), hrun]
      · rw [List.foldl_cons, hseen, Surface.seeAlias, if_neg hfield]

/-- **The stages that apply build their queries** one after the other. -/
theorem runMatchers_search {ms : List (Matcher Q)} {stages : List SearchStage}
    (h : List.Forall₂ c.definition.declarations.Runs ms (stages.map SearchStage.stage))
    (hopen : v.isSettled = false) :
    c.runMatchers calls ms v =
      SearchStage.buildAll c.scope v.term v.field (SearchStage.applicable v.field stages) := by
  induction stages generalizing ms v with
  | nil =>
    cases h
    rfl
  | cons st stages ih =>
    rw [List.map_cons] at h
    obtain ⟨m, ms', hm, hms, rfl⟩ := List.forall₂_cons_right_iff.mp h
    rw [runMatchers, if_neg (by simp [hopen]), accepts_of_runs hm, SearchStage.applicable]
    have hfields : (SearchStage.stage st : Stage Q).fields = st.fields := rfl
    rw [hfields]
    by_cases hallows : st.fields.allows v.field = true
    · rw [if_neg (by simp [hallows]), if_pos hallows, runRuleWith_search hopen hm.2]
      have hsettled := SearchStage.after_isSettled hopen st m.rule
      by_cases hconsume : st.consume = true
      · rw [if_pos hconsume, SearchStage.buildAll, SearchStage.buildAll]
        rw [hconsume] at hsettled
        cases st.form.build c.scope v.term v.field with
        | error cause => rfl
        | ok built =>
          -- the term is used up, whatever matchers are left
          have hrest : c.runMatchers calls ms' (st.after m.rule v) = .ok [] := by
            cases ms' with
            | nil => rfl
            | cons m' ms' => rw [runMatchers, if_pos hsettled]
          simp only [hrest]
      · rw [if_neg hconsume, SearchStage.buildAll]
        cases st.form.build c.scope v.term v.field with
        | error cause => rfl
        | ok built =>
          have hrest := ih (v := st.after m.rule v) hms (by rw [hsettled]; simpa using hconsume)
          rw [SearchStage.after_term, SearchStage.after_field] at hrest
          simp only [hrest]
    · rw [if_pos (by simp [hallows]), if_neg hallows]
      exact ih hms hopen

end Compiler

namespace Surface

/-- What a surface builds for a term over a scope. -/
def termQueries (s : Surface) (scope : Q) (t : Term) : Except QueryError (List Q) :=
  if s.permits t then
    SearchStage.buildAll scope t (s.seenField t) (SearchStage.applicable (s.seenField t) s.searchStages)
  else .ok []

theorem stages_ne_nil {s : Surface} (h : s.aliases.toList ≠ [] ∨ s.search ≠ []) : s.stages (Q := Q) ≠ [] := by
  have hentry : ∀ e : SurfaceEntry, e.stages ≠ [] := by
    rintro ⟨kind, _, _, _, _⟩
    cases kind <;> exact List.cons_ne_nil _ _
  unfold stages
  rcases h with h | h
  · simp [h]
  · obtain ⟨e, entries, hcons⟩ := List.exists_cons_of_ne_nil h
    simp [hcons, hentry e]

/-- **The definition of a surface answers a term with the queries of the stages that apply to it.** -/
theorem build_eq (s : Surface) (hranks : s.RanksFit) (hdeclares : s.aliases.toList ≠ [] ∨ s.search ≠ []) :
    ∃ d, (s.apply (Definition.start : Draft Q)).build = .ok d ∧
      ∀ (scope : Q) (calls : Calls Q) (t : Term),
        (⟨d, scope⟩ : Compiler Q).termQueries calls t = s.termQueries scope t := by
  obtain ⟨d, hbuild, hdeclarations, hruns⟩ := (s.apply_hasStages (Q := Q)).build
  -- a definition without rules would refuse every term
  have hrules : d.hasRules = true := by
    refine Draft.hasRules_of_runs hruns fun hnil => stages_ne_nil (Q := Q) hdeclares ?_
    have hperm : List.Perm (Stage.sort (s.stages (Q := Q))) s.stages := List.mergeSort_perm _ _
    rw [hnil] at hperm
    exact hperm.symm.eq_nil
  rw [sort_stages hranks] at hruns
  refine ⟨d, hbuild, fun scope calls t => ?_⟩
  have hfilters : d.declarations.filters.all (· (.start t)) = s.permits t := by
    rw [hdeclarations, apply_filters]
  unfold Compiler.termQueries termQueries
  rw [if_neg (by simp [hrules]), show (Compiler.mk d scope).definition = d from rfl, hfilters]
  by_cases hpermits : s.permits t = true
  · rw [if_pos hpermits, if_pos hpermits]
    -- the matchers in front replace names, those behind them search
    obtain ⟨v, hrun, hopen, hterm, hfield⟩ :=
      Compiler.runMatchers_aliases (c := ⟨d, scope⟩) (v := .start t) calls
        (d.matchers.drop (s.aliases.toList.map (aliasStage (Q := Q))).length) (List.forall₂_take_append _ _ _ hruns) rfl
    rw [List.take_append_drop] at hrun
    have hstart : (Visit.start t).field = t.field := rfl
    rw [hrun, Compiler.runMatchers_search (List.forall₂_drop_append _ _ _ hruns) hopen, hterm, hfield, hstart]
    rfl
  · rw [if_neg hpermits, if_neg hpermits]

/-- **A surface that declares nothing answers no term.** -/
theorem build_of_nothing {s : Surface} (haliases : s.aliases.toList = []) (hsearch : s.search = []) :
    ∃ d, (s.apply (Definition.start : Draft Q)).build = .ok d ∧
      ∀ (scope : Q) (calls : Calls Q) (t : Term),
        (⟨d, scope⟩ : Compiler Q).termQueries calls t = .error (.definition .noRules) := by
  obtain ⟨d, hbuild, hdeclarations, -⟩ := (s.apply_hasStages (Q := Q)).build
  have hrules : (s.apply (Definition.start : Draft Q)).declarations.rules = .nil := by
    unfold apply
    rw [haliases, hsearch]
    split <;> rfl
  refine ⟨d, hbuild, fun scope calls t => ?_⟩
  unfold Compiler.termQueries Definition.hasRules
  rw [hdeclarations, hrules]
  rfl

end Surface

end TermSearch
