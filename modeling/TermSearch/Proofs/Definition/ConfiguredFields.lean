import Mathlib.Data.List.ReduceOption
import TermSearch.Proofs.Definition.AliasTable
import TermSearch.Proofs.Definition.Answering
import TermSearch.Proofs.Definition.Invariant
import TermSearch.Proofs.Definition.SearchFormula
import TermSearch.Proofs.Sql.Markers
import TermSearch.Proofs.Sql.Values

/-!
# Only configured fields are compared

A term may carry any field, and names may be replaced any number of times before an entry of a surface searches. Still
the rules of an entry compare the fields of its own list and no others, by the operator and the value of the term. To
see the comparisons themselves, queries are kept with a log (`Logged`): the rules of an entry leave just such
comparisons there. So the columns of a relational condition are those of the base and configured ones
(`Surface.compares_configured_fields`).
-/

namespace TermSearch

/-! ## Queries with a log -/

/-- A query and the comparisons that have gone into it. -/
structure Logged (Q : Type) where
  query : Q
  log : List Comparison

section Logging

variable {Q : Type}

/-- The query with an empty log. -/
def Logged.start (query : Q) : Logged Q := ⟨query, []⟩

variable [Query Q]

instance : Query (Logged Q) where
  Method := Query.Method Q
  compare q field op value := ⟨Query.compare q.query field op value, q.log ++ [⟨field, op, value⟩]⟩
  merge q p others := ⟨Query.merge q.query p (others.map Logged.query), q.log ++ others.flatMap Logged.log⟩
  cleared q := ⟨Query.cleared q.query, q.log⟩
  render q := Query.render q.query
  perform m q := (Query.perform m q.query).map fun query => ⟨query, q.log⟩

namespace Logged

omit [Query Q] in
@[simp] theorem log_start (q : Q) : (start q).log = [] := rfl

@[simp] theorem log_compare (q : Logged Q) (field : String) (op : Operator) (value : String) :
    (Query.compare q field op value).log = q.log ++ [⟨field, op, value⟩] := rfl

@[simp] theorem log_cleared (q : Logged Q) : (Query.cleared q).log = q.log := rfl

@[simp] theorem log_merge (q : Logged Q) (p : Predicate) (others : List (Logged Q)) :
    (Query.merge q p others).log = q.log ++ others.flatMap log := rfl

theorem query_merge (q : Logged Q) (p : Predicate) (others : List (Logged Q)) :
    (Query.merge q p others).query = Query.merge q.query p (others.map query) := rfl

end Logged

theorem SearchForm.Compares.comparedFields {form : SearchForm} {good : String → Prop} {seen : Option String}
    (h : form.Compares good seen) :
    form.comparedFields seen ≠ [] ∧ ∀ field ∈ form.comparedFields seen, good field := by
  cases form with
  | own =>
    obtain ⟨field, rfl, hfield⟩ := h
    refine ⟨List.cons_ne_nil _ _, fun other hother => ?_⟩
    rw [List.mem_singleton.mp hother]
    exact hfield
  | spread p fields => exact h

theorem SearchForm.Compares.build {form : SearchForm} {good : String → Prop} {seen : Option String}
    (h : form.Compares good seen) (base : Q) (t : Term) : ∃ q, form.build base t seen = .ok (some q) := by
  cases form with
  | own =>
    obtain ⟨field, rfl, -⟩ := h
    exact ⟨_, rfl⟩
  | spread p fields =>
    obtain ⟨field, rest, rfl⟩ := List.exists_cons_of_ne_nil h.1
    exact ⟨_, rfl⟩

/-- **A form logs the fields that it compares**, each with the operator and the value of the term. The query is the
one that it builds without a log. -/
theorem SearchForm.build_logged {form : SearchForm} {base : Q} {t : Term} {seen : Option String} {q : Logged Q}
    (h : form.build (Logged.start base) t seen = .ok (some q)) :
    q.log = (form.comparedFields seen).map t.comparison ∧ form.build base t seen = .ok (some q.query) := by
  cases form with
  | own =>
    cases seen with
    | none => cases h
    | some field =>
      cases h
      exact ⟨rfl, rfl⟩
  | spread p fields =>
    cases fields with
    | nil => cases h
    | cons field rest =>
      cases h
      constructor
      · -- the branches start from a base with an empty log
        rw [Logged.log_merge, List.flatMap_singleton, Logged.log_merge, List.flatMap_map]
        simp only [Logged.log_compare, Logged.log_cleared, Logged.log_start, List.nil_append]
        rw [← List.map_eq_flatMap]
        rfl
      · rw [Logged.query_merge, List.map_singleton, Logged.query_merge, List.map_map]
        rfl

end Logging

/-! ## Runs over a surface -/

section Runs

variable {Q : Type} [Query Q] {s : Surface} {c : Compiler Q} {calls : Calls Q} {t : Term}

/-- A stage of a surface renames or belongs to an entry. -/
theorem Surface.mem_stages {stage : Stage Q} (h : stage ∈ Stage.sort s.stages) :
    (∃ a ∈ s.aliases.toList, stage = aliasStage a) ∨ ∃ e ∈ s.search, ∃ st ∈ e.stages, stage = SearchStage.stage st := by
  have hmem : stage ∈ s.stages (Q := Q) := List.mem_mergeSort.mp h
  rcases List.mem_append.mp hmem with hmem | hmem
  · obtain ⟨a, ha, rfl⟩ := List.mem_map.mp hmem
    exact .inl ⟨a, ha, rfl⟩
  · obtain ⟨st, hst, rfl⟩ := List.mem_map.mp hmem
    obtain ⟨e, he, hst⟩ := List.mem_flatMap.mp hst
    exact .inr ⟨e, he, st, hst, rfl⟩

namespace Compiler

/-- The matchers run the stages of the surface. -/
def RunsSurface (c : Compiler Q) (s : Surface) : Prop :=
  List.Forall₂ c.definition.declarations.Runs c.definition.matchers (Stage.sort s.stages)

theorem RunsSurface.stage (h : c.RunsSurface s) {m : Matcher Q} (hm : m ∈ c.definition.matchers) :
    (∃ a ∈ s.aliases.toList, c.definition.declarations.Runs m (aliasStage a)) ∨
      ∃ e ∈ s.search, ∃ st ∈ e.stages, c.definition.declarations.Runs m st.stage := by
  obtain ⟨stage, hstage, hruns⟩ := exists_of_forall₂ h m hm
  rcases Surface.mem_stages hstage with ⟨a, ha, rfl⟩ | ⟨e, he, st, hst, rfl⟩
  · exact .inl ⟨a, ha, hruns⟩
  · exact .inr ⟨e, he, st, hst, hruns⟩

/-- **Every rule that runs finds the term open and unchanged**, and its matcher accepts what it finds. -/
theorem RunsSurface.application (h : c.RunsSurface s) {e : Matcher Q × Visit}
    (he : e ∈ c.termApplications calls t) :
    e.1 ∈ c.definition.matchers ∧ e.2.isSettled = false ∧ e.2.term = t ∧ e.1.accepts c.scope e.2 = true := by
  obtain ⟨hcourse, haccepts⟩ := List.mem_filter.mp he
  unfold termCourse at hcourse
  split at hcourse
  · have hterm := course_forall (P := fun v => v.term = t) rfl (fun m hm v v' built hopen hrun hv => ?_) e hcourse
    · exact ⟨mem_of_mem_course hcourse, hterm.1, hterm.2, haccepts⟩
    · -- a stage changes the field and the state of a visit only
      rcases h.stage hm with ⟨a, -, hruns⟩ | ⟨en, -, st, -, hruns⟩
      · rw [runRuleWith_rename hopen hruns.2] at hrun
        cases hrun
        exact hv
      · rw [runRuleWith_search hopen hruns.2] at hrun
        cases hbuild : st.form.build c.scope v.term v.field with
        | error cause =>
          rw [hbuild] at hrun
          cases hrun
        | ok b =>
          rw [hbuild] at hrun
          cases hrun
          rw [SearchStage.after_term, hv]
  · cases hcourse

/-- **A rule of an entry with fields builds by its form**, which compares fields of the entry. -/
theorem RunsSurface.built (h : c.RunsSurface s) {e : Matcher Q × Visit} (he : e ∈ c.termApplications calls t)
    {en : SurfaceEntry} (hne : en.fields ≠ []) {st : SearchStage} (hst : st ∈ en.stages)
    (hruns : c.definition.declarations.Runs e.1 st.stage) :
    c.built calls e = st.form.build c.scope t e.2.field ∧ st.form.Compares (· ∈ en.fields) e.2.field := by
  obtain ⟨-, hopen, rfl, haccepts⟩ := h.application he
  rw [accepts_of_runs hruns] at haccepts
  exact ⟨built_search hopen hruns, en.compares_of_mem hst haccepts hne fun _ hfield => hfield⟩

end Compiler

/-! ## What comparisons of configured fields keep -/

/-- **What a form builds** is its base with one comparison, or its base narrowed by comparisons that are merged apart
from its conditions. -/
theorem SearchForm.build_cases {form : SearchForm} {base q : Q} {seen : Option String}
    (h : form.build base t seen = .ok (some q)) :
    (∃ field ∈ form.comparedFields seen, q = Query.compare base field t.operator t.value) ∨
      ∃ p first rest, (∀ branch ∈ first :: rest, ∃ field ∈ form.comparedFields seen,
        branch = Query.compare (Query.cleared base) field t.operator t.value) ∧
        q = Query.merge base .and [Query.merge first p rest] := by
  cases form with
  | own =>
    cases seen with
    | none => cases h
    | some field =>
      cases h
      exact .inl ⟨field, List.mem_singleton_self field, rfl⟩
  | spread p fields =>
    cases fields with
    | nil => cases h
    | cons field rest =>
      cases h
      refine .inr ⟨_, _, _, ?_, rfl⟩
      intro branch hbranch
      obtain ⟨other, hother, rfl⟩ : ∃ other ∈ field :: rest,
          Query.compare (Query.cleared base) other t.operator t.value = branch := List.mem_map.mp hbranch
      exact ⟨other, hother, rfl⟩

variable {P : Q → Prop}

/-- A form builds what comparisons of the fields that it compares keep. -/
theorem SearchForm.build_holds {form : SearchForm} {seen : Option String} {base q : Q} (hbase : P base)
    (hcleared : P (Query.cleared base))
    (hcompare : ∀ q, P q → ∀ field ∈ form.comparedFields seen, P (Query.compare q field t.operator t.value))
    (hmerge : ∀ p first rest, (∀ q ∈ first :: rest, P q) → P (Query.merge first p rest))
    (h : form.build base t seen = .ok (some q)) : P q := by
  rcases SearchForm.build_cases h with ⟨field, hfield, rfl⟩ | ⟨p, first, rest, hbranches, rfl⟩
  · exact hcompare base hbase field hfield
  · refine hmerge _ _ _ (List.forall_mem_cons.mpr ⟨hbase, List.forall_mem_singleton.mpr ?_⟩)
    refine hmerge p first rest ?_
    intro branch hbranch
    obtain ⟨field, hfield, rfl⟩ := hbranches branch hbranch
    exact hcompare _ hcleared field hfield

/-- **A compiled query has what merges keep and what all forms of the entries build has**, each for a field that it is
run for. -/
theorem Compiler.RunsSurface.compile_holds_of_build (h : c.RunsSurface s) (hscope : P c.scope) {root : Group}
    (hbuild : ∀ t ∈ root.terms, ∀ en ∈ s.search, ∀ st ∈ en.stages, ∀ seen, st.fields.allows seen = true →
      ∀ q, st.form.build c.scope t seen = .ok (some q) → P q)
    (hmerge : ∀ p first rest, (∀ q ∈ first :: rest, P q) → P (Query.merge first p rest)) {q : Q}
    (hcompile : c.compile root = .ok q) : P q := by
  refine compile_holds_of_terms hscope hmerge ?_ hcompile
  intro t ht queries hqueries q hq
  obtain ⟨builts, hbuilts, rfl⟩ := termQueries_ok hqueries
  -- the query is built by a run of a rule, and only rules of entries build
  obtain ⟨e, he, hbuilt⟩ := (mapM_ok hbuilts).2 (some q) (List.reduceOption_mem_iff.mp hq)
  obtain ⟨hm, hopen, hterm, haccepts⟩ := h.application he
  rcases h.stage hm with ⟨a, -, hruns⟩ | ⟨en, hen, st, hst, hruns⟩
  · rw [built_alias hopen hruns] at hbuilt
    cases hbuilt
  · rw [accepts_of_runs hruns] at haccepts
    rw [built_search hopen hruns, hterm] at hbuilt
    exact hbuild t ht en hen st hst e.2.field haccepts q hbuilt

/-- **A compiled query has what comparisons of configured fields keep**, if all entries have fields. -/
theorem Compiler.RunsSurface.compile_holds (h : c.RunsSurface s) (hfields : ∀ en ∈ s.search, en.fields ≠ [])
    (hscope : P c.scope) (hcleared : P (Query.cleared c.scope)) {root : Group}
    (hcompare : ∀ t ∈ root.terms, ∀ q, P q → ∀ en ∈ s.search, ∀ field ∈ en.fields,
      P (Query.compare q field t.operator t.value))
    (hmerge : ∀ p first rest, (∀ q ∈ first :: rest, P q) → P (Query.merge first p rest)) {q : Q}
    (hcompile : c.compile root = .ok q) : P q := by
  refine h.compile_holds_of_build hscope ?_ hmerge hcompile
  intro t ht en hen st hst seen hallows q hbuild
  have hcompares : st.form.Compares (· ∈ en.fields) seen :=
    en.compares_of_mem hst hallows (hfields en hen) fun _ hfield => hfield
  refine SearchForm.build_holds hscope hcleared ?_ hmerge hbuild
  intro q hq field hfield
  exact hcompare t ht q hq en hen field (hcompares.comparedFields.2 field hfield)

end Runs

/-! ## Columns of relational conditions -/

namespace Sql

/-- The entries of a condition are put together of allowed expressions. -/
def Expressions.MadeOf (allowed : String → Prop) (e : Expressions) : Prop :=
  ∃ entries : List (Formula String), e.exprs = entries.map formulaText ∧
    ∀ entry ∈ entries, ∀ text ∈ entry.atoms, allowed text

namespace Expressions.MadeOf

variable {allowed : String → Prop}

theorem of_exprs {e : Expressions} (h : ∀ text ∈ e.exprs, allowed text) : e.MadeOf allowed := by
  refine ⟨e.exprs.map .atom, ?_, fun entry hentry => ?_⟩
  · rw [List.map_map]
    exact (List.map_id' e.exprs).symm.trans (List.map_congr_left fun text _ => (formulaText_atom text).symm)
  · obtain ⟨text, htext, rfl⟩ := List.mem_map.mp hentry
    rw [Formula.atoms_atom]
    exact List.forall_mem_singleton.mpr (h text htext)

theorem push {e : Expressions} (h : e.MadeOf allowed) {text : String} (htext : allowed text) (binds : List Json) :
    (e.push text binds).MadeOf allowed := by
  obtain ⟨entries, hexprs, hatoms⟩ := h
  refine ⟨entries ++ [.atom text], ?_, List.forall_mem_append.mpr ⟨hatoms, List.forall_mem_singleton.mpr ?_⟩⟩
  · rw [List.map_append, List.map_singleton, formulaText_atom, ← hexprs]
    rfl
  · rw [Formula.atoms_atom]
    exact List.forall_mem_singleton.mpr htext

/-- Written as one expression, the condition is a formula of allowed expressions. -/
theorem joined {e : Expressions} (h : e.MadeOf allowed) :
    ∃ f : Formula String, e.joined = formulaText f ∧ ∀ text ∈ f.atoms, allowed text := by
  obtain ⟨entries, hexprs, hatoms⟩ := h
  refine ⟨.join .and entries, ?_, fun text htext => ?_⟩
  · rw [Outline.formulaText_join, ← hexprs]
    rfl
  · rw [Formula.atoms_join] at htext
    obtain ⟨entry, hentry, htext⟩ := List.mem_flatMap.mp htext
    exact hatoms entry hentry text htext

theorem joined_all {parts : List Expressions} (h : ∀ e ∈ parts, e.MadeOf allowed) :
    ∃ formulas : List (Formula String), parts.map Expressions.joined = formulas.map formulaText ∧
      ∀ f ∈ formulas, ∀ text ∈ f.atoms, allowed text := by
  induction parts with
  | nil => exact ⟨[], rfl, nofun⟩
  | cons e parts ih =>
    rw [List.forall_mem_cons] at h
    obtain ⟨f, hf, hatoms⟩ := h.1.joined
    obtain ⟨formulas, hformulas, hall⟩ := ih h.2
    refine ⟨f :: formulas, ?_, List.forall_mem_cons.mpr ⟨hatoms, hall⟩⟩
    rw [List.map_cons, List.map_cons, hf, hformulas]

theorem combine {p : Predicate} {parts : List Expressions} (h : ∀ e ∈ parts, e.MadeOf allowed) :
    (Condition.combine p parts).MadeOf allowed := by
  have hfilter : ∀ e ∈ parts.filter (!Condition.isEmpty ·), e.MadeOf allowed :=
    fun e he => h e (List.mem_of_mem_filter he)
  unfold Condition.combine
  split
  · exact of_exprs nofun
  · next part hpart =>
    rw [hpart] at hfilter
    exact hfilter part List.mem_cons_self
  · obtain ⟨formulas, htexts, hatoms⟩ := joined_all hfilter
    refine ⟨[.joined p formulas], ?_, List.forall_mem_singleton.mpr fun text htext => ?_⟩
    · rw [List.map_singleton, formulaText_joined, ← htexts]
      rfl
    · rw [Formula.atoms_joined] at htext
      obtain ⟨f, hf, htext⟩ := List.mem_flatMap.mp htext
      exact hatoms f hf text htext

theorem merge {p : Predicate} {first : SqlQuery} {rest : List SqlQuery}
    (h : ∀ q ∈ first :: rest, q.clauses.filter.MadeOf allowed) :
    (Query.merge first p rest).clauses.filter.MadeOf allowed := by
  cases rest with
  | nil => exact h first List.mem_cons_self
  | cons second rest =>
    rw [(conditions_merge p first second rest).1]
    refine combine fun e he => ?_
    obtain ⟨q, hq, rfl⟩ := List.mem_map.mp he
    exact h q hq

end Expressions.MadeOf

end Sql

/-! ## Surfaces -/

namespace Surface

/-- **Only configured fields are compared.** Over any backend, whatever names, ranks and filters the surface has: a
rule of an entry with fields, run for any term, compares at least one field, all of them in the list of the entry, and
each by the operator and the value of the term. If all entries have fields, the condition of a relational query is put
together of the expressions of the base and of comparisons whose columns are configured fields. -/
theorem compares_configured_fields (s : Surface) :
    (∀ (Q : Type) [Query Q] (base : Q), ∃ d : Definition (Logged Q), (s.apply Definition.start).build = .ok d ∧
      List.Forall₂ d.declarations.Runs d.matchers (Stage.sort s.stages) ∧
      ∀ (calls : Calls (Logged Q)) (t : Term), ∀ e ∈ (Compiler.mk d (.start base)).termApplications calls t,
        ∀ en ∈ s.search, en.fields ≠ [] → ∀ st ∈ en.stages, d.declarations.Runs e.1 st.stage →
          ∃ q, (Compiler.mk d (.start base)).built calls e = .ok (some q) ∧
            st.form.build base t e.2.field = .ok (some q.query) ∧ q.log ≠ [] ∧
            ∀ c ∈ q.log, c.field ∈ en.fields ∧ c.operator = t.operator ∧ c.value = t.value) ∧
    ((∀ en ∈ s.search, en.fields ≠ []) → ∀ base : Sql.SqlQuery, ∃ d : Definition Sql.SqlQuery,
      (s.apply Definition.start).build = .ok d ∧
      ∀ (input : String) (q : Sql.SqlQuery), (Compiler.mk d base).search input = .ok q →
        ∃ f : Formula String, Sql.SqlQuery.whereText q = Sql.numbered (Sql.formulaText f) 0 ∧
          ∀ text ∈ f.atoms, text ∈ base.clauses.filter.exprs ∨
            ∃ en ∈ s.search, ∃ field ∈ en.fields, ∃ t ∈ (d.declarations.language.parse input).terms,
              text = Sql.quoteName field ++ " " ++ Sql.comparisonSign t.operator ++ " ?" ++
                (if Sql.comparesPattern t.operator then " ESCAPE '\\'" else "")) := by
  constructor
  · intro Q _ base
    obtain ⟨d, hbuild, -, hruns⟩ := (s.apply_hasStages (Q := Logged Q)).build
    refine ⟨d, hbuild, hruns, fun calls t e he en hen hne st hst hstage => ?_⟩
    have hsurface : (Compiler.mk d (Logged.start base)).RunsSurface s := hruns
    obtain ⟨hbuilt, hcompares⟩ := hsurface.built he hne hst hstage
    obtain ⟨q, hq⟩ := hcompares.build (Logged.start base) t
    obtain ⟨hnonempty, hfields⟩ := hcompares.comparedFields
    obtain ⟨hlog, hquery⟩ := SearchForm.build_logged hq
    refine ⟨q, hbuilt.trans hq, hquery, ?_, ?_⟩
    · rw [hlog]
      simpa using hnonempty
    · rw [hlog]
      exact List.forall_mem_map.mpr fun field hfield => ⟨hfields field hfield, rfl, rfl⟩
  · intro hfields base
    obtain ⟨d, hbuild, -, hruns⟩ := (s.apply_hasStages (Q := Sql.SqlQuery)).build
    refine ⟨d, hbuild, fun input q hsearch => ?_⟩
    have hsurface : (Compiler.mk d base).RunsSurface s := hruns
    have hmade : q.clauses.filter.MadeOf fun text => text ∈ base.clauses.filter.exprs ∨
        ∃ en ∈ s.search, ∃ field ∈ en.fields, ∃ t ∈ (d.declarations.language.parse input).terms,
          text = Sql.comparison field t.operator := by
      refine hsurface.compile_holds (P := fun q : Sql.SqlQuery => q.clauses.filter.MadeOf _) hfields ?_ ?_ ?_ ?_ hsearch
      · exact .of_exprs fun text htext => .inl htext
      · exact .of_exprs nofun
      · intro t ht q hq en hen field hfield
        exact hq.push (.inr ⟨en, hen, field, hfield, t, ht, rfl⟩) _
      · exact fun p first rest h => .merge h
    obtain ⟨f, hjoined, hatoms⟩ := hmade.joined
    exact ⟨f, by rw [Sql.SqlQuery.whereText, hjoined], hatoms⟩

/-- The stage of the entry of the catalogue. -/
def catalogueStage : SearchStage :=
  { fields := .only ["author", "creator"], form := .own, consume := true, rank := -5 }

/-- The rule of the entry runs for `by:vole`, after the names had their turn. -/
theorem exists_application_catalogue {Q : Type} [Query Q] {d : Definition Q}
    (hbuild : (catalogue.apply Definition.start).build = .ok d)
    (hruns : List.Forall₂ d.declarations.Runs d.matchers (Stage.sort catalogue.stages)) (scope : Q)
    (calls : Calls Q) :
    ∃ e ∈ (Compiler.mk d scope).termApplications calls byVole, d.declarations.Runs e.1 catalogueStage.stage := by
  have hstages : catalogue.searchStages = [catalogueStage] := List.mergeSort_singleton _
  rw [sort_stages (by unfold RanksFit; decide), hstages] at hruns
  have hnames := List.forall₂_take_append _ _ _ hruns
  obtain ⟨m, rest, hm, hnil, hentries⟩ := List.forall₂_cons_right_iff.mp (List.forall₂_drop_append _ _ _ hruns)
  cases hnil
  obtain ⟨front, v, hcourse, -, hopen, -, hseen⟩ := Compiler.course_aliases (c := ⟨d, scope⟩) (v := .start byVole)
    calls [m] hnames rfl
  rw [← hentries, List.take_append_drop] at hcourse
  have hfilters : d.declarations.filters.all (· (.start byVole)) = true := by
    rw [(Draft.build_ok hbuild).2.1, apply_filters]
    rfl
  refine ⟨(m, v), List.mem_filter.mpr ⟨?_, ?_⟩, hm⟩
  · unfold Compiler.termCourse
    rw [if_pos hfilters, hcourse]
    refine List.mem_append_right front ?_
    rw [hentries, Compiler.course, if_neg (by simp [hopen])]
    exact List.mem_cons_self
  · have hfields : (catalogueStage.stage : Stage Q).fields = catalogueStage.fields := rfl
    rw [Compiler.accepts_of_runs (c := ⟨d, scope⟩) hm, hseen, hfields]
    decide

/-- The books of one shelf, as rows. -/
def catalogueShelf : Sql.SqlQuery := (ClauseQuery.ofSource "books").mapFilter (·.push "shelf = 'A'" [])

theorem compares_configured_fields_catalogue :
    (∃ d : Definition (Logged Transcript), (catalogue.apply Definition.start).build = .ok d ∧
      ∀ calls : Calls (Logged Transcript), ∃ e ∈ (Compiler.mk d (.start ⟨""⟩)).termApplications calls byVole, ∃ q,
        (Compiler.mk d (.start ⟨""⟩)).built calls e = .ok (some q) ∧ q.log ≠ [] ∧
          ∀ c ∈ q.log, c.field ∈ ["author", "creator"] ∧ c.operator = .eq ∧ c.value = "vole") ∧
    ∃ (d : Definition Sql.SqlQuery) (q : Sql.SqlQuery) (f : Formula String),
      (catalogue.apply Definition.start).build = .ok d ∧ (Compiler.mk d catalogueShelf).search "by:vole" = .ok q ∧
      Sql.SqlQuery.whereText q = Sql.numbered (Sql.formulaText f) 0 ∧
      ∀ text ∈ f.atoms, text = "shelf = 'A'" ∨
        ∃ field ∈ ["author", "creator"], ∃ op, text = Sql.comparison field op := by
  obtain ⟨hlogged, hsql⟩ := compares_configured_fields catalogue
  constructor
  · obtain ⟨d, hbuild, hruns, hcompares⟩ := hlogged Transcript ⟨""⟩
    refine ⟨d, hbuild, fun calls => ?_⟩
    obtain ⟨e, he, hstage⟩ := exists_application_catalogue hbuild hruns (.start ⟨""⟩) calls
    obtain ⟨q, hq, -, hlog⟩ :=
      hcompares calls byVole e he _ List.mem_cons_self (List.cons_ne_nil _ _) _ List.mem_cons_self hstage
    exact ⟨e, he, q, hq, hlog⟩
  · obtain ⟨d, hbuild, hcolumns⟩ := hsql (by decide) catalogueShelf
    have hanswering := apply_answering (s := catalogue) (by decide) (fun _ => Draft.Answering.start)
      (Draft.build_ok hbuild).1
    obtain ⟨q, hq⟩ := Compiler.search_of_answering (c := ⟨d, catalogueShelf⟩)
      (hanswering.build (apply_matchers_ne_nil (.inl (by decide)) _) hbuild) "by:vole"
    obtain ⟨f, hwhere, hatoms⟩ := hcolumns "by:vole" q hq
    refine ⟨d, q, f, hbuild, hq, hwhere, fun text htext => ?_⟩
    rcases hatoms text htext with hbase | ⟨en, hen, field, hfield, t, -, htext⟩
    · exact .inl (List.mem_singleton.mp hbase)
    · rw [List.mem_singleton.mp hen] at hfield
      exact .inr ⟨field, hfield, t.operator, htext⟩

end Surface

end TermSearch
