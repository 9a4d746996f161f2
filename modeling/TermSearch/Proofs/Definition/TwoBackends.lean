import TermSearch.Proofs.Definition.SearchFormula
import TermSearch.Proofs.Document.Operation
import TermSearch.Proofs.Document.Reading
import TermSearch.Proofs.Sql.Conditions
import TermSearch.Proofs.Sql.Values
import TermSearch.Regex.Reader

/-!
# One search over two backends

Relational queries keep conditions as text and document queries as selectors, and the two put conditions together in
ways of their own. Over bases without conditions both still express the formula of the search: their conditions, read
back, are that formula with each comparison as the backend writes it (`Surface.backends_agree`).
-/

namespace TermSearch

/-! ## Relational queries -/

namespace Sql

/-- A comparison as it is added to a condition. -/
def compared (c : Comparison) : Added := ⟨comparison c.field c.operator, [comparisonBind c.operator c.value]⟩

/-- The outline of a formula. -/
def formulaOutline (f : Formula Comparison) : Outline := ⟨[f.map compared]⟩

/-- The filter of the query is the formula written out. -/
structure Filters (q : SqlQuery) (f : Formula Comparison) : Prop where
  filter : q.clauses.filter = (formulaOutline f).expressions
  sound : f.Sound fun _ => True

theorem gather_formulaOutline (p : Predicate) {formulas : List (Formula Comparison)} (hne : formulas ≠ []) :
    Outline.gather p (formulas.map formulaOutline) = formulaOutline (.join p formulas) := by
  have hfilter : (formulas.map formulaOutline).filter (!·.isEmpty) = formulas.map formulaOutline := by
    refine List.filter_eq_self.mpr fun o ho => ?_
    obtain ⟨f, -, rfl⟩ := List.mem_map.mp ho
    rfl
  unfold Outline.gather
  rw [hfilter]
  match formulas, hne with
  | [_], _ => rfl
  | first :: second :: rest, _ =>
    show Outline.mk [.joined p (((first :: second :: rest).map formulaOutline).map Outline.whole)] = _
    rw [List.map_map, formulaOutline, Formula.join_of_two_le p (by simp), Formula.map_joined]
    rfl

theorem forall₂_filters {queries : List SqlQuery} {formulas : List (Formula Comparison)}
    (h : List.Forall₂ Filters queries formulas) :
    queries.map (fun q => q.clauses.filter) = (formulas.map formulaOutline).map Outline.expressions ∧
      ∀ f ∈ formulas, f.Sound fun _ => True := by
  induction h with
  | nil => exact ⟨rfl, fun _ hf => nomatch hf⟩
  | cons hq _ ih =>
    rw [List.map_cons, List.map_cons, List.map_cons, hq.filter, ih.1]
    exact ⟨rfl, List.forall_mem_cons.mpr ⟨hq.sound, ih.2⟩⟩

/-- **Relational queries express formulas** over a base without a filter. -/
theorem expresses_filters {base : SqlQuery} (hbase : base.clauses.filter = .empty) :
    Expresses base (fun _ => True) Filters where
  compare c _ := by
    refine ⟨?_, .atom trivial⟩
    show base.clauses.filter.push _ _ = _
    rw [hbase]
    exact (Outline.expressions_push .empty (compared c)).symm
  branch c _ := ⟨(Outline.expressions_push .empty (compared c)).symm, .atom trivial⟩
  merge p first rest formulas h := by
    cases rest with
    | nil =>
      obtain ⟨f, _, hfirst, hnil, rfl⟩ := List.forall₂_cons_left_iff.mp h
      cases hnil
      exact hfirst
    | cons second rest =>
      have hne : formulas ≠ [] := by rintro rfl; cases h
      obtain ⟨hfilters, hsound⟩ := forall₂_filters h
      refine ⟨?_, .join p hne hsound⟩
      rw [(conditions_merge p first second rest).1, hfilters, ← Outline.expressions_gather,
        gather_formulaOutline p hne]
  onto added f h := by
    refine ⟨?_, h.sound⟩
    rw [(conditions_merge .and base added []).1, List.map_cons, List.map_singleton, hbase, h.filter]
    rfl

/-- **The filter of an answer is read as the formula that it expresses**, and it is empty if nothing is asked for. -/
theorem read_answer {base : SqlQuery} (hbase : base.clauses.filter = .empty) {answer : Option SqlQuery}
    {asked : Option (Formula Comparison)} (h : Option.Rel Filters answer asked) (d : Dialect) :
    d.readCondition? (answer.getD base).clauses.filter = some ((asked.getD (.joined .and [])).map compared) ∧
      ((answer.getD base).clauses.filter.exprs = [] ↔ asked = none) := by
  cases h with
  | none =>
    rw [Option.getD_none, Option.getD_none, hbase, Formula.map_joined]
    exact ⟨rfl, iff_of_true rfl rfl⟩
  | @some q f hq =>
    rw [Option.getD_some, Option.getD_some, hq.filter]
    refine ⟨Dialect.readCondition_expressions fun entry hentry => ?_, iff_of_false (List.cons_ne_nil _ _) (by simp)⟩
    rw [List.mem_singleton.mp hentry]
    exact (hq.sound.mono fun c _ => d.stands_comparison c.field c.operator c.value).map

end Sql

/-! ## Document queries -/

namespace Document

/-- A comparison as a member of a selector. -/
def condition (c : Comparison) : FieldCondition := (c.field, comparison c.operator c.value)

/-- The selector of the query is the formula written as one, and reads so. -/
structure Selects (q : DocumentQuery) (f : Formula Comparison) : Prop where
  filter : q.clauses.filter = .ofFormula (f.map condition)
  sound : f.Sound fun c => isOperatorKey c.field = false

theorem isEmpty_ofFormula (f : Formula FieldCondition) : (Selector.ofFormula f).isEmpty = false := by
  cases f with
  | atom c => rw [Selector.ofFormula, Formula.fold_atom]; rfl
  | joined p parts => rw [Selector.ofFormula, Formula.fold_joined]; rfl

theorem combine_ofFormula (p : Predicate) {formulas : List (Formula FieldCondition)} (hne : formulas ≠ []) :
    Condition.combine p (formulas.map Selector.ofFormula) = .ofFormula (.join p formulas) := by
  have hfilter : (formulas.map Selector.ofFormula).filter (!Condition.isEmpty ·) =
      formulas.map Selector.ofFormula := by
    refine List.filter_eq_self.mpr fun part hpart => ?_
    obtain ⟨f, -, rfl⟩ := List.mem_map.mp hpart
    simp [Condition.isEmpty, isEmpty_ofFormula]
  unfold Condition.combine
  rw [hfilter]
  match formulas, hne with
  | [_], _ => rfl
  | first :: second :: rest, _ =>
    rw [Formula.join_of_two_le p (by simp)]
    unfold Selector.ofFormula
    rw [Formula.fold_joined]
    rfl

theorem forall₂_selects {queries : List DocumentQuery} {formulas : List (Formula Comparison)}
    (h : List.Forall₂ Selects queries formulas) :
    queries.map (fun q => q.clauses.filter) = (formulas.map (Formula.map condition)).map Selector.ofFormula ∧
      ∀ f ∈ formulas, f.Sound fun c => isOperatorKey c.field = false := by
  induction h with
  | nil => exact ⟨rfl, fun _ hf => nomatch hf⟩
  | cons hq _ ih =>
    rw [List.map_cons, List.map_cons, List.map_cons, hq.filter, ih.1]
    exact ⟨rfl, List.forall_mem_cons.mpr ⟨hq.sound, ih.2⟩⟩

/-- **Document queries express formulas** over a base without a filter, of fields that are no operators. -/
theorem expresses_selects [PatternEngine] {base : DocumentQuery} (hbase : base.clauses.filter = .empty) :
    Expresses base (fun field => isOperatorKey field = false) Selects where
  compare c hc := by
    refine ⟨?_, .atom hc⟩
    rw [compare_filter, hbase, Formula.map_atom, Selector.ofFormula, Formula.fold_atom]
    rfl
  branch c hc := by
    refine ⟨?_, .atom hc⟩
    rw [compare_filter, cleared_filter, Formula.map_atom, Selector.ofFormula, Formula.fold_atom]
    rfl
  merge p first rest formulas h := by
    have hne : formulas ≠ [] := by rintro rfl; cases h
    obtain ⟨hfilters, hsound⟩ := forall₂_selects h
    refine ⟨?_, .join p hne hsound⟩
    rw [merge_filter, hfilters, combine_ofFormula p (by simpa using hne), Formula.map_join]
  onto added f h := by
    refine ⟨?_, h.sound⟩
    have hadded : Condition.combine .and ([f.map condition].map Selector.ofFormula) = .ofFormula (f.map condition) :=
      combine_ofFormula .and (List.cons_ne_nil _ _)
    rw [merge_filter, List.map_cons, List.map_singleton, hbase, h.filter]
    exact hadded

/-- **The filter of an answer is read as the formula that it expresses**, and it is empty if nothing is asked for. -/
theorem read_answer {base : DocumentQuery} (hbase : base.clauses.filter = .empty) {answer : Option DocumentQuery}
    {asked : Option (Formula Comparison)} (h : Option.Rel Selects answer asked) :
    (answer.getD base).clauses.filter.read? = some ((asked.getD (.joined .and [])).map condition) ∧
      ((answer.getD base).clauses.filter.fields = .nil ↔ asked = none) := by
  cases h with
  | none =>
    rw [Option.getD_none, Option.getD_none, hbase, Formula.map_joined]
    exact ⟨rfl, iff_of_true rfl rfl⟩
  | @some q f hq =>
    rw [Option.getD_some, Option.getD_some, hq.filter]
    refine ⟨Selector.read_ofFormula hq.sound.map, iff_of_false (fun hnil => ?_) (by simp)⟩
    have hempty := isEmpty_ofFormula (f.map condition)
    rw [Selector.isEmpty, hnil] at hempty
    cases hempty

end Document

/-! ## Searches -/

namespace Surface

/-- What a search asks for; nothing to ask for is the empty conjunction. -/
def formula (s : Surface) (root : Group) : Formula Comparison := (s.formula? root).getD (.joined .and [])

/-- **Both backends agree on the boolean structure of a search.** The surface has entries, they name at least one
field each and no operator, and the bases have no filter. -/
theorem backends_agree [PatternEngine] (s : Surface) (hsearch : s.search ≠ [])
    (hfields : ∀ e ∈ s.search, e.fields ≠ [] ∧ ∀ field ∈ e.fields, Document.isOperatorKey field = false)
    (hranks : s.RanksFit) (rows : Sql.SqlQuery) (hrows : rows.clauses.filter = .empty)
    (documents : Document.DocumentQuery) (hdocuments : documents.clauses.filter = .empty) (root : Group)
    (dialect : Sql.Dialect) :
    ∃ (d : Definition Sql.SqlQuery) (d' : Definition Document.DocumentQuery) (q : Sql.SqlQuery)
      (q' : Document.DocumentQuery) (f : Formula Sql.Added) (f' : Formula Document.FieldCondition),
      (s.apply Definition.start).build = .ok d ∧ (s.apply Definition.start).build = .ok d' ∧
      (Compiler.mk d rows).compile root = .ok q ∧ (Compiler.mk d' documents).compile root = .ok q' ∧
      dialect.readCondition? q.clauses.filter = some f ∧ q'.clauses.filter.read? = some f' ∧
      f = (s.formula root).map Sql.compared ∧ f' = (s.formula root).map Document.condition ∧
      (∀ (truth : Sql.Added → Bool) (truth' : Document.FieldCondition → Bool),
        (∀ c, truth (Sql.compared c) = truth' (Document.condition c)) → f.value truth = f'.value truth') ∧
      (q.clauses.filter.exprs = [] ↔ q'.clauses.filter.fields = .nil) := by
  obtain ⟨d, hbuild, hcompile⟩ := s.compile_expresses hsearch hranks (Sql.expresses_filters hrows)
    fun e he => ⟨(hfields e he).1, fun _ _ => trivial⟩
  obtain ⟨d', hbuild', hcompile'⟩ :=
    s.compile_expresses hsearch hranks (Document.expresses_selects hdocuments) hfields
  obtain ⟨answer, hanswer, hmeans⟩ := hcompile root
  obtain ⟨answer', hanswer', hmeans'⟩ := hcompile' root
  have htruth : ∀ (truth : Sql.Added → Bool) (truth' : Document.FieldCondition → Bool),
      (∀ c, truth (Sql.compared c) = truth' (Document.condition c)) →
      ((s.formula root).map Sql.compared).value truth = ((s.formula root).map Document.condition).value truth' := by
    intro truth truth' hagree
    rw [Formula.value_map, Formula.value_map]
    exact congrArg (Formula.value · _) (funext hagree)
  obtain ⟨hread, hempty⟩ := Sql.read_answer hrows hmeans dialect
  obtain ⟨hread', hempty'⟩ := Document.read_answer hdocuments hmeans'
  exact ⟨d, d', _, _, _, _, hbuild, hbuild', hanswer, hanswer', hread, hread', rfl, rfl, htruth,
    hempty.trans hempty'.symm⟩

/-- What is asked for in a search for badgers by name and nickname. -/
def badgerFormula : Formula Comparison :=
  .joined .or
    [.joined .and [.atom ⟨"name", .ne, "Bo"⟩, .atom ⟨"nickname", .ne, "Bo"⟩], .atom ⟨"nickname", .like, "str*"⟩]

theorem formula_badgers : badgerSurface.formula (badgerSearch "Bo" "str*" .none) = badgerFormula := by
  have hformulas : badgerSurface.formulas = fun t => if badgerSurface.permits t then
      (SearchStage.applicable (badgerSurface.seenField t)
        (badgerSurface.search.flatMap SurfaceEntry.stages)).filterMap
          (·.form.formula? t (badgerSurface.seenField t)) else [] := by
    funext t
    rw [formulas, searchStages_badgers]
  rw [formula, formula?, hformulas]
  rfl

theorem backends_agree_badgers :
    ∃ (d : Definition Sql.SqlQuery) (d' : Definition Document.DocumentQuery) (q : Sql.SqlQuery)
      (q' : Document.DocumentQuery),
      (badgerSurface.apply Definition.start).build = .ok d ∧ (badgerSurface.apply Definition.start).build = .ok d' ∧
      (Compiler.mk d (.ofSource "badgers")).compile (badgerSearch "Bo" "str*" .none) = .ok q ∧
      (Compiler.mk d' (.ofSource "badgers")).compile (badgerSearch "Bo" "str*" .none) = .ok q' ∧
      Sql.Dialect.sqlite.readCondition? q.clauses.filter = some (badgerFormula.map Sql.compared) ∧
      q'.clauses.filter.read? = some (badgerFormula.map Document.condition) := by
  obtain ⟨d, d', q, q', f, f', hbuild, hbuild', hq, hq', hf, hf', rfl, rfl, -, -⟩ :=
    backends_agree badgerSurface (List.cons_ne_nil _ _) (by decide) (by unfold RanksFit; decide)
      (.ofSource "badgers") rfl (.ofSource "badgers") rfl (badgerSearch "Bo" "str*" .none) Sql.Dialect.sqlite
  rw [formula_badgers] at hf hf'
  exact ⟨d, d', q, q', hbuild, hbuild', hq, hq', hf, hf'⟩

end Surface

end TermSearch
