import TermSearch.Proofs.Definition.ConfiguredFields
import TermSearch.Proofs.Document.BaseScope
import TermSearch.Proofs.Sql.Narrowing
import TermSearch.Regex.Reader

/-!
# What a declarative search leaves alone

The rules of a surface compare fields of the base, or add comparisons that were merged apart from its conditions
(`SearchForm.build_cases`). So a compiled query is merged of copies of its base that differ in their filters only: it
has the lists, the source and the window of the base, and is attached where the base is
(`Compiler.RunsSurface.sameFrame_of_compile`). Its condition on groups is put together of copies of that of the base
(`Compiler.RunsSurface.echoes_of_compile`) and says the same, and its filter implies the one of the base
(`Surface.search_only_narrows`).
-/

namespace TermSearch

/-! ## Either backend -/

section Backend

variable {C : Type} [Condition C] [Query (ClauseQuery C)] [ClauseBackend C] {s : Surface} {c : Compiler (ClauseQuery C)}
  {root : Group} {q : ClauseQuery C}

/-- **Nothing but conditions is touched**, if comparisons leave queries attached where they are. -/
theorem Compiler.RunsSurface.sameFrame_of_compile (h : c.RunsSurface s)
    (hattached : ∀ (q : ClauseQuery C) field op value, (Query.compare q field op value).attached = q.attached)
    (hlists : ∀ kind, (c.scope.clauses.listed kind).Nodup) (hcompile : c.compile root = .ok q) :
    c.scope.SameFrame q := by
  have hmerge : ∀ p first rest, (∀ q ∈ first :: rest, c.scope.SameFrame q) →
      c.scope.SameFrame (Query.merge first p rest) := by
    intro p first rest hall
    rw [ClauseBackend.merge_eq]
    exact .merge hlists hall p
  refine h.compile_holds_of_build .rfl ?_ hmerge hcompile
  intro t _ en _ st _ seen _ q hbuild
  refine SearchForm.build_holds .rfl ?_ ?_ hmerge hbuild
  · rw [ClauseBackend.cleared_eq]
    exact ClauseQuery.SameFrame.rfl.conditions rfl rfl
  · intro q hq field _
    obtain ⟨filter, hclauses⟩ := ClauseBackend.compare_clauses q field t.operator t.value
    exact hq.conditions hclauses (hattached q field t.operator t.value)

/-- A form leaves the condition on groups as it is, be it compared or merged with comparisons. -/
theorem SearchForm.build_having {form : SearchForm} {base : ClauseQuery C} {t : Term} {seen : Option String}
    (hempty : Condition.isEmpty (Condition.empty : C) = true)
    (hbase : Condition.isEmpty base.clauses.having = true → base.clauses.having = Condition.empty)
    (h : form.build base t seen = .ok (some q)) : q.clauses.having = base.clauses.having := by
  have hcompare : ∀ (q : ClauseQuery C) field, (Query.compare q field t.operator t.value).clauses.having =
      q.clauses.having := by
    intro q field
    obtain ⟨filter, hclauses⟩ := ClauseBackend.compare_clauses q field t.operator t.value
    rw [hclauses]
  rcases SearchForm.build_cases h with ⟨field, -, rfl⟩ | ⟨p, first, rest, hbranches, rfl⟩
  · exact hcompare base field
  · have hnone : ∀ branch ∈ first :: rest, branch.clauses.having = Condition.empty := by
      intro branch hbranch
      obtain ⟨field, -, rfl⟩ := hbranches branch hbranch
      rw [hcompare, ClauseBackend.cleared_eq]
      rfl
    have hinner : (Query.merge first p rest).clauses.having = Condition.empty := by
      rw [ClauseBackend.merge_eq]
      exact ClauseQuery.having_merge_of_eq_empty hempty hnone p
    rw [ClauseBackend.merge_eq, ClauseQuery.having_merge, List.map_cons, List.map_singleton, hinner]
    exact Condition.combine_with_empty .and hbase hempty

/-- **The condition on groups is put together of copies** of that of the base. -/
theorem Compiler.RunsSurface.echoes_of_compile (h : c.RunsSurface s)
    (hempty : Condition.isEmpty (Condition.empty : C) = true)
    (hbase : Condition.isEmpty c.scope.clauses.having = true → c.scope.clauses.having = Condition.empty)
    (hcompile : c.compile root = .ok q) : Condition.Echoes c.scope.clauses.having q.clauses.having := by
  refine h.compile_holds_of_build (P := fun q => Condition.Echoes c.scope.clauses.having q.clauses.having) .self
    ?_ ?_ hcompile
  · intro t _ en _ st _ seen _ q hbuild
    rw [SearchForm.build_having hempty hbase hbuild]
    exact .self
  · intro p first rest hall
    rw [ClauseBackend.merge_eq]
    exact .merge hall p

end Backend

/-! ## Relational queries -/

namespace Sql

variable {ok : String → Prop} {s : Surface} {c : Compiler SqlQuery} {root : Group} {q : SqlQuery}

/-- What merges with comparisons of a cleared query can be built. -/
theorem reachable_branches {base : SqlQuery} (hbase : Reachable (sqlUsage ok) base) {first : SqlQuery}
    {rest : List SqlQuery} {t : Term} {fields : List String}
    (h : ∀ branch ∈ first :: rest, ∃ field ∈ fields,
      branch = Query.compare (Query.cleared base) field t.operator t.value) (p : Predicate) :
    Reachable (sqlUsage ok) (Query.merge first p rest) := by
  have hbranch : ∀ branch ∈ first :: rest, Reachable (sqlUsage ok) branch := by
    intro branch hmem
    obtain ⟨field, -, rfl⟩ := h branch hmem
    exact .compare (.cleared hbase) trivial t.operator t.value
  exact .merge (hbranch first List.mem_cons_self) (fun other hother => hbranch other (List.mem_cons_of_mem _ hother)) p

/-- **The filter of a compiled query implies that of its base.** -/
theorem narrows_of_compile (h : c.RunsSurface s) (hscope : Reachable (sqlUsage ok) c.scope)
    (hcompile : c.compile root = .ok q) : Expressions.Narrows ok c.scope.clauses.filter q.clauses.filter := by
  obtain ⟨t, ht, hquery⟩ := exists_outlined hscope
  have hwritten : t.filter.expressions = c.scope.clauses.filter := by
    rw [← hquery]
    exact (written_of_reachable ht).1.symm
  refine Expressions.narrows_of_outlines (readable_of_reachable ht).1 hwritten ?_
  intro o ho
  have hnarrows : SqlQuery.FilterNarrows ok o q := by
    refine h.compile_holds_of_build ⟨o, .refl o, ho⟩ ?_ (fun p _ _ hall => filterNarrows_merge hall p) hcompile
    intro t _ en _ st _ seen _ q hbuild
    rcases SearchForm.build_cases hbuild with ⟨field, -, rfl⟩ | ⟨p, first, rest, hbranches, rfl⟩
    · exact filterNarrows_compare ⟨o, .refl o, ho⟩ field t.operator t.value
    · exact filterNarrows_push ho (reachable_branches hscope hbranches p)
  exact hnarrows

/-- **The condition on groups says what that of the base says.** -/
theorem restates_of_compile (h : c.RunsSurface s) (hscope : Reachable (sqlUsage ok) c.scope)
    (hcompile : c.compile root = .ok q) : Expressions.Restates ok c.scope.clauses.having q.clauses.having := by
  obtain ⟨t, ht, hquery⟩ := exists_outlined hscope
  have hwritten : t.having.expressions = c.scope.clauses.having := by
    rw [← hquery]
    exact (written_of_reachable ht).2.symm
  have htidy := tidy_of_reachable (fun _ hstart => hstart) hscope
  exact Expressions.restates_of_echoes (readable_of_reachable ht).2 hwritten
    (h.echoes_of_compile rfl htidy.2.eq_empty hcompile)

end Sql

/-! ## Document queries -/

namespace Document

variable [PatternEngine] {s : Surface} {c : Compiler DocumentQuery} {root : Group} {q : DocumentQuery}

/-- No operation on document queries makes conditions on groups. -/
theorem having_of_reachable {u : Usage DocumentQuery} (hstart : ∀ q, u.start q → q.IsStart) (h : Reachable u q) :
    q.clauses.having = Condition.empty := by
  refine h.holds (P := fun q : DocumentQuery => q.clauses.having = Condition.empty)
    (fun q hq => (hstart q hq).conditions.2) ⟨fun _ _ _ hq => hq, ?_, fun _ => rfl, ?_⟩
  · intro q q' m _ hperform hq
    have hrun : m.run q = .ok q' := hperform
    cases m with
    | edit e =>
      cases hrun
      cases e <;> exact hq
    | filter selector =>
      rw [DocumentMethod.run] at hrun
      split at hrun
      · cases hrun
        exact hq
      · cases hrun
    | filterEq field value =>
      cases hrun
      exact hq
  · intro q others p hq hothers
    exact ClauseQuery.having_merge_of_eq_empty rfl (List.forall_mem_cons.mpr ⟨hq, hothers⟩) p

/-- **A compiled query wants nothing that its base does not want.** -/
theorem within_of_compile (h : c.RunsSurface s) (hcompile : c.compile root = .ok q) : Within c.scope q := by
  have hscope : Within c.scope c.scope := fun _ hwants => hwants
  refine h.compile_holds_of_build hscope ?_ within_merge hcompile
  intro t _ en _ st _ seen _ q hbuild
  rcases SearchForm.build_cases hbuild with ⟨field, -, rfl⟩ | ⟨p, first, rest, -, rfl⟩
  · exact within_compare hscope field t.operator t.value
  · exact within_push hscope _

/-- A condition on groups that is put together of copies of an empty one is empty. -/
theorem having_of_compile (h : c.RunsSurface s) (hscope : c.scope.clauses.having = Condition.empty)
    (hcompile : c.compile root = .ok q) : q.clauses.having = c.scope.clauses.having := by
  have hechoes := h.echoes_of_compile rfl (fun _ => hscope) hcompile
  rw [hscope] at hechoes ⊢
  generalize q.clauses.having = having at hechoes
  induction hechoes with
  | self => rfl
  | combine p _ _ ih => exact Condition.combine_of_eq_empty p rfl ih

end Document

/-! ## Surfaces -/

namespace Surface

/-- **A declarative search only narrows the filter.** Whatever surface is searched and whatever tree is compiled, the
query has the lists, the source, the limit and the offset of its base and is attached where the base is, at whatever
time that was done (`Reachable.attach`). The condition on groups of a relational query is the same boolean function of
what was added to the base as that of the base itself, and the filter implies that of the base. Document queries have no
condition on groups, and they want no document that the base does not want. -/
theorem search_only_narrows [PatternEngine] (s : Surface) :
    (∃ d : Definition Sql.SqlQuery, (s.apply Definition.start).build = .ok d ∧
      ∀ (ok : String → Prop) (base : Sql.SqlQuery), Reachable (Sql.sqlUsage ok) base →
        ∀ (root : Group) (q : Sql.SqlQuery), (Compiler.mk d base).compile root = .ok q →
          q.clauses.SameBesideConditions base.clauses ∧ q.attached = base.attached ∧
          Sql.Expressions.Restates ok base.clauses.having q.clauses.having ∧
          Sql.Expressions.Narrows ok base.clauses.filter q.clauses.filter) ∧
    ∃ d : Definition Document.DocumentQuery, (s.apply Definition.start).build = .ok d ∧
      ∀ base : Document.DocumentQuery, Reachable (listUsage fun _ _ => True) base →
        ∀ (root : Group) (q : Document.DocumentQuery), (Compiler.mk d base).compile root = .ok q →
          q.clauses.SameBesideConditions base.clauses ∧ q.attached = base.attached ∧
          q.clauses.having = base.clauses.having ∧ Document.Within base q := by
  constructor
  · obtain ⟨d, hbuild, -, hruns⟩ := (s.apply_hasStages (Q := Sql.SqlQuery)).build
    refine ⟨d, hbuild, ?_⟩
    intro ok base hbase root q hcompile
    have hsurface : (Compiler.mk d base).RunsSurface s := hruns
    have hframe := hsurface.sameFrame_of_compile (fun _ _ _ _ => rfl) (nodup_of_reachable (fun _ h => h) hbase) hcompile
    exact ⟨hframe.clauses, hframe.attached, Sql.restates_of_compile hsurface hbase hcompile,
      Sql.narrows_of_compile hsurface hbase hcompile⟩
  · obtain ⟨d, hbuild, -, hruns⟩ := (s.apply_hasStages (Q := Document.DocumentQuery)).build
    refine ⟨d, hbuild, ?_⟩
    intro base hbase root q hcompile
    have hsurface : (Compiler.mk d base).RunsSurface s := hruns
    have hframe := hsurface.sameFrame_of_compile (fun _ _ _ _ => rfl) (nodup_of_reachable (fun _ h => h) hbase) hcompile
    have hhaving := Document.having_of_reachable (fun _ h => h) hbase
    exact ⟨hframe.clauses, hframe.attached, Document.having_of_compile hsurface hhaving hcompile,
      Document.within_of_compile hsurface hcompile⟩

/-- What is by the vole or by the mole. -/
def voleOrMole : Group where
  children := [.term byVole, .term (.make (some "by") .eq "mole" .none false)]
  keywords := [.or]

/-- Both terms are compared with the author, each in a query of its own. -/
theorem compile_voleOrMole {Q : Type} [Query Q] :
    ∃ d : Definition Q, (catalogue.apply Definition.start).build = .ok d ∧
      ∀ scope : Q, (Compiler.mk d scope).compile voleOrMole =
        .ok (Query.merge (Query.compare scope "author" .eq "vole") .or [Query.compare scope "author" .eq "mole"]) := by
  obtain ⟨d, hbuild, hqueries⟩ := catalogue.build_eq (Q := Q) (by unfold RanksFit; decide) (.inr (by decide))
  have hstages : catalogue.searchStages = [catalogueStage] := List.mergeSort_singleton _
  have hterm : ∀ (scope : Q) (value : String), catalogue.termQueries scope (.make (some "by") .eq value .none false) =
      .ok [Query.compare scope "author" .eq value] := by
    intro scope value
    unfold termQueries
    rw [hstages]
    rfl
  refine ⟨d, hbuild, ?_⟩
  intro scope
  unfold Compiler.compile Compiler.compileWith voleOrMole byVole
  simp only [Compiler.listQueries, Compiler.nodeQueries, hqueries, hterm]
  rfl

/-- Ten titles of which there is more than one book. -/
def tenTitles : Sql.SqlQuery :=
  ((((ClauseQuery.ofSource "books").edit (.select ["title"])).edit (.limit (some 10))).mapHaving
    (·.push "COUNT(*) > ?" [.ofNat 1])).attach

theorem reachable_tenTitles : Reachable (Sql.sqlUsage Sql.Dialect.sqlite.Balanced) tenTitles := by
  have hbooks : Reachable (Sql.sqlUsage Sql.Dialect.sqlite.Balanced) (ClauseQuery.ofSource "books") :=
    .start (ClauseQuery.IsStart.ofSource "books")
  have hhaving : Sql.Dialect.sqlite.Balanced "COUNT(*) > ?" := ⟨_, rfl⟩
  refine Sql.reachable_attach (.method (m := Sql.SqlMethod.having "COUNT(*) > ?" [.ofNat 1]) ?_ hhaving rfl)
  refine .method (m := Sql.SqlMethod.edit (.limit (some 10))) ?_ trivial rfl
  exact .method (m := Sql.SqlMethod.edit (.select ["title"])) hbooks trivial rfl

/-- Ten documents about books. -/
def tenBooks : Document.DocumentQuery := ((ClauseQuery.ofSource "books").edit (.limit (some 10))).attach

theorem reachable_tenBooks : Reachable (listUsage fun _ _ => True) tenBooks := by
  have hbooks : Reachable (listUsage fun _ _ => True) (ClauseQuery.ofSource "books" : Document.DocumentQuery) :=
    .start (ClauseQuery.IsStart.ofSource "books")
  exact Document.reachable_attach
    (reachable_edit hbooks (m := Document.DocumentMethod.edit (.limit (some 10))) rfl fun _ _ _ => trivial)

/-- The text of the condition on groups is not that of the base, but it says the same. -/
theorem search_only_narrows_catalogue :
    (∃ (d : Definition Sql.SqlQuery) (q : Sql.SqlQuery), (catalogue.apply Definition.start).build = .ok d ∧
      (Compiler.mk d tenTitles).compile voleOrMole = .ok q ∧
      q.clauses.having = ⟨["(COUNT(*) > ?) OR (COUNT(*) > ?)"], [.ofNat 1, .ofNat 1]⟩ ∧
      Sql.Expressions.Restates Sql.Dialect.sqlite.Balanced tenTitles.clauses.having q.clauses.having ∧
      q.clauses.select = ["title"] ∧ q.clauses.limit = some 10 ∧ q.attached = true) ∧
    ∃ (d : Definition Document.DocumentQuery) (q : Document.DocumentQuery),
      (catalogue.apply Definition.start).build = .ok d ∧ (Compiler.mk d tenBooks).compile voleOrMole = .ok q ∧
      q.clauses.source = some "books" ∧ q.clauses.limit = some 10 ∧ q.attached = true := by
  obtain ⟨⟨d, hbuild, hsql⟩, d', hbuild', hdocuments⟩ := search_only_narrows catalogue
  constructor
  · obtain ⟨_, hbuilt, hcompile⟩ := compile_voleOrMole (Q := Sql.SqlQuery)
    cases hbuild.symm.trans hbuilt
    obtain ⟨hframe, hattached, hhaving, -⟩ :=
      hsql Sql.Dialect.sqlite.Balanced tenTitles reachable_tenTitles voleOrMole _ (hcompile tenTitles)
    exact ⟨d, _, hbuild, hcompile tenTitles, by rfl, hhaving, hframe.listed .select, hframe.limit, hattached⟩
  · obtain ⟨_, hbuilt, hcompile⟩ := compile_voleOrMole (Q := Document.DocumentQuery)
    cases hbuild'.symm.trans hbuilt
    obtain ⟨hframe, hattached, -⟩ := hdocuments tenBooks reachable_tenBooks voleOrMole _ (hcompile tenBooks)
    exact ⟨d', _, hbuild', hcompile tenBooks, hframe.source, hframe.limit, hattached⟩

end Surface

end TermSearch
