import TermSearch.Proofs.Definition.SurfaceStages
import TermSearch.Proofs.Definition.TreeMeaning
import TermSearch.Proofs.Document.Comparison
import TermSearch.Proofs.Document.Operation
import TermSearch.Proofs.Query.Formula
import TermSearch.Regex.Reader

/-!
# What a search of documents means

`Surface.holds` says without queries and selectors when a document meets a search: each stage that applies to a
term contributes a condition, and groups join the conditions of their children. The main statement is that the
query compiled from the search wants exactly the documents that the base wants and that meet the search.

Every query that a rule builds repeats the base (`Narrows`). Merging keeps that shape under either connective,
which is why the base can be taken out of any nesting of *and* and *or*.
-/

namespace TermSearch

open Document

/-! ## Meeting a search -/

/-- The condition of a form for a term that is seen with a field. -/
def SearchForm.condition [PatternEngine] (t : Term) (seen : Option String) (form : SearchForm)
    (document : Json) : Bool :=
  match form with
  | .own => seen.any fun field => compares document field t.operator t.value
  | .spread p fields =>
    (p.under t.negated).holds (fields.map fun field => compares document field t.operator t.value)

/-- Conditions joined by a connective. -/
def joinConditions (p : Predicate) (conditions : List (Json → Bool)) (document : Json) : Bool :=
  p.holds (conditions.map (· document))

namespace Surface

variable [PatternEngine]

/-- The conditions that a term contributes: one for each stage that applies to it. -/
def conditions (s : Surface) (t : Term) : List (Json → Bool) :=
  if s.permits t then
    (SearchStage.applicable (s.seenField t) s.searchStages).map (·.form.condition t (s.seenField t))
  else []

/-- **Whether a document meets a search.** A search that contributes no condition is met by every document. -/
def holds (s : Surface) (root : Group) (document : Json) : Bool :=
  (root.meaning? s.conditions joinConditions).all (· document)

end Surface

namespace Document

variable [PatternEngine]

/-! ## Queries that repeat the base -/

/-- The query wants what the base wants and the condition accepts. It asks for something, so no merge leaves it
out. -/
structure Narrows (base q : DocumentQuery) (P : Json → Bool) : Prop where
  notEmpty : q.clauses.filter.isEmpty = false
  compiles : q.clauses.filter.Compiles
  wants : ∀ document, q.clauses.filter.Wants document ↔ base.clauses.filter.Wants document ∧ P document = true

omit [PatternEngine] in
theorem and_field_notEmpty (a : Selector) (key : String) (value : Json) :
    (a.and (.field key value)).isEmpty = false := by
  unfold Selector.and
  rw [if_neg (by simp [Selector.field, Selector.isEmpty])]
  split
  · rfl
  · split
    · exact KeyMap.isEmpty_insert key value a.fields
    · rfl

/-- A comparison narrows the query down by itself. -/
theorem compare_narrows {base : DocumentQuery} {field : String} {op : Operator} {value : String}
    (hbase : base.clauses.filter.Compiles) (hfield : isOperatorKey field = false)
    (hpattern : takesPattern op = true → PatternReads value) :
    Narrows base (Query.compare base field op value) fun document => compares document field op value := by
  obtain ⟨hcompiles, hwants⟩ := Selector.and_field_means hbase (field_comparison_means hfield hpattern)
  refine ⟨?_, ?_, ?_⟩
  · rw [compare_filter]
    exact and_field_notEmpty _ _ _
  · rw [compare_filter]
    exact hcompiles
  · rw [compare_filter]
    exact hwants

section Merging

variable {base : DocumentQuery} {queries : List DocumentQuery} {conditions : List (Json → Bool)}

/-- Queries that repeat the base want a document one by one. -/
theorem forall_wants (h : List.Forall₂ (Narrows base) queries conditions) (document : Json) :
    ((∀ q ∈ queries, q.clauses.filter.Wants document) ↔
        ∀ P ∈ conditions, base.clauses.filter.Wants document ∧ P document = true) ∧
      ((∃ q ∈ queries, q.clauses.filter.Wants document) ↔
        ∃ P ∈ conditions, base.clauses.filter.Wants document ∧ P document = true) := by
  induction h with
  | nil => simp
  | cons hq _ ih =>
    obtain ⟨hall, hany⟩ := ih
    simp only [List.mem_cons, forall_eq_or_imp, exists_eq_or_imp, hq.wants document, hall, hany, and_self]

theorem notEmpty_and_compiles (h : List.Forall₂ (Narrows base) queries conditions) :
    ∀ q ∈ queries, q.clauses.filter.isEmpty = false ∧ q.clauses.filter.Compiles := by
  induction h with
  | nil => simp
  | cons hq _ ih =>
    rw [List.forall_mem_cons]
    exact ⟨⟨hq.notEmpty, hq.compiles⟩, ih⟩

/-- **A merge of queries that repeat the base repeats it once**, and joins their conditions. -/
theorem merge_narrows (p : Predicate) (first : DocumentQuery) (rest : List DocumentQuery)
    (conditions : List (Json → Bool)) (h : List.Forall₂ (Narrows base) (first :: rest) conditions) :
    Narrows base (Query.merge first p rest) (joinConditions p conditions) := by
  have hparts := notEmpty_and_compiles h
  have hempty : ∀ part ∈ (first :: rest).map (·.clauses.filter), part.isEmpty = false := by
    intro part hpart
    obtain ⟨q, hq, rfl⟩ := List.mem_map.mp hpart
    exact (hparts q hq).1
  have hcompiles : ∀ part ∈ (first :: rest).map (·.clauses.filter), part.Compiles := by
    intro part hpart
    obtain ⟨q, hq, rfl⟩ := List.mem_map.mp hpart
    exact (hparts q hq).2
  obtain ⟨P, Ps, _, _, rfl⟩ := List.forall₂_cons_left_iff.mp h
  refine ⟨?_, ?_, fun document => ?_⟩
  · exact merge_notEmpty p List.mem_cons_self (hparts first List.mem_cons_self).1
  · rw [merge_filter]
    exact Selector.combine_compiles hcompiles
  · obtain ⟨hall, hany⟩ := forall_wants h document
    rw [merge_filter]
    cases p with
    | and =>
      -- the base that all parts repeat is wanted once
      rw [Selector.combine_and_wants, List.forall_mem_map, hall]
      simp only [joinConditions, Predicate.holds, List.all_map, List.all_eq_true, List.forall_mem_cons,
        Function.comp_apply, id_eq]
      constructor
      · rintro ⟨⟨hbase, hP⟩, hPs⟩
        exact ⟨hbase, hP, fun P' hP' => (hPs P' hP').2⟩
      · rintro ⟨hbase, hP, hPs⟩
        exact ⟨⟨hbase, hP⟩, fun P' hP' => ⟨hbase, hPs P' hP'⟩⟩
    | or =>
      have hne : (first :: rest).map (·.clauses.filter) ≠ [] := List.cons_ne_nil _ _
      -- no part may be empty here, as an empty one would be left out instead of wanting everything
      rw [Selector.combine_or_wants hne hempty hcompiles]
      simp only [List.mem_map, exists_exists_and_eq_and]
      rw [hany]
      simp only [joinConditions, Predicate.holds, List.any_map, List.any_eq_true, Function.comp_apply, id_eq]
      constructor
      · rintro ⟨P', hP', hbase, hholds⟩
        exact ⟨hbase, P', hP', hholds⟩
      · rintro ⟨hbase, P', hP', hholds⟩
        exact ⟨P', hP', hbase, hholds⟩

/-- Branches that start without conditions narrow the base down once they are merged into it. -/
theorem merge_cleared_narrows {added : DocumentQuery} {P : Json → Bool} (hbase : base.clauses.filter.Compiles)
    (h : Narrows (Query.cleared base) added P) : Narrows base (Query.merge base .and [added]) P := by
  refine ⟨?_, ?_, fun document => ?_⟩
  · exact merge_notEmpty .and (List.mem_cons_of_mem _ List.mem_cons_self) h.notEmpty
  · rw [merge_filter]
    refine Selector.combine_compiles fun part hpart => ?_
    rcases List.mem_cons.mp hpart with rfl | hpart
    · exact hbase
    · rw [List.mem_singleton.mp hpart]
      exact h.compiles
  · have hwants := h.wants document
    rw [cleared_filter] at hwants
    rw [merge_filter, Selector.combine_and_wants]
    simp [hwants, Selector.empty_wants document]

end Merging

end Document

/-! ## Stages over documents -/

/-- The form compares at least one field, and none that would be read as an operator. -/
def SearchForm.ComparesFields (seen : Option String) : SearchForm → Prop
  | .own => ∃ field, seen = some field ∧ isOperatorKey field = false
  | .spread _ fields => fields ≠ [] ∧ ∀ field ∈ fields, isOperatorKey field = false

namespace SearchForm

variable [PatternEngine] {base : DocumentQuery} {t : Term} {seen : Option String}

theorem compares_narrows (hbase : base.clauses.filter.Compiles)
    (hpattern : takesPattern t.operator = true → PatternReads t.value) {fields : List String}
    (hfields : ∀ field ∈ fields, isOperatorKey field = false) :
    List.Forall₂ (Narrows base) (fields.map fun field => Query.compare base field t.operator t.value)
      (fields.map fun field document => compares document field t.operator t.value) := by
  rw [List.forall₂_map_left_iff, List.forall₂_map_right_iff, List.forall₂_same]
  intro field hfield
  exact compare_narrows hbase (hfields field hfield) hpattern

/-- **A stage builds a query for the condition it contributes.** -/
theorem build_narrows {form : SearchForm} (hform : form.ComparesFields seen)
    (hbase : base.clauses.filter.Compiles) (hpattern : takesPattern t.operator = true → PatternReads t.value) :
    ∃ q, form.build base t seen = .ok (some q) ∧ Narrows base q (form.condition t seen) := by
  cases form with
  | own =>
    obtain ⟨field, rfl, hfield⟩ := hform
    refine ⟨_, rfl, ?_⟩
    have hcondition : (SearchForm.own.condition t (some field)) =
        fun document => compares document field t.operator t.value := funext fun _ => rfl
    rw [hcondition]
    exact compare_narrows hbase hfield hpattern
  | spread p fields =>
    obtain ⟨hne, hfields⟩ := hform
    obtain ⟨field, rest, rfl⟩ := List.exists_cons_of_ne_nil hne
    -- the branches of the group start from the base without its conditions
    have hbranches := compares_narrows (t := t)
      (show (Query.cleared base).clauses.filter.Compiles from Selector.empty_compiles) hpattern hfields
    have hmerged := merge_narrows (p.under t.negated) _ _ _ hbranches
    refine ⟨_, rfl, ?_⟩
    have hcondition : (SearchForm.spread p (field :: rest)).condition t seen =
        joinConditions (p.under t.negated)
          ((field :: rest).map fun field document => compares document field t.operator t.value) := by
      funext document
      simp only [condition, joinConditions, List.map_map, Function.comp_def]
    rw [hcondition]
    exact merge_cleared_narrows hbase hmerged

end SearchForm

theorem SearchStage.buildAll_narrows [PatternEngine] {base : DocumentQuery} {t : Term} {seen : Option String}
    {stages : List SearchStage} (hforms : ∀ st ∈ stages, st.form.ComparesFields seen)
    (hbase : base.clauses.filter.Compiles) (hpattern : takesPattern t.operator = true → PatternReads t.value) :
    ∃ queries, buildAll base t seen stages = .ok queries ∧
      List.Forall₂ (Narrows base) queries (stages.map (·.form.condition t seen)) := by
  induction stages with
  | nil => exact ⟨[], rfl, .nil⟩
  | cons st stages ih =>
    rw [List.forall_mem_cons] at hforms
    obtain ⟨q, hbuild, hq⟩ := SearchForm.build_narrows hforms.1 hbase hpattern
    obtain ⟨queries, hqueries, hmeans⟩ := ih hforms.2
    refine ⟨q :: queries, ?_, .cons hq hmeans⟩
    rw [buildAll, hbuild]
    simp only [hqueries]
    rfl

theorem SurfaceEntry.comparesFields_of_mem {e : SurfaceEntry} {st : SearchStage} {seen : Option String}
    (hst : st ∈ e.stages) (hallows : st.fields.allows seen = true)
    (hfields : e.fields ≠ [] ∧ ∀ field ∈ e.fields, isOperatorKey field = false) :
    st.form.ComparesFields seen :=
  e.compares_of_mem hst hallows hfields.1 hfields.2

namespace Surface

variable {s : Surface} {base : DocumentQuery}

/-- A term is answered by queries for the conditions it contributes. -/
theorem termQueries_narrows [PatternEngine]
    (hfields : ∀ e ∈ s.search, e.fields ≠ [] ∧ ∀ field ∈ e.fields, isOperatorKey field = false)
    (hbase : base.clauses.filter.Compiles) {t : Term}
    (hpattern : takesPattern t.operator = true → PatternReads t.value) :
    ∃ queries, s.termQueries base t = .ok queries ∧ List.Forall₂ (Narrows base) queries (s.conditions t) := by
  unfold termQueries conditions
  by_cases hpermits : s.permits t = true
  · rw [if_pos hpermits, if_pos hpermits]
    refine SearchStage.buildAll_narrows (fun st hst => ?_) hbase hpattern
    obtain ⟨hmem, hallows⟩ := SearchStage.mem_of_mem_applicable hst
    obtain ⟨e, he, hst⟩ := List.mem_flatMap.mp (List.mem_mergeSort.mp hmem)
    exact SurfaceEntry.comparesFields_of_mem hst hallows (hfields e he)
  · rw [if_neg hpermits, if_neg hpermits]
    exact ⟨[], rfl, .nil⟩

/-- **The query compiled from a search wants the documents that the base wants and that meet the search.** The
entries of the surface name at least one field and no operator, and the patterns of the search can be read. -/
theorem compile_wants_iff_holds [PatternEngine] (s : Surface) (hsearch : s.search ≠ [])
    (hfields : ∀ e ∈ s.search, e.fields ≠ [] ∧ ∀ field ∈ e.fields, isOperatorKey field = false)
    (hranks : s.RanksFit) (base : DocumentQuery) (baseFilter : Filter)
    (hbase : base.clauses.filter.compile = .ok baseFilter) (root : Group)
    (hpatterns : ∀ t ∈ root.terms, takesPattern t.operator = true → PatternReads t.value) :
    ∃ (d : Definition DocumentQuery) (q : DocumentQuery) (filter : Filter),
      (s.apply Definition.start).build = .ok d ∧ (Compiler.mk d base).compile root = .ok q ∧
      q.clauses.filter.compile = .ok filter ∧
      ∀ document, filter.accepts document = true ↔
        baseFilter.accepts document = true ∧ s.holds root document = true := by
  obtain ⟨d, hbuild, hterms⟩ := s.build_eq (Q := DocumentQuery) hranks (.inr hsearch)
  have hcompiles : base.clauses.filter.Compiles := ⟨baseFilter, hbase⟩
  have hterm : ∀ t ∈ root.terms, ∃ queries, (Compiler.mk d base).queriesFor t = .ok queries ∧
      List.Forall₂ (Narrows base) queries (s.conditions t) := by
    intro t ht
    obtain ⟨queries, hqueries, hnarrows⟩ := termQueries_narrows hfields hcompiles (hpatterns t ht)
    exact ⟨queries, (hterms base _ t).trans hqueries, hnarrows⟩
  obtain ⟨answer, hcompile, hmeans⟩ := Compiler.compile_means merge_narrows hterm
  have hbaseWants : ∀ document, base.clauses.filter.Wants document ↔ baseFilter.accepts document = true := by
    intro document
    rw [Selector.wants_iff_accepts, hbase]
    simp
  generalize hmeaning : root.meaning? s.conditions joinConditions = condition at hmeans
  cases hmeans with
  | none =>
    refine ⟨d, base, baseFilter, hbuild, hcompile, hbase, fun document => ?_⟩
    simp [holds, hmeaning]
  | @some q P hnarrows =>
    obtain ⟨filter, hfilter⟩ := hnarrows.compiles
    refine ⟨d, q, filter, hbuild, hcompile, hfilter, fun document => ?_⟩
    have hwants := hnarrows.wants document
    rw [Selector.wants_iff_accepts, hfilter, hbaseWants] at hwants
    simpa [holds, hmeaning] using hwants

/-- Books are found by their author, also written `by`, and otherwise by their title or author. -/
def books : Surface where
  permit := []
  aliases := .ofList [("by", "author")]
  search :=
    [{ kind := .specific, fields := ["author"], field := none, consume := true, rank := 0 },
      { kind := .anyOf, fields := ["title", "author"], field := none, consume := true, rank := 1 }]

/-- The books of one shelf. -/
def shelf : DocumentQuery := (ClauseQuery.ofSource "books").mapFilter fun _ => .field "shelf" (.string "A")

/-- By Herbert or about Emma, but without Dune. -/
def bookSearch : Group where
  children :=
    [.group [.term (.make (some "by") .eq "Herbert" .none false), .term (.bare "Emma")] [.or],
      .term (.make none .eq "Dune" .none true)]
  keywords := []

/-- The entries of the books come in the order of their ranks. -/
theorem holds_books (document : Json) :
    books.holds bookSearch document =
      (bookSearch.meaning? (fun t => (SearchStage.applicable (books.seenField t)
        (books.search.flatMap SurfaceEntry.stages)).map (·.form.condition t (books.seenField t)))
        joinConditions).all (· document) := by
  have hstages : books.searchStages = books.search.flatMap SurfaceEntry.stages :=
    List.mergeSort_of_pairwise (by decide)
  have hconditions : books.conditions = fun t => (SearchStage.applicable (books.seenField t)
      (books.search.flatMap SurfaceEntry.stages)).map (·.form.condition t (books.seenField t)) := by
    funext t
    unfold conditions
    rw [hstages]
    exact if_pos rfl
  unfold holds
  rw [hconditions]

theorem compile_wants_iff_holds_books :
    ∃ (d : Definition DocumentQuery) (q : DocumentQuery) (filter : Filter),
      (books.apply Definition.start).build = .ok d ∧ (Compiler.mk d shelf).compile bookSearch = .ok q ∧
      q.clauses.filter.compile = .ok filter ∧
      filter.accepts (.ofFields [("author", .string "Austen"), ("shelf", .string "A"), ("title", .string "Emma")])
        = true ∧
      filter.accepts (.ofFields [("author", .string "Herbert"), ("shelf", .string "A"), ("title", .string "Dune")])
        = false ∧
      filter.accepts (.ofFields [("author", .string "Austen"), ("title", .string "Emma")]) = false := by
  obtain ⟨d, q, filter, hbuild, hcompile, hfilter, hiff⟩ :=
    compile_wants_iff_holds books (by decide) (by decide) (by unfold RanksFit; decide) shelf
      (.all [.field "shelf" (.eq (.string "A"))]) rfl bookSearch
      (by simp [bookSearch, Group.terms, Node.listTerms, Node.terms, Term.make, Term.bare, takesPattern,
        Operator.inverse])
  refine ⟨d, q, filter, hbuild, hcompile, hfilter, ?_, ?_, ?_⟩
  · exact (hiff _).mpr ⟨by decide +kernel, by rw [holds_books]; decide +kernel⟩
  · exact Bool.eq_false_iff.mpr fun h => absurd ((hiff _).mp h).2 (by rw [holds_books]; decide +kernel)
  · exact Bool.eq_false_iff.mpr fun h => absurd ((hiff _).mp h).1 (by decide +kernel)

end Surface

end TermSearch
