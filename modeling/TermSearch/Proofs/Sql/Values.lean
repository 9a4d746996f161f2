import TermSearch.Proofs.Definition.SurfaceStages
import TermSearch.Proofs.Definition.TwoSearches
import TermSearch.Proofs.Sql.Binds

/-!
# Values stay out of statements

What a person types as the value of a term is bound to a placeholder and does not become part of a statement. Two
searches that differ only in such values lead to one statement (`SameText`), and each binds, for its terms from left
to right, the value of the term once for each field that the term is compared by (`Surface.boundValues`).

Both facts are shown for a comparison, then for a stage of a surface, for a term, and by the inductions over the tree
for the search as a whole.
-/

namespace TermSearch

open Sql

namespace Sql

/-! ## Queries without their values -/

/-- The expressions without the values for their placeholders. -/
def Expressions.withoutBinds (e : Expressions) : Expressions := { e with binds := [] }

/-- The query without the values for its placeholders. -/
def SqlQuery.withoutBinds (q : SqlQuery) : SqlQuery :=
  (q.mapFilter Expressions.withoutBinds).mapHaving Expressions.withoutBinds

/-- The queries differ at most in the values for their placeholders. -/
def SameText (q q' : SqlQuery) : Prop := SqlQuery.withoutBinds q = SqlQuery.withoutBinds q'

/-- The statement does not depend on the values. -/
theorem sql_withoutBinds (q : SqlQuery) : SqlQuery.sql (SqlQuery.withoutBinds q) = SqlQuery.sql q := rfl

theorem SameText.sql_eq {q q' : SqlQuery} (h : SameText q q') : SqlQuery.sql q = SqlQuery.sql q' := by
  rw [← sql_withoutBinds q, ← sql_withoutBinds q', h]

theorem SameText.compare {q q' : SqlQuery} (h : SameText q q') (field : String) (op : Operator)
    (value value' : String) : SameText (Query.compare q field op value) (Query.compare q' field op value') := by
  have hpush : ∀ (q : SqlQuery) (value : String), SqlQuery.withoutBinds (Query.compare q field op value) =
      SqlQuery.withoutBinds ((SqlQuery.withoutBinds q).mapFilter (·.push (comparison field op) [])) :=
    fun _ _ => rfl
  unfold SameText
  rw [hpush, hpush, h]

theorem withoutBinds_combine (p : Predicate) (parts : List Expressions) :
    (Condition.combine p (parts.map Expressions.withoutBinds)).withoutBinds =
      (Condition.combine p parts).withoutBinds := by
  have hfilter : (parts.map Expressions.withoutBinds).filter (!Condition.isEmpty ·) =
      (parts.filter (!Condition.isEmpty ·)).map Expressions.withoutBinds := List.filter_map
  unfold Condition.combine
  rw [hfilter]
  generalize parts.filter (!Condition.isEmpty ·) = filled
  match filled with
  | [] => rfl
  | [_] => rfl
  | first :: second :: rest =>
    show (Expressions.join p ((first :: second :: rest).map Expressions.withoutBinds)).withoutBinds =
      (Expressions.join p (first :: second :: rest)).withoutBinds
    unfold Expressions.join
    rw [List.map_map]
    rfl

theorem merge_clauses_withoutBinds (p : Predicate) (queries : List SqlQuery) :
    Clauses.merge p ((queries.map SqlQuery.withoutBinds).map (·.clauses)) =
      { Clauses.merge p (queries.map (·.clauses)) with
        filter := Condition.combine p ((queries.map (·.clauses.filter)).map Expressions.withoutBinds)
        having := Condition.combine p ((queries.map (·.clauses.having)).map Expressions.withoutBinds) } := by
  simp only [Clauses.merge, List.map_map, List.flatMap_map]
  rfl

/-- A merge reads the values of no query to write its expressions. -/
theorem withoutBinds_merge (p : Predicate) (first : SqlQuery) (rest : List SqlQuery) :
    SqlQuery.withoutBinds (Query.merge (SqlQuery.withoutBinds first) p (rest.map SqlQuery.withoutBinds)) =
      SqlQuery.withoutBinds (Query.merge first p rest) := by
  cases rest with
  | nil => rfl
  | cons second rest =>
    have hfilter := withoutBinds_combine p ((first :: second :: rest).map (·.clauses.filter))
    have hhaving := withoutBinds_combine p ((first :: second :: rest).map (·.clauses.having))
    have hfields : ∀ (clauses : Clauses Expressions) (attached : Bool),
        SqlQuery.withoutBinds ⟨clauses, attached⟩ =
          ⟨{ clauses with
              filter := clauses.filter.withoutBinds
              having := clauses.having.withoutBinds }, attached⟩ := fun _ _ => rfl
    show SqlQuery.withoutBinds ⟨Clauses.merge p (((first :: second :: rest).map SqlQuery.withoutBinds).map (·.clauses)),
      ((first :: second :: rest).map SqlQuery.withoutBinds).any (·.attached)⟩ = SqlQuery.withoutBinds
        ⟨Clauses.merge p ((first :: second :: rest).map (·.clauses)), (first :: second :: rest).any (·.attached)⟩
    rw [merge_clauses_withoutBinds, List.any_map, hfields, hfields, hfilter, hhaving]
    simp only [Clauses.merge, List.map_map]
    rfl

theorem SameText.merge {p : Predicate} {first first' : SqlQuery} {rest rest' : List SqlQuery}
    (h : List.Forall₂ SameText (first :: rest) (first' :: rest')) :
    SameText (Query.merge first p rest) (Query.merge first' p rest') := by
  obtain ⟨hfirst, hrest⟩ := List.forall₂_cons.mp h
  have hmap : List.Forall₂ (· = ·) (rest.map SqlQuery.withoutBinds) (rest'.map SqlQuery.withoutBinds) :=
    List.forall₂_map_left_iff.mpr (List.forall₂_map_right_iff.mpr hrest)
  rw [List.forall₂_eq_eq_eq] at hmap
  have hfirst : SqlQuery.withoutBinds first = SqlQuery.withoutBinds first' := hfirst
  unfold SameText
  rw [← withoutBinds_merge, ← withoutBinds_merge p first', hfirst, hmap]

/-- Added to one query, queries of one text give queries of one text. -/
theorem SameText.push (base : SqlQuery) {added added' : Option SqlQuery} (h : Option.Rel SameText added added') :
    Option.Rel SameText (added.map fun q => Query.merge base .and [q])
      (added'.map fun q => Query.merge base .and [q]) := by
  cases h with
  | none => exact .none
  | some h => exact .some (SameText.merge (.cons rfl (.cons h .nil)))

/-! ## The values of a query -/

/-- The query binds just these values, all of them in its filter. -/
structure BindsJust (q : SqlQuery) (values : List Json) : Prop where
  filter : q.clauses.filter.binds = values
  tidy : q.clauses.filter.Tidy
  having : q.clauses.having.binds = []

namespace BindsJust

variable {q : SqlQuery} {values : List Json}

theorem binds_eq (h : BindsJust q values) : SqlQuery.binds q = values := by
  rw [SqlQuery.binds, h.filter, h.having, List.append_nil]

theorem compare (h : BindsJust q values) (field : String) (op : Operator) (value : String) :
    BindsJust (Query.compare q field op value) (values ++ [comparisonBind op value]) where
  filter := congrArg (· ++ _) h.filter
  tidy := Expressions.tidy_push _ _ _
  having := h.having

theorem cleared (q : SqlQuery) : BindsJust (Query.cleared q) [] where
  filter := rfl
  tidy _ := rfl
  having := rfl

theorem forall_mem {queries : List SqlQuery} {gathered : List (List Json)}
    (h : List.Forall₂ BindsJust queries gathered) :
    queries.flatMap (·.clauses.filter.binds) = gathered.flatten ∧
      ∀ q ∈ queries, q.clauses.filter.Tidy ∧ q.clauses.having.binds = [] := by
  induction h with
  | nil => simp
  | cons hq _ ih =>
    rw [List.flatMap_cons, List.flatten_cons, hq.filter, ih.1, List.forall_mem_cons]
    exact ⟨rfl, ⟨hq.tidy, hq.having⟩, ih.2⟩

theorem flatMap_binds {queries : List SqlQuery} {gathered : List (List Json)}
    (h : List.Forall₂ BindsJust queries gathered) : queries.flatMap SqlQuery.binds = gathered.flatten := by
  induction h with
  | nil => rfl
  | cons hq _ ih => rw [List.flatMap_cons, List.flatten_cons, hq.binds_eq, ih]

/-- **A merge binds the values of its parts** from left to right. -/
theorem merge (p : Predicate) (first : SqlQuery) (rest : List SqlQuery) (gathered : List (List Json))
    (h : List.Forall₂ BindsJust (first :: rest) gathered) :
    BindsJust (Query.merge first p rest) gathered.flatten := by
  cases rest with
  | nil =>
    obtain ⟨values, _, hfirst, hnil, rfl⟩ := List.forall₂_cons_left_iff.mp h
    cases hnil
    rw [List.flatten_singleton]
    exact hfirst
  | cons second rest =>
    obtain ⟨hflatten, hall⟩ := forall_mem h
    obtain ⟨hfilter, hhaving⟩ := conditions_merge p first second rest
    have htidy : ∀ e ∈ (first :: second :: rest).map fun q : SqlQuery => q.clauses.filter, e.Tidy := by
      intro e he
      obtain ⟨q, hq, rfl⟩ := List.mem_map.mp he
      exact (hall q hq).1
    have hnone : ∀ e ∈ (first :: second :: rest).map fun q : SqlQuery => q.clauses.having, e.binds = [] := by
      intro e he
      obtain ⟨q, hq, rfl⟩ := List.mem_map.mp he
      exact (hall q hq).2
    refine ⟨?_, ?_, ?_⟩
    · rw [hfilter, binds_combine htidy, List.flatMap_map, hflatten]
    · rw [hfilter]
      exact tidy_combine htidy
    · rw [hhaving, binds_combine fun e he _ => hnone e he, List.flatMap_eq_nil_iff]
      exact hnone

/-- A query that is added to one without values brings its own. -/
theorem push {base : SqlQuery} (hbase : BindsJust base []) (added : Option SqlQuery) {gathered : List (List Json)}
    (h : List.Forall₂ BindsJust added.toList gathered) :
    ∃ pushed, List.Forall₂ BindsJust (added.map fun q => Query.merge base .and [q]).toList pushed ∧
      pushed.flatten = gathered.flatten := by
  cases added with
  | none => exact ⟨gathered, h, rfl⟩
  | some q =>
    obtain ⟨values, _, hq, hnil, rfl⟩ := List.forall₂_cons_left_iff.mp h
    cases hnil
    have hadded := merge .and base [q] [[], values] (.cons hbase (.cons hq .nil))
    exact ⟨[_], .cons hadded .nil, List.append_nil _⟩

end BindsJust

end Sql

/-! ## Stages -/

/-- The fields that a form compares, for a term that is seen with a field. -/
def SearchForm.comparedFields (seen : Option String) : SearchForm → List String
  | .own => seen.toList
  | .spread _ fields => fields

namespace SearchForm

variable {base : SqlQuery} {seen : Option String}

theorem build_alike {t t' : Term} (h : t.withoutValue = t'.withoutValue) (form : SearchForm) :
    Alike (Option.Rel SameText) (form.build base t seen) (form.build base t' seen) := by
  obtain ⟨-, hoperator, hnegated⟩ := Term.eq_of_withoutValue h
  have hcompare : ∀ (q : SqlQuery) (field : String),
      SameText (Query.compare q field t.operator t.value) (Query.compare q field t'.operator t'.value) := by
    intro q field
    rw [hoperator]
    exact SameText.compare rfl field _ _ _
  cases form with
  | own =>
    cases seen with
    | none => exact .error _ _
    | some field => exact .ok (.some (hcompare base field))
  | spread p fields =>
    have hbranches : List.Forall₂ SameText
        (fields.map fun field => Query.compare (Query.cleared base) field t.operator t.value)
        (fields.map fun field => Query.compare (Query.cleared base) field t'.operator t'.value) := by
      rw [List.forall₂_map_left_iff, List.forall₂_map_right_iff, List.forall₂_same]
      exact fun field _ => hcompare _ field
    have hmerged := Compiler.mergeAll_alike (fun _ _ _ _ _ => SameText.merge) (p.under t.negated) hbranches
    unfold build
    rw [← hnegated]
    exact .ok (SameText.push base hmerged)

/-- **A stage binds the value of the term once for each field** that it compares. -/
theorem build_binds (hbase : BindsJust base []) {t : Term} {form : SearchForm} {built : Option SqlQuery}
    (h : form.build base t seen = .ok built) :
    ∃ gathered, List.Forall₂ BindsJust built.toList gathered ∧
      gathered.flatten = (form.comparedFields seen).map fun _ => comparisonBind t.operator t.value := by
  cases form with
  | own =>
    cases seen with
    | none => cases h
    | some field =>
      cases h
      exact ⟨[_], .cons (hbase.compare field t.operator t.value) .nil, rfl⟩
  | spread p fields =>
    cases h
    have hbranches : List.Forall₂ BindsJust
        (fields.map fun field => Query.compare (Query.cleared base) field t.operator t.value)
        (fields.map fun _ => [comparisonBind t.operator t.value]) := by
      rw [List.forall₂_map_left_iff, List.forall₂_map_right_iff, List.forall₂_same]
      exact fun field _ => (BindsJust.cleared base).compare field t.operator t.value
    obtain ⟨merged, hmerged, hflatten⟩ := Compiler.mergeAll_gathers BindsJust.merge (p.under t.negated) hbranches
    have hone : merged.flatten = fields.map fun _ => comparisonBind t.operator t.value := by
      rw [hflatten, ← List.flatMap_def]
      exact List.map_eq_flatMap.symm
    rw [comparedFields, ← hone]
    exact BindsJust.push hbase _ hmerged

end SearchForm

namespace SearchStage

variable {base : SqlQuery} {seen : Option String}

theorem buildAll_alike {t t' : Term} (h : t.withoutValue = t'.withoutValue) (stages : List SearchStage) :
    Alike (List.Forall₂ SameText) (buildAll base t seen stages) (buildAll base t' seen stages) := by
  induction stages with
  | nil => exact .ok .nil
  | cons st stages ih =>
    have hbuilt : Alike (Option.Rel SameText) (st.form.build base t seen) (st.form.build base t' seen) :=
      SearchForm.build_alike h st.form
    rw [buildAll, buildAll]
    generalize st.form.build base t seen = built, st.form.build base t' seen = built' at hbuilt
    cases hbuilt with
    | error cause cause' => exact .error cause cause'
    | ok hbuilt => exact ih.map fun _ _ hmore => List.rel_append (forall₂_toList hbuilt) hmore

theorem buildAll_binds (hbase : BindsJust base []) {t : Term} {stages : List SearchStage} {queries : List SqlQuery}
    (h : buildAll base t seen stages = .ok queries) :
    ∃ gathered, List.Forall₂ BindsJust queries gathered ∧ gathered.flatten =
      (stages.flatMap (·.form.comparedFields seen)).map fun _ => comparisonBind t.operator t.value := by
  induction stages generalizing queries with
  | nil =>
    cases h
    exact ⟨[], .nil, rfl⟩
  | cons st stages ih =>
    rw [buildAll] at h
    cases hform : st.form.build base t seen with
    | error cause =>
      rw [hform] at h
      cases h
    | ok built =>
      cases hrest : buildAll base t seen stages with
      | error cause =>
        rw [hform, hrest] at h
        cases h
      | ok more =>
        rw [hform, hrest] at h
        cases h
        obtain ⟨gathered, hbuilt, hgathered⟩ := SearchForm.build_binds hbase hform
        obtain ⟨gathered', hmore, hgathered'⟩ := ih hrest
        refine ⟨gathered ++ gathered', List.rel_append hbuilt hmore, ?_⟩
        rw [List.flatten_append, hgathered, hgathered', List.flatMap_cons, List.map_append]

end SearchStage

/-! ## Searches -/

namespace Surface

variable {s : Surface} {base : SqlQuery}

/-- The fields that a term is compared by, in the order of the comparisons. -/
def comparedFields (s : Surface) (t : Term) : List String :=
  if s.permits t then
    (SearchStage.applicable (s.seenField t) s.searchStages).flatMap (·.form.comparedFields (s.seenField t))
  else []

/-- **The values that a term binds**: its own, once for each field that it is compared by. -/
def boundValues (s : Surface) (t : Term) : List Json :=
  (s.comparedFields t).map fun _ => comparisonBind t.operator t.value

/-- Which stages run for a term depends on its field alone. -/
theorem sees_alike (s : Surface) {t t' : Term} (h : t.withoutValue = t'.withoutValue) :
    s.permits t = s.permits t' ∧ s.seenField t = s.seenField t' := by
  have hfield := (Term.eq_of_withoutValue h).1
  constructor
  · rw [permits, permits, hfield]
  · rw [seenField, seenField, hfield]

theorem termQueries_alike {t t' : Term} (h : t.withoutValue = t'.withoutValue) :
    Alike (List.Forall₂ SameText) (s.termQueries base t) (s.termQueries base t') := by
  obtain ⟨hpermits, hseen⟩ := s.sees_alike h
  unfold termQueries
  rw [hpermits, hseen]
  split
  · exact SearchStage.buildAll_alike h _
  · exact .ok .nil

theorem termQueries_bind (hbase : BindsJust base []) {t : Term} {queries : List SqlQuery}
    (h : s.termQueries base t = .ok queries) :
    ∃ gathered, List.Forall₂ BindsJust queries gathered ∧ gathered.flatten = s.boundValues t := by
  unfold termQueries at h
  unfold boundValues comparedFields
  split at h
  · next hpermits =>
    rw [if_pos hpermits]
    exact SearchStage.buildAll_binds hbase h
  · next hpermits =>
    rw [if_neg hpermits]
    cases h
    exact ⟨[], .nil, rfl⟩

theorem length_boundValues {t t' : Term} (h : t.withoutValue = t'.withoutValue) :
    (s.boundValues t).length = (s.boundValues t').length := by
  obtain ⟨hpermits, hseen⟩ := s.sees_alike h
  rw [boundValues, boundValues, List.length_map, List.length_map, comparedFields, comparedFields, hpermits, hseen]

/-- A value of a term is bound as it is, or as a pattern when the term compares with one. -/
theorem eq_of_mem_boundValues {t : Term} {value : Json} (h : value ∈ s.boundValues t) :
    value = .string (if t.operator = .like ∨ t.operator = .notLike then Wildcard.toLike t.value else t.value) := by
  obtain ⟨_, _, rfl⟩ := List.mem_map.mp h
  unfold comparisonBind
  cases t.operator <;> rfl

/-- The definition of a surface answers terms that differ in their values alike, and binds just these values. -/
theorem build_alike (s : Surface) (hranks : s.RanksFit) (hbase : BindsJust base []) :
    ∃ d, (s.apply (Definition.start : Draft SqlQuery)).build = .ok d ∧
      (∀ t t' : Term, t.withoutValue = t'.withoutValue →
        Alike (List.Forall₂ SameText) ((Compiler.mk d base).queriesFor t) ((Compiler.mk d base).queriesFor t')) ∧
      ∀ t queries, (Compiler.mk d base).queriesFor t = .ok queries →
        ∃ gathered, List.Forall₂ BindsJust queries gathered ∧ gathered.flatten = s.boundValues t := by
  by_cases hdeclares : s.aliases.toList ≠ [] ∨ s.search ≠ []
  · obtain ⟨d, hbuild, hterms⟩ := s.build_eq (Q := SqlQuery) hranks hdeclares
    refine ⟨d, hbuild, fun t t' h => ?_, fun t queries h => ?_⟩
    · unfold Compiler.queriesFor
      rw [hterms, hterms]
      exact termQueries_alike h
    · unfold Compiler.queriesFor at h
      rw [hterms] at h
      exact termQueries_bind hbase h
  · -- without any declaration every term is refused
    simp only [not_or, not_not] at hdeclares
    obtain ⟨d, hbuild, hterms⟩ := build_of_nothing (Q := SqlQuery) hdeclares.1 hdeclares.2
    refine ⟨d, hbuild, fun t t' _ => ?_, fun t queries h => ?_⟩
    · unfold Compiler.queriesFor
      rw [hterms, hterms]
      exact .error _ _
    · unfold Compiler.queriesFor at h
      rw [hterms] at h
      cases h

/-- **No value of a search becomes part of a statement.** Two searches that differ only in the values of their terms
are both refused, or lead to one statement with as many values each. The values of a statement are those of the terms
from left to right: what the rules bind for a term is its own value, or the pattern made of it, each time. -/
theorem compile_keeps_values_out (s : Surface) (hranks : s.RanksFit) (base : SqlQuery)
    (hbase : SqlQuery.binds base = []) (root root' : Group) (hshape : root.withoutValues = root'.withoutValues) :
    ∃ d : Definition SqlQuery, (s.apply Definition.start).build = .ok d ∧
      Alike (fun q q' => SqlQuery.sql q = SqlQuery.sql q' ∧
          (SqlQuery.binds q).length = (SqlQuery.binds q').length ∧
          SqlQuery.binds q = root.terms.flatMap s.boundValues ∧
          SqlQuery.binds q' = root'.terms.flatMap s.boundValues)
        ((Compiler.mk d base).compile root) ((Compiler.mk d base).compile root') ∧
      (∀ t queries, (Compiler.mk d base).queriesFor t = .ok queries →
        queries.flatMap SqlQuery.binds = s.boundValues t) ∧
      ∀ t, ∀ value ∈ s.boundValues t, value =
        .string (if t.operator = .like ∨ t.operator = .notLike then Wildcard.toLike t.value else t.value) := by
  obtain ⟨hfilter, hhaving⟩ := List.append_eq_nil_iff.mp hbase
  have hscope : BindsJust base [] := ⟨hfilter, fun _ => hfilter, hhaving⟩
  obtain ⟨d, hbuild, halike, hbinds⟩ := s.build_alike hranks hscope
  have hmerge : ∀ (p : Predicate) (first : SqlQuery) (rest : List SqlQuery) (first' : SqlQuery)
      (rest' : List SqlQuery), List.Forall₂ SameText (first :: rest) (first' :: rest') →
        SameText (Query.merge first p rest) (Query.merge first' p rest') := fun _ _ _ _ _ => SameText.merge
  have hgathers : ∀ (root : Group) (q : SqlQuery), (Compiler.mk d base).compile root = .ok q →
      SqlQuery.binds q = root.terms.flatMap s.boundValues := fun root q h =>
    (Compiler.compile_gathers BindsJust.merge hbinds hscope h).binds_eq
  have hcount : ∀ root : Group, (root.terms.flatMap s.boundValues).length =
      ((root.terms.map Term.withoutValue).map fun t => (s.boundValues t).length).sum := by
    intro root
    rw [List.length_flatMap, List.map_map]
    exact congrArg List.sum (List.map_congr_left fun t _ => length_boundValues rfl)
  refine ⟨d, hbuild, ?_, fun t queries h => ?_, fun t value => eq_of_mem_boundValues⟩
  · refine (Compiler.compile_alike hmerge halike rfl hshape).mono fun q q' hq hq' hsame => ?_
    have hvalues := hgathers root q hq
    have hvalues' := hgathers root' q' hq'
    refine ⟨hsame.sql_eq, ?_, hvalues, hvalues'⟩
    rw [hvalues, hvalues', hcount, hcount, Group.map_withoutValue_terms hshape]
  · obtain ⟨gathered, hqueries, hflatten⟩ := hbinds t queries h
    rw [BindsJust.flatMap_binds hqueries, hflatten]

/-- Badgers are found by name or nickname, and `nick` stands for a nickname. -/
def badgerSurface : Surface where
  permit := ["name", "nick"]
  aliases := .ofList [("nick", "nickname")]
  search := [{ kind := .inFields, fields := ["name", "nickname"], field := none, consume := true, rank := 0 }]

/-- The badgers of one sett. -/
def sett : SqlQuery := (ClauseQuery.ofSource "badgers").mapFilter (·.push "sett = 'A?'" [])

/-- Not called so, or with a nickname like the one given. -/
def badgerSearch (name nickname : String) (quoting : Quoting) : Group where
  children :=
    [.group [.term (.make none .eq name quoting true), .term (.make (some "nick") .like nickname quoting false)] [.or]]
  keywords := []

theorem searchStages_badgers : badgerSurface.searchStages = badgerSurface.search.flatMap SurfaceEntry.stages :=
  List.mergeSort_of_pairwise (by decide)

/-- Each term of a search for badgers makes one query, so the search is answered. -/
theorem badgers_answered {d : Definition SqlQuery} (h : (badgerSurface.apply Definition.start).build = .ok d)
    (name nickname : String) (quoting : Quoting) :
    ∃ q, (Compiler.mk d sett).compile (badgerSearch name nickname quoting) = .ok q := by
  obtain ⟨d', hbuild, hterms⟩ :=
    badgerSurface.build_eq (Q := SqlQuery) (by unfold RanksFit; decide) (.inl (by decide))
  obtain rfl : d = d' := Except.ok.inj (h.symm.trans hbuild)
  have hterm : ∀ t ∈ (badgerSearch name nickname quoting).terms,
      ∃ queries, (Compiler.mk d sett).queriesFor t = .ok queries ∧
        List.Forall₂ (fun _ (_ : Unit) => True) queries [()] := by
    intro t ht
    have ht : t = .make none .eq name quoting true ∨ t = .make (some "nick") .like nickname quoting false := by
      simpa [badgerSearch, Group.terms, Node.listTerms, Node.terms] using ht
    unfold Compiler.queriesFor
    rw [hterms, termQueries, searchStages_badgers]
    rcases ht with rfl | rfl
    · exact ⟨_, rfl, .cons trivial .nil⟩
    · exact ⟨_, rfl, .cons trivial .nil⟩
  have hmeans : ∃ answer : Option SqlQuery,
      (Compiler.mk d sett).compile (badgerSearch name nickname quoting) = .ok (answer.getD sett) ∧
        Option.Rel _ answer ((badgerSearch name nickname quoting).meaning? (fun _ => [()]) fun _ _ => ()) :=
    Compiler.compile_means (fun _ _ _ _ _ => trivial) hterm
  obtain ⟨answer, hcompile, -⟩ := hmeans
  exact ⟨_, hcompile⟩

theorem compile_keeps_values_out_badgers :
    ∃ (d : Definition SqlQuery) (q q' : SqlQuery), (badgerSurface.apply Definition.start).build = .ok d ∧
      (Compiler.mk d sett).compile (badgerSearch "Bo" "str*" .none) = .ok q ∧
      (Compiler.mk d sett).compile (badgerSearch "' OR 1 = 1" "?1" .double) = .ok q' ∧
      SqlQuery.sql q = SqlQuery.sql q' ∧
      SqlQuery.binds q = [.string "Bo", .string "Bo", .string "str%"] ∧
      SqlQuery.binds q' = [.string "' OR 1 = 1", .string "' OR 1 = 1", .string "_1%"] := by
  obtain ⟨d, hbuild, halike, -⟩ := compile_keeps_values_out badgerSurface (by unfold RanksFit; decide) sett rfl
    (badgerSearch "Bo" "str*" .none) (badgerSearch "' OR 1 = 1" "?1" .double) rfl
  obtain ⟨q, hq⟩ := badgers_answered hbuild "Bo" "str*" .none
  obtain ⟨q', hq'⟩ := badgers_answered hbuild "' OR 1 = 1" "?1" .double
  have hvalues : badgerSurface.boundValues = fun t => ((if badgerSurface.permits t then
      (SearchStage.applicable (badgerSurface.seenField t) (badgerSurface.search.flatMap SurfaceEntry.stages)).flatMap
        (·.form.comparedFields (badgerSurface.seenField t)) else []).map
          fun _ => comparisonBind t.operator t.value) := by
    funext t
    rw [boundValues, comparedFields, searchStages_badgers]
  rw [hq, hq', hvalues] at halike
  cases halike with
  | ok h =>
    obtain ⟨hsql, -, hbinds, hbinds'⟩ := h
    exact ⟨d, q, q', hbuild, hq, hq', hsql, hbinds.trans (by rfl), hbinds'.trans (by rfl)⟩

end Surface

end TermSearch
