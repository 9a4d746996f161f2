import TermSearch.Proofs.Definition.Course
import TermSearch.Proofs.Definition.SurfaceStages
import TermSearch.Proofs.KeyMap
import TermSearch.Query.Transcript

/-!
# What the other names of fields do

A surface gives fields other names by a table. Each of its entries becomes a stage that renames, and these run in
key order before the entries that search. All that the searching matchers are tried on is the field that is left in
the end (`Surface.course_eq`).

That is the field the table gives for the one that was typed, as long as this is not itself a key further down the
table (`Surface.entries_see_target`). If it is, the later name is replaced as well, although nobody typed it
(`Surface.entries_see_chained`).
-/

namespace TermSearch

namespace Surface

/-! ## The field that is seen -/

section

variable {low : Option String} {aliases : Entries String low} {field target : String}

/-- A field that is no key stays. -/
theorem foldl_seeAlias_of_not_mem (h : field ∉ aliases.keys) :
    aliases.toList.foldl seeAlias (some field) = some field := by
  induction aliases with
  | nil => rfl
  | cons key above value rest ih =>
    have hne : some field ≠ some key := fun heq => List.ne_of_not_mem_cons h (Option.some.inj heq)
    rw [Entries.toList_cons, List.foldl_cons, seeAlias, if_neg hne, ih (List.not_mem_of_not_mem_cons h)]

/-- A key is replaced by its target, and the target is not replaced again if it comes no later. -/
theorem foldl_seeAlias_of_get? (hget : aliases.get? field = some target)
    (hlast : target ∈ aliases.keys → target ≤ field) :
    aliases.toList.foldl seeAlias (some field) = some target := by
  induction aliases with
  | nil => cases hget
  | cons key above value rest ih =>
    rw [Entries.get?] at hget
    rw [Entries.toList_cons, List.foldl_cons, seeAlias]
    split at hget
    · next hkey =>
      subst hkey
      cases hget
      -- the names left are all behind the one that was typed
      have hfirst := (List.pairwise_cons.mp (Entries.cons key above target rest).pairwise_keys).1
      have hnot : target ∉ rest.keys := fun hmem =>
        Std.lt_irrefl (Std.lt_of_lt_of_le (hfirst target hmem) (hlast (List.mem_cons_of_mem _ hmem)))
      rw [if_pos rfl, foldl_seeAlias_of_not_mem hnot]
    · next hne =>
      rw [if_neg (by simpa using Ne.symm hne)]
      exact ih hget fun hmem => hlast (List.mem_cons_of_mem _ hmem)

end

/-- **The entries see what the table gives for the field that was typed**, unless it gives a key further down. -/
theorem seenField_eq {s : Surface} {t : Term} {field : String} (hfield : t.field = some field)
    (hlast : ∀ target, s.aliases.get? field = some target → target ∈ s.aliases.keys → target ≤ field) :
    s.seenField t = some ((s.aliases.get? field).getD field) := by
  unfold seenField
  rw [hfield]
  cases hget : s.aliases.get? field with
  | none => exact foldl_seeAlias_of_not_mem (Entries.not_mem_of_get?_eq_none hget)
  | some target => exact foldl_seeAlias_of_get? hget (hlast target hget)

end Surface

/-! ## The course of a term -/

variable {Q : Type} [Query Q]

namespace Compiler

variable {c : Compiler Q} {calls : Calls Q}

/-- All matchers that rename are tried, and those behind them find the field that is left. -/
theorem course_aliases (calls : Calls Q) {ms : List (Matcher Q)} (rest : List (Matcher Q))
    {aliases : List (String × String)} {v : Visit}
    (h : List.Forall₂ c.definition.declarations.Runs ms (aliases.map aliasStage)) (hopen : v.isSettled = false) :
    ∃ front v', c.course calls (ms ++ rest) v = front ++ c.course calls rest v' ∧ front.map Prod.fst = ms ∧
      v'.isSettled = false ∧ v'.term = v.term ∧ v'.field = aliases.foldl Surface.seeAlias v.field := by
  induction aliases generalizing ms v with
  | nil =>
    cases h
    exact ⟨[], v, rfl, rfl, hopen, rfl, rfl⟩
  | cons a aliases ih =>
    rw [List.map_cons] at h
    obtain ⟨m, ms', hm, hms, rfl⟩ := List.forall₂_cons_right_iff.mp h
    have haccepts := accepts_of_alias hm c.scope v
    rw [List.cons_append, course, if_neg (by simp [hopen])]
    by_cases hfield : v.field = some a.1
    · obtain ⟨front, v', hcourse, hfront, hopen', hterm, hseen⟩ :=
        ih (v := (SearchStage.claimed m.rule v).rename a.2) hms hopen
      refine ⟨(m, v) :: front, v', ?_, by rw [List.map_cons, hfront], hopen', hterm, ?_⟩
      · rw [if_neg (by simp [haccepts, hfield]), runRuleWith_rename hopen hm.2]
        simp only [hcourse, List.cons_append]
      · rw [List.foldl_cons, hseen, Surface.seeAlias, if_pos hfield]
        rfl
    · obtain ⟨front, v', hcourse, hfront, hopen', hterm, hseen⟩ := ih (v := v) hms hopen
      refine ⟨(m, v) :: front, v', ?_, by rw [List.map_cons, hfront], hopen', hterm, ?_⟩
      · rw [if_pos (by simp [haccepts, hfield]), hcourse, List.cons_append]
      · rw [List.foldl_cons, hseen, Surface.seeAlias, if_neg hfield]

/-- A matcher that searches builds by the field that it finds. -/
theorem built_search {e : Matcher Q × Visit} {st : SearchStage} (hopen : e.2.isSettled = false)
    (h : c.definition.declarations.Runs e.1 st.stage) :
    c.built calls e = st.form.build c.scope e.2.term e.2.field := by
  unfold built
  rw [runRuleWith_search hopen h.2]
  cases st.form.build c.scope e.2.term e.2.field <;> rfl

/-- A matcher that renames builds nothing. -/
theorem built_alias {e : Matcher Q × Visit} {a : String × String} (hopen : e.2.isSettled = false)
    (h : c.definition.declarations.Runs e.1 (aliasStage a)) : c.built calls e = .ok none := by
  unfold built
  rw [runRuleWith_rename hopen h.2]

/-- Matchers that search all find one field, and build by it. -/
theorem course_search (calls : Calls Q) {ms : List (Matcher Q)} {stages : List SearchStage} {v : Visit}
    (h : List.Forall₂ c.definition.declarations.Runs ms (stages.map SearchStage.stage)) :
    ∀ e ∈ c.course calls ms v, e.2.field = v.field ∧ ∃ st ∈ stages,
      c.definition.declarations.Runs e.1 st.stage ∧ c.built calls e = st.form.build c.scope v.term v.field := by
  have hruns : ∀ m ∈ ms, ∃ st ∈ stages, c.definition.declarations.Runs m st.stage := by
    intro m hm
    obtain ⟨_, hstage, hruns⟩ := exists_of_forall₂ h m hm
    obtain ⟨st, hst, rfl⟩ := List.mem_map.mp hstage
    exact ⟨st, hst, hruns⟩
  have hsame : ∀ e ∈ c.course calls ms v,
      e.2.isSettled = false ∧ e.2.field = v.field ∧ e.2.term = v.term := by
    refine course_forall (P := fun v' => v'.field = v.field ∧ v'.term = v.term) ⟨rfl, rfl⟩ ?_
    intro m hm v₁ v₂ built hopen hrun hsame
    obtain ⟨st, -, hst⟩ := hruns m hm
    rw [runRuleWith_search hopen hst.2] at hrun
    cases hbuild : st.form.build c.scope v₁.term v₁.field with
    | error cause =>
      rw [hbuild] at hrun
      cases hrun
    | ok b =>
      rw [hbuild] at hrun
      cases hrun
      rwa [SearchStage.after_field, SearchStage.after_term]
  intro e he
  obtain ⟨st, hst, hstage⟩ := hruns e.1 (mem_of_mem_course he)
  obtain ⟨hopen, hfield, hterm⟩ := hsame e he
  refine ⟨hfield, st, hst, hstage, ?_⟩
  rw [built_search hopen hstage, hfield, hterm]

end Compiler

namespace Surface

/-- **The course of a term over a surface**: all matchers that rename, in key order, then matchers that search; each
of these finds the field that is left, and builds by it. -/
theorem course_eq (s : Surface) (hranks : s.RanksFit) :
    ∃ (d : Definition Q) (names entries : List (Matcher Q)),
      (s.apply (Definition.start : Draft Q)).build = .ok d ∧ d.matchers = names ++ entries ∧
      List.Forall₂ d.declarations.Runs names (s.aliases.toList.map aliasStage) ∧
      List.Forall₂ d.declarations.Runs entries (s.searchStages.map SearchStage.stage) ∧
      ∀ (scope : Q) (calls : Calls Q) (t : Term), s.permits t = true → ∃ front searched,
        (⟨d, scope⟩ : Compiler Q).termCourse calls t = front ++ searched ∧
        front.map Prod.fst = names ∧ searched.map Prod.fst <+: entries ∧
        ∀ e ∈ searched, e.2.field = s.seenField t ∧ ∃ st ∈ s.searchStages, d.declarations.Runs e.1 st.stage ∧
          (⟨d, scope⟩ : Compiler Q).built calls e = st.form.build scope t (s.seenField t) := by
  obtain ⟨d, hbuild, hdeclarations, hruns⟩ := (s.apply_hasStages (Q := Q)).build
  rw [sort_stages hranks] at hruns
  have hnames := List.forall₂_take_append _ _ _ hruns
  have hentries := List.forall₂_drop_append _ _ _ hruns
  refine ⟨d, _, _, hbuild, (List.take_append_drop _ _).symm, hnames, hentries, fun scope calls t hpermits => ?_⟩
  obtain ⟨front, v, hcourse, hfront, -, hterm, hfield⟩ := Compiler.course_aliases (c := ⟨d, scope⟩) (v := .start t)
    calls (d.matchers.drop (s.aliases.toList.map (aliasStage (Q := Q))).length) hnames rfl
  rw [List.take_append_drop] at hcourse
  have hfilters : d.declarations.filters.all (· (.start t)) = true := by rw [hdeclarations, apply_filters, hpermits]
  have hsearch := Compiler.course_search (c := ⟨d, scope⟩) (v := v) calls hentries
  rw [hterm, hfield] at hsearch
  refine ⟨front, _, ?_, hfront, Compiler.course_isPrefix _ v, hsearch⟩
  unfold Compiler.termCourse
  rw [if_pos hfilters, hcourse]

/-- **The table of names means what it says** if the target of the field that was typed is no key further down: every
matcher of an entry that is tried finds this target, or the field itself if it has none, and whatever is built for the
term is built by it. -/
theorem entries_see_target (s : Surface) (hranks : s.RanksFit) {t : Term} {field : String}
    (hfield : t.field = some field) (hpermits : s.permits t = true)
    (hlast : ∀ target, s.aliases.get? field = some target → target ∈ s.aliases.keys → target ≤ field) :
    ∃ (d : Definition Q) (names entries : List (Matcher Q)),
      (s.apply (Definition.start : Draft Q)).build = .ok d ∧ d.matchers = names ++ entries ∧
      List.Forall₂ d.declarations.Runs names (s.aliases.toList.map aliasStage) ∧
      List.Forall₂ d.declarations.Runs entries (s.searchStages.map SearchStage.stage) ∧
      ∀ (scope : Q) (calls : Calls Q), ∃ front searched,
        (⟨d, scope⟩ : Compiler Q).termCourse calls t = front ++ searched ∧
        front.map Prod.fst = names ∧ searched.map Prod.fst <+: entries ∧
        ∀ e ∈ searched, e.2.field = some ((s.aliases.get? field).getD field) ∧
          ∃ st ∈ s.searchStages, d.declarations.Runs e.1 st.stage ∧
            (⟨d, scope⟩ : Compiler Q).built calls e =
              st.form.build scope t (some ((s.aliases.get? field).getD field)) := by
  obtain ⟨d, names, entries, hbuild, hmatchers, hnames, hentries, hcourse⟩ := s.course_eq (Q := Q) hranks
  refine ⟨d, names, entries, hbuild, hmatchers, hnames, hentries, fun scope calls => ?_⟩
  rw [← seenField_eq hfield hlast]
  exact hcourse scope calls t hpermits

/-- A surface in which one name is given twice over: `by` stands for `author`, which stands for `creator`. -/
def catalogue : Surface where
  permit := []
  aliases := .ofList [("author", "creator"), ("by", "author")]
  search := [{ kind := .specific, fields := ["author", "creator"], field := none, consume := true, rank := -5 }]

/-- The term `by:vole`. -/
def byVole : Term := .make (some "by") .eq "vole" .none false

/-- The name `author` is further up than `by` and has had its turn. -/
theorem entries_see_target_catalogue :
    ∃ (d : Definition Transcript) (names entries : List (Matcher Transcript)),
      (catalogue.apply (Definition.start : Draft Transcript)).build = .ok d ∧ d.matchers = names ++ entries ∧
      ∀ (scope : Transcript) (calls : Calls Transcript), ∃ front searched,
        (⟨d, scope⟩ : Compiler Transcript).termCourse calls byVole = front ++ searched ∧ front.map Prod.fst = names ∧
        ∀ e ∈ searched, e.2.field = some "author" := by
  have hget : catalogue.aliases.get? "by" = some "author" := by decide
  have hfield : byVole.field = some "by" := rfl
  obtain ⟨d, names, entries, hbuild, hmatchers, -, -, hcourse⟩ :=
    entries_see_target (Q := Transcript) catalogue (by unfold RanksFit; decide) hfield (by decide)
      (fun target htarget _ => by
        rw [hget] at htarget
        cases htarget
        decide)
  refine ⟨d, names, entries, hbuild, hmatchers, fun scope calls => ?_⟩
  obtain ⟨front, searched, hsplit, hfront, -, hfield⟩ := hcourse scope calls
  refine ⟨front, searched, hsplit, hfront, fun e he => ?_⟩
  rw [(hfield e he).1, hget]
  rfl

/-- The same with the letters the other way round: `a` stands for `b`, which stands for `c`. -/
def chained : Surface where
  permit := []
  aliases := .ofList [("a", "b"), ("b", "c")]
  search := [{ kind := .specific, fields := ["b", "c"], field := none, consume := true, rank := 0 }]

/-- A term with the field `a` is compared by `c`, although the table gives `b` for it. -/
theorem entries_see_chained :
    chained.aliases.get? "a" = some "b" ∧
      ∃ d, (chained.apply (Definition.start : Draft Transcript)).build = .ok d ∧
        ∀ calls : Calls Transcript, (⟨d, ⟨""⟩⟩ : Compiler Transcript).termQueries calls
          (.make (some "a") .eq "fox" .none false) = .ok [⟨"c:eq:fox"⟩] := by
  refine ⟨by decide, ?_⟩
  obtain ⟨d, hbuild, hqueries⟩ :=
    build_eq (Q := Transcript) chained (by unfold RanksFit; decide) (.inl (by decide))
  refine ⟨d, hbuild, fun calls => ?_⟩
  have hstages : chained.searchStages =
      [{ fields := .only ["b", "c"], form := .own, consume := true, rank := 0 }] := List.mergeSort_singleton _
  rw [hqueries]
  unfold termQueries
  rw [hstages]
  rfl

end Surface

end TermSearch
