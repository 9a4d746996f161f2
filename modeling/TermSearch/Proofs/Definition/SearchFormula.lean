import TermSearch.Proofs.Definition.SurfaceStages
import TermSearch.Proofs.Definition.TreeMeaning
import TermSearch.Proofs.Query.Formula

/-!
# The formula of a search

What a search asks for can be said without any backend: it compares fields with values (`Comparison`), and its
groups and the terms spread over fields join comparisons by connectives (`Surface.formula?`). The queries of a
backend express formulas if they express a single comparison and a merge joins (`Expresses`). Then the query
compiled from a search expresses the formula of the search, whatever the backend (`Surface.compile_expresses`).
-/

namespace TermSearch

/-! ## Formulas of searches -/

/-- A field compared with a value. -/
structure Comparison where
  field : String
  operator : Operator
  value : String
  deriving DecidableEq, Repr

/-- The comparison of a field by the operator and the value of a term. -/
def Term.comparison (t : Term) (field : String) : Comparison := ⟨field, t.operator, t.value⟩

/-- What a form asks for, for a term that is seen with a field. -/
def SearchForm.formula? (t : Term) (seen : Option String) : SearchForm → Option (Formula Comparison)
  | .own => seen.map fun field => .atom (t.comparison field)
  | .spread p fields => joinAll .join (p.under t.negated) (fields.map fun field => .atom (t.comparison field))

namespace Surface

/-- What a term asks for: a formula for each stage that applies to it. -/
def formulas (s : Surface) (t : Term) : List (Formula Comparison) :=
  if s.permits t then
    (SearchStage.applicable (s.seenField t) s.searchStages).filterMap (·.form.formula? t (s.seenField t))
  else []

/-- **What a search asks for**, if it asks for anything. -/
def formula? (s : Surface) (root : Group) : Option (Formula Comparison) := root.meaning? s.formulas .join

end Surface

/-! ## Backends that express formulas -/

variable {Q : Type} [Query Q]

/-- Queries express formulas over a base: comparisons of good fields express themselves, on the base and in a
branch, a merge joins what its parts express, and what is merged into the base expresses the same there. -/
structure Expresses (base : Q) (good : String → Prop) (R : Q → Formula Comparison → Prop) : Prop where
  compare : ∀ c : Comparison, good c.field → R (Query.compare base c.field c.operator c.value) (.atom c)
  branch : ∀ c : Comparison, good c.field →
    R (Query.compare (Query.cleared base) c.field c.operator c.value) (.atom c)
  merge : ∀ (p : Predicate) (first : Q) (rest : List Q) (formulas : List (Formula Comparison)),
    List.Forall₂ R (first :: rest) formulas → R (Query.merge first p rest) (.join p formulas)
  onto : ∀ (added : Q) (f : Formula Comparison), R added f → R (Query.merge base .and [added]) f

namespace Expresses

variable {base : Q} {good : String → Prop} {R : Q → Formula Comparison → Prop} {t : Term} {seen : Option String}

/-- **A stage that compares good fields builds a query**, and it expresses what the stage asks for. -/
theorem build (h : Expresses base good R) {form : SearchForm} (hform : form.Compares good seen) :
    ∃ q f, form.build base t seen = .ok (some q) ∧ form.formula? t seen = some f ∧ R q f := by
  cases form with
  | own =>
    obtain ⟨field, rfl, hfield⟩ := hform
    exact ⟨_, _, rfl, rfl, h.compare (t.comparison field) hfield⟩
  | spread p fields =>
    obtain ⟨hne, hfields⟩ := hform
    have hbranches : List.Forall₂ R
        (fields.map fun field => Query.compare (Query.cleared base) field t.operator t.value)
        (fields.map fun field => .atom (t.comparison field)) := by
      rw [List.forall₂_map_left_iff, List.forall₂_map_right_iff, List.forall₂_same]
      exact fun field hfield => h.branch (t.comparison field) (hfields field hfield)
    obtain ⟨field, rest, rfl⟩ := List.exists_cons_of_ne_nil hne
    exact ⟨_, _, rfl, rfl, h.onto _ _ (h.merge _ _ _ _ hbranches)⟩

theorem buildAll (h : Expresses base good R) {stages : List SearchStage}
    (hforms : ∀ st ∈ stages, st.form.Compares good seen) :
    ∃ queries, SearchStage.buildAll base t seen stages = .ok queries ∧
      List.Forall₂ R queries (stages.filterMap (·.form.formula? t seen)) := by
  induction stages with
  | nil => exact ⟨[], rfl, .nil⟩
  | cons st stages ih =>
    rw [List.forall_mem_cons] at hforms
    obtain ⟨q, f, hbuild, hformula, hq⟩ := h.build (t := t) hforms.1
    obtain ⟨queries, hqueries, hrest⟩ := ih hforms.2
    refine ⟨q :: queries, ?_, ?_⟩
    · rw [SearchStage.buildAll, hbuild, hqueries]
      rfl
    · rw [List.filterMap_cons, hformula]
      exact .cons hq hrest

end Expresses

namespace Surface

variable {base : Q} {good : String → Prop} {R : Q → Formula Comparison → Prop}

/-- A term is answered by queries that express what it asks for. -/
theorem termQueries_express {s : Surface} (hR : Expresses base good R)
    (hfields : ∀ e ∈ s.search, e.fields ≠ [] ∧ ∀ field ∈ e.fields, good field) (t : Term) :
    ∃ queries, s.termQueries base t = .ok queries ∧ List.Forall₂ R queries (s.formulas t) := by
  unfold termQueries formulas
  by_cases hpermits : s.permits t = true
  · rw [if_pos hpermits, if_pos hpermits]
    refine hR.buildAll fun st hst => ?_
    obtain ⟨hmem, hallows⟩ := SearchStage.mem_of_mem_applicable hst
    obtain ⟨e, he, hst⟩ := List.mem_flatMap.mp (List.mem_mergeSort.mp hmem)
    exact e.compares_of_mem hst hallows (hfields e he).1 (hfields e he).2
  · rw [if_neg hpermits, if_neg hpermits]
    exact ⟨[], rfl, .nil⟩

/-- **The query compiled from a search expresses what the search asks for**, and it is the base if the search asks
for nothing. -/
theorem compile_expresses (s : Surface) (hsearch : s.search ≠ []) (hranks : s.RanksFit) (hR : Expresses base good R)
    (hfields : ∀ e ∈ s.search, e.fields ≠ [] ∧ ∀ field ∈ e.fields, good field) :
    ∃ d, (s.apply (Definition.start : Draft Q)).build = .ok d ∧
      ∀ root, ∃ answer : Option Q, (Compiler.mk d base).compile root = .ok (answer.getD base) ∧
        Option.Rel R answer (s.formula? root) := by
  obtain ⟨d, hbuild, hterms⟩ := s.build_eq (Q := Q) hranks (.inr hsearch)
  refine ⟨d, hbuild, fun root => Compiler.compile_means hR.merge fun t _ => ?_⟩
  obtain ⟨queries, hqueries, hexpress⟩ := termQueries_express hR hfields t
  exact ⟨queries, (hterms base _ t).trans hqueries, hexpress⟩

end Surface

end TermSearch
