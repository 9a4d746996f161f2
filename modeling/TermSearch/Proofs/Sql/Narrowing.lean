import TermSearch.Proofs.Query.Frame

/-!
# Conditions narrowed and restated

Text grows with every merge, but what it says need not. A condition that is put together of copies of another one says
just what that one says (`Expressions.Restates`): copies that all hold, or all do not, are joined to the same by either
connective. A condition in which each part implies another one implies it too (`Expressions.Narrows`).

Both are shown of outlines, for any truth of the expressions that were added, and then read off the text.
-/

namespace TermSearch

theorem Predicate.mem_of_holds (p : Predicate) {values : List Bool} (hne : values ≠ []) (h : p.holds values = true) :
    true ∈ values := by
  cases p with
  | and =>
    obtain ⟨value, hvalue⟩ := List.exists_mem_of_ne_nil values hne
    have htrue : value = true := List.all_eq_true.mp h value hvalue
    rwa [htrue] at hvalue
  | or =>
    obtain ⟨value, hvalue, htrue⟩ := List.any_eq_true.mp h
    have htrue : value = true := htrue
    rwa [htrue] at hvalue

namespace Sql

/-! ## What is gathered -/

namespace Outline

variable {ok : String → Prop} {truth : Added → Bool} {o o' : Outline} {parts : List Outline}

theorem holds_of_isEmpty (h : o.isEmpty = true) : o.holds truth = true := by
  have hentries : o.entries = [] := List.isEmpty_iff.mp h
  unfold holds
  rw [hentries]
  rfl

theorem isEmpty_gather (p : Predicate) (parts : List Outline) :
    (gather p parts).isEmpty = (Condition.filled parts).isEmpty := by
  rw [gather_eq_combine]
  exact Condition.isEmpty_combine p parts

/-- Parts that say nothing are gathered to what says nothing. -/
theorem isEmpty_gather_iff (p : Predicate) :
    (gather p parts).isEmpty = true ↔ ∀ part ∈ parts, part.isEmpty = true := by
  rw [isEmpty_gather, List.isEmpty_iff]
  exact Condition.filled_eq_nil_iff

/-- Something that is gathered holds because of some part, under either connective. -/
theorem exists_holds_of_gather {p : Predicate} (hne : parts ≠ []) (h : (gather p parts).holds truth = true) :
    ∃ part ∈ parts, part.holds truth = true := by
  by_cases hfilled : Condition.filled parts = []
  · obtain ⟨part, hpart⟩ := List.exists_mem_of_ne_nil parts hne
    exact ⟨part, hpart, holds_of_isEmpty (Condition.filled_eq_nil_iff.mp hfilled part hpart)⟩
  · rw [holds_gather_filled truth p hfilled] at h
    have hmem := p.mem_of_holds (by simpa using hfilled) h
    obtain ⟨part, hpart, hholds⟩ := List.mem_map.mp hmem
    exact ⟨part, (Condition.mem_filled.mp hpart).1, hholds⟩

theorem holds_of_gather_and (h : (gather .and parts).holds truth = true) :
    ∀ part ∈ parts, part.holds truth = true := by
  intro part hpart
  by_cases hempty : part.isEmpty = true
  · exact holds_of_isEmpty hempty
  · have hmem : part ∈ Condition.filled parts := Condition.mem_filled.mpr ⟨hpart, Bool.not_eq_true _ ▸ hempty⟩
    rw [holds_gather_filled truth .and (List.ne_nil_of_mem hmem)] at h
    exact List.all_eq_true.mp h _ (List.mem_map_of_mem hmem)

/-- **Parts that hold alike are gathered to what holds as they do**, under either connective. -/
theorem holds_gather_copies (p : Predicate) (hne : parts ≠ []) {value : Bool}
    (h : ∀ part ∈ parts, part.holds truth = value) : (gather p parts).holds truth = value := by
  by_cases hfilled : Condition.filled parts = []
  · obtain ⟨part, hpart⟩ := List.exists_mem_of_ne_nil parts hne
    have hempty : ∀ part ∈ parts, part.isEmpty = true := Condition.filled_eq_nil_iff.mp hfilled
    rw [← h part hpart, holds_of_isEmpty (hempty part hpart), holds_of_isEmpty ((isEmpty_gather_iff p).mpr hempty)]
  · rw [holds_gather_filled truth p hfilled]
    refine p.holds_copies (by simpa using hfilled) ?_
    refine List.forall_mem_map.mpr ?_
    intro part hpart
    exact h part (Condition.mem_filled.mp hpart).1

theorem Readable.push (h : o.Readable ok) {added : Added} (hadded : ∀ d : Dialect, d.Balanced added.expr) :
    (o.push added).Readable ok := fun d hok => (h d hok).push (hadded d)

/-! ## Restated conditions -/

/-- One outline says what another one says. -/
structure Restates (o o' : Outline) : Prop where
  holds (truth : Added → Bool) : o'.holds truth = o.holds truth
  isEmpty : o'.isEmpty = o.isEmpty
  sound (good : Added → Prop) (h : o.Sound good) : o'.Sound good

theorem Restates.gather (hne : parts ≠ []) (h : ∀ part ∈ parts, Restates o part) (p : Predicate) :
    Restates o (gather p parts) where
  holds truth := holds_gather_copies p hne fun part hpart => (h part hpart).holds truth
  isEmpty := by
    rw [Bool.eq_iff_iff, isEmpty_gather_iff]
    constructor
    · intro hempty
      obtain ⟨part, hpart⟩ := List.exists_mem_of_ne_nil parts hne
      rw [← (h part hpart).isEmpty]
      exact hempty part hpart
    · intro hempty part hpart
      rw [(h part hpart).isEmpty]
      exact hempty
  sound good hgood := Sound.gather (fun part hpart => (h part hpart).sound good hgood) p

/-- **Copies of a written condition are written from an outline that says the same.** -/
theorem exists_restates {e : Expressions} (h : Condition.Echoes o.expressions e) :
    ∃ o', Restates o o' ∧ o'.expressions = e := by
  induction h with
  | self => exact ⟨o, ⟨fun _ => rfl, rfl, fun _ h => h⟩, rfl⟩
  | combine p hne _ ih =>
    obtain ⟨os, hos, rfl⟩ := exists_map_eq ih
    exact ⟨gather p os, .gather (by simpa using hne) hos p, expressions_gather p os⟩

/-! ## Narrowed conditions -/

/-- One outline only holds where another one holds. -/
structure Narrows (ok : String → Prop) (o o' : Outline) : Prop where
  holds (truth : Added → Bool) (h : o'.holds truth = true) : o.holds truth = true
  isEmpty (h : o'.isEmpty = true) : o.isEmpty = true
  readable (h : o.Readable ok) : o'.Readable ok

theorem Narrows.refl (o : Outline) : Narrows ok o o where
  holds _ h := h
  isEmpty h := h
  readable h := h

theorem Narrows.push (h : Narrows ok o o') {added : Added} (hadded : ∀ d : Dialect, d.Balanced added.expr) :
    Narrows ok o (o'.push added) where
  holds truth hholds := by
    rw [holds_push, Bool.and_eq_true] at hholds
    exact h.holds truth hholds.1
  isEmpty hempty := by simp [Outline.isEmpty, Outline.push] at hempty
  readable hreadable := (h.readable hreadable).push hadded

/-- Something else that has to hold as well narrows. -/
theorem Narrows.gather_and {added : Outline} (hadded : added.Readable ok) : Narrows ok o (gather .and [o, added]) where
  holds truth hholds := holds_of_gather_and hholds o List.mem_cons_self
  isEmpty hempty := (isEmpty_gather_iff .and).mp hempty o List.mem_cons_self
  readable hreadable := by
    refine .gather ?_ .and
    exact List.forall_mem_cons.mpr ⟨hreadable, List.forall_mem_singleton.mpr hadded⟩

/-- **Gathered parts that all narrow do so too**, under either connective. -/
theorem Narrows.gather (hne : parts ≠ []) (h : ∀ part ∈ parts, Narrows ok o part) (p : Predicate) :
    Narrows ok o (gather p parts) where
  holds truth hholds := by
    obtain ⟨part, hpart, hholds⟩ := exists_holds_of_gather hne hholds
    exact (h part hpart).holds truth hholds
  isEmpty hempty := by
    obtain ⟨part, hpart⟩ := List.exists_mem_of_ne_nil parts hne
    exact (h part hpart).isEmpty ((isEmpty_gather_iff p).mp hempty part hpart)
  readable hreadable := .gather (fun part hpart => (h part hpart).readable hreadable) p

end Outline

/-! ## Written conditions -/

namespace Expressions

/-- A condition says what another one says: from whatever outline the other one is written, it is written from an
outline that holds alike, and read in a dialect in which raw expressions are balanced, its text comes out true just if
all entries of the other one do. -/
structure Restates (ok : String → Prop) (base e : Expressions) : Prop where
  isEmpty : Condition.isEmpty e = Condition.isEmpty base
  outlined (o : Outline) (ho : o.expressions = base) :
    ∃ o' : Outline, o'.expressions = e ∧ ∀ truth, o'.holds truth = o.holds truth
  reads (d : Dialect) (hok : ∀ expr, ok expr → d.Balanced expr) (hne : Condition.isEmpty base = false) :
    ∃ f, d.read? e.joined = some f ∧ ∀ assignment, f.value assignment = d.holds assignment base

/-- A condition implies another one: from whatever outline the other one is written, it is written from an outline that
only holds where that one does, and read in a dialect in which raw expressions are balanced, its text only comes out
true if all entries of the other one do. -/
structure Narrows (ok : String → Prop) (base e : Expressions) : Prop where
  isEmpty (h : Condition.isEmpty e = true) : Condition.isEmpty base = true
  outlined (o : Outline) (ho : o.expressions = base) :
    ∃ o' : Outline, o'.expressions = e ∧ ∀ truth, o'.holds truth = true → o.holds truth = true
  reads (d : Dialect) (hok : ∀ expr, ok expr → d.Balanced expr) (hne : Condition.isEmpty e = false) :
    ∃ f, d.read? e.joined = some f ∧ ∀ assignment, f.value assignment = true → d.holds assignment base = true

variable {ok : String → Prop} {base e : Expressions} {o : Outline}

theorem restates_of_echoes (hreadable : o.Readable ok) (ho : o.expressions = base) (h : Condition.Echoes base e) :
    Restates ok base e := by
  subst ho
  obtain ⟨o', hsame, rfl⟩ := Outline.exists_restates h
  refine ⟨?_, ?_, ?_⟩
  · rw [Outline.isEmpty_expressions, Outline.isEmpty_expressions, hsame.isEmpty]
  · intro other hother
    rw [← hother] at h
    obtain ⟨other', hsame', hwritten⟩ := Outline.exists_restates h
    exact ⟨other', hwritten, hsame'.holds⟩
  · intro d hok hne
    rw [Outline.isEmpty_expressions, ← hsame.isEmpty] at hne
    obtain ⟨f, hread, hvalue⟩ := Dialect.read_joined (hsame.sound _ (hreadable d hok)) hne
    refine ⟨f, hread, ?_⟩
    intro assignment
    rw [hvalue, hsame.holds, Dialect.holds_expressions (hreadable d hok)]

theorem narrows_of_outlines (hreadable : o.Readable ok) (ho : o.expressions = base)
    (h : ∀ other : Outline, other.expressions = base → ∃ o', Outline.Narrows ok other o' ∧ o'.expressions = e) :
    Narrows ok base e := by
  obtain ⟨o', hnarrow, rfl⟩ := h o ho
  subst ho
  refine ⟨?_, ?_, ?_⟩
  · rw [Outline.isEmpty_expressions, Outline.isEmpty_expressions]
    exact hnarrow.isEmpty
  · intro other hother
    obtain ⟨other', hnarrow', hwritten⟩ := h other hother
    exact ⟨other', hwritten, hnarrow'.holds⟩
  · intro d hok hne
    rw [Outline.isEmpty_expressions] at hne
    obtain ⟨f, hread, hvalue⟩ := Dialect.read_joined (hnarrow.readable hreadable d hok) hne
    refine ⟨f, hread, ?_⟩
    intro assignment htrue
    rw [Dialect.holds_expressions (hreadable d hok)]
    rw [hvalue] at htrue
    exact hnarrow.holds _ htrue

end Expressions

/-! ## Queries -/

section Queries

variable {ok : String → Prop} {o : Outline}

/-- The filter of the query is written from an outline that only holds where another one does. -/
def SqlQuery.FilterNarrows (ok : String → Prop) (o : Outline) (q : SqlQuery) : Prop :=
  ∃ o', Outline.Narrows ok o o' ∧ o'.expressions = q.clauses.filter

theorem filterNarrows_compare {q : SqlQuery} (h : SqlQuery.FilterNarrows ok o q) (column : String) (op : Operator)
    (value : String) : SqlQuery.FilterNarrows ok o (Query.compare q column op value) := by
  obtain ⟨o', hnarrow, hwritten⟩ := h
  have hpush : Outline.Narrows ok o (o'.push ⟨comparison column op, [comparisonBind op value]⟩) :=
    hnarrow.push fun d => d.balanced_comparison column op
  exact ⟨_, hpush, (Outline.push_written hwritten.symm _).symm⟩

/-- What is merged by *and* narrows. -/
theorem filterNarrows_push {q added : SqlQuery} (hq : o.expressions = q.clauses.filter)
    (hadded : Reachable (sqlUsage ok) added) : SqlQuery.FilterNarrows ok o (Query.merge q .and [added]) := by
  obtain ⟨⟨os, hos, hwritten⟩, -⟩ := exists_outlines (List.forall_mem_singleton.mpr hadded)
  obtain ⟨o', rfl⟩ : ∃ o', os = [o'] := List.length_eq_one_iff.mp (by simpa using congrArg List.length hwritten)
  refine ⟨_, Outline.Narrows.gather_and (hos o' (List.mem_singleton_self o')), ?_⟩
  have hadded : o'.expressions = added.clauses.filter := List.head_eq_of_cons_eq hwritten
  rw [Outline.expressions_gather, (conditions_merge .and q added []).1, List.map_cons, List.map_singleton, hq, hadded]
  rfl

/-- **A merge of queries that narrow does so too.** -/
theorem filterNarrows_merge {first : SqlQuery} {rest : List SqlQuery}
    (h : ∀ q ∈ first :: rest, SqlQuery.FilterNarrows ok o q) (p : Predicate) :
    SqlQuery.FilterNarrows ok o (Query.merge first p rest) := by
  cases rest with
  | nil => exact h first List.mem_cons_self
  | cons second rest =>
    have hall : ∀ e ∈ (first :: second :: rest).map (fun q : SqlQuery => q.clauses.filter),
        ∃ o', Outline.Narrows ok o o' ∧ o'.expressions = e := List.forall_mem_map.mpr h
    obtain ⟨os, hos, hwritten⟩ := exists_map_eq hall
    have hne : os ≠ [] := by
      intro hnil
      rw [hnil] at hwritten
      cases hwritten
    refine ⟨_, Outline.Narrows.gather hne hos p, ?_⟩
    rw [Outline.expressions_gather, hwritten, (conditions_merge p first second rest).1]

end Queries

end Sql

end TermSearch
