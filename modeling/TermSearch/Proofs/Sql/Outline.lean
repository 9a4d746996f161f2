import TermSearch.Proofs.Query.Combination
import TermSearch.Proofs.Query.Reachable
import TermSearch.Sql.Query

/-!
# Conditions before they are text

A condition of a relational query keeps text. Its outline keeps instead what the operations have put together: the
single expressions with their values, and how they are joined (`Outline`). An outlined query is a query with the
outlines of its two conditions beside it; all operations run on both (`OutlinedQuery`), and what they do to an
outline is said without regard to text. Every relational query that can be built can be built with its outlines
(`exists_outlined`), and its conditions are always the outlines written out (`written_of_reachable`).
-/

namespace TermSearch.Sql

/-! ## Outlines -/

/-- An expression that was added, with its values. -/
structure Added where
  expr : String
  binds : List Json

/-- The text of a formula of texts: joined parts stand in brackets. -/
def formulaText (f : Formula String) : String :=
  f.fold id fun p texts => bracketed (connectiveWord p) texts

@[simp] theorem formulaText_atom (text : String) : formulaText (.atom text) = text := Formula.fold_atom _ _ _

@[simp] theorem formulaText_joined (p : Predicate) (parts : List (Formula String)) :
    formulaText (.joined p parts) = bracketed (connectiveWord p) (parts.map formulaText) := Formula.fold_joined _ _ _ _

theorem bracketed_single (separator expr : String) :
    (bracketed separator [expr]).toList = '(' :: (expr.toList ++ [')']) := by
  simp [bracketed, String.toList_append]

theorem bracketed_cons_cons (separator expr next : String) (rest : List String) :
    (bracketed separator (expr :: next :: rest)).toList =
      '(' :: (expr.toList ++ [')']) ++ (separator.toList ++ (bracketed separator (next :: rest)).toList) := by
  simp [bracketed, String.toList_intercalate, String.toList_append]

/-- What is known of a condition: its entries, each to hold, and how each has come about. -/
structure Outline where
  entries : List (Formula Added)

namespace Outline

/-- The entries as one formula. -/
def whole (o : Outline) : Formula Added := .join .and o.entries

/-- The condition written out. -/
def expressions (o : Outline) : Expressions where
  exprs := o.entries.map fun entry => formulaText (entry.map Added.expr)
  binds := o.entries.flatMap fun entry => entry.atoms.flatMap Added.binds

/-- No condition. -/
def empty : Outline := ⟨[]⟩

/-- Whether there is nothing to hold. -/
def isEmpty (o : Outline) : Bool := o.entries.isEmpty

/-- One more expression with its values, to hold as well. -/
def push (o : Outline) (added : Added) : Outline := ⟨o.entries ++ [.atom added]⟩

/-- The parts that are not empty, joined by a connective. -/
def gather (p : Predicate) (parts : List Outline) : Outline :=
  match parts.filter (!·.isEmpty) with
  | [] => empty
  | [single] => single
  | several => ⟨[.joined p (several.map whole)]⟩

/-- Whether all entries come out true. -/
def holds (truth : Added → Bool) (o : Outline) : Bool := o.entries.all (·.value truth)

instance : Condition Outline where
  empty := empty
  isEmpty := isEmpty
  entries o := o.expressions.exprs
  join p parts := ⟨[.joined p (parts.map whole)]⟩

instance : LawfulCondition Outline where
  isEmpty_empty := rfl
  eq_empty {o} h := by
    obtain ⟨entries⟩ := o
    exact congrArg mk (List.isEmpty_iff.mp h)
  isEmpty_join _ _ := rfl

/-- Outlines are gathered as conditions are combined. -/
theorem gather_eq_combine (p : Predicate) (parts : List Outline) : gather p parts = Condition.combine p parts := by
  unfold gather Condition.combine
  have hfilter : parts.filter (!Condition.isEmpty ·) = parts.filter (!·.isEmpty) := rfl
  rw [hfilter]
  generalize parts.filter (!·.isEmpty) = filled
  match filled with
  | [] => rfl
  | [_] => rfl
  | _ :: _ :: _ => rfl

/-! ## What outlines say -/

variable {truth : Added → Bool}

theorem value_whole (o : Outline) : o.whole.value truth = o.holds truth := by
  unfold whole holds
  rw [Formula.value_join, Predicate.holds, List.all_map]
  rfl

/-- An added expression has to hold as well. -/
theorem holds_push (o : Outline) (added : Added) : (o.push added).holds truth = (o.holds truth && truth added) := by
  simp [holds, push]

theorem holds_join (truth : Added → Bool) (p : Predicate) (parts : List Outline) :
    (Condition.join p parts : Outline).holds truth = p.holds (parts.map (holds truth)) := by
  show [Formula.joined p (parts.map whole)].all (·.value truth) = _
  rw [List.all_cons, List.all_nil, Bool.and_true, Formula.value_joined, List.map_map]
  exact congrArg _ (List.map_congr_left fun o _ => value_whole o)

/-- **Parts that say something are joined by the connective**; the others do not count. -/
theorem holds_gather_filled (truth : Added → Bool) (p : Predicate) {parts : List Outline}
    (h : Condition.filled parts ≠ []) :
    (gather p parts).holds truth = p.holds ((Condition.filled parts).map (holds truth)) := by
  rw [gather_eq_combine]
  exact Condition.told_combine (holds truth) (holds_join truth) Predicate.holds_singleton h

/-! ## Writing outlines out -/

theorem formulaText_join (p : Predicate) (parts : List (Formula String)) :
    formulaText (.join p parts) =
      match parts.map formulaText with
      | [single] => single
      | texts => bracketed (connectiveWord p) texts := by
  match parts with
  | [] => exact formulaText_joined p []
  | [_] => rfl
  | first :: second :: rest => exact formulaText_joined p (first :: second :: rest)

/-- A condition written as one expression is its outline written as one. -/
theorem joined_expressions (o : Outline) : o.expressions.joined = formulaText (o.whole.map Added.expr) := by
  unfold whole
  rw [Formula.map_join, formulaText_join, List.map_map]
  rfl

theorem binds_expressions (o : Outline) : o.expressions.binds = o.whole.atoms.flatMap Added.binds := by
  unfold whole expressions
  rw [Formula.atoms_join, List.flatMap_assoc]

theorem expressions_push (o : Outline) (added : Added) :
    (o.push added).expressions = o.expressions.push added.expr added.binds := by
  simp [expressions, push, Expressions.push]

theorem push_written {e : Expressions} {o : Outline} (h : e = o.expressions) (added : Added) :
    e.push added.expr added.binds = (o.push added).expressions := by rw [expressions_push, h]

theorem isEmpty_expressions (o : Outline) : Condition.isEmpty o.expressions = o.isEmpty := List.isEmpty_map

/-- Several outlines joined and written out are their texts joined, with their values one after the other. -/
theorem expressions_joined (p : Predicate) (parts : List Outline) :
    expressions ⟨[.joined p (parts.map whole)]⟩ = Expressions.join p (parts.map expressions) := by
  have hexprs : formulaText ((Formula.joined p (parts.map whole)).map Added.expr) =
      bracketed (connectiveWord p) ((parts.map expressions).map Expressions.joined) := by
    rw [Formula.map_joined, formulaText_joined, List.map_map, List.map_map, List.map_map]
    refine congrArg _ (List.map_congr_left fun o _ => ?_)
    exact (joined_expressions o).symm
  have hbinds : (Formula.joined p (parts.map whole)).atoms.flatMap Added.binds =
      (parts.map expressions).flatMap (·.binds) := by
    rw [Formula.atoms_joined, List.flatMap_assoc, List.flatMap_map, List.flatMap_map, List.flatMap_def,
      List.flatMap_def]
    refine congrArg _ (List.map_congr_left fun o _ => ?_)
    exact (binds_expressions o).symm
  unfold Expressions.join
  rw [← hexprs, ← hbinds]
  simp [expressions]

/-- **Gathering outlines and writing them out** is combining what is written out. -/
theorem expressions_gather (p : Predicate) (parts : List Outline) :
    (gather p parts).expressions = Condition.combine p (parts.map expressions) := by
  have hfilter : (parts.map expressions).filter (!Condition.isEmpty ·) =
      (parts.filter (!·.isEmpty)).map expressions := by
    rw [List.filter_map]
    congr 2
    funext o
    rw [Function.comp_apply, isEmpty_expressions]
  unfold Condition.combine gather
  rw [hfilter]
  generalize parts.filter (!·.isEmpty) = filled
  -- nothing and a single part stay what they are on both sides
  match filled with
  | [] => rfl
  | [_] => rfl
  | first :: second :: rest => exact expressions_joined p (first :: second :: rest)

end Outline

/-! ## Queries with outlines -/

/-- A relational query beside the outlines of its conditions. -/
structure OutlinedQuery where
  query : SqlQuery
  filter : Outline
  having : Outline

/-- The outlines after a method that has led to this query. -/
def SqlMethod.outline (t : OutlinedQuery) (q : SqlQuery) : SqlMethod → OutlinedQuery
  | .edit _ => { t with query := q }
  | .filter expr binds => { t with query := q, filter := t.filter.push ⟨expr, binds⟩ }
  | .filterEq column value => { t with query := q, filter := t.filter.push ⟨quoteName column ++ " = ?", [value]⟩ }
  | .having expr binds => { t with query := q, having := t.having.push ⟨expr, binds⟩ }

namespace OutlinedQuery

/-- The merge: what is to hold is gathered under the connective. -/
def merge (t : OutlinedQuery) (p : Predicate) : List OutlinedQuery → OutlinedQuery
  | [] => t
  | others =>
    { query := Query.merge t.query p (others.map query)
      filter := .gather p ((t :: others).map filter)
      having := .gather p ((t :: others).map having) }

end OutlinedQuery

instance : Query OutlinedQuery where
  Method := SqlMethod
  compare t column op value :=
    { t with
      query := Query.compare t.query column op value
      filter := t.filter.push ⟨comparison column op, [comparisonBind op value]⟩ }
  merge := OutlinedQuery.merge
  cleared t := { query := Query.cleared t.query, filter := .empty, having := .empty }
  render t := Query.render t.query
  perform m t :=
    match m.run t.query with
    | .ok q => .ok (m.outline t q)
    | .error cause => .error cause

namespace OutlinedQuery

theorem query_merge (t : OutlinedQuery) (p : Predicate) (others : List OutlinedQuery) :
    (Query.merge t p others).query = Query.merge t.query p (others.map query) := by
  cases others <;> rfl

theorem merge_of_ne_nil (t : OutlinedQuery) (p : Predicate) {others : List OutlinedQuery} (h : others ≠ []) :
    Query.merge t p others =
      { query := Query.merge t.query p (others.map query)
        filter := .gather p ((t :: others).map filter)
        having := .gather p ((t :: others).map having) } := by
  cases others with
  | nil => exact absurd rfl h
  | cons other others => rfl

theorem clauses_merge (t : OutlinedQuery) (p : Predicate) {others : List OutlinedQuery} (h : others ≠ []) :
    (Query.merge t.query p (others.map query)).clauses =
      Clauses.merge p ((t :: others).map fun t' => t'.query.clauses) := by
  cases others with
  | nil => exact absurd rfl h
  | cons other others =>
    show Clauses.merge p ((t.query :: (other :: others).map query).map (·.clauses)) = _
    simp [Function.comp_def]

theorem query_outline (t : OutlinedQuery) (q : SqlQuery) (m : SqlMethod) : (m.outline t q).query = q := by
  cases m <;> rfl

theorem perform_eq_ok {t t' : OutlinedQuery} {m : SqlMethod} :
    Query.perform m t = .ok t' ↔ ∃ q, m.run t.query = .ok q ∧ m.outline t q = t' := by
  have hperform : Query.perform m t = match m.run t.query with
      | .ok q => .ok (m.outline t q)
      | .error cause => .error cause := rfl
  rw [hperform]
  cases m.run t.query with
  | error cause => simp
  | ok q => simp

end OutlinedQuery

theorem eq_ok_of_requireValues {expr : String} {binds : List Json} {q q' : SqlQuery}
    (h : (match requireValues expr binds with
      | .ok () => .ok q
      | .error cause => .error cause) = Except.ok q') : placeholderCount expr = binds.length ∧ q' = q := by
  unfold requireValues at h
  by_cases hcount : placeholderCount expr = binds.length
  · rw [if_pos hcount] at h
    cases h
    exact ⟨hcount, rfl⟩
  · rw [if_neg hcount] at h
    cases h

theorem addFilter_eq_ok {expr : String} {binds : List Json} {q q' : SqlQuery} (h : addFilter expr binds q = .ok q') :
    placeholderCount expr = binds.length ∧ q' = q.mapFilter (·.push expr binds) := eq_ok_of_requireValues h

theorem having_eq_ok {expr : String} {binds : List Json} {q q' : SqlQuery}
    (h : SqlMethod.run q (.having expr binds) = .ok q') :
    placeholderCount expr = binds.length ∧ q' = q.mapHaving (·.push expr binds) := eq_ok_of_requireValues h

/-! ## Queries that can be built -/

/-- The methods whose raw expressions are all right. -/
def SqlMethod.Raw (ok : String → Prop) : SqlMethod → Prop
  | .filter expr _ => ok expr
  | .having expr _ => ok expr
  | .edit _ => True
  | .filterEq _ _ => True

/-- **The use of relational queries**: they start without conditions, and raw expressions have to be all right. -/
def sqlUsage (ok : String → Prop) : Usage SqlQuery :=
  { start := ClauseQuery.IsStart, field := fun _ => True, method := SqlMethod.Raw ok }

/-- The same use, with outlines. -/
def outlinedUsage (ok : String → Prop) : Usage OutlinedQuery :=
  { start := fun t => t.query.IsStart ∧ t.filter = .empty ∧ t.having = .empty
    field := fun _ => True
    method := SqlMethod.Raw ok }

variable {ok : String → Prop}

/-- If each element comes from a good one, the list comes from a list of these. -/
theorem exists_map_eq {α β : Type} {f : α → β} {P : α → Prop} {bs : List β} (h : ∀ b ∈ bs, ∃ a, P a ∧ f a = b) :
    ∃ as : List α, (∀ a ∈ as, P a) ∧ as.map f = bs := by
  induction bs with
  | nil => exact ⟨[], fun _ ha => (nomatch ha), rfl⟩
  | cons b bs ih =>
    rw [List.forall_mem_cons] at h
    obtain ⟨first, hfirst, rfl⟩ := h.1
    obtain ⟨as, has, rfl⟩ := ih h.2
    exact ⟨first :: as, List.forall_mem_cons.mpr ⟨hfirst, has⟩, rfl⟩

/-- **Every relational query that can be built can be built with its outlines.** -/
theorem exists_outlined {q : SqlQuery} (h : Reachable (sqlUsage ok) q) :
    ∃ t, Reachable (outlinedUsage ok) t ∧ t.query = q := by
  refine h.holds (P := fun q => ∃ t, Reachable (outlinedUsage ok) t ∧ t.query = q) (fun q hq => ?_) ⟨?_, ?_, ?_, ?_⟩
  · exact ⟨{ query := q, filter := .empty, having := .empty }, .start ⟨hq, rfl, rfl⟩, rfl⟩
  · rintro _ column op value _ ⟨t, ht, rfl⟩
    exact ⟨_, ht.compare trivial op value, rfl⟩
  · rintro _ q m hm hperform ⟨t, ht, rfl⟩
    have houtline := OutlinedQuery.perform_eq_ok.mpr ⟨q, hperform, rfl⟩
    exact ⟨_, ht.method hm houtline, OutlinedQuery.query_outline t q m⟩
  · rintro _ ⟨t, ht, rfl⟩
    exact ⟨_, ht.cleared, rfl⟩
  · rintro _ others p ⟨t, ht, rfl⟩ hothers
    obtain ⟨ts, hts, rfl⟩ := exists_map_eq hothers
    exact ⟨_, ht.merge hts p, OutlinedQuery.query_merge t p ts⟩

/-- The conditions of the query are its outlines written out. -/
def OutlinedQuery.Written (t : OutlinedQuery) : Prop :=
  t.query.clauses.filter = t.filter.expressions ∧ t.query.clauses.having = t.having.expressions

theorem OutlinedQuery.Written.merge {t : OutlinedQuery} {others : List OutlinedQuery} (ht : t.Written)
    (hothers : ∀ other ∈ others, other.Written) (p : Predicate) : (Query.merge t p others).Written := by
  by_cases hnil : others = []
  · rw [hnil]
    exact ht
  · have hall : ∀ t' ∈ t :: others, t'.Written := List.forall_mem_cons.mpr ⟨ht, hothers⟩
    have hfilter : (t :: others).map (fun t' => t'.query.clauses.filter) =
        ((t :: others).map OutlinedQuery.filter).map Outline.expressions := by
      rw [List.map_map]
      exact List.map_congr_left fun t' ht' => (hall t' ht').1
    have hhaving : (t :: others).map (fun t' => t'.query.clauses.having) =
        ((t :: others).map OutlinedQuery.having).map Outline.expressions := by
      rw [List.map_map]
      exact List.map_congr_left fun t' ht' => (hall t' ht').2
    unfold OutlinedQuery.Written
    rw [OutlinedQuery.merge_of_ne_nil t p hnil, OutlinedQuery.clauses_merge t p hnil, Outline.expressions_gather,
      Outline.expressions_gather, ← hfilter, ← hhaving]
    simp only [Clauses.merge, List.map_map]
    exact ⟨rfl, rfl⟩

/-- **The conditions of a query are its outlines written out**, however it was built. -/
theorem written_of_reachable {t : OutlinedQuery} (h : Reachable (outlinedUsage ok) t) : t.Written := by
  refine h.holds (fun t ht => ?_) ⟨?_, ?_, ?_, ?_⟩
  · obtain ⟨hstart, hfilter, hhaving⟩ := ht
    obtain ⟨hrows, hgroups⟩ := hstart.conditions
    unfold OutlinedQuery.Written
    rw [hrows, hgroups, hfilter, hhaving]
    exact ⟨rfl, rfl⟩
  · rintro t column op value _ ⟨hfilter, hhaving⟩
    exact ⟨Outline.push_written hfilter ⟨comparison column op, [comparisonBind op value]⟩, hhaving⟩
  · rintro t t' m _ hperform ⟨hfilter, hhaving⟩
    obtain ⟨q, hrun, rfl⟩ := OutlinedQuery.perform_eq_ok.mp hperform
    cases m with
    | edit e =>
      cases hrun
      cases e <;> exact ⟨hfilter, hhaving⟩
    | filter expr binds =>
      obtain ⟨-, rfl⟩ := addFilter_eq_ok hrun
      exact ⟨Outline.push_written hfilter ⟨expr, binds⟩, hhaving⟩
    | filterEq column value =>
      have hadd : addFilter (quoteName column ++ " = ?") [value] t.query = .ok q := hrun
      obtain ⟨-, rfl⟩ := addFilter_eq_ok hadd
      exact ⟨Outline.push_written hfilter ⟨quoteName column ++ " = ?", [value]⟩, hhaving⟩
    | having expr binds =>
      obtain ⟨-, rfl⟩ := having_eq_ok hrun
      exact ⟨hfilter, Outline.push_written hhaving ⟨expr, binds⟩⟩
  · intro t _
    exact ⟨rfl, rfl⟩
  · intro t others p ht hothers
    exact ht.merge hothers p

/-! ## Sound outlines -/

/-- The added expressions are good, and only several parts have been joined. -/
def Outline.Sound (good : Added → Prop) (o : Outline) : Prop := ∀ entry ∈ o.entries, entry.Sound good

namespace Outline

variable {good : Added → Prop}

theorem Sound.empty : Outline.empty.Sound good := fun _ hentry => nomatch hentry

theorem Sound.whole {o : Outline} (h : o.Sound good) (hne : o.isEmpty = false) : o.whole.Sound good := by
  obtain ⟨entries⟩ := o
  match entries, h with
  | [], _ => cases hne
  | [single], h => exact h single List.mem_cons_self
  | first :: second :: rest, h => exact .joined .and (by simp) h

theorem Sound.push {o : Outline} (h : o.Sound good) {added : Added} (hadded : good added) :
    (o.push added).Sound good := by
  intro entry hentry
  rcases List.mem_append.mp hentry with hentry | hentry
  · exact h entry hentry
  · rw [List.mem_singleton.mp hentry]
    exact .atom hadded

theorem Sound.gather {parts : List Outline} (h : ∀ o ∈ parts, o.Sound good) (p : Predicate) :
    (Outline.gather p parts).Sound good := by
  have hparts : ∀ o ∈ parts.filter (!·.isEmpty), o.Sound good ∧ o.isEmpty = false := by
    intro o ho
    obtain ⟨hmem, hne⟩ := List.mem_filter.mp ho
    exact ⟨h o hmem, by simpa using hne⟩
  unfold Outline.gather
  generalize parts.filter (!·.isEmpty) = filled at hparts
  cases filled with
  | nil => exact .empty
  | cons first rest =>
    cases rest with
    | nil => exact (hparts first List.mem_cons_self).1
    | cons second rest =>
      intro entry hentry
      rw [List.mem_singleton.mp hentry]
      refine .joined p (by simp) fun part hpart => ?_
      obtain ⟨o, ho, rfl⟩ := List.mem_map.mp hpart
      exact (hparts o ho).1.whole (hparts o ho).2

end Outline

/-- **Outlines of queries that can be built are sound**, if the expressions are that operations add. -/
theorem sound_of_reachable {good : Added → Prop}
    (hcomparison : ∀ column op value, good ⟨comparison column op, [comparisonBind op value]⟩)
    (hequality : ∀ column value, good ⟨quoteName column ++ " = ?", [value]⟩)
    (hraw : ∀ expr binds, ok expr → placeholderCount expr = binds.length → good ⟨expr, binds⟩)
    {t : OutlinedQuery} (h : Reachable (outlinedUsage ok) t) : t.filter.Sound good ∧ t.having.Sound good := by
  refine h.holds (P := fun t => t.filter.Sound good ∧ t.having.Sound good) (fun t ht => ?_) ⟨?_, ?_, ?_, ?_⟩
  · obtain ⟨-, hfilter, hhaving⟩ := ht
    rw [hfilter, hhaving]
    exact ⟨.empty, .empty⟩
  · rintro t column op value _ ⟨hfilter, hhaving⟩
    exact ⟨hfilter.push (hcomparison column op value), hhaving⟩
  · rintro t t' m hm hperform ⟨hfilter, hhaving⟩
    obtain ⟨q, hrun, rfl⟩ := OutlinedQuery.perform_eq_ok.mp hperform
    cases m with
    | edit e => exact ⟨hfilter, hhaving⟩
    | filter expr binds => exact ⟨hfilter.push (hraw expr binds hm (addFilter_eq_ok hrun).1), hhaving⟩
    | filterEq column value => exact ⟨hfilter.push (hequality column value), hhaving⟩
    | having expr binds => exact ⟨hfilter, hhaving.push (hraw expr binds hm (having_eq_ok hrun).1)⟩
  · intro t _
    exact ⟨.empty, .empty⟩
  · rintro t others p ht hothers
    cases others with
    | nil => exact ht
    | cons other others =>
      have hall : ∀ t' ∈ t :: other :: others, t'.filter.Sound good ∧ t'.having.Sound good :=
        List.forall_mem_cons.mpr ⟨ht, hothers⟩
      constructor
      · refine Outline.Sound.gather (fun o ho => ?_) p
        obtain ⟨t', ht', rfl⟩ := List.mem_map.mp ho
        exact (hall t' ht').1
      · refine Outline.Sound.gather (fun o ho => ?_) p
        obtain ⟨t', ht', rfl⟩ := List.mem_map.mp ho
        exact (hall t' ht').2

end TermSearch.Sql
