import TermSearch.Proofs.Document.Answer
import TermSearch.Proofs.Query.Combination
import TermSearch.Proofs.Query.Lists
import TermSearch.Proofs.Sql.Precedence
import TermSearch.Regex.Reader

/-!
# Merges of merges

Queries may be merged in two groups first, and the groups then with each other (`Clauses.mergeInTwo`). It makes no
difference to what comes of it:

* lists and single values are the same, and what they have to be is said of the merged queries alone
  (`Clauses.Gathers`);
* the selectors answer alike for each document (`Selector.wants_combine_pair`);
* the expressions bind the same values, and read as conditions they are one boolean function of the entries of the
  merged queries (`Sql.Combines`).
-/

namespace TermSearch

/-! ## Clauses that are no conditions -/

namespace Clauses

/-- The value is the last one that is there. -/
inductive IsLast {α : Type} : List (Option α) → Option α → Prop
  | none {values : List (Option α)} (h : ∀ value ∈ values, value = none) : IsLast values none
  | some (before : List (Option α)) (a : α) {after : List (Option α)} (h : ∀ value ∈ after, value = none) :
    IsLast (before ++ some a :: after) (some a)

theorem isLast_lastPresent {α : Type} (values : List (Option α)) : IsLast values (lastPresent values) := by
  induction values with
  | nil => exact .none fun _ h => nomatch h
  | cons value values ih =>
    rw [lastPresent_cons]
    generalize lastPresent values = last at ih
    cases ih with
    | some before a h => exact .some (value :: before) a h
    | none h =>
      cases value with
      | none => exact .none (List.forall_mem_cons.mpr ⟨rfl, h⟩)
      | some a => exact .some [] a h

variable {C : Type}

/-- The clauses agree in all that is no condition. -/
structure SameBesideConditions (c c' : Clauses C) : Prop where
  listed (kind : Clause) : c.listed kind = c'.listed kind
  source : c.source = c'.source
  limit : c.limit = c'.limit
  offset : c.offset = c'.offset

/-- The lists have the items of the inputs, each once, in the order of their first appearance, and of single values the
last one that is there counts. -/
structure Gathers (inputs : List (Clauses C)) (c : Clauses C) : Prop where
  listed (kind : Clause) : FirstSeen (inputs.flatMap (·.listed kind)) (c.listed kind)
  source : IsLast (inputs.map (·.source)) c.source
  limit : IsLast (inputs.map (·.limit)) c.limit
  offset : IsLast (inputs.map (·.offset)) c.offset

theorem Gathers.congr {inputs : List (Clauses C)} {c c' : Clauses C} (h : Gathers inputs c)
    (hsame : SameBesideConditions c' c) : Gathers inputs c' where
  listed kind := by
    rw [hsame.listed]
    exact h.listed kind
  source := by
    rw [hsame.source]
    exact h.source
  limit := by
    rw [hsame.limit]
    exact h.limit
  offset := by
    rw [hsame.offset]
    exact h.offset

variable [Condition C]

theorem gathers_merge (p : Predicate) (inputs : List (Clauses C)) : Gathers inputs (merge p inputs) where
  listed kind := by
    rw [listed_merge]
    exact firstSeen_appendNew _
  source := isLast_lastPresent _
  limit := isLast_lastPresent _
  offset := isLast_lastPresent _

/-- The merge of two groups that have been merged before. -/
def mergeInTwo (p : Predicate) (xs ys : List (Clauses C)) : Clauses C := merge p [merge p xs, merge p ys]

/-- A single value is the last one of either group. -/
theorem get_mergeInTwo {α : Type} (k : Setting α) (p : Predicate) (xs ys : List (Clauses C)) :
    k.get (mergeInTwo p xs ys) = k.get (merge p (xs ++ ys)) := by
  unfold mergeInTwo
  rw [k.get_merge, k.get_merge, List.map_append, lastPresent_append, List.map_cons, List.map_singleton,
    lastPresent_cons, lastPresent_singleton, k.get_merge, k.get_merge]

theorem mergeInTwo_same (p : Predicate) (xs ys : List (Clauses C)) :
    SameBesideConditions (mergeInTwo p xs ys) (merge p (xs ++ ys)) where
  listed kind := by
    unfold mergeInTwo
    rw [listed_merge, listed_merge, List.flatMap_append, List.flatMap_cons, List.flatMap_singleton, listed_merge,
      listed_merge, appendNew_append, appendNew_append, appendNew_appendNew, appendNew_appendNew]
    rfl
  source := get_mergeInTwo .source p xs ys
  limit := get_mergeInTwo .limit p xs ys
  offset := get_mergeInTwo .offset p xs ys

end Clauses

/-! ## Selectors -/

namespace Document

/-- Answers joined by a connective; the first refusal is that of all. -/
def joinedAnswers (p : Predicate) (answers : List (Except SelectorError Bool)) : Except SelectorError Bool :=
  (answers.mapM id).map p.holds

theorem joinedAnswers_singleton (p : Predicate) (answer : Except SelectorError Bool) :
    joinedAnswers p [answer] = answer := by
  unfold joinedAnswers
  rw [List.mapM_cons, List.mapM_nil]
  cases answer with
  | error cause => rfl
  | ok value => exact congrArg Except.ok (p.holds_singleton value)

theorem joinedAnswers_pair (p : Predicate) (answers answers' : List (Except SelectorError Bool)) :
    joinedAnswers p [joinedAnswers p answers, joinedAnswers p answers'] = joinedAnswers p (answers ++ answers') := by
  unfold joinedAnswers
  rw [List.mapM_append, List.mapM_cons, List.mapM_cons, List.mapM_nil]
  cases answers.mapM id with
  | error cause => rfl
  | ok values =>
    cases answers'.mapM id with
    | error cause => rfl
    | ok values' => exact congrArg Except.ok (p.holds_pair values values')

/-- **Selectors that are joined in two groups first answer alike.** -/
theorem Selector.wants_combine_pair [PatternEngine] (p : Predicate) (parts parts' : List Selector) (document : Json) :
    (Condition.combine p [Condition.combine p parts, Condition.combine p parts']).wants document =
      (Condition.combine p (parts ++ parts')).wants document := by
  refine Condition.told_combine_pair (fun s : Selector => s.wants document) (fun p parts => ?_)
    joinedAnswers_singleton joinedAnswers_pair p parts parts'
  unfold joinedAnswers
  rw [List.mapM_map]
  exact join_wants p parts document

end Document

/-! ## Expressions -/

namespace Sql

namespace Outline

/-- **Outlines that are gathered in two groups first hold alike.** -/
theorem holds_gather_pair (truth : Added → Bool) (p : Predicate) (parts parts' : List Outline) :
    (gather p [gather p parts, gather p parts']).holds truth = (gather p (parts ++ parts')).holds truth := by
  rw [gather_eq_combine, gather_eq_combine, gather_eq_combine, gather_eq_combine]
  exact Condition.told_combine_pair (holds truth) (holds_join truth) Predicate.holds_singleton Predicate.holds_pair p parts parts'

theorem filled_expressions (parts : List Outline) :
    Condition.filled (parts.map expressions) = (Condition.filled parts).map expressions := by
  unfold Condition.filled
  rw [List.filter_map]
  congr 2
  funext o
  exact congrArg (!·) (isEmpty_expressions o)

end Outline

namespace Dialect

/-- What an expression reads as; one that cannot be read counts as a single thing. -/
def meaning (d : Dialect) (expr : String) : Formula String := (d.read? expr).getD (.atom expr)

/-- Whether all entries of a condition come out true, each read for itself. -/
def holds (d : Dialect) (assignment : String → Bool) (e : Expressions) : Bool :=
  e.exprs.all fun expr => (d.meaning expr).value assignment

variable {d : Dialect} {assignment : String → Bool}

theorem Balanced.read_eq {expr : String} (h : d.Balanced expr) : d.read? expr = some (d.meaning expr) := by
  obtain ⟨reading, hreading⟩ := h.readable
  unfold meaning
  rw [hreading]
  rfl

/-- What is written of balanced expressions is read as they are joined. -/
theorem read_sound {f : Formula Added} (h : f.Sound fun a => d.Balanced a.expr) :
    d.read? (formulaText (f.map Added.expr)) = some (f.bind fun a => d.meaning a.expr) :=
  read_formulaText (h.mono fun _ ha => ha.read_eq)

/-- The truth of an added expression, in a dialect. -/
def truth (d : Dialect) (assignment : String → Bool) (a : Added) : Bool := (d.meaning a.expr).value assignment

/-- A condition holds for its entries as its outline does for the expressions that were added. -/
theorem holds_expressions {o : Outline} (h : o.Sound fun a => d.Balanced a.expr) :
    d.holds assignment o.expressions = o.holds (d.truth assignment) := by
  unfold holds Outline.holds Outline.expressions
  rw [List.all_map, Bool.eq_iff_iff, List.all_eq_true, List.all_eq_true]
  refine forall₂_congr fun entry hentry => ?_
  rw [Function.comp_apply]
  unfold meaning
  rw [read_sound (h entry hentry), Option.getD_some, Formula.value_bind]
  rfl

/-- Written as one expression, a condition is read as what holds for its entries. -/
theorem read_joined {o : Outline} (h : o.Sound fun a => d.Balanced a.expr) (hne : o.isEmpty = false) :
    ∃ f, d.read? o.expressions.joined = some f ∧ ∀ assignment, f.value assignment = o.holds (d.truth assignment) := by
  refine ⟨o.whole.bind fun a => d.meaning a.expr, ?_, fun assignment => ?_⟩
  · rw [Outline.joined_expressions]
    exact read_sound (h.whole hne)
  · rw [Formula.value_bind]
    exact Outline.value_whole o

end Dialect

/-! ## Conditions of queries -/

/-- The condition binds the values of its parts in order, and what it says of their entries is what the connective makes
of the parts that have any: read in a dialect in which raw expressions are balanced, the text of the condition comes out
true just if the parts do, whatever the atoms stand for. -/
structure Combines (ok : String → Prop) (p : Predicate) (parts : List Expressions) (e : Expressions) : Prop where
  binds : e.binds = parts.flatMap (·.binds)
  isEmpty : Condition.isEmpty e = (Condition.filled parts).isEmpty
  reads (d : Dialect) (hok : ∀ expr, ok expr → d.Balanced expr) (hne : Condition.filled parts ≠ []) :
    ∃ f, d.read? e.joined = some f ∧
      ∀ assignment, f.value assignment = p.holds ((Condition.filled parts).map (d.holds assignment))

/-- Raw expressions that are all right are balanced, and so is all else that the outline is made of. -/
def Outline.Readable (ok : String → Prop) (o : Outline) : Prop :=
  ∀ d : Dialect, (∀ expr, ok expr → d.Balanced expr) → o.Sound fun a => d.Balanced a.expr

section Readable

variable {ok : String → Prop} {p : Predicate} {o : Outline} {os us : List Outline}

theorem Outline.Readable.gather (h : ∀ o ∈ os, o.Readable ok) (p : Predicate) : (Outline.gather p os).Readable ok :=
  fun d hok => Outline.Sound.gather (fun o ho => h o ho d hok) p

theorem Outline.tidy_expressions (o : Outline) : o.expressions.Tidy := by
  intro hexprs
  have hentries : o.entries = [] := List.map_eq_nil_iff.mp hexprs
  unfold expressions
  rw [hentries]
  rfl

theorem Outline.binds_gather (p : Predicate) (os : List Outline) :
    (gather p os).expressions.binds = (os.map expressions).flatMap (·.binds) := by
  rw [expressions_gather]
  refine binds_combine fun e he => ?_
  obtain ⟨o, -, rfl⟩ := List.mem_map.mp he
  exact o.tidy_expressions

/-- An outline that holds as the connective has it for its parts is written out as a condition that combines theirs. -/
theorem combines_of_holds (hos : ∀ o ∈ os, o.Readable ok) (ho : o.Readable ok)
    (hbinds : o.expressions.binds = (os.map Outline.expressions).flatMap (·.binds))
    (hempty : o.isEmpty = (Condition.filled os).isEmpty)
    (hholds : ∀ truth, Condition.filled os ≠ [] → o.holds truth = p.holds ((Condition.filled os).map (·.holds truth))) :
    Combines ok p (os.map Outline.expressions) o.expressions where
  binds := hbinds
  isEmpty := by
    rw [Outline.filled_expressions, List.isEmpty_map, ← hempty]
    exact Outline.isEmpty_expressions o
  reads d hok hne := by
    rw [Outline.filled_expressions] at hne ⊢
    have hfilled : Condition.filled os ≠ [] := fun hnil => hne (by rw [hnil]; rfl)
    obtain ⟨f, hread, hvalue⟩ := Dialect.read_joined (ho d hok) (hempty.trans (List.isEmpty_eq_false_iff.mpr hfilled))
    refine ⟨f, hread, fun assignment => ?_⟩
    rw [hvalue, hholds _ hfilled, List.map_map]
    refine congrArg p.holds (List.map_congr_left fun o ho => ?_)
    exact (Dialect.holds_expressions (hos o (Condition.mem_filled.mp ho).1 d hok)).symm

theorem combines_gather (hos : ∀ o ∈ os, o.Readable ok) (p : Predicate) :
    Combines ok p (os.map Outline.expressions) (Outline.gather p os).expressions := by
  refine combines_of_holds hos (.gather hos p) (Outline.binds_gather p os) ?_ fun truth hne => ?_
  · rw [Outline.gather_eq_combine]
    exact Condition.isEmpty_combine p os
  · exact Outline.holds_gather_filled truth p hne

theorem combines_gather_pair (hos : ∀ o ∈ os, o.Readable ok) (hus : ∀ o ∈ us, o.Readable ok) (p : Predicate) :
    Combines ok p ((os ++ us).map Outline.expressions)
      (Outline.gather p [Outline.gather p os, Outline.gather p us]).expressions := by
  have hall : ∀ o ∈ os ++ us, o.Readable ok := List.forall_mem_append.mpr ⟨hos, hus⟩
  have hgroups : ∀ o ∈ [Outline.gather p os, Outline.gather p us], o.Readable ok := by
    intro o ho
    rcases List.mem_pair.mp ho with rfl | rfl
    · exact .gather hos p
    · exact .gather hus p
  refine combines_of_holds hall (.gather hgroups p) ?_ ?_ fun truth hne => ?_
  · rw [Outline.binds_gather, List.map_cons, List.map_singleton, List.flatMap_cons, List.flatMap_singleton,
      Outline.binds_gather, Outline.binds_gather, List.map_append, List.flatMap_append]
  · rw [Outline.gather_eq_combine, Outline.gather_eq_combine, Outline.gather_eq_combine]
    exact Condition.isEmpty_combine_pair p os us
  · rw [Outline.holds_gather_pair]
    exact Outline.holds_gather_filled truth p hne

end Readable

/-- Of two conditions, one that comes of all parts at once and one for which they were put into two groups, both combine
the parts. They are written from outlines that are one boolean function of what was added. -/
structure Regrouped (ok : String → Prop) (p : Predicate) (parts parts' : List Expressions)
    (flat nested : Expressions) : Prop where
  flat_combines : Combines ok p (parts ++ parts') flat
  nested_combines : Combines ok p (parts ++ parts') nested
  outlined : ∃ os us : List Outline, os.map Outline.expressions = parts ∧ us.map Outline.expressions = parts' ∧
    flat = (Outline.gather p (os ++ us)).expressions ∧
    nested = (Outline.gather p [Outline.gather p os, Outline.gather p us]).expressions ∧
    ∀ truth, (Outline.gather p [Outline.gather p os, Outline.gather p us]).holds truth =
      (Outline.gather p (os ++ us)).holds truth

theorem regrouped_of_readable {ok : String → Prop} {os us : List Outline} (hos : ∀ o ∈ os, o.Readable ok)
    (hus : ∀ o ∈ us, o.Readable ok) (p : Predicate) :
    Regrouped ok p (os.map Outline.expressions) (us.map Outline.expressions)
      (Condition.combine p (os.map Outline.expressions ++ us.map Outline.expressions))
      (Condition.combine p [Condition.combine p (os.map Outline.expressions),
        Condition.combine p (us.map Outline.expressions)]) := by
  have hflat : Condition.combine p (os.map Outline.expressions ++ us.map Outline.expressions) =
      (Outline.gather p (os ++ us)).expressions := by
    rw [Outline.expressions_gather, List.map_append]
  have hnested : Condition.combine p [Condition.combine p (os.map Outline.expressions),
      Condition.combine p (us.map Outline.expressions)] =
      (Outline.gather p [Outline.gather p os, Outline.gather p us]).expressions := by
    rw [Outline.expressions_gather, List.map_cons, List.map_singleton, Outline.expressions_gather,
      Outline.expressions_gather]
  refine ⟨?_, ?_, os, us, rfl, rfl, hflat, hnested, fun truth => Outline.holds_gather_pair truth p os us⟩
  · rw [hflat, ← List.map_append]
    exact combines_gather (List.forall_mem_append.mpr ⟨hos, hus⟩) p
  · rw [hnested, ← List.map_append]
    exact combines_gather_pair hos hus p

/-- The conditions of a query that can be built are written from outlines that can be read. -/
theorem readable_of_reachable {ok : String → Prop} {t : OutlinedQuery} (h : Reachable (outlinedUsage ok) t) :
    t.filter.Readable ok ∧ t.having.Readable ok := by
  have hsound : ∀ d : Dialect, (∀ expr, ok expr → d.Balanced expr) →
      (t.filter.Sound fun a => d.Balanced a.expr) ∧ t.having.Sound fun a => d.Balanced a.expr :=
    fun d hok => sound_of_reachable (fun column op _ => Dialect.balanced_comparison column op)
      (fun column _ => Dialect.balanced_equality column) (fun expr _ hraw _ => hok expr hraw) h
  exact ⟨fun d hok => (hsound d hok).1, fun d hok => (hsound d hok).2⟩

/-- The filters of queries that can be built, and their conditions on groups, are written from outlines. -/
theorem exists_outlines {ok : String → Prop} {queries : List SqlQuery} (h : ∀ q ∈ queries, Reachable (sqlUsage ok) q) :
    (∃ os : List Outline, (∀ o ∈ os, o.Readable ok) ∧ os.map Outline.expressions = queries.map (·.clauses.filter)) ∧
      ∃ os : List Outline, (∀ o ∈ os, o.Readable ok) ∧
        os.map Outline.expressions = queries.map (·.clauses.having) := by
  obtain ⟨ts, hts, rfl⟩ := exists_map_eq fun q hq => exists_outlined (h q hq)
  refine ⟨⟨ts.map (·.filter), ?_, ?_⟩, ts.map (·.having), ?_, ?_⟩
  · intro o ho
    obtain ⟨t, ht, rfl⟩ := List.mem_map.mp ho
    exact (readable_of_reachable (hts t ht)).1
  · rw [List.map_map, List.map_map]
    exact List.map_congr_left fun t ht => (written_of_reachable (hts t ht)).1.symm
  · intro o ho
    obtain ⟨t, ht, rfl⟩ := List.mem_map.mp ho
    exact (readable_of_reachable (hts t ht)).2
  · rw [List.map_map, List.map_map]
    exact List.map_congr_left fun t ht => (written_of_reachable (hts t ht)).2.symm

end Sql

/-- **Merges of merges are merges.** Merged in two groups first, queries come to the same lists and single values as
merged all at once: each list has the items of the merged queries once, in the order of their first appearance, and of
single values the last one that is there counts. The conditions of relational queries bind the same values and are one
boolean function of the entries of the merged queries, and selectors answer alike for each document. -/
theorem merge_regroups [PatternEngine] (p : Predicate) :
    (∀ (C : Type) [Condition C] (xs ys : List (Clauses C)),
      Clauses.SameBesideConditions (Clauses.mergeInTwo p xs ys) (Clauses.merge p (xs ++ ys)) ∧
      Clauses.Gathers (xs ++ ys) (Clauses.merge p (xs ++ ys)) ∧
      Clauses.Gathers (xs ++ ys) (Clauses.mergeInTwo p xs ys)) ∧
    (∀ (ok : String → Prop) (queries others : List Sql.SqlQuery),
      (∀ q ∈ queries ++ others, Reachable (Sql.sqlUsage ok) q) →
        Sql.Regrouped ok p (queries.map (·.clauses.filter)) (others.map (·.clauses.filter))
          (Clauses.merge p ((queries ++ others).map (·.clauses))).filter
          (Clauses.mergeInTwo p (queries.map (·.clauses)) (others.map (·.clauses))).filter ∧
        Sql.Regrouped ok p (queries.map (·.clauses.having)) (others.map (·.clauses.having))
          (Clauses.merge p ((queries ++ others).map (·.clauses))).having
          (Clauses.mergeInTwo p (queries.map (·.clauses)) (others.map (·.clauses))).having) ∧
    ∀ (xs ys : List (Clauses Document.Selector)) (document : Json),
      (Clauses.mergeInTwo p xs ys).filter.wants document = (Clauses.merge p (xs ++ ys)).filter.wants document ∧
      (Clauses.mergeInTwo p xs ys).having.wants document = (Clauses.merge p (xs ++ ys)).having.wants document := by
  refine ⟨fun C _ xs ys => ?_, fun ok queries others h => ?_, fun xs ys document => ?_⟩
  · have hsame := Clauses.mergeInTwo_same p xs ys
    have hgathers := Clauses.gathers_merge p (xs ++ ys)
    exact ⟨hsame, hgathers, hgathers.congr hsame⟩
  · obtain ⟨hqueries, hothers⟩ := List.forall_mem_append.mp h
    obtain ⟨⟨os, hos, hfilter⟩, os', hos', hhaving⟩ := Sql.exists_outlines hqueries
    obtain ⟨⟨us, hus, hfilter'⟩, us', hus', hhaving'⟩ := Sql.exists_outlines hothers
    have hrows := Sql.regrouped_of_readable hos hus p
    have hgroups := Sql.regrouped_of_readable hos' hus' p
    rw [hfilter, hfilter'] at hrows
    rw [hhaving, hhaving'] at hgroups
    unfold Clauses.mergeInTwo Clauses.merge
    simp only [List.map_map, List.map_append]
    exact ⟨hrows, hgroups⟩
  · have hfilter := Document.Selector.wants_combine_pair p (xs.map (·.filter)) (ys.map (·.filter)) document
    have hhaving := Document.Selector.wants_combine_pair p (xs.map (·.having)) (ys.map (·.having)) document
    rw [← List.map_append] at hfilter hhaving
    exact ⟨hfilter, hhaving⟩

/-- The cats of which a column compares with a value. -/
def catsBy (column : String) (op : Operator) (value : String) : Sql.SqlQuery :=
  Query.compare (.ofSource "cats" : Sql.SqlQuery) column op value

/-- Brackets tell the two merges apart, but not what they mean. -/
theorem merge_regroups_cats :
    (Clauses.merge .or ([catsBy "age" .gt "3", catsBy "name" .eq "Bob", catsBy "size" .lt "2"].map (·.clauses))).filter
        = ⟨["(\"age\" > ?) OR (\"name\" = ?) OR (\"size\" < ?)"], [.string "3", .string "Bob", .string "2"]⟩ ∧
      (Clauses.mergeInTwo .or ([catsBy "age" .gt "3", catsBy "name" .eq "Bob"].map (·.clauses))
        ([catsBy "size" .lt "2"].map (·.clauses))).filter =
          ⟨["((\"age\" > ?) OR (\"name\" = ?)) OR (\"size\" < ?)"], [.string "3", .string "Bob", .string "2"]⟩ ∧
      Sql.Regrouped Sql.Dialect.sqlite.Balanced .or
        ([catsBy "age" .gt "3", catsBy "name" .eq "Bob"].map (·.clauses.filter))
        ([catsBy "size" .lt "2"].map (·.clauses.filter))
        (Clauses.merge .or
          ([catsBy "age" .gt "3", catsBy "name" .eq "Bob", catsBy "size" .lt "2"].map (·.clauses))).filter
        (Clauses.mergeInTwo .or ([catsBy "age" .gt "3", catsBy "name" .eq "Bob"].map (·.clauses))
          ([catsBy "size" .lt "2"].map (·.clauses))).filter := by
  have hcats : ∀ column op value, Reachable (Sql.sqlUsage Sql.Dialect.sqlite.Balanced) (catsBy column op value) :=
    fun column op value => .compare (.start (ClauseQuery.IsStart.ofSource "cats")) trivial op value
  refine ⟨by rfl, by rfl, ?_⟩
  refine ((merge_regroups .or).2.1 Sql.Dialect.sqlite.Balanced [catsBy "age" .gt "3", catsBy "name" .eq "Bob"]
    [catsBy "size" .lt "2"] ?_).1
  simp [hcats]

end TermSearch
