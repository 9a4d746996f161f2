import Mathlib.Data.List.Induction
import Mathlib.Data.List.Nodup
import TermSearch.Proofs.Document.Meaning
import TermSearch.Proofs.Query.Combination
import TermSearch.Proofs.Query.Setting
import TermSearch.Proofs.Sql.Binds
import TermSearch.Regex.Reader

/-!
# Clauses that are lists

Four clauses are lists of texts (`Clauses.listed`). They only grow by what they do not have yet (`appendNew`), so what
becomes of many items has each of them once, in the order of their first appearance (`firstSeen_appendNew`).

In the queries that can be built, no list has an item twice, nor one that was not passed to the method for the clause
(`listsOnce_of_reachable`). A merge of one such query is therefore the query itself (`Clauses.merge_singleton`); a list
with a repeated item, or values without an expression, would not outlast it.
-/

namespace TermSearch

/-! ## Items in the order of their first appearance -/

section Items

variable {list items : List String} {item : String}

theorem addNew_of_mem (h : item ∈ list) : addNew list item = list := if_pos h

theorem addNew_of_not_mem (h : item ∉ list) : addNew list item = list ++ [item] := if_neg h

theorem appendNew_append (list items more : List String) :
    appendNew list (items ++ more) = appendNew (appendNew list items) more := List.foldl_append

theorem nodup_addNew (h : list.Nodup) : (addNew list item).Nodup := by
  by_cases hmem : item ∈ list
  · rw [addNew_of_mem hmem]
    exact h
  · rw [addNew_of_not_mem hmem]
    exact List.nodup_append.mpr ⟨h, List.nodup_singleton item, fun a ha b hb hab =>
      hmem (List.mem_singleton.mp hb ▸ hab ▸ ha)⟩

theorem nodup_appendNew (h : list.Nodup) : (appendNew list items).Nodup := by
  induction items generalizing list with
  | nil => exact h
  | cons item items ih => exact ih (nodup_addNew h)

/-- Items that are all new are put behind the list as they are. -/
theorem appendNew_of_nodup (h : (list ++ items).Nodup) : appendNew list items = list ++ items := by
  induction items generalizing list with
  | nil => exact (List.append_nil list).symm
  | cons item items ih =>
    have hnew : item ∉ list := fun hmem => (List.nodup_append.mp h).2.2 item hmem item List.mem_cons_self rfl
    rw [List.append_cons] at h ⊢
    rw [← addNew_of_not_mem hnew] at h ⊢
    exact ih h

theorem appendNew_nil (h : list.Nodup) : appendNew [] list = list := appendNew_of_nodup h

/-- Adding to a list what is added to another is adding both lists. -/
theorem appendNew_appendNew (list middle items : List String) :
    appendNew list (appendNew middle items) = appendNew (appendNew list middle) items := by
  induction items generalizing middle with
  | nil => rfl
  | cons item items ih =>
    have hfirst : appendNew list (addNew middle item) = addNew (appendNew list middle) item := by
      by_cases hmem : item ∈ middle
      · rw [addNew_of_mem hmem, addNew_of_mem (mem_appendNew.mpr (.inr hmem))]
      · rw [addNew_of_not_mem hmem, appendNew_append]
        rfl
    calc appendNew list (appendNew middle (item :: items))
        = appendNew list (appendNew (addNew middle item) items) := rfl
      _ = appendNew (appendNew list (addNew middle item)) items := ih _
      _ = appendNew (addNew (appendNew list middle) item) items := by rw [hfirst]

/-- The list has the items of another, each once, in the order of their first appearance. -/
structure FirstSeen (all list : List String) : Prop where
  mem_iff (item : String) : item ∈ list ↔ item ∈ all
  nodup : list.Nodup
  ordered : list.Pairwise fun a b => all.idxOf a < all.idxOf b

/-- **What becomes of many items is each of them once, in the order of their first appearance.** -/
theorem firstSeen_appendNew (all : List String) : FirstSeen all (appendNew [] all) where
  mem_iff item := by rw [mem_appendNew, or_iff_right List.not_mem_nil]
  nodup := nodup_appendNew List.nodup_nil
  ordered := by
    induction all using List.reverseRecOn with
    | nil => exact .nil
    | append_singleton all item ih =>
      have hall : ∀ {a}, a ∈ appendNew [] all → a ∈ all := fun ha => (mem_appendNew.mp ha).resolve_left List.not_mem_nil
      -- a last item does not move what has been seen before
      have hidx : ∀ {a}, a ∈ appendNew [] all → (all ++ [item]).idxOf a = all.idxOf a :=
        fun ha => List.idxOf_append_of_mem (hall ha)
      have hbefore : (appendNew [] all).Pairwise fun a b => (all ++ [item]).idxOf a < (all ++ [item]).idxOf b := by
        refine ih.imp_of_mem fun ha hb hlt => ?_
        rw [hidx ha, hidx hb]
        exact hlt
      have hstep : appendNew [] (all ++ [item]) = addNew (appendNew [] all) item := appendNew_append [] all [item]
      rw [hstep]
      by_cases hmem : item ∈ appendNew [] all
      · rw [addNew_of_mem hmem]
        exact hbefore
      · rw [addNew_of_not_mem hmem]
        refine List.pairwise_append.mpr ⟨hbefore, List.pairwise_singleton _ _, fun a ha b hb => ?_⟩
        have hnew : item ∉ all := fun h => hmem (mem_appendNew.mpr (.inr h))
        rw [List.mem_singleton.mp hb, hidx ha, List.idxOf_append_of_notMem hnew]
        exact Nat.lt_add_right _ (List.idxOf_lt_length_of_mem (hall ha))

end Items

/-! ## The lists of a query -/

section Listed

variable {C : Type}

/-- The items of a clause that is a list, and none of any other clause. -/
def Clauses.listed (c : Clauses C) : Clause → List String
  | .select => c.select
  | .joins => c.joins
  | .group => c.group
  | .order => c.order
  | .from | .filter | .having | .limit | .offset => []

/-- The items that an edit passes to a clause. -/
def ClauseEdit.passedTo : ClauseEdit → Clause → List String
  | .select items, .select => items
  | .joins item, .joins => [item]
  | .group item, .group => [item]
  | .order item, .order => [item]
  | _, _ => []

theorem ClauseEdit.listed_run (c : Clauses C) (e : ClauseEdit) (kind : Clause) :
    (e.run c).listed kind = appendNew (c.listed kind) (e.passedTo kind) := by
  cases e <;> cases kind <;> rfl

namespace Clauses

/-- Conditions do not matter to the lists. -/
theorem listed_conditions (c : Clauses C) (filter having : C) (kind : Clause) :
    listed { c with filter, having } kind = c.listed kind := by
  cases kind <;> rfl

variable [Condition C]

theorem listed_merge (p : Predicate) (queries : List (Clauses C)) (kind : Clause) :
    (merge p queries).listed kind = appendNew [] (queries.flatMap (·.listed kind)) := by
  have hnone : queries.flatMap (fun _ => ([] : List String)) = [] := List.flatMap_eq_nil_iff.mpr fun _ _ => rfl
  cases kind with
  | select | joins | group | order => rfl
  | «from» | filter | having | limit | offset => exact (congrArg (appendNew []) hnone).symm

/-- **Merging one query is the identity**, for clauses whose lists have no item twice and whose conditions stay what they
are when they are combined alone. -/
theorem merge_singleton {p : Predicate} {c : Clauses C} (hlists : ∀ kind, (c.listed kind).Nodup)
    (hfilter : Condition.combine p [c.filter] = c.filter) (hhaving : Condition.combine p [c.having] = c.having) :
    merge p [c] = c := by
  have hlisted : ∀ kind, appendNew [] ([c].flatMap (·.listed kind)) = c.listed kind := by
    intro kind
    rw [List.flatMap_singleton, appendNew_nil (hlists kind)]
  obtain ⟨select, joins, group, order, source, limit, offset, filter, having⟩ := c
  have hselect := hlisted .select
  have hjoins := hlisted .joins
  have hgroup := hlisted .group
  have horder := hlisted .order
  simp only [listed] at hselect hjoins hgroup horder
  simp only [merge, List.map_cons, List.map_nil, lastPresent_singleton, hselect, hjoins, hgroup, horder, hfilter,
    hhaving]

end Clauses

end Listed

/-! ## Queries that can be built -/

/-- The list has no item twice, and only items that were passed. -/
structure Once (passed : String → Prop) (list : List String) : Prop where
  nodup : list.Nodup
  passed : ∀ item ∈ list, passed item

theorem Once.appendNew {passed : String → Prop} {list items : List String} (h : Once passed list)
    (hitems : ∀ item ∈ items, passed item) : Once passed (appendNew list items) where
  nodup := nodup_appendNew h.nodup
  passed item hitem := (mem_appendNew.mp hitem).elim (h.passed item) (hitems item)

theorem Once.nil {passed : String → Prop} : Once passed [] := ⟨List.nodup_nil, fun _ h => nomatch h⟩

/-- No list of the clauses has an item twice, or one that was not passed for the clause. -/
def Clauses.ListsOnce {C : Type} (passed : Clause → String → Prop) (c : Clauses C) : Prop :=
  ∀ kind, Once (passed kind) (c.listed kind)

section Backend

variable {C : Type} [Condition C] [Query (ClauseQuery C)] [ClauseBackend C] {passed : Clause → String → Prop}

/-- **The use of queries** that start with no clause but a source, where methods only pass the items that may be passed
to their clause. -/
def listUsage (passed : Clause → String → Prop) : Usage (ClauseQuery C) where
  start := ClauseQuery.IsStart
  field _ := True
  method m := ∀ e ∈ ClauseBackend.edit? m, ∀ kind, ∀ item ∈ e.passedTo kind, passed kind item

namespace Clauses.ListsOnce

omit [Condition C] [Query (ClauseQuery C)] [ClauseBackend C] in
theorem conditions {c : Clauses C} (h : c.ListsOnce passed) (filter having : C) :
    ListsOnce passed { c with filter, having } := by
  intro kind
  rw [listed_conditions]
  exact h kind

omit [Condition C] [Query (ClauseQuery C)] [ClauseBackend C] in
theorem edit {c : Clauses C} (h : c.ListsOnce passed) {e : ClauseEdit}
    (he : ∀ kind, ∀ item ∈ e.passedTo kind, passed kind item) : (e.run c).ListsOnce passed := by
  intro kind
  rw [ClauseEdit.listed_run]
  exact (h kind).appendNew (he kind)

omit [Query (ClauseQuery C)] [ClauseBackend C] in
theorem merge {queries : List (Clauses C)} (h : ∀ c ∈ queries, c.ListsOnce passed) (p : Predicate) :
    (Clauses.merge p queries).ListsOnce passed := by
  intro kind
  rw [listed_merge]
  refine Once.nil.appendNew fun item hitem => ?_
  obtain ⟨c, hc, hitem⟩ := List.mem_flatMap.mp hitem
  exact (h c hc kind).passed item hitem

end Clauses.ListsOnce

omit [Query (ClauseQuery C)] [ClauseBackend C] in
theorem ClauseQuery.IsStart.listsOnce {q : ClauseQuery C} (h : q.IsStart) : q.clauses.ListsOnce passed := by
  induction h with
  | empty | ofSource name =>
    intro kind
    cases kind <;> exact Once.nil
  | attach _ ih => exact ih

/-- **No operation repeats an item in a list**, or brings one in that was not passed. -/
theorem listsOnce_keeps : (listUsage passed).Keeps fun q : ClauseQuery C => q.clauses.ListsOnce passed where
  compare {q field} op value _ h := by
    obtain ⟨filter, hclauses⟩ := ClauseBackend.compare_clauses q field op value
    rw [hclauses]
    exact h.conditions filter _
  method {q q' m} hm hperform h := by
    cases hedit : ClauseBackend.edit? m with
    | some e =>
      rw [ClauseBackend.perform_edit hedit] at hperform
      cases hperform
      exact h.edit (hm e hedit)
    | none =>
      obtain ⟨filter, having, hclauses⟩ := ClauseBackend.perform_conditions hedit hperform
      rw [hclauses]
      exact h.conditions filter having
  cleared h := by
    rw [ClauseBackend.cleared_eq]
    exact h.conditions _ _
  merge {q others} p h hothers := by
    rw [ClauseBackend.merge_eq]
    cases others with
    | nil => exact h
    | cons other others =>
      refine Clauses.ListsOnce.merge (fun c hc => ?_) p
      obtain ⟨q', hq', rfl⟩ := List.mem_map.mp hc
      rcases List.mem_cons.mp hq' with rfl | hq'
      · exact h
      · exact hothers q' hq'

theorem listsOnce_of_reachable {q : ClauseQuery C} (h : Reachable (listUsage passed) q) :
    q.clauses.ListsOnce passed :=
  h.holds (P := fun q : ClauseQuery C => q.clauses.ListsOnce passed) (fun _ hq => hq.listsOnce) listsOnce_keeps

/-- In no query that can be built a list has an item twice, whatever operations may be used. -/
theorem nodup_of_reachable {u : Usage (ClauseQuery C)} (hstart : ∀ q, u.start q → q.IsStart) {q : ClauseQuery C}
    (h : Reachable u q) (kind : Clause) : (q.clauses.listed kind).Nodup := by
  have hall : (listUsage fun _ _ => True).Keeps fun q : ClauseQuery C => q.clauses.ListsOnce fun _ _ => True :=
    listsOnce_keeps
  have hlists := h.holds (fun q hq => (hstart q hq).listsOnce)
    (hall.mono (fun _ _ => trivial) fun _ _ _ _ _ _ _ => trivial)
  exact (hlists kind).nodup

theorem reachable_edit {q : ClauseQuery C} (h : Reachable (listUsage passed) q)
    {m : Query.Method (ClauseQuery C)} {e : ClauseEdit} (hm : ClauseBackend.edit? m = some e)
    (he : ∀ kind, ∀ item ∈ e.passedTo kind, passed kind item) : Reachable (listUsage passed) (q.edit e) := by
  refine h.method (fun e' he' => ?_) (ClauseBackend.perform_edit hm q)
  rw [hm] at he'
  cases he'
  exact he

end Backend

/-- **In the queries that can be built, lists have no item twice.** They only have items that were passed to the method
for the clause, and a merge of one query is the query itself. Conditions of relational queries that are empty have no
values either. -/
theorem lists_once [PatternEngine] (passed : Clause → String → Prop) :
    (∀ q : Sql.SqlQuery, Reachable (listUsage passed) q →
      q.clauses.ListsOnce passed ∧ Sql.SqlQuery.Tidy q ∧ ∀ p, Clauses.merge p [q.clauses] = q.clauses) ∧
    ∀ q : Document.DocumentQuery, Reachable (listUsage passed) q →
      q.clauses.ListsOnce passed ∧ ∀ p, Clauses.merge p [q.clauses] = q.clauses := by
  constructor
  · intro q hq
    have hlists := listsOnce_of_reachable hq
    have htidy := Sql.tidy_of_reachable (fun _ h => h) hq
    refine ⟨hlists, htidy, fun p => Clauses.merge_singleton (fun kind => (hlists kind).nodup) ?_ ?_⟩
    · exact Condition.combine_singleton htidy.1.eq_empty
    · exact Condition.combine_singleton htidy.2.eq_empty
  · intro q hq
    have hlists := listsOnce_of_reachable hq
    refine ⟨hlists, fun p => Clauses.merge_singleton (fun kind => (hlists kind).nodup) ?_ ?_⟩
    · exact Condition.combine_singleton Document.Selector.eq_empty_of_isEmpty
    · exact Condition.combine_singleton Document.Selector.eq_empty_of_isEmpty

/-- What is selected of the cats in the examples. -/
def catColumns (kind : Clause) (item : String) : Prop := kind = .select ∧ item ∈ ["name", "age", "id"]

theorem passedTo_select {items : List String} (h : ∀ item ∈ items, item ∈ ["name", "age", "id"]) :
    ∀ kind, ∀ item ∈ (ClauseEdit.select items).passedTo kind, catColumns kind item := by
  intro kind item hitem
  cases kind with
  | select => exact ⟨rfl, h item hitem⟩
  | _ => cases hitem

/-- What is selected again does not come again, within a query or with the query it is merged with. -/
theorem lists_once_merged :
    (∃ q : Sql.SqlQuery, Reachable (listUsage catColumns) q ∧ q.clauses.select = ["name", "age", "id"] ∧
      Clauses.merge .or [q.clauses] = q.clauses) ∧
    ∃ q : Document.DocumentQuery, Reachable (listUsage catColumns) q ∧ q.clauses.select = ["name", "age", "id"] ∧
      Clauses.merge .or [q.clauses] = q.clauses := by
  have hfirst := @passedTo_select ["name", "age", "name"] (by simp)
  have hsecond := @passedTo_select ["age", "id"] (by simp)
  constructor
  · have hcats : Reachable (listUsage catColumns) (.ofSource "cats" : Sql.SqlQuery) := .start (.ofSource "cats")
    have hq := (reachable_edit hcats (m := Sql.SqlMethod.edit _) rfl hfirst).merge
      (fun _ h => List.mem_singleton.mp h ▸ reachable_edit hcats (m := Sql.SqlMethod.edit _) rfl hsecond) .or
    exact ⟨_, hq, by decide, ((lists_once _).1 _ hq).2.2 .or⟩
  · have hcats : Reachable (listUsage catColumns) (.ofSource "cats" : Document.DocumentQuery) :=
      .start (.ofSource "cats")
    have hq := (reachable_edit hcats (m := Document.DocumentMethod.edit _) rfl hfirst).merge
      (fun _ h => List.mem_singleton.mp h ▸ reachable_edit hcats (m := Document.DocumentMethod.edit _) rfl hsecond) .or
    exact ⟨_, hq, by decide, ((lists_once _).2 _ hq).2 .or⟩

end TermSearch
