import Mathlib.Data.List.Forall2
import TermSearch.Definition.Compiler

/-!
# What a tree means

Whatever the terms of a tree stand for, conditions or queries, a group puts together what its children stand for
under its connective, and a group with nothing to put together stands for nothing (`Node.listMeanings`). The
compiler follows the same scheme with queries: if each term is answered by queries that mean what the term stands
for, and merging is right for what is meant, then the tree is answered rightly (`Compiler.listQueries_means`).
-/

namespace TermSearch

section Meanings

variable {α : Type} (ofTerm : Term → List α) (join : Predicate → List α → α)

/-- Things put together under a connective, if there are any. -/
def joinAll (p : Predicate) : List α → Option α
  | [] => none
  | things => some (join p things)

namespace Node

mutual

/-- What a node stands for. -/
def meanings : Node → List α
  | .term t => ofTerm t
  | .group children keywords =>
    (joinAll join (Keyword.connective keywords) (listMeanings children)).toList

/-- What nodes stand for, from left to right. -/
def listMeanings : List Node → List α
  | [] => []
  | node :: nodes => meanings node ++ listMeanings nodes

end

end Node

/-- **What a tree stands for**, if it stands for anything. -/
def Group.meaning? (root : Group) : Option α :=
  joinAll join root.predicate (Node.listMeanings ofTerm join root.children)

end Meanings

theorem forall₂_toList {α β : Type} {R : α → β → Prop} {a : Option α} {b : Option β} (h : Option.Rel R a b) :
    List.Forall₂ R a.toList b.toList := by
  cases h with
  | none => exact .nil
  | some h => exact .cons h .nil

namespace Compiler

variable {Q α : Type} [Query Q] {R : Q → α → Prop} {ofTerm : Term → List α} {join : Predicate → List α → α}

/-- Merged queries mean what is put together of their meanings. -/
theorem mergeAll_means
    (hmerge : ∀ p first rest things, List.Forall₂ R (first :: rest) things →
      R (Query.merge first p rest) (join p things))
    {p : Predicate} {queries : List Q} {things : List α} (h : List.Forall₂ R queries things) :
    Option.Rel R (mergeAll p queries) (joinAll join p things) := by
  cases h with
  | nil => exact .none
  | cons hfirst hrest => exact .some (hmerge p _ _ _ (.cons hfirst hrest))

mutual

theorem nodeQueries_means {c : Compiler Q} {calls : Calls Q}
    (hmerge : ∀ p first rest things, List.Forall₂ R (first :: rest) things →
      R (Query.merge first p rest) (join p things)) :
    ∀ node : Node,
      (∀ t ∈ node.terms, ∃ queries, c.termQueries calls t = .ok queries ∧ List.Forall₂ R queries (ofTerm t)) →
      ∃ queries, c.nodeQueries calls node = .ok queries ∧ List.Forall₂ R queries (node.meanings ofTerm join)
  | .term t, hterm => by
    obtain ⟨queries, hqueries, hmeans⟩ := hterm t (by simp [Node.terms])
    refine ⟨queries, ?_, ?_⟩
    · rw [nodeQueries, hqueries]
    · rw [Node.meanings]
      exact hmeans
  | .group children keywords, hterm => by
    rw [Node.terms] at hterm
    -- a group without queries stands for nothing, so it adds no query to those of its neighbours
    obtain ⟨queries, hqueries, hmeans⟩ := listQueries_means hmerge children hterm
    refine ⟨(mergeAll (Keyword.connective keywords) queries).toList, ?_, ?_⟩
    · rw [nodeQueries, hqueries]
      rfl
    · rw [Node.meanings]
      exact forall₂_toList (mergeAll_means hmerge hmeans)

/-- **Nodes are answered by queries that mean what the nodes stand for**, if their terms are. -/
theorem listQueries_means {c : Compiler Q} {calls : Calls Q}
    (hmerge : ∀ p first rest things, List.Forall₂ R (first :: rest) things →
      R (Query.merge first p rest) (join p things)) :
    ∀ nodes : List Node,
      (∀ t ∈ Node.listTerms nodes,
        ∃ queries, c.termQueries calls t = .ok queries ∧ List.Forall₂ R queries (ofTerm t)) →
      ∃ queries, c.listQueries calls nodes = .ok queries ∧
        List.Forall₂ R queries (Node.listMeanings ofTerm join nodes)
  | [], _ => by
    refine ⟨[], ?_, ?_⟩
    · rw [listQueries]
    · rw [Node.listMeanings]
      exact .nil
  | node :: nodes, hterm => by
    rw [Node.listTerms] at hterm
    obtain ⟨queries, hqueries, hmeans⟩ :=
      nodeQueries_means hmerge node fun t ht => hterm t (List.mem_append_left _ ht)
    obtain ⟨more, hmore, hmeansMore⟩ :=
      listQueries_means hmerge nodes fun t ht => hterm t (List.mem_append_right _ ht)
    refine ⟨queries ++ more, ?_, ?_⟩
    · rw [listQueries, hqueries]
      simp only [hmore]
      rfl
    · rw [Node.listMeanings]
      exact List.rel_append hmeans hmeansMore

end

/-- **A tree is answered by the merge of queries that mean what the tree stands for**, or by the scope if it
stands for nothing. -/
theorem compile_means {c : Compiler Q} {root : Group}
    (hmerge : ∀ p first rest things, List.Forall₂ R (first :: rest) things →
      R (Query.merge first p rest) (join p things))
    (hterm : ∀ t ∈ root.terms,
      ∃ queries, c.queriesFor t = .ok queries ∧ List.Forall₂ R queries (ofTerm t)) :
    ∃ answer : Option Q, c.compile root = .ok (answer.getD c.scope) ∧
      Option.Rel R answer (root.meaning? ofTerm join) := by
  obtain ⟨queries, hqueries, hmeans⟩ := listQueries_means hmerge root.children hterm
  refine ⟨mergeAll root.predicate queries, ?_, mergeAll_means hmerge hmeans⟩
  unfold compile compileWith
  rw [hqueries]
  rfl

end Compiler

end TermSearch
