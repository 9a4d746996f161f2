import TermSearch.Proofs.Definition.RuleRun
import TermSearch.Query.Transcript

/-!
# Idle terms

A term is idle if the compiler answers it with no query at all (`Compiler.Idle`). That is so if a filter refuses the
term, if no matcher accepts it, or if the rules that run for it leave their scopes alone (`Compiler.idle_iff`).

Idle terms cannot be seen in the query of a tree. They may be taken out wherever they stand, and the groups that are
left empty with them (`Node.Trimmed`); the nodes that stay give the queries they gave before, in the same order
(`Compiler.listQueries_trimmed`), so each group above merges the same queries under the same connective
(`Compiler.compile_trimmed`).
-/

namespace TermSearch

/-! ## Trimmed trees -/

/-- Nodes without some of the terms in them, at any depth, and without some of the groups that nothing is left of. What
stays keeps its order, and groups keep their keywords. -/
inductive Node.Trimmed (gone : Term → Prop) : List Node → List Node → Prop
  | nil : Trimmed gone [] []
  | keep (t : Term) {nodes nodes' : List Node} (h : Trimmed gone nodes nodes') :
    Trimmed gone (.term t :: nodes) (.term t :: nodes')
  | drop {t : Term} {nodes nodes' : List Node} (hgone : gone t) (h : Trimmed gone nodes nodes') :
    Trimmed gone (.term t :: nodes) nodes'
  | group (keywords : List Keyword) {children children' nodes nodes' : List Node}
    (hchildren : Trimmed gone children children') (h : Trimmed gone nodes nodes') :
    Trimmed gone (.group children keywords :: nodes) (.group children' keywords :: nodes')
  | shed (keywords : List Keyword) {children nodes nodes' : List Node} (hchildren : Trimmed gone children [])
    (h : Trimmed gone nodes nodes') : Trimmed gone (.group children keywords :: nodes) nodes'

/-- If all terms may go, so may all nodes. -/
theorem Node.trimmed_nil {gone : Term → Prop} :
    ∀ nodes : List Node, (∀ t ∈ listTerms nodes, gone t) → Trimmed gone nodes []
  | [], _ => .nil
  | .term t :: nodes, h => by
    rw [listTerms, List.forall_mem_append] at h
    exact .drop (h.1 t (by simp [terms])) (trimmed_nil nodes h.2)
  | .group children keywords :: nodes, h => by
    rw [listTerms, List.forall_mem_append, terms] at h
    exact .shed keywords (trimmed_nil children h.1) (trimmed_nil nodes h.2)

namespace Compiler

variable {Q : Type} [Query Q] {c : Compiler Q} {calls : Calls Q}

/-! ## What idle terms are -/

/-- No query is built for the term. -/
def Idle (c : Compiler Q) (t : Term) : Prop := c.queriesFor t = .ok []

/-- A rule that runs for a visit works, and leaves its scope as it was. -/
def RunsIdly (c : Compiler Q) (calls : Calls Q) (e : Matcher Q × Visit) : Prop :=
  ∃ body, c.definition.declarations.rules.get? e.1.rule = some body ∧
    (body c.scope calls (c.startState e)).failure = none ∧
    (body c.scope calls (c.startState e)).state.scope.touched = false

omit [Query Q] in
/-- A traversal finds nothing exactly if each element has nothing. -/
theorem mapM_reduceOption_nil_iff {ε α β : Type} {f : α → Except ε (Option β)} {l : List α} :
    (l.mapM f).map List.reduceOption = .ok [] ↔ ∀ a ∈ l, f a = .ok none := by
  induction l with
  | nil => exact ⟨fun _ => nofun, fun _ => rfl⟩
  | cons a l ih =>
    rw [List.forall_mem_cons, ← ih, List.mapM_cons]
    cases hfirst : f a with
    | error cause => exact ⟨nofun, fun h => nomatch h.1⟩
    | ok b =>
      cases hrest : l.mapM f with
      | error cause => exact ⟨nofun, fun h => nomatch h.2⟩
      | ok bs =>
        cases b with
        | none => exact ⟨fun h => ⟨rfl, h⟩, fun h => h.2⟩
        | some b => exact ⟨nofun, fun h => nomatch h.1⟩

omit [Query Q] in
/-- A rule that runs for an open term builds nothing exactly if it runs idly. -/
theorem built_none_iff {e : Matcher Q × Visit} (hopen : e.2.isSettled = false) :
    c.built calls e = .ok none ↔ c.RunsIdly calls e := by
  unfold RunsIdly
  cases hget : c.definition.declarations.rules.get? e.1.rule with
  | none =>
    have hbuilt : c.built calls e = .error (.definition (.undeclaredRule e.1.rule)) := by
      unfold built runRuleWith
      rw [hget]
    rw [hbuilt]
    exact ⟨nofun, nofun⟩
  | some body =>
    rw [built_of_open hopen hget]
    simp only [Option.some.injEq, exists_eq_left']
    cases (body c.scope calls (c.startState e)).failure with
    | some cause => exact ⟨nofun, fun h => nomatch h.1⟩
    | none =>
      by_cases htouched : (body c.scope calls (c.startState e)).state.scope.touched = true
      · simp [htouched]
      · simp [htouched]

/-- **A term is idle** if a filter refuses it or each rule that runs for it runs idly; there may be none that does. -/
theorem idle_iff (t : Term) :
    c.Idle t ↔ c.definition.hasRules = true ∧
      ((∃ filter ∈ c.definition.declarations.filters, filter (.start t) = false) ∨
        ∀ e ∈ c.termApplications (c.calls maxDepth) t, c.RunsIdly (c.calls maxDepth) e) := by
  unfold Idle queriesFor termQueries termApplications termCourse
  by_cases hrules : c.definition.hasRules = true
  · by_cases hfilters : c.definition.declarations.filters.all (· (.start t)) = true
    · have hnone : ¬ ∃ filter ∈ c.definition.declarations.filters, filter (.start t) = false := by
        rintro ⟨filter, hfilter, hrefuses⟩
        rw [List.all_eq_true.mp hfilters filter hfilter] at hrefuses
        cases hrefuses
      have hopen : ∀ e ∈ c.applications (c.calls maxDepth) c.definition.matchers (.start t),
          e.2.isSettled = false := by
        intro e he
        exact open_of_mem_course (List.mem_of_mem_filter he)
      rw [if_neg (by simp [hrules]), if_pos hfilters, if_pos hfilters, runMatchers_eq, mapM_reduceOption_nil_iff]
      constructor
      · intro h
        exact ⟨hrules, .inr fun e he => (built_none_iff (hopen e he)).mp (h e he)⟩
      · rintro ⟨-, hrefused | hidle⟩
        · exact absurd hrefused hnone
        · exact fun e he => (built_none_iff (hopen e he)).mpr (hidle e he)
    · rw [if_neg (by simp [hrules]), if_neg hfilters]
      simp only [List.all_eq_true, not_forall, Bool.not_eq_true] at hfilters
      obtain ⟨filter, hfilter, hrefuses⟩ := hfilters
      exact ⟨fun _ => ⟨hrules, .inl ⟨filter, hfilter, hrefuses⟩⟩, fun _ => rfl⟩
  · rw [if_pos (by simp [hrules])]
    exact ⟨nofun, fun h => absurd h.1 hrules⟩

/-! ## What is left without them -/

/-- A node without queries adds nothing to those that follow it. -/
theorem listQueries_cons_of_nil {node : Node} (h : c.nodeQueries calls node = .ok []) (nodes : List Node) :
    c.listQueries calls (node :: nodes) = c.listQueries calls nodes := by
  rw [listQueries, h]
  cases hnodes : c.listQueries calls nodes <;> rfl

/-- **Trimming changes no queries**: those of the nodes that stay are those of all nodes, in the same order. -/
theorem listQueries_trimmed {gone : Term → Prop} (hgone : ∀ t, gone t → c.termQueries calls t = .ok [])
    {nodes nodes' : List Node} (h : Node.Trimmed gone nodes nodes') :
    c.listQueries calls nodes' = c.listQueries calls nodes := by
  induction h with
  | nil => rfl
  | keep t _ ih => rw [listQueries, listQueries, ih]
  | @drop t _ _ ht _ ih =>
    have hnode : c.nodeQueries calls (.term t) = .ok [] := hgone t ht
    rw [listQueries_cons_of_nil hnode, ih]
  | group keywords _ _ ihchildren ih =>
    rw [listQueries, listQueries, nodeQueries, nodeQueries, ihchildren, ih]
  | @shed keywords children _ _ _ _ ihchildren ih =>
    have hnode : c.nodeQueries calls (.group children keywords) = .ok [] := by
      rw [nodeQueries, ← ihchildren, listQueries]
      rfl
    rw [listQueries_cons_of_nil hnode, ih]

/-- **Idle terms leave no trace.** Taken out of a tree, wherever they stand and with groups that are left empty, they do
not change what the tree is compiled to, be it a query or a failure. A tree in which all terms are idle is compiled to
the scope. Those terms are idle that a filter refuses, or for which only rules run that leave their scope as it was. -/
theorem compile_trimmed (c : Compiler Q) (root : Group) :
    (∀ children, Node.Trimmed c.Idle root.children children → c.compile { root with children } = c.compile root) ∧
    ((∀ t ∈ root.terms, c.Idle t) → c.compile root = .ok c.scope) ∧
    ∀ t, c.Idle t ↔ c.definition.hasRules = true ∧
      ((∃ filter ∈ c.definition.declarations.filters, filter (.start t) = false) ∨
        ∀ e ∈ c.termApplications (c.calls maxDepth) t, c.RunsIdly (c.calls maxDepth) e) := by
  have htrimmed : ∀ children, Node.Trimmed c.Idle root.children children →
      c.compile { root with children } = c.compile root := by
    intro children h
    have hqueries : c.listQueries (c.calls maxDepth) children = c.listQueries (c.calls maxDepth) root.children :=
      listQueries_trimmed (fun _ ht => ht) h
    unfold compile compileWith
    rw [hqueries]
    rfl
  refine ⟨htrimmed, ?_, idle_iff⟩
  intro hidle
  rw [← htrimmed [] (Node.trimmed_nil root.children hidle)]
  rfl

/-- The term that a filter refuses and the one that no matcher accepts do not turn *or* into all badgers. -/
theorem compile_trimmed_badgers :
    let draft : Draft Transcript := ((Definition.start : Draft Transcript).permit ["coat"]).searchInSpecificFields
      ["coat"] {}
    let brown : Term := .make (some "coat") .eq "brown" .none false
    let refused : Term := .make (some "den") .eq "dry" .none false
    ∃ d, draft.build = .ok d ∧
      let c : Compiler Transcript := { definition := d, scope := ⟨"all badgers"⟩ }
      let root : Group :=
        { children := [.term brown, .group [.term refused, .term (.bare "old")] [.and]], keywords := [.or] }
      (c.Idle refused ∧ c.Idle (.bare "old")) ∧
        Node.Trimmed c.Idle root.children [.term brown] ∧
        c.compile { root with children := [.term brown] } = c.compile root ∧
        c.compile root = .ok ⟨"all badgers coat:eq:brown"⟩ := by
  intro draft brown refused
  let matcher : Matcher Transcript :=
    { rule := "search_in_specific_fields#1", rank := 0, fields := .only ["coat"], onlyIf := none, exceptIf := none }
  have hbuild : draft.build = .ok { declarations := draft.declarations, matchers := [matcher] } := by
    have hsort : [matcher].mergeSort (fun a b => decide (a.rank ≤ b.rank)) = [matcher] := List.mergeSort_singleton _
    rw [← hsort]
    rfl
  refine ⟨_, hbuild, ?_⟩
  intro c root
  have hidle : c.Idle refused ∧ c.Idle (.bare "old") := ⟨rfl, rfl⟩
  have htrimmed : Node.Trimmed c.Idle root.children [.term brown] :=
    .keep brown (.shed [.and] (.drop hidle.1 (.drop hidle.2 .nil)) .nil)
  have hsame := (compile_trimmed c root).1 _ htrimmed
  exact ⟨hidle, htrimmed, hsame, hsame.symm.trans rfl⟩

end Compiler

end TermSearch
