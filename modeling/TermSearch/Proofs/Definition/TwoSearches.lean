import TermSearch.Proofs.Definition.TreeMeaning

/-!
# Two searches of one shape

Two searches have one shape when they differ at most in the values of their terms and in how these were written
(`Group.withoutValues`). If a definition treats terms alike that differ so, it treats such searches alike: both are
refused, or the two queries are related as those of their terms are (`Compiler.compile_alike`). What the queries of
single terms gather, from left to right, the query of the search has gathered (`Compiler.compile_gathers`).

Both statements are inductions over the tree in which a group is one step: a merge keeps the relation.
-/

namespace TermSearch

/-! ## Searches without their values -/

/-- A term without its value: nothing is left of what was typed behind the sign. -/
def Term.withoutValue (t : Term) : Term := { t with value := "", quoting := .none, text := "" }

theorem Term.eq_of_withoutValue {t t' : Term} (h : t.withoutValue = t'.withoutValue) :
    t.field = t'.field ∧ t.operator = t'.operator ∧ t.negated = t'.negated := by
  simp only [withoutValue, Term.mk.injEq] at h
  exact ⟨h.1, h.2.1, h.2.2.2.1⟩

namespace Node

mutual

/-- A node whose terms have lost their values. -/
def withoutValues : Node → Node
  | .term t => .term t.withoutValue
  | .group children keywords => .group (listWithoutValues children) keywords

/-- Nodes whose terms have lost their values. -/
def listWithoutValues : List Node → List Node
  | [] => []
  | node :: nodes => withoutValues node :: listWithoutValues nodes

end

end Node

/-- **The shape of a search**: its groups, keywords and terms, without the values of the terms. -/
def Group.withoutValues (g : Group) : Group :=
  { children := Node.listWithoutValues g.children, keywords := g.keywords }

namespace Node

mutual

theorem terms_withoutValues : ∀ node : Node, node.withoutValues.terms = node.terms.map Term.withoutValue
  | .term t => by rw [withoutValues, terms, terms, List.map_singleton]
  | .group children keywords => by rw [withoutValues, terms, terms, listTerms_withoutValues children]

theorem listTerms_withoutValues :
    ∀ nodes : List Node, listTerms (listWithoutValues nodes) = (listTerms nodes).map Term.withoutValue
  | [] => by rw [listWithoutValues, listTerms, List.map_nil]
  | node :: nodes => by
    rw [listWithoutValues, listTerms, listTerms, terms_withoutValues node, listTerms_withoutValues nodes,
      List.map_append]

end

end Node

/-- Searches of one shape have terms that differ in their values only. -/
theorem Group.map_withoutValue_terms {root root' : Group} (h : root.withoutValues = root'.withoutValues) :
    root.terms.map Term.withoutValue = root'.terms.map Term.withoutValue := by
  rw [Group.withoutValues, Group.withoutValues, Group.mk.injEq] at h
  rw [terms, terms, ← Node.listTerms_withoutValues, ← Node.listTerms_withoutValues, h.1]

/-! ## Two outcomes -/

/-- Both computations fail, or both give results that are related. -/
inductive Alike {ε α β : Type} (R : α → β → Prop) : Except ε α → Except ε β → Prop
  | ok {a : α} {b : β} (h : R a b) : Alike R (.ok a) (.ok b)
  | error (cause cause' : ε) : Alike R (.error cause) (.error cause')

namespace Alike

variable {ε α β γ δ : Type} {R : α → β → Prop} {x : Except ε α} {y : Except ε β}

theorem mono {S : α → β → Prop} (h : Alike R x y) (hRS : ∀ a b, x = .ok a → y = .ok b → R a b → S a b) :
    Alike S x y := by
  cases h with
  | ok h => exact .ok (hRS _ _ rfl rfl h)
  | error cause cause' => exact .error cause cause'

theorem map {S : γ → δ → Prop} {f : α → γ} {g : β → δ} (h : Alike R x y) (hRS : ∀ a b, R a b → S (f a) (g b)) :
    Alike S (x.map f) (y.map g) := by
  cases h with
  | ok h => exact .ok (hRS _ _ h)
  | error cause cause' => exact .error cause cause'

end Alike

/-! ## The compiler -/

namespace Compiler

variable {Q : Type} [Query Q] {c : Compiler Q} {calls : Calls Q}

section Alike

variable {R : Q → Q → Prop}

theorem mergeAll_alike
    (hmerge : ∀ p first rest first' rest', List.Forall₂ R (first :: rest) (first' :: rest') →
      R (Query.merge first p rest) (Query.merge first' p rest'))
    (p : Predicate) {queries queries' : List Q} (h : List.Forall₂ R queries queries') :
    Option.Rel R (mergeAll p queries) (mergeAll p queries') := by
  cases h with
  | nil => exact .none
  | cons hfirst hrest => exact .some (hmerge p _ _ _ _ (.cons hfirst hrest))

mutual

theorem nodeQueries_alike
    (hmerge : ∀ p first rest first' rest', List.Forall₂ R (first :: rest) (first' :: rest') →
      R (Query.merge first p rest) (Query.merge first' p rest'))
    (hterm : ∀ t t' : Term, t.withoutValue = t'.withoutValue →
      Alike (List.Forall₂ R) (c.termQueries calls t) (c.termQueries calls t')) :
    ∀ node node' : Node, node.withoutValues = node'.withoutValues →
      Alike (List.Forall₂ R) (c.nodeQueries calls node) (c.nodeQueries calls node')
  | .term t, .term t', h => by
    rw [Node.withoutValues, Node.withoutValues, Node.term.injEq] at h
    rw [nodeQueries, nodeQueries]
    exact hterm t t' h
  | .term t, .group children' keywords', h => by
    rw [Node.withoutValues, Node.withoutValues] at h
    cases h
  | .group children keywords, .term t', h => by
    rw [Node.withoutValues, Node.withoutValues] at h
    cases h
  | .group children keywords, .group children' keywords', h => by
    rw [Node.withoutValues, Node.withoutValues, Node.group.injEq] at h
    obtain ⟨hchildren, rfl⟩ := h
    rw [nodeQueries, nodeQueries]
    refine (listQueries_alike hmerge hterm children children' hchildren).map fun queries queries' hqueries => ?_
    -- a group without queries adds none on either side
    exact forall₂_toList (mergeAll_alike hmerge (Keyword.connective keywords) hqueries)

/-- **Nodes of one shape are answered alike**, if their terms are. -/
theorem listQueries_alike
    (hmerge : ∀ p first rest first' rest', List.Forall₂ R (first :: rest) (first' :: rest') →
      R (Query.merge first p rest) (Query.merge first' p rest'))
    (hterm : ∀ t t' : Term, t.withoutValue = t'.withoutValue →
      Alike (List.Forall₂ R) (c.termQueries calls t) (c.termQueries calls t')) :
    ∀ nodes nodes' : List Node, Node.listWithoutValues nodes = Node.listWithoutValues nodes' →
      Alike (List.Forall₂ R) (c.listQueries calls nodes) (c.listQueries calls nodes')
  | [], [], _ => by
    rw [listQueries]
    exact .ok .nil
  | [], node' :: nodes', h => by
    rw [Node.listWithoutValues, Node.listWithoutValues] at h
    cases h
  | node :: nodes, [], h => by
    rw [Node.listWithoutValues, Node.listWithoutValues] at h
    cases h
  | node :: nodes, node' :: nodes', h => by
    rw [Node.listWithoutValues, Node.listWithoutValues, List.cons.injEq] at h
    have hfirst := nodeQueries_alike hmerge hterm node node' h.1
    have hrest := listQueries_alike hmerge hterm nodes nodes' h.2
    rw [listQueries, listQueries]
    generalize c.nodeQueries calls node = built, c.nodeQueries calls node' = built' at hfirst
    -- the first node that fails ends both runs
    cases hfirst with
    | error cause cause' => exact .error cause cause'
    | ok hbuilt => exact hrest.map fun _ _ hmore => List.rel_append hbuilt hmore

end

/-- **Searches of one shape are compiled alike**: both are refused, or the queries are related. -/
theorem compile_alike
    (hmerge : ∀ p first rest first' rest', List.Forall₂ R (first :: rest) (first' :: rest') →
      R (Query.merge first p rest) (Query.merge first' p rest'))
    (hterm : ∀ t t' : Term, t.withoutValue = t'.withoutValue →
      Alike (List.Forall₂ R) (c.queriesFor t) (c.queriesFor t'))
    (hscope : R c.scope c.scope) {root root' : Group} (h : root.withoutValues = root'.withoutValues) :
    Alike R (c.compile root) (c.compile root') := by
  rw [Group.withoutValues, Group.withoutValues, Group.mk.injEq] at h
  have hpredicate : root.predicate = root'.predicate := congrArg Keyword.connective h.2
  unfold compile compileWith
  rw [hpredicate]
  refine (listQueries_alike hmerge hterm root.children root'.children h.1).map fun queries queries' hqueries => ?_
  have hmerged := mergeAll_alike hmerge root'.predicate hqueries
  generalize mergeAll root'.predicate queries = answer, mergeAll root'.predicate queries' = answer' at hmerged
  cases hmerged with
  | none => exact hscope
  | some h => exact h

end Alike

section Gathering

variable {β : Type} {R : Q → List β → Prop} {ofTerm : Term → List β}

/-- The merge has gathered what the merged queries have. -/
theorem mergeAll_gathers
    (hmerge : ∀ p first rest gathered, List.Forall₂ R (first :: rest) gathered →
      R (Query.merge first p rest) gathered.flatten)
    (p : Predicate) {queries : List Q} {gathered : List (List β)} (h : List.Forall₂ R queries gathered) :
    ∃ merged, List.Forall₂ R (mergeAll p queries).toList merged ∧ merged.flatten = gathered.flatten := by
  cases h with
  | nil => exact ⟨[], .nil, rfl⟩
  | cons hfirst hrest => exact ⟨[_], .cons (hmerge p _ _ _ (.cons hfirst hrest)) .nil, List.append_nil _⟩

mutual

theorem nodeQueries_gather
    (hmerge : ∀ p first rest gathered, List.Forall₂ R (first :: rest) gathered →
      R (Query.merge first p rest) gathered.flatten)
    (hterm : ∀ t queries, c.termQueries calls t = .ok queries →
      ∃ gathered, List.Forall₂ R queries gathered ∧ gathered.flatten = ofTerm t) :
    ∀ (node : Node) (queries : List Q), c.nodeQueries calls node = .ok queries →
      ∃ gathered, List.Forall₂ R queries gathered ∧ gathered.flatten = node.terms.flatMap ofTerm
  | .term t, queries, h => by
    rw [nodeQueries] at h
    rw [Node.terms, List.flatMap_singleton]
    exact hterm t queries h
  | .group children keywords, queries, h => by
    rw [nodeQueries] at h
    rw [Node.terms]
    cases hchildren : c.listQueries calls children with
    | error cause =>
      rw [hchildren] at h
      cases h
    | ok built =>
      rw [hchildren] at h
      cases h
      obtain ⟨gathered, hbuilt, hgathered⟩ := listQueries_gather hmerge hterm children built hchildren
      rw [← hgathered]
      exact mergeAll_gathers hmerge (Keyword.connective keywords) hbuilt

/-- **The queries of nodes have gathered what their terms contribute**, from left to right. -/
theorem listQueries_gather
    (hmerge : ∀ p first rest gathered, List.Forall₂ R (first :: rest) gathered →
      R (Query.merge first p rest) gathered.flatten)
    (hterm : ∀ t queries, c.termQueries calls t = .ok queries →
      ∃ gathered, List.Forall₂ R queries gathered ∧ gathered.flatten = ofTerm t) :
    ∀ (nodes : List Node) (queries : List Q), c.listQueries calls nodes = .ok queries →
      ∃ gathered, List.Forall₂ R queries gathered ∧ gathered.flatten = (Node.listTerms nodes).flatMap ofTerm
  | [], queries, h => by
    rw [listQueries] at h
    cases h
    exact ⟨[], .nil, by simp [Node.listTerms]⟩
  | node :: nodes, queries, h => by
    rw [listQueries] at h
    cases hnode : c.nodeQueries calls node with
    | error cause =>
      rw [hnode] at h
      cases h
    | ok built =>
      rw [hnode] at h
      cases hnodes : c.listQueries calls nodes with
      | error cause =>
        simp only [hnodes] at h
        cases h
      | ok more =>
        simp only [hnodes] at h
        cases h
        obtain ⟨gathered, hbuilt, hgathered⟩ := nodeQueries_gather hmerge hterm node built hnode
        obtain ⟨gathered', hmore, hgathered'⟩ := listQueries_gather hmerge hterm nodes more hnodes
        refine ⟨gathered ++ gathered', List.rel_append hbuilt hmore, ?_⟩
        rw [List.flatten_append, hgathered, hgathered', Node.listTerms, List.flatMap_append]

end

/-- The query of a search has gathered what its terms contribute, or there was nothing to gather and the scope
answers. -/
theorem compile_gathers_or
    (hmerge : ∀ p first rest gathered, List.Forall₂ R (first :: rest) gathered →
      R (Query.merge first p rest) gathered.flatten)
    (hterm : ∀ t queries, c.queriesFor t = .ok queries →
      ∃ gathered, List.Forall₂ R queries gathered ∧ gathered.flatten = ofTerm t)
    {root : Group} {q : Q} (h : c.compile root = .ok q) :
    R q (root.terms.flatMap ofTerm) ∨ q = c.scope ∧ root.terms.flatMap ofTerm = [] := by
  unfold compile compileWith at h
  cases hlist : c.listQueries (c.calls maxDepth) root.children with
  | error cause =>
    rw [hlist] at h
    cases h
  | ok built =>
    rw [hlist] at h
    cases h
    obtain ⟨gathered, hbuilt, hgathered⟩ := listQueries_gather hmerge hterm root.children built hlist
    obtain ⟨merged, hmerged, hflatten⟩ := mergeAll_gathers hmerge root.predicate hbuilt
    rw [Group.terms, ← hgathered, ← hflatten]
    show R ((mergeAll root.predicate built).getD c.scope) merged.flatten ∨
      (mergeAll root.predicate built).getD c.scope = c.scope ∧ merged.flatten = []
    generalize mergeAll root.predicate built = answer at hmerged
    cases answer with
    | none =>
      cases hmerged
      exact .inr ⟨rfl, rfl⟩
    | some q =>
      obtain ⟨values, _, hq, hnil, rfl⟩ := List.forall₂_cons_left_iff.mp hmerged
      cases hnil
      rw [List.flatten_singleton]
      exact .inl hq

/-- **The query of a search has gathered what its terms contribute**, from left to right. -/
theorem compile_gathers
    (hmerge : ∀ p first rest gathered, List.Forall₂ R (first :: rest) gathered →
      R (Query.merge first p rest) gathered.flatten)
    (hterm : ∀ t queries, c.queriesFor t = .ok queries →
      ∃ gathered, List.Forall₂ R queries gathered ∧ gathered.flatten = ofTerm t)
    (hscope : R c.scope []) {root : Group} {q : Q} (h : c.compile root = .ok q) :
    R q (root.terms.flatMap ofTerm) := by
  rcases compile_gathers_or hmerge hterm h with hq | ⟨rfl, hnil⟩
  · exact hq
  · rw [hnil]
    exact hscope

end Gathering

end Compiler

end TermSearch
