import TermSearch.Search.Term

/-!
# Search trees

A parsed search is a group of terms and groups. A group keeps the keywords that joined its children, and
its connective is read off them: the first keyword that stands for one decides, and without one the
children are joined by *and*. `Group.render` writes a tree with brackets and connectives in front, and
`Group.terms` lists its terms from left to right.
-/

namespace TermSearch

/-- A child of a group. -/
inductive Node where
  | term (term : Term)
  | group (children : List Node) (keywords : List Keyword)
  deriving Repr

/-- Children in order, and the keywords that joined them. -/
structure Group where
  children : List Node
  keywords : List Keyword
  deriving Repr

/-- The connective of a list of keywords: the first that stands for one, otherwise *and*. -/
def Keyword.connective (keywords : List Keyword) : Predicate :=
  (keywords.findSome? Keyword.predicate?).getD .and

namespace Node

/-- A group as a child of another. -/
def ofGroup (g : Group) : Node := .group g.children g.keywords

mutual

/-- The terms at or below a node, from left to right. -/
def terms : Node → List Term
  | .term t => [t]
  | .group children _ => listTerms children

/-- The terms at or below a list of nodes, from left to right. -/
def listTerms : List Node → List Term
  | [] => []
  | node :: nodes => terms node ++ listTerms nodes

end

mutual

/-- A node with its brackets and connectives. -/
def render : Node → String
  | .term t => t.render
  | .group children keywords =>
    "(" ++ (Keyword.connective keywords).name ++ renderList children ++ ")"

/-- The nodes of a list, each after a blank. -/
def renderList : List Node → String
  | [] => ""
  | node :: nodes => " " ++ render node ++ renderList nodes

end

end Node

namespace Group

/-- The connective that joins the children. -/
def predicate (g : Group) : Predicate := Keyword.connective g.keywords

/-- Whether the group has no children. -/
def isEmpty (g : Group) : Bool := g.children.isEmpty

/-- The terms of the group, from left to right. -/
def terms (g : Group) : List Term := Node.listTerms g.children

/-- The group with its brackets and connectives. -/
def render (g : Group) : String := (Node.ofGroup g).render

end Group

end TermSearch
