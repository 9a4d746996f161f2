import TermSearch.Search.Tree
import TermSearch.Json.Record

/-!
# Search trees as JSON

A tree is exchanged as nested records: a node is an object with the one member `Term` or `Group`. What is
written reads back; what is read has to have every field but the keywords of a group and the field of a
term, and its operator is the one to compare with, a negation already applied.
-/

namespace TermSearch

/-- A term as a record. -/
def Term.toJson (t : Term) : Json :=
  .ofFields [("field", .ofOption .string t.field), ("operator", .string t.operator.name),
    ("value", .string t.value), ("negated", .bool t.negated),
    ("quoting", .string t.quoting.name), ("text", .string t.text)]

/-- The term of a record. An array has to write the field even when there is none. -/
def Term.ofJson? (value : Json) : Option Term := do
  let fields ← value.record? ["field", "operator", "value", "negated", "quoting", "text"]
  return {
    field := ← ((fields.get? "field").elim (some none) Json.optionalText?)
    operator := ← (← fields.get? "operator").choice? Operator.ofName?
    value := ← (← fields.get? "value").text?
    negated := ← (← fields.get? "negated").bool?
    quoting := ← (← fields.get? "quoting").choice? Quoting.ofName?
    text := ← (← fields.get? "text").text? }

namespace Node

/-- A list of keywords. -/
def keywordsToJson (keywords : List Keyword) : Json := .ofTexts (keywords.map Keyword.name)

/-- The record of a group. -/
def groupRecord (children keywords : Json) : Json :=
  .ofFields [("children", children), ("keywords", keywords)]

mutual

/-- A node as an object with one member. -/
def toJson : Node → Json
  | .term t => .object (KeyMap.single "Term" t.toJson)
  | .group children keywords =>
    .object (KeyMap.single "Group" (groupRecord (.array (listToJson children)) (keywordsToJson keywords)))

/-- The nodes of a list. -/
def listToJson : List Node → List Json
  | [] => []
  | node :: nodes => toJson node :: listToJson nodes

end

/-- The keywords of a list. -/
def keywordsOfJson? (value : Json) : Option (List Keyword) := do
  (← value.items?).mapM (·.choice? Keyword.ofName?)

end Node

namespace Group

/-- A group as a record. -/
def toJson (g : Group) : Json :=
  Node.groupRecord (.array (Node.listToJson g.children)) (Node.keywordsToJson g.keywords)

/-- The group of a record whose nodes are nested at most `depth` deep. -/
def ofJsonWithin? : Nat → Json → Option Group
  | 0, _ => none
  | depth + 1, value => do
    let fields ← value.record? ["children", "keywords"]
    let children ← (← (← fields.get? "children").items?).mapM fun child => do
      match ← child.variant? with
      | ("Term", term) => return Node.term (← Term.ofJson? term)
      | ("Group", group) => return Node.ofGroup (← ofJsonWithin? depth group)
      | _ => none
    let keywords ← match fields.get? "keywords" with
      | none => some []
      | some value => Node.keywordsOfJson? value
    return { children, keywords }

/-- The group of a record. A nested group is nested as a value too, so the depth of the value bounds that
of the tree. -/
def ofJson? (value : Json) : Option Group := ofJsonWithin? (value.depth + 1) value

end Group

end TermSearch
