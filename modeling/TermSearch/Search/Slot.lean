import TermSearch.Search.Lexeme
import TermSearch.Search.Tree

/-!
# Slots and their runs

The terms of a search stand in slots, with keywords between them. Slots that are joined by *or* form one
group each maximal run, and the slots between such runs form groups joined by *and*: so *or* binds tighter
than *and*, and a search has one level of groups.

A void term keeps its slot, so the keywords on its two sides do not run together, but it adds no child. A
negation belongs to the next term, and keywords after the last term belong to nothing.
-/

namespace TermSearch

/-- One term of a search, and the connective keywords between the term before it and it. -/
structure Slot where
  before : List Keyword
  /-- Missing for a void term. -/
  term : Option Term
  deriving DecidableEq, Repr

namespace Slot

/-- Whether the keywords before the slot join it by *or*: the first of them is. -/
def joinsByOr (s : Slot) : Bool := s.before.findSome? Keyword.predicate? == some .or

/-- The children that a slot adds to its group. -/
def nodes (s : Slot) : List Node := s.term.toList.map .term

/-- The slots of a run of lexemes, and the connective keywords after the last of them; `before` and
`negated` are what was read since the last term. -/
def collect (before : List Keyword) (negated : Bool) : List Lexeme → List Slot × List Keyword
  | [] => ([], before)
  | .keyword .not :: rest => collect before true rest
  | .keyword k :: rest => collect (before ++ [k]) negated rest
  | .term w :: rest =>
    let (slots, trailing) := collect [] false rest
    ({ before, term := w.finish? negated } :: slots, trailing)

/-- The groups of the slots from here on, and the keywords between groups. `children` and `keywords` are
those of the group that is open, and `orBefore` tells whether its last slot is joined to the one before it
by *or*. The next slot joins the open group when it is joined by *or*, or when neither of the two has a
neighbour that is. -/
def runs (orBefore : Bool) (children : List Node) (keywords : List Keyword) :
    List Slot → List Group × List Keyword
  | [] => ([{ children, keywords }], [])
  | slot :: rest =>
    let orAfter := rest.head?.any joinsByOr
    if slot.joinsByOr || (!orBefore && !orAfter) then
      runs slot.joinsByOr (children ++ slot.nodes) (keywords ++ slot.before) rest
    else
      let (groups, between) := runs slot.joinsByOr slot.nodes [] rest
      ({ children, keywords } :: groups, slot.before ++ between)

end Slot

/-- The search tree of a list of lexemes. Without any term it has no children and keeps the keywords. -/
def Group.ofLexemes (lexemes : List Lexeme) : Group :=
  match Slot.collect [] false lexemes with
  | ([], trailing) => { children := [], keywords := trailing }
  | (first :: rest, _) =>
    let (groups, between) := Slot.runs false first.nodes [] rest
    { children := groups.map Node.ofGroup, keywords := first.before ++ between }

/-- A way of reading searches: a name, and the tree of a text. -/
structure Language where
  name : String
  parse : String → Group

/-- **The search tree of a text.** -/
def parseSearch (input : String) : Group := .ofLexemes (lex input)

/-- The language of keywords, fields and quoted values. -/
def Language.simple : Language := { name := "simple", parse := parseSearch }

end TermSearch
