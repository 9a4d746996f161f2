import TermSearch.Document.Compare
import TermSearch.Document.Path

/-!
# Filters

What a selector means: conditions on documents built from tests of the values at a path. A test looks at all
values found at once, so that it can tell a missing field from one with another value.
-/

namespace TermSearch.Document

/-- Which orders a comparison accepts. -/
inductive Bound where
  | gt | gte | lt | lte
  deriving DecidableEq, Repr

/-- Whether a comparison accepts an order. -/
def Bound.accepts : Bound → Ordering → Bool
  | .gt, o => o == .gt
  | .gte, o => o != .lt
  | .lt, o => o == .lt
  | .lte, o => o != .gt

/-- A test of the values found at a path. -/
inductive PathTest where
  | eq (wanted : Json)
  | ne (wanted : Json)
  | compare (bound : Bound) (wanted : Json)
  /-- Some text is one that a pattern occurs in. -/
  | matches (occursIn : String → Bool)
  | isIn (options : List Json)
  | notIn (options : List Json)
  | exists (expected : Bool)
  | not (test : PathTest)
  | all (tests : List PathTest)

/-- A condition on documents. -/
inductive Filter where
  | all (parts : List Filter)
  | any (parts : List Filter)
  | field (path : String) (test : PathTest)

/-- Whether a wanted value is among those found. -/
def isFound (found : List Json) (wanted : Json) : Bool := found.any (equalValues · wanted)

/-- Whether the values found pass for a wanted one; null passes for a field that is missing. -/
def equalsFound (found : List Json) (wanted : Json) : Bool :=
  (found.isEmpty && wanted.isNull) || isFound found wanted

namespace PathTest

mutual

/-- Whether the values found pass a test. -/
def passes (found : List Json) : PathTest → Bool
  | .eq wanted => equalsFound found wanted
  | .ne wanted => !equalsFound found wanted
  | .compare bound wanted =>
    found.any fun value => (valueOrder? value wanted).any bound.accepts
  | .matches occursIn => found.any fun value => value.text?.any occursIn
  | .isIn options => options.any (isFound found)
  | .notIn options => !options.any (isFound found)
  | .exists expected => found.isEmpty != expected
  | .not test => !passes found test
  | .all tests => passesAll found tests

/-- Whether the values found pass every test of a list. -/
def passesAll (found : List Json) : List PathTest → Bool
  | [] => true
  | test :: tests => passes found test && passesAll found tests

end

end PathTest

namespace Filter

mutual

/-- Whether a document meets a condition. -/
def accepts (document : Json) : Filter → Bool
  | .all parts => acceptsAll document parts
  | .any parts => acceptsAny document parts
  | .field path test => test.passes (resolve document path)

/-- Whether a document meets every condition of a list. -/
def acceptsAll (document : Json) : List Filter → Bool
  | [] => true
  | part :: parts => accepts document part && acceptsAll document parts

/-- Whether a document meets some condition of a list. -/
def acceptsAny (document : Json) : List Filter → Bool
  | [] => false
  | part :: parts => accepts document part || acceptsAny document parts

end

end Filter

end TermSearch.Document
