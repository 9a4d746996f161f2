/-!
# The engine for patterns

A selector can ask for texts in which a pattern occurs. What a pattern is and where it occurs is for an engine for
regular expressions to say, and this library does not choose one: whatever compiles selectors takes a `PatternEngine`,
of which it asks no more than to read a pattern. `TermSearch.Regex` is an engine that runs.
-/

namespace TermSearch

/-- How a pattern is to be read. -/
structure PatternFlags where
  /-- Whether a letter stands for its variants in case. -/
  ignoreCase : Bool
  /-- Whether the signs for the start and the end of a text stand for those of its lines too. -/
  multiLine : Bool
  /-- Whether the point stands for a line feed too. -/
  dotAll : Bool
  deriving DecidableEq, Repr

/-- Why a pattern cannot be used. -/
inductive PatternRefusal where
  /-- The text is no pattern, and the engine's report of what is wrong with it. -/
  | malformed (report : String)
  /-- A compiled form would take too much room. -/
  | tooLarge
  deriving DecidableEq, Repr

namespace PatternRefusal

/-- How many bytes a compiled form may take; engines are not asked to allow another size. -/
def sizeLimit : Nat := 10485760

/-- The wording of the cause. -/
def message : PatternRefusal → String
  | .malformed report => report
  | .tooLarge => "Compiled regex exceeds size limit of " ++ Nat.repr sizeLimit ++ " bytes."

end PatternRefusal

/-- An engine for regular expressions. -/
class PatternEngine where
  /-- In which texts a pattern occurs, or why the pattern cannot be used. -/
  read : PatternFlags → String → Except PatternRefusal (String → Bool)
  /-- Whether two characters differ in case at most. -/
  sameCase : Char → Char → Bool

end TermSearch
