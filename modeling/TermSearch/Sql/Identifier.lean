import TermSearch.Text.Split

/-!
# Quoted identifiers

A dotted name is written segment by segment, each in quotation marks with the marks inside it doubled. The
segment `*` stands alone, so that all columns of a table can be named.
-/

namespace TermSearch.Sql

/-- The characters of a quoted segment: a quotation mark is doubled. -/
def escapeMark (c : Char) : List Char := if c = '"' then ['"', '"'] else [c]

/-- One segment of a name, in quotation marks unless it is `*`. -/
def quoteSegment (segment : List Char) : List Char :=
  if segment = ['*'] then segment else '"' :: (segment.flatMap escapeMark ++ ['"'])

/-- The characters of a quoted name. -/
def quoteChars (name : List Char) : List Char :=
  Text.joinWith '.' ((Text.splitOn '.' name).map quoteSegment)

/-- **A name as an identifier.** -/
def quoteName (name : String) : String := String.ofList (quoteChars name.toList)

end TermSearch.Sql
