/-!
# Wildcard patterns

The value of a *like* term is a pattern: `*` stands for any run of characters, `?` for exactly one, and
everything else for itself. A text is like the value when it starts with a match of the pattern. A pattern is
kept as its segments, longest runs of plain characters and single wildcards, and is written in two ways:
for `LIKE` with the escape character `\`, and as a regular expression.
-/

namespace TermSearch.Wildcard

/-- A part of a pattern. -/
inductive Segment where
  /-- Characters that stand for themselves. -/
  | literal (chars : List Char)
  /-- Any run of characters. -/
  | many
  /-- Exactly one character. -/
  | one
  deriving DecidableEq, Repr

/-- A character in front of segments: it joins a literal that they start with. -/
def Segment.cons (c : Char) : List Segment → List Segment
  | .literal chars :: rest => .literal (c :: chars) :: rest
  | rest => .literal [c] :: rest

/-- The segments of a pattern. -/
def segments : List Char → List Segment
  | [] => []
  | '*' :: rest => .many :: segments rest
  | '?' :: rest => .one :: segments rest
  | c :: rest => Segment.cons c (segments rest)

/-- A segment as it is written in a pattern. -/
def Segment.source : Segment → List Char
  | .literal chars => chars
  | .many => ['*']
  | .one => ['?']

theorem source_cons (c : Char) (parts : List Segment) :
    (Segment.cons c parts).flatMap Segment.source = c :: parts.flatMap Segment.source := by
  unfold Segment.cons
  split <;> simp [Segment.source]

/-- The segments written out are the pattern. -/
theorem source_segments (cs : List Char) : (segments cs).flatMap Segment.source = cs := by
  fun_induction segments cs with
  | case1 => rfl
  | case2 rest ih => simp [Segment.source, ih]
  | case3 rest ih => simp [Segment.source, ih]
  | case4 c rest _ _ ih => rw [source_cons, ih]

/-! ## As a `LIKE` pattern -/

/-- A plain character in a `LIKE` pattern: those with a meaning there are escaped. -/
def escapeLike (c : Char) : List Char :=
  if c = '\\' ∨ c = '%' ∨ c = '_' then ['\\', c] else [c]

/-- A segment in a `LIKE` pattern. -/
def Segment.toLike : Segment → List Char
  | .literal chars => chars.flatMap escapeLike
  | .many => ['%']
  | .one => ['_']

/-- Whether a `LIKE` pattern visibly ends in a wildcard for any run: in `%`, and not in `\%`. -/
def endsOpen (pattern : List Char) : Bool :=
  ['%'].isSuffixOf pattern && !(['\\', '%'].isSuffixOf pattern)

/-- The pattern for `LIKE`, open at its end. -/
def toLike (value : String) : String :=
  let body := (segments value.toList).flatMap Segment.toLike
  String.ofList (if endsOpen body then body else body ++ ['%'])

/-! ## As a regular expression -/

/-- Whether a character has a meaning in some regular expression. -/
def isRegexMeta (c : Char) : Bool :=
  ['\\', '.', '+', '*', '?', '(', ')', '|', '[', ']', '\x7b', '\x7d', '^', '$', '#', '&', '-', '~'].contains c

/-- A plain character in a regular expression. -/
def escapeRegex (c : Char) : List Char := if isRegexMeta c then ['\\', c] else [c]

/-- A segment in a regular expression. -/
def Segment.toRegex : Segment → List Char
  | .literal chars => chars.flatMap escapeRegex
  | .many => ['.', '*']
  | .one => ['.']

/-- The regular expression for the texts that start with a match. -/
def toRegex (value : String) : String :=
  String.ofList ('^' :: (segments value.toList).flatMap Segment.toRegex)

end TermSearch.Wildcard
