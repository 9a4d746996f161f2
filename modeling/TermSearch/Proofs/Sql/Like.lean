import Mathlib.Data.List.Infix
import TermSearch.Proofs.Wildcard.Prefix

/-!
# What a `LIKE` pattern accepts

`LIKE` with the escape character `\` reads a pattern from left to right: `%` accepts any run of characters, `_` exactly
one, an escaped character itself (`Like.read`), and the whole text has to be accepted (`Like.accepts`). The pattern
written for a value accepts the texts that are like the value (`Like.toLike_faithful`).

The argument has two halves:

* a pattern is read back as one part for each character of the value, and nothing is escaped but what needs it
  (`read_toLike`), so the parts accept what the segments match (`accepts_partOf`);
* an open end accepts what starts with an accepted text (`accepts_append_run`), and it is left out only after a `*`,
  which is an open end itself (`ends_in_star`).
-/

namespace TermSearch.Sql.Like

open TermSearch.Wildcard

/-! ## Reading a pattern -/

/-- A part of a pattern. -/
inductive Part where
  /-- A character without a meaning of its own. -/
  | char (c : Char)
  /-- The escape character and the one behind it. -/
  | escaped (c : Char)
  /-- `%` -/
  | run
  /-- `_` -/
  | one
  /-- The escape character with nothing behind it. -/
  | lone
  deriving DecidableEq, Repr

/-- The parts of a pattern, where `\` escapes. -/
def read : List Char → List Part
  | [] => []
  | ['\\'] => [.lone]
  | '\\' :: c :: rest => .escaped c :: read rest
  | '%' :: rest => .run :: read rest
  | '_' :: rest => .one :: read rest
  | c :: rest => .char c :: read rest

theorem read_plain {c : Char} (hescape : c ≠ '\\') (hrun : c ≠ '%') (hone : c ≠ '_') (rest : List Char) :
    read (c :: rest) = .char c :: read rest := by
  rw [read]
  all_goals simp_all

/-! ## Accepting a text -/

/-- Whether parts accept a text, where the second of two characters is accepted for the first if they are the `same`. An
escape character that escapes nothing accepts nothing. -/
def accepts (same : Char → Char → Bool) : List Part → List Char → Bool
  | [], text => text.isEmpty
  | .char c :: parts, t :: text => same c t && accepts same parts text
  | .escaped c :: parts, t :: text => same c t && accepts same parts text
  | .one :: parts, _ :: text => accepts same parts text
  | .run :: parts, text => text.tails.any (accepts same parts)
  | _, _ => false

/-- The pieces of a text that one part accepts. -/
def Part.Takes (same : Char → Char → Bool) : Part → List Char → Prop
  | .char c, piece => ∃ t, piece = [t] ∧ same c t = true
  | .escaped c, piece => ∃ t, piece = [t] ∧ same c t = true
  | .run, _ => True
  | .one, piece => ∃ t, piece = [t]
  | .lone, _ => False

section

variable {same : Char → Char → Bool} {parts more : List Part} {text : List Char}

/-- **The first part takes a piece off the front of the text.** -/
theorem accepts_cons {part : Part} : accepts same (part :: parts) text = true ↔
    ∃ piece rest, text = piece ++ rest ∧ part.Takes same piece ∧ accepts same parts rest = true := by
  cases part with
  | char c => cases text <;> simp [accepts, Part.Takes]
  | escaped c => cases text <;> simp [accepts, Part.Takes]
  | one => cases text <;> simp [accepts, Part.Takes]
  | lone => cases text <;> simp [accepts, Part.Takes]
  | run =>
    rw [accepts, List.any_eq_true]
    constructor
    · rintro ⟨rest, hrest, haccepts⟩
      obtain ⟨piece, rfl⟩ := (List.mem_tails rest text).mp hrest
      exact ⟨piece, rest, rfl, trivial, haccepts⟩
    · rintro ⟨piece, rest, rfl, _, haccepts⟩
      exact ⟨rest, (List.mem_tails rest _).mpr (List.suffix_append piece rest), haccepts⟩

theorem accepts_append : accepts same (parts ++ more) text = true ↔
    ∃ first rest, text = first ++ rest ∧ accepts same parts first = true ∧ accepts same more rest = true := by
  induction parts generalizing text with
  | nil => simp [accepts]
  | cons part parts ih =>
    simp only [List.cons_append, accepts_cons, ih]
    constructor
    · rintro ⟨piece, _, rfl, hpiece, first, rest, rfl, hfirst, hrest⟩
      exact ⟨piece ++ first, rest, (List.append_assoc ..).symm, ⟨piece, first, rfl, hpiece, hfirst⟩, hrest⟩
    · rintro ⟨_, rest, rfl, ⟨piece, first, rfl, hpiece, hfirst⟩, hrest⟩
      exact ⟨piece, first ++ rest, List.append_assoc .., hpiece, first, rest, rfl, hfirst, hrest⟩

/-- **An open end** accepts what starts with an accepted text. -/
theorem accepts_append_run : accepts same (parts ++ [.run]) text = true ↔
    ∃ start, start <+: text ∧ accepts same parts start = true := by
  have hrun : ∀ rest, accepts same [.run] rest = true := fun rest =>
    accepts_cons.mpr ⟨rest, [], (List.append_nil rest).symm, trivial, rfl⟩
  rw [accepts_append]
  constructor
  · rintro ⟨start, rest, rfl, hstart, _⟩
    exact ⟨start, List.prefix_append start rest, hstart⟩
  · rintro ⟨start, ⟨rest, rfl⟩, hstart⟩
    exact ⟨start, rest, rfl, hstart, hrun rest⟩

end

/-! ## The pattern for a value -/

/-- A character of a value, as it is written in a pattern. -/
def likeChars (c : Char) : List Char := if c = '*' then ['%'] else if c = '?' then ['_'] else escapeLike c

/-- The part that a character of a value becomes. -/
def partOf (c : Char) : Part :=
  if c = '*' then .run else if c = '?' then .one
  else if c = '\\' ∨ c = '%' ∨ c = '_' then .escaped c else .char c

/-- What is written for characters is read back as one part for each. -/
theorem read_flatMap (cs tail : List Char) :
    read (cs.flatMap likeChars ++ tail) = cs.map partOf ++ read tail := by
  induction cs with
  | nil => rfl
  | cons c cs ih =>
    have hchar : ∀ rest, read (likeChars c ++ rest) = partOf c :: read rest := by
      intro rest
      unfold likeChars partOf escapeLike
      by_cases hmany : c = '*'
      · simp [hmany, read]
      by_cases hone : c = '?'
      · simp [hone, read]
      by_cases hescaped : c = '\\' ∨ c = '%' ∨ c = '_'
      · simp [hmany, hone, hescaped, read]
      · simp only [not_or] at hescaped
        simp [hmany, hone, hescaped, read_plain]
    rw [List.flatMap_cons, List.append_assoc, hchar, ih]
    rfl

/-- **The parts of a value accept what its segments match.** -/
theorem accepts_partOf {same : Char → Char → Bool} {cs text : List Char} :
    accepts same (cs.map partOf) text = true ↔ Matches same (fun _ => True) (segments cs) text := by
  fun_induction segments cs generalizing text with
  | case1 => simp [accepts, matches_nil]
  | case2 rest ih => simp [partOf, accepts_cons, Part.Takes, matches_many, ih]
  | case3 rest ih =>
    simp only [List.map_cons, accepts_cons, matches_one, ← ih]
    constructor
    · rintro ⟨_, rest, rfl, ⟨t, rfl⟩, hrest⟩
      exact ⟨t, rest, rfl, trivial, hrest⟩
    · rintro ⟨t, rest, rfl, _, hrest⟩
      exact ⟨[t], rest, rfl, ⟨t, rfl⟩, hrest⟩
  | case4 c rest hmany hone ih =>
    have htakes : ∀ piece, (partOf c).Takes same piece ↔ ∃ t, piece = [t] ∧ same c t = true := by
      intro piece
      unfold partOf
      rw [if_neg hmany, if_neg hone]
      split <;> rfl
    simp only [List.map_cons, accepts_cons, matches_cons, htakes, ← ih]
    constructor
    · rintro ⟨_, rest, rfl, ⟨t, rfl, hc⟩, hrest⟩
      exact ⟨t, rest, rfl, hc, hrest⟩
    · rintro ⟨t, rest, rfl, hc, hrest⟩
      exact ⟨[t], rest, rfl, ⟨t, rfl, hc⟩, hrest⟩

/-- A pattern that visibly ends in a wildcard is written for a value that ends in `*`: a `%` of the value is escaped. -/
theorem ends_in_star {cs : List Char} (h : endsOpen (cs.flatMap likeChars) = true) : ∃ front, cs = front ++ ['*'] := by
  rcases List.eq_nil_or_concat' cs with rfl | ⟨front, c, rfl⟩
  · cases h
  rw [List.flatMap_append, List.flatMap_singleton] at h
  generalize front.flatMap likeChars = written at h
  obtain ⟨hopen, hescaped⟩ : ['%'] <:+ written ++ likeChars c ∧ ¬ ['\\', '%'] <:+ written ++ likeChars c := by
    simpa [endsOpen, ← List.isSuffixOf_iff_suffix] using h
  by_cases hmany : c = '*'
  · exact ⟨front, by rw [hmany]⟩
  -- what is written last is the character itself, but for a `?`
  obtain ⟨init, hchars⟩ : ∃ init, likeChars c = init ++ [if c = '?' then '_' else c] := by
    unfold likeChars escapeLike
    rw [if_neg hmany]
    split
    · exact ⟨[], rfl⟩
    split
    · exact ⟨['\\'], rfl⟩
    · exact ⟨[], rfl⟩
  obtain ⟨before, hbefore⟩ := hopen
  rw [hchars, ← List.append_assoc] at hbefore
  have hlast : '%' = if c = '?' then '_' else c := by simpa using List.append_inj_right' hbefore rfl
  split at hlast
  · cases hlast
  · subst hlast
    exact absurd (List.suffix_append written ['\\', '%']) hescaped

/-- **The pattern for a value is read as the value says**, with an open end. Only after a `*` there is none, and it
would make no difference. -/
theorem read_toLike (value : String) :
    ∃ tail, read (toLike value).toList = value.toList.map partOf ++ tail ∧
      (tail = [.run] ∨ tail = [] ∧ ∃ front, value.toList = front ++ ['*']) := by
  have hbody : (segments value.toList).flatMap Segment.toLike = value.toList.flatMap likeChars :=
    flatMap_segments Segment.toLike escapeLike (fun _ => rfl) value.toList
  rw [toLike, hbody, String.toList_ofList]
  split
  · next hopen =>
    refine ⟨[], ?_, .inr ⟨rfl, ends_in_star hopen⟩⟩
    simpa [read] using read_flatMap value.toList []
  · exact ⟨[.run], read_flatMap value.toList ['%'], .inl rfl⟩

/-- The pattern for a value accepts the texts that are like the value. -/
theorem accepts_toLike {same : Char → Char → Bool} {value text : String} :
    accepts same (read (toLike value).toList) text.toList = true ↔ IsLike same (fun _ => True) value text := by
  obtain ⟨tail, hread, htail⟩ := read_toLike value
  rw [hread, IsLike, Begins]
  simp only [← accepts_partOf]
  rcases htail with rfl | ⟨rfl, front, hfront⟩
  · exact accepts_append_run
  · have hparts : value.toList.map partOf = front.map partOf ++ [.run] := by
      rw [hfront, List.map_append]
      rfl
    rw [List.append_nil, hparts]
    constructor
    · intro h
      exact ⟨text.toList, List.prefix_rfl, h⟩
    · rintro ⟨start, hstart, h⟩
      obtain ⟨first, hfirst, haccepts⟩ := accepts_append_run.mp h
      exact accepts_append_run.mpr ⟨first, hfirst.trans hstart, haccepts⟩

/-- What is escaped in the pattern for a value has a meaning of its own, and nothing is left to escape at the end. -/
theorem escaped_toLike (value : String) : .lone ∉ read (toLike value).toList ∧
    ∀ c, .escaped c ∈ read (toLike value).toList → c = '\\' ∨ c = '%' ∨ c = '_' := by
  obtain ⟨tail, hread, htail⟩ := read_toLike value
  have hmem : ∀ part ∈ read (toLike value).toList, part = .run ∨ ∃ c ∈ value.toList, part = partOf c := by
    intro part hpart
    rw [hread, List.mem_append] at hpart
    rcases hpart with hpart | hpart
    · obtain ⟨c, hc, rfl⟩ := List.mem_map.mp hpart
      exact .inr ⟨c, hc, rfl⟩
    · rcases htail with rfl | ⟨rfl, _⟩
      · exact .inl (List.mem_singleton.mp hpart)
      · cases hpart
  have hpart : ∀ c, partOf c ≠ .lone ∧ ∀ d, .escaped d = partOf c → d = '\\' ∨ d = '%' ∨ d = '_' := by
    intro c
    unfold partOf
    split
    · simp
    split
    · simp
    split
    · next hmeaning =>
      refine ⟨by simp, ?_⟩
      rintro d ⟨⟩
      exact hmeaning
    · simp
  constructor
  · intro hlone
    rcases hmem _ hlone with h | ⟨c, _, h⟩
    · cases h
    · exact (hpart c).1 h.symm
  · intro d hd
    rcases hmem _ hd with h | ⟨c, _, h⟩
    · cases h
    · exact (hpart c).2 d h

/-- **The pattern for a value is a faithful prefix match.** The value is cut tidily, and its segments written out are the
value. The pattern accepts the texts that are like the value, whichever characters count as the same. It is read as one
part for each character of the value, so a `%`, a `_` and a `\` of the value stand for themselves wherever they are, and
an escape character is followed by one of the three. -/
theorem toLike_faithful (value : String) :
    ((segments value.toList).flatMap Segment.source = value.toList ∧ Tidy (segments value.toList)) ∧
    (∀ (same : Char → Char → Bool) (text : String),
      accepts same (read (toLike value).toList) text.toList = true ↔ IsLike same (fun _ => True) value text) ∧
    (∃ tail, read (toLike value).toList = value.toList.map partOf ++ tail ∧
      (tail = [.run] ∨ tail = [] ∧ ∃ front, value.toList = front ++ ['*'])) ∧
    .lone ∉ read (toLike value).toList ∧
    ∀ c, .escaped c ∈ read (toLike value).toList → c = '\\' ∨ c = '%' ∨ c = '_' :=
  ⟨⟨source_segments value.toList, tidy_segments value.toList⟩, fun _ _ => accepts_toLike, read_toLike value,
    escaped_toLike value⟩

-- the last `%` belongs to the value, so the pattern is not open yet
example : read (toLike "*\\%").toList = [.run, .escaped '\\', .escaped '%', .run] := by decide

end TermSearch.Sql.Like
