/-!
# Splitting a text at a separator

A text with `n` separators has `n + 1` parts, so the empty text has one empty part. Writing the
parts again with the separator between them gives the text back (`joinWith_splitOn`), and the
parts on either side of a separator do not depend on what is on the other side (`splitOn_append`).
-/

namespace TermSearch.Text

/-- The parts of a text between the separators, in order. -/
def splitOn (sep : Char) : List Char → List (List Char)
  | [] => [[]]
  | c :: rest =>
    if c = sep then [] :: splitOn sep rest
    else match splitOn sep rest with
      | [] => [[c]]
      | part :: parts => (c :: part) :: parts

/-- The parts of a text with a separator between neighbours. -/
def joinWith (sep : Char) : List (List Char) → List Char
  | [] => []
  | [part] => part
  | part :: next :: parts => part ++ sep :: joinWith sep (next :: parts)

theorem splitOn_ne_nil (sep : Char) (cs : List Char) : splitOn sep cs ≠ [] := by
  cases cs with
  | nil => simp [splitOn]
  | cons c rest =>
    unfold splitOn
    split
    · simp
    · split <;> simp

/-- **Splitting loses nothing**: the parts with the separator between them are the text. -/
theorem joinWith_splitOn (sep : Char) (cs : List Char) : joinWith sep (splitOn sep cs) = cs := by
  induction cs with
  | nil => rfl
  | cons c rest ih =>
    unfold splitOn
    split
    · next h =>
      subst h
      cases hs : splitOn c rest with
      | nil => exact absurd hs (splitOn_ne_nil c rest)
      | cons part parts => rw [hs] at ih; simp [joinWith, ih]
    · cases hs : splitOn sep rest with
      | nil => exact absurd hs (splitOn_ne_nil sep rest)
      | cons part parts =>
        rw [hs] at ih
        cases parts with
        | nil => simpa [joinWith] using ih
        | cons next more => simpa [joinWith] using ih

/-- A text without separators is its only part. -/
theorem splitOn_of_notMem {sep : Char} {cs : List Char} (h : sep ∉ cs) : splitOn sep cs = [cs] := by
  induction cs with
  | nil => rfl
  | cons c rest ih =>
    have hc : c ≠ sep := fun e => h (e ▸ List.mem_cons_self)
    have hrest : sep ∉ rest := fun hmem => h (List.mem_cons_of_mem c hmem)
    rw [splitOn, if_neg hc, ih hrest]

/-- **Splitting is done on either side of a separator.** -/
theorem splitOn_append (sep : Char) (cs ds : List Char) :
    splitOn sep (cs ++ sep :: ds) = splitOn sep cs ++ splitOn sep ds := by
  induction cs with
  | nil => simp [splitOn]
  | cons c rest ih =>
    rw [List.cons_append, splitOn, splitOn]
    by_cases hc : c = sep
    · rw [if_pos hc, if_pos hc, ih]
      rfl
    · rw [if_neg hc, if_neg hc, ih]
      obtain ⟨part, parts, hparts⟩ := List.exists_cons_of_ne_nil (splitOn_ne_nil sep rest)
      rw [hparts]
      rfl

/-- The dotted segments of a path or of an identifier. -/
def segments (s : String) : List String := (splitOn '.' s.toList).map String.ofList

theorem segments_ne_nil (s : String) : segments s ≠ [] := by
  rw [segments, ne_eq, List.map_eq_nil_iff]
  exact splitOn_ne_nil _ _

/-- A text can be told from its segments. -/
theorem segments_injective {s t : String} (h : segments s = segments t) : s = t := by
  have hparts := congrArg (List.map String.toList) h
  simp only [segments, List.map_map, Function.comp_def, String.toList_ofList, List.map_id'] at hparts
  rw [← String.toList_inj, ← joinWith_splitOn '.' s.toList, hparts, joinWith_splitOn]

/-- A name without dots is its only segment. -/
theorem segments_of_notMem {name : String} (h : '.' ∉ name.toList) : segments name = [name] := by
  rw [segments, splitOn_of_notMem h, List.map_singleton, String.ofList_toList]

/-- The segments on either side of a dot follow one another. -/
theorem segments_append (s t : String) : segments (s ++ "." ++ t) = segments s ++ segments t := by
  have htext : (s ++ "." ++ t).toList = s.toList ++ '.' :: t.toList := by
    rw [String.toList_append, String.toList_append, List.append_assoc]
    rfl
  rw [segments, htext, splitOn_append, List.map_append, segments, segments]

end TermSearch.Text
