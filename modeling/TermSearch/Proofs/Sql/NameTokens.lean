import TermSearch.Proofs.Sql.Identifier

/-!
# Identifiers read back

An identifier in a statement is read from left to right: a token is a quotation, which ends at the first mark that is
not doubled, or a bare `*`, and between two tokens there is a dot. A name is cut at its dots before its segments are
quoted, so the marks and dots of the name stand among those of the identifier. They are not taken for them: behind a
closing mark there is a dot or the end, so it is never read as half of a doubled one, and a dot between two marks is
inside a quotation. So the tokens are the segments of the name (`tokens_quoteChars`).
-/

namespace TermSearch.Sql

/-! ## Tokens -/

/-- A token of an identifier. -/
inductive NameToken where
  /-- A quotation, with the text between its marks. -/
  | quoted (text : List Char)
  | star
  deriving DecidableEq, Repr

/-- What a token says. -/
def NameToken.text : NameToken → String
  | .quoted text => String.ofList text
  | .star => "*"

/-- The text of a quotation behind its opening mark, a doubled mark read as one, and what follows the closing mark. -/
def readQuotation? : List Char → Option (List Char × List Char)
  | [] => none
  | [c] => if c = '"' then some ([], []) else none
  | c :: d :: rest =>
    if c ≠ '"' then (readQuotation? (d :: rest)).map fun (text, after) => (c :: text, after)
    else if d = '"' then (readQuotation? rest).map fun (text, after) => ('"' :: text, after)
    else some ([], d :: rest)

/-- The token at the front of a text, and what follows it. -/
def readToken? : List Char → Option (NameToken × List Char)
  | [] => none
  | c :: rest =>
    if c = '"' then (readQuotation? rest).map fun (text, after) => (.quoted text, after)
    else if c = '*' then some (.star, rest)
    else none

/-- **A text is read to its end as tokens** with dots between them. -/
inductive Tokens : List Char → List NameToken → Prop
  | last {cs : List Char} {token : NameToken} (h : readToken? cs = some (token, [])) : Tokens cs [token]
  | dot {cs rest : List Char} {token : NameToken} {tokens : List NameToken}
    (h : readToken? cs = some (token, '.' :: rest)) (more : Tokens rest tokens) : Tokens cs (token :: tokens)

/-- A text is read in one way only. -/
theorem Tokens.unique {cs : List Char} {tokens tokens' : List NameToken} (h : Tokens cs tokens)
    (h' : Tokens cs tokens') : tokens = tokens' := by
  induction h generalizing tokens' with
  | last hread =>
    cases h' with
    | last hread' => cases hread.symm.trans hread'; rfl
    | dot hread' => cases hread.symm.trans hread'
  | dot hread _ ih =>
    cases h' with
    | last hread' => cases hread.symm.trans hread'
    | dot hread' more' =>
      cases hread.symm.trans hread'
      rw [ih more']

/-! ## Quoted segments are read back -/

/-- The token that a segment is written as. -/
def NameToken.ofSegment (segment : List Char) : NameToken := if segment = ['*'] then .star else .quoted segment

theorem NameToken.text_ofSegment (segment : List Char) : (ofSegment segment).text = String.ofList segment := by
  unfold ofSegment
  split
  · next h =>
    rw [h]
    rfl
  · rfl

theorem readQuotation?_plain {c : Char} (hc : c ≠ '"') (rest : List Char) :
    readQuotation? (c :: rest) = (readQuotation? rest).map fun (text, after) => (c :: text, after) := by
  cases rest with
  | nil => simp [readQuotation?, hc]
  | cons d rest => rw [readQuotation?, if_pos hc]

/-- **A quotation ends where it was closed**, if no mark follows there. -/
theorem readQuotation?_escapeMark (segment : List Char) {rest : List Char} (hrest : rest.head? ≠ some '"') :
    readQuotation? (segment.flatMap escapeMark ++ '"' :: rest) = some (segment, rest) := by
  induction segment with
  | nil =>
    cases rest with
    | nil => rfl
    | cons d rest =>
      have hd : d ≠ '"' := fun h => hrest (congrArg some h)
      rw [List.flatMap_nil, List.nil_append, readQuotation?, if_neg (not_not_intro rfl), if_neg hd]
  | cons c segment ih =>
    rw [List.flatMap_cons, List.append_assoc, escapeMark]
    by_cases hc : c = '"'
    · rw [if_pos hc, List.cons_append, List.singleton_append, readQuotation?, if_neg (not_not_intro rfl), if_pos rfl,
        ih, hc]
      rfl
    · rw [if_neg hc, List.singleton_append, readQuotation?_plain hc, ih]
      rfl

theorem readToken?_quoteSegment (segment : List Char) {rest : List Char} (hrest : rest.head? ≠ some '"') :
    readToken? (quoteSegment segment ++ rest) = some (.ofSegment segment, rest) := by
  unfold quoteSegment NameToken.ofSegment
  split
  · next h =>
    rw [h]
    rfl
  · rw [List.cons_append, List.append_assoc, List.singleton_append, readToken?, if_pos rfl,
      readQuotation?_escapeMark segment hrest]
    rfl

/-- **The tokens of an identifier are the segments of the name.** -/
theorem tokens_quoteChars (name : List Char) :
    Tokens (quoteChars name) ((Text.splitOn '.' name).map .ofSegment) := by
  unfold quoteChars
  have hne := Text.splitOn_ne_nil '.' name
  generalize Text.splitOn '.' name = segments at hne
  induction segments with
  | nil => exact absurd rfl hne
  | cons segment segments ih =>
    cases segments with
    | nil =>
      have hread : readToken? (quoteSegment segment ++ []) = some (.ofSegment segment, []) :=
        readToken?_quoteSegment segment (by simp)
      rw [List.append_nil] at hread
      exact .last hread
    | cons next more =>
      exact .dot (readToken?_quoteSegment segment (by simp)) (ih (List.cons_ne_nil _ _))

/-! ## Outside the quotations -/

/-- The characters of a text outside its quotations, when it starts in this state. -/
def outsideFrom (state : QuoteState) : List Char → List Char
  | [] => []
  | c :: rest =>
    if state = none ∧ state.next c = none then c :: outsideFrom (state.next c) rest
    else outsideFrom (state.next c) rest

theorem outsideFrom_append (state : QuoteState) (cs ds : List Char) :
    outsideFrom state (cs ++ ds) = outsideFrom state cs ++ outsideFrom (state.after cs) ds := by
  induction cs generalizing state with
  | nil => rfl
  | cons c cs ih =>
    rw [List.cons_append, outsideFrom, outsideFrom, ih, after_cons]
    split
    · rw [List.cons_append]
    · rfl

theorem outsideFrom_escapeMark (c : Char) : outsideFrom (some '"') (escapeMark c) = [] := by
  unfold escapeMark
  split
  · decide
  · rw [outsideFrom, if_neg fun h => absurd h.1 (Option.some_ne_none _), outsideFrom]

theorem outsideFrom_flatMap_escapeMark (segment : List Char) :
    outsideFrom (some '"') (segment.flatMap escapeMark) = [] := by
  induction segment with
  | nil => rfl
  | cons c segment ih =>
    rw [List.flatMap_cons, outsideFrom_append, outsideFrom_escapeMark, (inert_escapeMark c).1, ih]
    rfl

/-- Of a segment nothing stands outside quotation marks, but for a `*`. -/
def bareSegment (segment : List Char) : List Char := if segment = ['*'] then ['*'] else []

theorem outsideFrom_quoteSegment (segment : List Char) :
    outsideFrom none (quoteSegment segment) = bareSegment segment := by
  unfold quoteSegment bareSegment
  split
  · next h =>
    rw [h]
    decide
  · show outsideFrom (some '"') (segment.flatMap escapeMark ++ ['"']) = []
    rw [outsideFrom_append, outsideFrom_flatMap_escapeMark, (inert_flatMap_escapeMark segment).1]
    decide

theorem after_quoteSegment (segment : List Char) : QuoteState.after none (quoteSegment segment) = none := by
  unfold quoteSegment
  split
  · next h =>
    rw [h]
    decide
  · exact (inert_quoted segment).1

theorem outsideFrom_quoteChars (name : List Char) :
    outsideFrom none (quoteChars name) = Text.joinWith '.' ((Text.splitOn '.' name).map bareSegment) := by
  unfold quoteChars
  induction Text.splitOn '.' name with
  | nil => rfl
  | cons segment segments ih =>
    cases segments with
    | nil => exact outsideFrom_quoteSegment segment
    | cons next more =>
      have hdot : ∀ cs, outsideFrom none ('.' :: cs) = '.' :: outsideFrom none cs := fun _ => rfl
      rw [List.map_cons, List.map_cons, Text.joinWith, outsideFrom_append, outsideFrom_quoteSegment,
        after_quoteSegment, hdot, ← List.map_cons, ih]
      rfl

/-! ## Names -/

/-- The tokens of an identifier say the segments of the name. -/
theorem map_text_ofSegment (name : String) :
    ((Text.splitOn '.' name.toList).map NameToken.ofSegment).map NameToken.text = Text.segments name := by
  rw [List.map_map, Text.segments]
  exact List.map_congr_left fun segment _ => NameToken.text_ofSegment segment

/-- **An identifier says the name and nothing else.** Read to its end, which can be done in one way, its tokens are the
segments of the name; so names that differ are written differently. Outside quotation marks there are only the dots
between segments and the segments `*`. Scanned for placeholders it shows none and leaves no quotation open. -/
theorem quoteName_exact (name : String) :
    (∃ tokens, (∀ tokens', Tokens (quoteName name).toList tokens' ↔ tokens' = tokens) ∧
      tokens.map NameToken.text = Text.segments name) ∧
    (∀ other, quoteName other = quoteName name ↔ other = name) ∧
    outsideFrom none (quoteName name).toList =
      Text.joinWith '.' ((Text.splitOn '.' name.toList).map bareSegment) ∧
    placeholderCount (quoteName name) = 0 ∧ QuoteState.after none (quoteName name).toList = none := by
  have htext (raw : String) : (quoteName raw).toList = quoteChars raw.toList := String.toList_ofList
  have htokens := tokens_quoteChars name.toList
  obtain ⟨hafter, hcount⟩ := inert_quoteChars name.toList
  refine ⟨⟨_, fun tokens' => ⟨fun h => ?_, fun h => ?_⟩, map_text_ofSegment name⟩,
    fun other => ⟨fun h => ?_, congrArg _⟩, ?_, ?_, ?_⟩
  · rw [htext] at h
    exact h.unique htokens
  · rw [htext, h]
    exact htokens
  · have hother := tokens_quoteChars other.toList
    rw [← htext, h, htext] at hother
    refine Text.segments_injective ?_
    rw [← map_text_ofSegment, hother.unique htokens, map_text_ofSegment]
  · rw [htext, outsideFrom_quoteChars]
  · rw [placeholderCount, htext, hcount]
  · rw [htext, hafter]

-- the marks of the name are doubled, and its dots and placeholders are inside quotations or between them
example : quoteName "se\"tt.?.*" = "\"se\"\"tt\".\"?\".*" := by decide

end TermSearch.Sql
