import TermSearch.Proofs.Sql.Identifier
import TermSearch.Proofs.Sql.Reading

/-!
# Conditions mean what was put together

The condition of a relational query is text, but nothing of its structure is lost: read as a condition, the text
gives back the outline of the query, with what each expression reads as in its place (`reads_as_outlined`). It does
not matter how the query was built, nor which connectives the expressions have inside.
-/

namespace TermSearch.Sql

variable {d : Dialect}

/-! ## Expressions that operations add -/

namespace Dialect

theorem nestAll_append (s : Nesting) (cs ds : List Char) :
    d.nestAll s (cs ++ ds) = (d.nestAll s cs).bind fun s' => d.nestAll s' ds := List.foldlM_append

theorem nestAll_cons (s : Nesting) (c : Char) (cs : List Char) :
    d.nestAll s (c :: cs) = (d.nest s c).bind fun s' => d.nestAll s' cs := List.foldlM_cons

/-- A text outside brackets and quotations leads to no other place, and its last character begins no comment. -/
def Passes (d : Dialect) (cs : List Char) : Prop :=
  ∀ last, last ≠ some '/' → ∃ last', last' ≠ some '/' ∧
    d.nestAll { closing := none, depth := 0, last } cs = some { closing := none, depth := 0, last := last' }

theorem Passes.nil : d.Passes [] := fun last hlast => ⟨last, hlast, rfl⟩

theorem Passes.append {cs ds : List Char} (h : d.Passes cs) (h' : d.Passes ds) : d.Passes (cs ++ ds) := by
  intro last hlast
  obtain ⟨middle, hmiddle, hcs⟩ := h last hlast
  obtain ⟨last', hlast', hds⟩ := h' middle hmiddle
  refine ⟨last', hlast', ?_⟩
  rw [nestAll_append, hcs, Option.bind_some, hds]

theorem Passes.balanced {text : String} (h : d.Passes text.toList) : d.Balanced text := by
  obtain ⟨last, -, hnest⟩ := h none (by simp)
  exact ⟨last, hnest⟩

theorem passes_plain {cs : List Char} (h : cs.all isPlain = true) : d.Passes cs := by
  induction cs with
  | nil => exact .nil
  | cons c cs ih =>
    rw [List.all_cons, Bool.and_eq_true] at h
    obtain ⟨hplain, hcs⟩ := h
    have hslash : c ≠ '/' := ne_of_isPlain hplain rfl
    have hopen : c ≠ '(' := ne_of_isPlain hplain rfl
    have hclose : c ≠ ')' := ne_of_isPlain hplain rfl
    have hfirst : d.Passes [c] := by
      intro last hlast
      have hcomment : beginsComment last c = false := by
        unfold beginsComment
        split
        · cases hplain
        · exact absurd rfl hlast
        · rfl
      refine ⟨some c, by simpa using hslash, ?_⟩
      rw [nestAll_cons]
      unfold nest
      simp only [hcomment, if_neg hopen, if_neg hclose, d.plain c hplain, Bool.false_eq_true, if_false]
      rfl
    exact hfirst.append (ih hcs)

/-- Inside quotation marks a doubled mark closes and opens again. -/
theorem nestAll_escapeMark (c : Char) (last : Option Char) :
    ∃ last', d.nestAll { closing := some '"', depth := 0, last } (escapeMark c) =
      some { closing := some '"', depth := 0, last := last' } := by
  unfold escapeMark
  by_cases hc : c = '"'
  · rw [if_pos hc]
    refine ⟨some '"', ?_⟩
    -- the first mark closes the quotation, the second one opens it again
    have hagain : d.nest { closing := none, depth := 0, last := some '"' } '"' =
        some { closing := some '"', depth := 0, last := some '"' } := by
      unfold nest
      simp [beginsComment, d.quotationMark]
    rw [nestAll_cons]
    show d.nestAll { closing := none, depth := 0, last := some '"' } ['"'] = _
    rw [nestAll_cons, hagain]
    rfl
  · rw [if_neg hc]
    refine ⟨some c, ?_⟩
    rw [nestAll_cons]
    unfold nest
    simp only [if_neg hc]
    rfl

theorem nestAll_flatMap_escapeMark (segment : List Char) (last : Option Char) :
    ∃ last', d.nestAll { closing := some '"', depth := 0, last } (segment.flatMap escapeMark) =
      some { closing := some '"', depth := 0, last := last' } := by
  induction segment generalizing last with
  | nil => exact ⟨last, rfl⟩
  | cons c segment ih =>
    obtain ⟨middle, hmark⟩ := nestAll_escapeMark (d := d) c last
    obtain ⟨last', hrest⟩ := ih middle
    refine ⟨last', ?_⟩
    rw [List.flatMap_cons, nestAll_append, hmark, Option.bind_some, hrest]

theorem passes_quoted (segment : List Char) : d.Passes ('"' :: (segment.flatMap escapeMark ++ ['"'])) := by
  intro last _
  obtain ⟨last', hsegment⟩ := nestAll_flatMap_escapeMark (d := d) segment (some '"')
  have hopen : d.nest { closing := none, depth := 0, last } '"' =
      some { closing := some '"', depth := 0, last := some '"' } := by
    unfold nest
    simp [beginsComment_of_ne, d.quotationMark]
  refine ⟨some '"', by simp, ?_⟩
  rw [nestAll_cons, hopen, Option.bind_some, nestAll_append, hsegment]
  rfl

/-- **An identifier can be read in any dialect**, as it is all inside quotation marks. -/
theorem passes_quoteChars (name : List Char) : d.Passes (quoteChars name) :=
  quoteChars_ind .nil (fun _ _ h h' => h.append h') (passes_plain rfl) (passes_plain rfl) passes_quoted name

theorem balanced_quoteName {column tail : String} (h : d.Passes tail.toList) :
    d.Balanced (quoteName column ++ tail) := by
  refine Passes.balanced ?_
  rw [String.toList_append, quoteName, String.toList_ofList]
  exact (passes_quoteChars column.toList).append h

theorem passes_escapeClause : d.Passes "'\\'".toList := by
  intro last _
  have hopen : d.nest { closing := none, depth := 0, last } '\'' =
      some { closing := some '\'', depth := 0, last := some '\'' } := by
    unfold nest
    simp [beginsComment_of_ne, d.apostrophe]
  refine ⟨some '\'', by simp, ?_⟩
  show d.nestAll _ ['\'', '\\', '\''] = _
  rw [nestAll_cons, hopen]
  rfl

theorem balanced_comparison (column : String) (op : Operator) : d.Balanced (comparison column op) := by
  have hpattern : ∀ sign : String, sign.toList.all isPlain = true →
      d.Passes (" " ++ (sign ++ (" ?" ++ " ESCAPE '\\'"))).toList := by
    intro sign hsign
    have hend : (" ?" ++ " ESCAPE '\\'").toList = " ? ESCAPE ".toList ++ "'\\'".toList := rfl
    rw [String.toList_append, String.toList_append, hend]
    exact (passes_plain rfl).append ((passes_plain hsign).append ((passes_plain rfl).append passes_escapeClause))
  unfold comparison
  rw [String.append_assoc, String.append_assoc, String.append_assoc]
  refine balanced_quoteName ?_
  cases op with
  | like => exact hpattern "LIKE" rfl
  | notLike => exact hpattern "NOT LIKE" rfl
  | _ => exact passes_plain rfl

theorem balanced_equality (column : String) : d.Balanced (quoteName column ++ " = ?") :=
  balanced_quoteName (passes_plain rfl)

end Dialect

/-! ## Conditions -/

/-- A formula of texts that can be read is read as the formula of what they are read as. -/
theorem read_formulaText {f : Formula Added} {reading : Added → Formula String}
    (h : f.Sound fun a => d.read? a.expr = some (reading a)) :
    d.read? (formulaText (f.map Added.expr)) = some (f.bind reading) := by
  induction h with
  | @atom a h =>
    rw [Formula.map_atom, formulaText_atom, Formula.bind_atom]
    exact h
  | @joined p parts hseveral _ ih =>
    have hne : parts ≠ [] := by
      rintro rfl
      simp at hseveral
    have hread := Dialect.read_bracketed p (fun part : Formula Added => formulaText (part.map Added.expr))
      (fun part => part.bind reading) ih hne
    rw [Formula.join_of_two_le p (by simpa using hseveral)] at hread
    rw [Formula.map_joined, formulaText_joined, Formula.bind_joined, List.map_map]
    exact hread

/-- **The text of a condition means what the operations have put together.** Read as a condition, it gives the
outline of the query with what each expression reads as in its place, for each way `t` in which the query can have
been built. What an outline says is that expressions put on one query all hold (`Outline.holds_push`), and that of
merged queries those with conditions are joined by the connective (`Outline.holds_gather_filled`). -/
theorem reads_as_outlined (d : Dialect) {q : SqlQuery} (h : Reachable (sqlUsage d.Balanced) q)
    (hne : q.clauses.filter.exprs ≠ []) :
    (∃ t, Reachable (outlinedUsage d.Balanced) t ∧ t.query = q) ∧
      ∀ t, Reachable (outlinedUsage d.Balanced) t → t.query = q →
        ∃ reading : Added → Formula String,
          (∀ a ∈ t.filter.whole.atoms, d.read? a.expr = some (reading a)) ∧
            d.read? q.clauses.filter.joined = some (t.filter.whole.bind reading) ∧
            ∀ truth : Added → Bool, t.filter.whole.value truth = t.filter.holds truth := by
  refine ⟨exists_outlined h, ?_⟩
  rintro t ht rfl
  obtain ⟨hwritten, -⟩ := written_of_reachable ht
  have hsound : t.filter.Sound fun a => d.Balanced a.expr :=
    (sound_of_reachable (fun column op _ => Dialect.balanced_comparison column op)
      (fun column _ => Dialect.balanced_equality column) (fun _ _ hraw _ => hraw) ht).1
  have hnonempty : t.filter.isEmpty = false := by
    rw [hwritten] at hne
    simpa [Outline.expressions, Outline.isEmpty] using hne
  -- each expression is balanced, so it has a reading of its own
  let reading : Added → Formula String := fun a => (d.read? a.expr).getD (.atom a.expr)
  have hreading : ∀ a : Added, d.Balanced a.expr → d.read? a.expr = some (reading a) := by
    intro a ha
    obtain ⟨result, hresult⟩ := ha.readable
    simp [reading, hresult]
  have hwhole := (hsound.whole hnonempty).mono hreading
  refine ⟨reading, hwhole.of_mem_atoms, ?_, fun truth => Outline.value_whole t.filter⟩
  rw [hwritten, Outline.joined_expressions]
  exact read_formulaText hwhole

/-- A comparison and expressions with connectives in and outside quotations, some of them in a block. -/
def settSteps : List (Step SqlQuery) :=
  [.method (.filter "age > 3 OR name = 'Bob) OR (Al'" []),
    .anyOf [.compareBy "sett", .method (.filter "size = 1 AND [depth (m)] < 2" [])]]

/-- The badgers that the operations leave. -/
def settQuery : SqlQuery :=
  (Step.runAll (.start (.bare "oak")) settSteps (.start (.ofSource "badgers") false)).state.current

theorem reads_as_outlined_setts :
    settQuery.clauses.filter.joined =
        "(age > 3 OR name = 'Bob) OR (Al') AND ((\"sett\" = ?) OR (size = 1 AND [depth (m)] < 2))" ∧
      ∃ (t : OutlinedQuery) (reading : Added → Formula String), t.query = settQuery ∧
        (∀ a ∈ t.filter.whole.atoms, Dialect.sqlite.read? a.expr = some (reading a)) ∧
        Dialect.sqlite.read? settQuery.clauses.filter.joined = some (t.filter.whole.bind reading) := by
  have hstart : Reachable (sqlUsage Dialect.sqlite.Balanced) (ClauseQuery.ofSource "badgers") :=
    .start (ClauseQuery.IsStart.ofSource "badgers")
  have hopen : Dialect.sqlite.Balanced "age > 3 OR name = 'Bob) OR (Al'" := ⟨_, rfl⟩
  have hinner : Dialect.sqlite.Balanced "size = 1 AND [depth (m)] < 2" := ⟨_, rfl⟩
  have hsteps : Step.AllWithin (sqlUsage Dialect.sqlite.Balanced) (.start (.bare "oak")) settSteps :=
    ⟨hopen, ⟨trivial, hinner, trivial⟩, trivial⟩
  have hpushed : ∀ added ∈ Step.pushedIn settSteps, Reachable (sqlUsage Dialect.sqlite.Balanced) added := by
    intro added hadded
    rw [show Step.pushedIn settSteps = [] from rfl] at hadded
    cases hadded
  have hreachable := hstart.block hsteps hpushed false
  obtain ⟨⟨t, ht, hquery⟩, hreads⟩ := reads_as_outlined Dialect.sqlite hreachable (by decide)
  obtain ⟨reading, hatoms, hread, -⟩ := hreads t ht hquery
  exact ⟨by decide +kernel, t, reading, hquery, hatoms, hread⟩

end TermSearch.Sql
