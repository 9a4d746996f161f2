import TermSearch.Proofs.Sql.Identifier
import TermSearch.Proofs.Sql.Outline

/-!
# Placeholders and their values

A statement numbers the placeholders of its conditions by reading their text once more, while the values are kept
in a list beside the expressions. `Fills text values filled` ties the two together: the text has one bare placeholder
for each value, all quotations are closed, and with the values in place it reads `filled`. The relation is kept by
writing texts one after the other and by brackets, so it goes from single expressions to whole conditions
(`fills_formulaText`), and numbering turns it into what the numbers say (`fillFrom_numberFrom`).
-/

namespace TermSearch.Sql

/-! ## Placeholders in text -/

/-- The numbers behind the placeholders of a text that starts in this state, 0 where there is no number. -/
def markerNumbers (state : QuoteState) : List Char → List Nat
  | [] => []
  | c :: rest =>
    if isPlaceholder state c then
      Nat.ofDigitChars 10 (rest.takeWhile Char.isDigit) 0 :: markerNumbers (state.next c) rest
    else markerNumbers (state.next c) rest

/-- The text with each numbered placeholder replaced by the value of its number, the first having number 1. The
flag says that the digits of a number are being left out. -/
def fillFrom (values : List (List Char)) (state : QuoteState) (inNumber : Bool) : List Char → List Char
  | [] => []
  | c :: rest =>
    if inNumber && c.isDigit then fillFrom values state true rest
    else if isPlaceholder state c then
      match Nat.ofDigitChars 10 (rest.takeWhile Char.isDigit) 0 with
      | 0 => c :: fillFrom values (state.next c) false rest
      | number + 1 => values[number]?.getD [] ++ fillFrom values (state.next c) true rest
    else c :: fillFrom values (state.next c) false rest

/-- The text with its bare placeholders replaced by values in order. -/
def substituteFrom (state : QuoteState) (values : List (List Char)) : List Char → List Char
  | [] => []
  | c :: rest =>
    if isPlaceholder state c then values.head?.getD [] ++ substituteFrom (state.next c) values.tail rest
    else c :: substituteFrom (state.next c) values rest

/-- No placeholder of the text has a digit behind it. -/
def bareFrom (state : QuoteState) : List Char → Bool
  | [] => true
  | c :: rest => !(isPlaceholder state c && rest.head?.any Char.isDigit) && bareFrom (state.next c) rest

/-- The numbers behind the placeholders of a text. -/
def markers (text : String) : List Nat := markerNumbers none text.toList

/-- The text with the values of its numbered placeholders. -/
def fill (values : List String) (text : String) : String :=
  String.ofList (fillFrom (values.map String.toList) none false text.toList)

/-- The expression with values for its bare placeholders. -/
def substitute (values : List String) (expr : String) : String :=
  String.ofList (substituteFrom none (values.map String.toList) expr.toList)

/-- **An expression to be numbered**: it leaves no quotation open, and its placeholders are bare. -/
structure Numberable (expr : String) : Prop where
  closed : QuoteState.after none expr.toList = none
  bare : bareFrom none expr.toList = true

/-! ## Numbering -/

theorem isPlaceholder_iff {state : QuoteState} {c : Char} : isPlaceholder state c = true ↔ state = none ∧ c = '?' := by
  unfold isPlaceholder
  cases state <;> simp

theorem next_of_digit {c : Char} (h : c.isDigit = true) : QuoteState.next none c = none := by
  unfold QuoteState.next
  refine if_neg ?_
  rintro (rfl | rfl) <;> exact absurd h (by decide)

theorem not_placeholder_of_digit {c : Char} (h : c.isDigit = true) : isPlaceholder none c = false := by
  refine Bool.eq_false_iff.mpr fun hplaceholder => ?_
  rw [(isPlaceholder_iff.mp hplaceholder).2] at h
  exact absurd h (by decide)

theorem head?_numberFrom (state : QuoteState) (used : Nat) (cs : List Char) :
    (numberFrom state used cs).head? = cs.head? := by
  cases cs with
  | nil => rfl
  | cons c rest =>
    unfold numberFrom
    split <;> rfl

theorem isDigit_repr (n : Nat) : ∀ c ∈ (Nat.repr n).toList, c.isDigit = true := by
  intro c hc
  rw [Nat.toList_repr] at hc
  exact Nat.isDigit_of_mem_toDigits (by decide) (by decide) hc

theorem ofDigitChars_repr (n : Nat) : Nat.ofDigitChars 10 (Nat.repr n).toList 0 = n := by
  rw [Nat.toList_repr, Nat.ofDigitChars_ten_toDigits]

/-- The number in front of a text that does not go on with a digit. -/
theorem takeWhile_repr_append (n : Nat) {cs : List Char} (h : cs.head?.any Char.isDigit = false) :
    ((Nat.repr n).toList ++ cs).takeWhile Char.isDigit = (Nat.repr n).toList := by
  rw [List.takeWhile_append_of_pos (isDigit_repr n)]
  cases cs with
  | nil => rw [List.takeWhile_nil, List.append_nil]
  | cons c rest =>
    have hc : c.isDigit = false := by simpa using h
    rw [List.takeWhile_cons_of_neg (by simp [hc]), List.append_nil]

theorem markerNumbers_digits {digits : List Char} (h : ∀ c ∈ digits, c.isDigit = true) (cs : List Char) :
    markerNumbers none (digits ++ cs) = markerNumbers none cs := by
  induction digits with
  | nil => rfl
  | cons c digits ih =>
    rw [List.forall_mem_cons] at h
    rw [List.cons_append, markerNumbers, not_placeholder_of_digit h.1, if_neg Bool.false_ne_true, next_of_digit h.1,
      ih h.2]

theorem fillFrom_digits (values : List (List Char)) {digits : List Char} (h : ∀ c ∈ digits, c.isDigit = true)
    {cs : List Char} (hcs : cs.head?.any Char.isDigit = false) :
    fillFrom values none true (digits ++ cs) = fillFrom values none false cs := by
  induction digits with
  | nil =>
    cases cs with
    | nil => rfl
    | cons c rest =>
      have hc : c.isDigit = false := by simpa using hcs
      rw [List.nil_append, fillFrom, fillFrom]
      simp [hc]
  | cons c digits ih =>
    rw [List.forall_mem_cons] at h
    rw [List.cons_append, fillFrom, if_pos (by simp [h.1]), ih h.2]

/-- **Numbering counts on**: the placeholders get consecutive numbers from left to right. -/
theorem markerNumbers_numberFrom {state : QuoteState} {cs : List Char} (h : bareFrom state cs = true) (used : Nat) :
    markerNumbers state (numberFrom state used cs) = List.range' (used + 1) (countFrom state cs) := by
  induction cs generalizing state used with
  | nil => rfl
  | cons c rest ih =>
    rw [bareFrom, Bool.and_eq_true] at h
    obtain ⟨hhead, hrest⟩ := h
    by_cases hplaceholder : isPlaceholder state c = true
    · obtain ⟨rfl, rfl⟩ := isPlaceholder_iff.mp hplaceholder
      have hhead' : (numberFrom (QuoteState.next none '?') (used + 1) rest).head?.any Char.isDigit = false := by
        rw [head?_numberFrom]
        simpa [hplaceholder] using hhead
      rw [numberFrom, if_pos hplaceholder, markerNumbers, if_pos hplaceholder, takeWhile_repr_append _ hhead',
        ofDigitChars_repr, countFrom, if_pos hplaceholder, Nat.add_comm 1, List.range'_succ]
      have hnext : QuoteState.next none '?' = none := by decide
      rw [hnext] at hrest ⊢
      -- the digits of the new number show no placeholder
      rw [markerNumbers_digits (isDigit_repr _), ih hrest]
    · rw [numberFrom, if_neg hplaceholder, markerNumbers, if_neg hplaceholder, countFrom, if_neg hplaceholder,
        Nat.zero_add, ih hrest]

/-- **Filling numbered placeholders** is filling bare ones, from the values that are not used yet. -/
theorem fillFrom_numberFrom {state : QuoteState} {cs : List Char} (h : bareFrom state cs = true) (used : Nat)
    (values : List (List Char)) :
    fillFrom values state false (numberFrom state used cs) = substituteFrom state (values.drop used) cs := by
  induction cs generalizing state used with
  | nil => rfl
  | cons c rest ih =>
    rw [bareFrom, Bool.and_eq_true] at h
    obtain ⟨hhead, hrest⟩ := h
    by_cases hplaceholder : isPlaceholder state c = true
    · obtain ⟨rfl, rfl⟩ := isPlaceholder_iff.mp hplaceholder
      have hhead' : (numberFrom (QuoteState.next none '?') (used + 1) rest).head?.any Char.isDigit = false := by
        rw [head?_numberFrom]
        simpa [hplaceholder] using hhead
      rw [numberFrom, if_pos hplaceholder, fillFrom, if_neg (by simp), if_pos hplaceholder,
        takeWhile_repr_append _ hhead', ofDigitChars_repr, substituteFrom, if_pos hplaceholder]
      have hnext : QuoteState.next none '?' = none := by decide
      rw [hnext] at hrest hhead' ⊢
      show values[used]?.getD [] ++ _ = _
      rw [fillFrom_digits values (isDigit_repr _) hhead', ih hrest, List.head?_drop, List.tail_drop]
    · rw [numberFrom, if_neg hplaceholder, fillFrom, if_neg (by simp), if_neg hplaceholder, substituteFrom,
        if_neg hplaceholder, ih hrest]

/-! ## Texts put together -/

theorem bareFrom_append {state : QuoteState} {cs ds : List Char} (h : bareFrom state cs = true)
    (h' : bareFrom (state.after cs) ds = true) (hhead : ds.head?.any Char.isDigit = false) :
    bareFrom state (cs ++ ds) = true := by
  induction cs generalizing state with
  | nil => exact h'
  | cons c cs ih =>
    rw [bareFrom, Bool.and_eq_true] at h
    rw [List.cons_append, bareFrom, ih h.2 h', Bool.and_true]
    -- only the character behind the first one counts, which may be the first of `ds`
    cases cs with
    | nil => rw [List.nil_append, hhead, Bool.and_false, Bool.not_false]
    | cons next cs => exact h.1

theorem substituteFrom_append {state : QuoteState} {cs ds : List Char} {values others : List (List Char)}
    (h : countFrom state cs = values.length) :
    substituteFrom state (values ++ others) (cs ++ ds) =
      substituteFrom state values cs ++ substituteFrom (state.after cs) others ds := by
  induction cs generalizing state values with
  | nil =>
    have hnil : values = [] := List.eq_nil_of_length_eq_zero h.symm
    rw [hnil]
    rfl
  | cons c cs ih =>
    rw [List.cons_append, substituteFrom, substituteFrom]
    rw [countFrom] at h
    by_cases hplaceholder : isPlaceholder state c = true
    · rw [if_pos hplaceholder] at h
      cases values with
      | nil => simp at h
      | cons value values =>
        have hrest : countFrom (state.next c) cs = values.length := by
          rw [List.length_cons] at h
          omega
        rw [if_pos hplaceholder, if_pos hplaceholder]
        show value ++ substituteFrom (state.next c) (values ++ others) (cs ++ ds) = _
        rw [ih hrest, ← List.append_assoc]
        rfl
    · rw [if_neg hplaceholder, Nat.zero_add] at h
      rw [if_neg hplaceholder, if_neg hplaceholder, ih h, List.cons_append]
      rfl

/-- A text without placeholders has nothing to replace. -/
theorem bareFrom_of_count {state : QuoteState} {cs : List Char} (h : countFrom state cs = 0) :
    bareFrom state cs = true ∧ substituteFrom state [] cs = cs := by
  induction cs generalizing state with
  | nil => exact ⟨rfl, rfl⟩
  | cons c cs ih =>
    rw [countFrom] at h
    by_cases hplaceholder : isPlaceholder state c = true
    · rw [if_pos hplaceholder] at h
      omega
    · rw [if_neg hplaceholder, Nat.zero_add] at h
      obtain ⟨hbare, hsubstitute⟩ := ih h
      rw [bareFrom, substituteFrom, if_neg hplaceholder, hbare, hsubstitute]
      simp [hplaceholder]

/-- **A text with a bare placeholder for each value**, which reads `filled` with the values in place. -/
structure Fills (cs : List Char) (values : List (List Char)) (filled : List Char) : Prop where
  closed : QuoteState.after none cs = none
  bare : bareFrom none cs = true
  count : countFrom none cs = values.length
  filled : substituteFrom none values cs = filled

namespace Fills

variable {cs ds filled filled' : List Char} {values values' : List (List Char)}

theorem of_inert (h : Inert none cs) : Fills cs [] cs := by
  obtain ⟨hbare, hsubstitute⟩ := bareFrom_of_count h.2
  exact ⟨h.1, hbare, h.2, hsubstitute⟩

theorem append (h : Fills cs values filled) (h' : Fills ds values' filled')
    (hhead : ds.head?.any Char.isDigit = false) : Fills (cs ++ ds) (values ++ values') (filled ++ filled') := by
  refine ⟨?_, ?_, ?_, ?_⟩
  · rw [after_append, h.closed, h'.closed]
  · refine bareFrom_append h.bare ?_ hhead
    rw [h.closed]
    exact h'.bare
  · rw [countFrom_append, h.closed, h.count, h'.count, List.length_append]
  · rw [substituteFrom_append h.count, h.closed, h.filled, h'.filled]

/-- A text in brackets. Nothing can follow a placeholder at its end but the bracket. -/
theorem brackets (h : Fills cs values filled) : Fills ('(' :: (cs ++ [')'])) values ('(' :: (filled ++ [')'])) := by
  have hclose : Fills [')'] [] [')'] := of_inert ⟨by decide, by decide⟩
  have hcs := h.append hclose rfl
  rw [List.append_nil] at hcs
  exact ⟨hcs.closed, hcs.bare, by rw [countFrom]; exact (Nat.zero_add _).trans hcs.count,
    congrArg ('(' :: ·) hcs.filled⟩

/-- Values that are left over do not matter. -/
theorem with_more (h : Fills cs values filled) (others : List (List Char)) :
    substituteFrom none (values ++ others) cs = filled := by
  have happend : substituteFrom none (values ++ others) (cs ++ []) =
      substituteFrom none values cs ++ substituteFrom (QuoteState.after none cs) others [] :=
    substituteFrom_append h.count
  rw [List.append_nil, h.filled, substituteFrom, List.append_nil] at happend
  exact happend

end Fills

/-! ## Conditions -/

/-- The values of the parts are put in the places of the parts. -/
theorem Fills.bracketed {α : Type} (p : Predicate) (text : α → String) (values : α → List (List Char))
    (filled : α → String) {parts : List α} (h : ∀ a ∈ parts, Fills (text a).toList (values a) (filled a).toList) :
    Fills (bracketed (connectiveWord p) (parts.map text)).toList (parts.flatMap values)
      (Sql.bracketed (connectiveWord p) (parts.map filled)).toList := by
  have hword : Fills (connectiveWord p).toList [] (connectiveWord p).toList := by
    refine .of_inert ?_
    cases p <;> exact ⟨by decide, by decide⟩
  have hwordHead : ∀ ds : List Char, ((connectiveWord p).toList ++ ds).head?.any Char.isDigit = false := by
    intro ds
    cases p <;> rfl
  induction parts with
  | nil => exact .of_inert (.nil none)
  | cons a parts ih =>
    rw [List.forall_mem_cons] at h
    cases parts with
    | nil =>
      rw [List.map_singleton, List.map_singleton, bracketed_single, bracketed_single, List.flatMap_singleton]
      exact h.1.brackets
    | cons next parts =>
      rw [List.map_cons, List.map_cons, List.map_cons, List.map_cons, bracketed_cons_cons, bracketed_cons_cons,
        List.flatMap_cons]
      have hrest := hword.append (ih h.2) (by cases parts <;> simp [bracketed_single, bracketed_cons_cons])
      rw [List.nil_append] at hrest
      exact h.1.brackets.append hrest (hwordHead _)

/-- The added expression can be numbered and has a value for each placeholder. -/
def Added.Bound (a : Added) : Prop := Numberable a.expr ∧ placeholderCount a.expr = a.binds.length

/-- The expression with its own values in place, which needs no values any more. -/
def Added.filled (show? : Json → String) (a : Added) : Added :=
  { expr := substitute (a.binds.map show?) a.expr, binds := [] }

/-- The outline of the expressions with their own values in place, joined in the same way. -/
def Outline.filled (show? : Json → String) (o : Outline) : Outline :=
  ⟨o.entries.map (Formula.map (Added.filled show?))⟩

theorem Outline.whole_filled (show? : Json → String) (o : Outline) :
    (o.filled show?).whole = o.whole.map (Added.filled show?) :=
  (Formula.map_join .and o.entries (Added.filled show?)).symm

theorem Added.Bound.fills {a : Added} (h : a.Bound) (show? : Json → String) :
    Fills a.expr.toList (a.binds.map fun b => (show? b).toList) (a.filled show?).expr.toList := by
  refine ⟨h.1.closed, h.1.bare, ?_, ?_⟩
  · rw [List.length_map]
    exact h.2
  · simp [filled, substitute, List.map_map, Function.comp_def]

theorem fills_formulaText (show? : Json → String) {f : Formula Added} (h : f.Sound Added.Bound) :
    Fills (formulaText (f.map Added.expr)).toList
      ((f.atoms.flatMap Added.binds).map fun b => (show? b).toList)
      (formulaText ((f.map (Added.filled show?)).map Added.expr)).toList := by
  induction h with
  | @atom a h =>
    simp only [Formula.map_atom, formulaText_atom, Formula.atoms_atom, List.flatMap_singleton]
    exact h.fills show?
  | @joined p parts _ _ ih =>
    have hparts := Fills.bracketed p (fun part : Formula Added => formulaText (part.map Added.expr))
      (fun part => (part.atoms.flatMap Added.binds).map fun b => (show? b).toList)
      (fun part => formulaText ((part.map (Added.filled show?)).map Added.expr)) ih
    simpa [List.map_map, Function.comp_def, List.flatMap_assoc, List.map_flatMap] using hparts

/-- **A condition whose expressions are bound has its values in the order of its placeholders.** -/
theorem fills_joined (show? : Json → String) {o : Outline} (h : o.Sound Added.Bound) :
    Fills o.expressions.joined.toList (o.expressions.binds.map fun b => (show? b).toList)
      (o.filled show?).expressions.joined.toList := by
  cases hempty : o.isEmpty with
  | true =>
    obtain ⟨entries⟩ := o
    cases List.isEmpty_iff.mp hempty
    exact .of_inert (.nil none)
  | false =>
    have hfills := fills_formulaText show? (h.whole hempty)
    rw [Outline.joined_expressions, Outline.joined_expressions, Outline.binds_expressions, Outline.whole_filled]
    exact hfills

/-! ## Statements -/

namespace SqlQuery

/-- The condition on rows as it stands in the statement. -/
def whereText (q : SqlQuery) : String := numbered q.clauses.filter.joined 0

/-- The condition on groups as it stands in the statement. -/
def havingText (q : SqlQuery) : String :=
  numbered q.clauses.having.joined (placeholderCount q.clauses.filter.joined)

/-- The statement with other texts in the places of its two conditions. -/
def withConditions (q : SqlQuery) (rows groups : String) : String :=
  "SELECT " ++ (if q.clauses.select.isEmpty then "*" else String.intercalate ", " q.clauses.select) ++
    q.clauses.source.elim "" (fun table => " FROM " ++ quoteName table) ++
    String.join (q.clauses.joins.map (" " ++ ·)) ++
    (if q.clauses.filter.exprs.isEmpty then "" else " WHERE " ++ rows) ++
    listClause " GROUP BY " q.clauses.group ++
    (if q.clauses.having.exprs.isEmpty then "" else " HAVING " ++ groups) ++
    listClause " ORDER BY " q.clauses.order ++
    windowClause q.clauses.limit q.clauses.offset

theorem conditionPlaceholders_eq (e : Expressions) : conditionPlaceholders e = placeholderCount e.joined := by
  unfold conditionPlaceholders
  split
  · next hempty =>
    have hnil : e.exprs = [] := List.isEmpty_iff.mp hempty
    rw [Expressions.joined, hnil]
    decide
  · rfl

theorem sql_eq (q : SqlQuery) : SqlQuery.sql q = withConditions q (whereText q) (havingText q) := by
  rw [SqlQuery.sql, statement_eq, conditionPlaceholders_eq]
  rfl

end SqlQuery

/-- The comparisons that operations make can be numbered and have one value. -/
theorem bound_of_quoteName {column tail : String} {value : Json} (hclosed : QuoteState.after none tail.toList = none)
    (hbare : bareFrom none tail.toList = true) (hcount : countFrom none tail.toList = 1)
    (hhead : tail.toList.head?.any Char.isDigit = false) : Added.Bound ⟨quoteName column ++ tail, [value]⟩ := by
  have htext : (quoteName column ++ tail).toList = quoteChars column.toList ++ tail.toList := by
    rw [String.toList_append, quoteName, String.toList_ofList]
  obtain ⟨hafter, hnone⟩ := inert_quoteChars column.toList
  refine ⟨⟨?_, ?_⟩, ?_⟩
  · rw [htext, after_append, hafter, hclosed]
  · rw [htext]
    refine bareFrom_append (bareFrom_of_count hnone).1 ?_ hhead
    rw [hafter]
    exact hbare
  · unfold placeholderCount
    rw [htext, countFrom_append, hnone, hafter, hcount]
    rfl

theorem bound_comparison (column : String) (op : Operator) (value : String) :
    Added.Bound ⟨comparison column op, [comparisonBind op value]⟩ := by
  unfold comparison
  rw [String.append_assoc, String.append_assoc, String.append_assoc]
  cases op <;> exact bound_of_quoteName (by decide) (by decide) (by decide) (by decide)

theorem bound_equality (column : String) (value : Json) : Added.Bound ⟨quoteName column ++ " = ?", [value]⟩ :=
  bound_of_quoteName (by decide) (by decide) (by decide) (by decide)

theorem fill_numbered {expr : String} (h : bareFrom none expr.toList = true) (used : Nat) (values : List String) :
    fill values (numbered expr used) =
      String.ofList (substituteFrom none ((values.map String.toList).drop used) expr.toList) := by
  unfold fill numbered
  rw [String.toList_ofList, fillFrom_numberFrom h]

theorem markers_numbered {expr : String} (h : bareFrom none expr.toList = true) (used : Nat) :
    markers (numbered expr used) = List.range' (used + 1) (placeholderCount expr) := by
  unfold markers numbered
  rw [String.toList_ofList, markerNumbers_numberFrom h]
  rfl

/-- **The values of a statement line up with its placeholders.** The placeholders of the two conditions have the
numbers of the values in order. Putting the values in the places of their numbers gives the text that comes of
putting the values of each expression in the places of its own placeholders and joining what is then there, for
each way `t` in which the query can have been built. -/
theorem markers_line_up {q : SqlQuery} (h : Reachable (sqlUsage Numberable) q) :
    SqlQuery.sql q = SqlQuery.withConditions q (SqlQuery.whereText q) (SqlQuery.havingText q) ∧
      markers (SqlQuery.whereText q) ++ markers (SqlQuery.havingText q) =
        List.range' 1 (SqlQuery.binds q).length ∧
      (∃ t, Reachable (outlinedUsage Numberable) t ∧ t.query = q) ∧
      ∀ t, Reachable (outlinedUsage Numberable) t → t.query = q → ∀ show? : Json → String,
        fill ((SqlQuery.binds q).map show?) (SqlQuery.whereText q) =
            (t.filter.filled show?).expressions.joined ∧
          fill ((SqlQuery.binds q).map show?) (SqlQuery.havingText q) =
            (t.having.filled show?).expressions.joined := by
  have hfills : ∀ t, Reachable (outlinedUsage Numberable) t → t.query = q → ∀ show? : Json → String,
      Fills q.clauses.filter.joined.toList (q.clauses.filter.binds.map fun b => (show? b).toList)
          (t.filter.filled show?).expressions.joined.toList ∧
        Fills q.clauses.having.joined.toList (q.clauses.having.binds.map fun b => (show? b).toList)
          (t.having.filled show?).expressions.joined.toList := by
    rintro t ht rfl show?
    obtain ⟨hfilter, hhaving⟩ := sound_of_reachable bound_comparison bound_equality
      (fun expr binds hraw hcount => ⟨hraw, hcount⟩) ht
    obtain ⟨hrows, hgroups⟩ := written_of_reachable ht
    rw [hrows, hgroups]
    exact ⟨fills_joined show? hfilter, fills_joined show? hhaving⟩
  obtain ⟨t, ht, htext⟩ := exists_outlined h
  refine ⟨SqlQuery.sql_eq q, ?_, ⟨t, ht, htext⟩, fun t ht htext show? => ?_⟩
  · obtain ⟨hfilter, hhaving⟩ := hfills t ht htext fun _ => ""
    have hrows : placeholderCount q.clauses.filter.joined = q.clauses.filter.binds.length := by
      rw [placeholderCount, hfilter.count, List.length_map]
    have hgroups : placeholderCount q.clauses.having.joined = q.clauses.having.binds.length := by
      rw [placeholderCount, hhaving.count, List.length_map]
    rw [SqlQuery.whereText, SqlQuery.havingText, markers_numbered hfilter.bare, markers_numbered hhaving.bare,
      SqlQuery.binds, List.length_append, hrows, hgroups, Nat.zero_add, Nat.add_comm _ 1, ← List.range'_append_1]
  · obtain ⟨hfilter, hhaving⟩ := hfills t ht htext show?
    have hvalues : ((SqlQuery.binds q).map show?).map String.toList =
        (q.clauses.filter.binds.map fun b => (show? b).toList) ++
          q.clauses.having.binds.map fun b => (show? b).toList := by
      simp only [SqlQuery.binds, List.map_append, List.map_map, Function.comp_def]
    -- the values of the condition on rows come first, those of the condition on groups are behind them
    have hskip : ((q.clauses.filter.binds.map fun b => (show? b).toList) ++
        q.clauses.having.binds.map fun b => (show? b).toList).drop (placeholderCount q.clauses.filter.joined) =
          q.clauses.having.binds.map fun b => (show? b).toList :=
      List.drop_left' hfilter.count.symm
    constructor
    · rw [SqlQuery.whereText, fill_numbered hfilter.bare, hvalues, List.drop_zero, hfilter.with_more,
        String.ofList_toList]
    · rw [SqlQuery.havingText, fill_numbered hhaving.bare, hvalues, hskip, hhaving.filled, String.ofList_toList]

/-- A block that compares a column with a placeholder in its name, beside an open expression with a quoted one. -/
def badgerSteps : List (Step SqlQuery) :=
  [.anyOf [.compareBy "wh?t", .method (.filter "sett = '?' OR name = ?" [.string "bob"])],
    .method (.having "COUNT(*) > ?" [.ofNat 2])]

/-- The badgers that the block leaves. -/
def badgers : SqlQuery :=
  (Step.runAll (.start (.bare "brown")) badgerSteps (.start (.ofSource "badgers") false)).state.current

theorem reachable_badgers : Reachable (sqlUsage Numberable) badgers := by
  have hfilter : Numberable "sett = '?' OR name = ?" := ⟨by decide, by decide⟩
  have hhaving : Numberable "COUNT(*) > ?" := ⟨by decide, by decide⟩
  have hstart : Reachable (sqlUsage Numberable) (ClauseQuery.ofSource "badgers") :=
    .start (ClauseQuery.IsStart.ofSource "badgers")
  have hsteps : Step.AllWithin (sqlUsage Numberable) (.start (.bare "brown")) badgerSteps :=
    ⟨⟨trivial, hfilter, trivial⟩, hhaving, trivial⟩
  have hpushed : Step.pushedIn badgerSteps = [] := rfl
  refine hstart.block hsteps (fun added hadded => ?_) false
  rw [hpushed] at hadded
  cases hadded

theorem markers_line_up_badgers :
    SqlQuery.sql badgers =
        "SELECT * FROM \"badgers\" WHERE (\"wh?t\" = ?1) OR (sett = '?' OR name = ?2) HAVING COUNT(*) > ?3" ∧
      SqlQuery.binds badgers = [.string "brown", .string "bob", .ofNat 2] ∧
      markers (SqlQuery.whereText badgers) ++ markers (SqlQuery.havingText badgers) = [1, 2, 3] :=
  ⟨by decide +kernel, by rfl, (markers_line_up reachable_badgers).2.1⟩

end TermSearch.Sql
