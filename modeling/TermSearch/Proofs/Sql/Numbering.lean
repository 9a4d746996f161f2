import Mathlib.Data.Nat.Count
import TermSearch.Proofs.Sql.Identifier

/-!
# Numbered placeholders

What is outside quotation marks can be said without a scan: the text in front of it is made of quotations, which hold
no mark of their own kind, and of other characters that are no marks (`QuotesClosed`). A placeholder is a `?` with such
a text in front of it. Numbering writes a number behind each of them and leaves all characters as they are
(`number_inserts`); the number is the one that the placeholder has among all, counted from where the counter stands.

The characters of a text are taken from its end, since what a character is depends on all in front of it and on
nothing behind it. A text with closed quotations does not touch what comes behind it, so numbering two such texts one
after the other is numbering them in one.
-/

namespace TermSearch.Sql

/-! ## Closed quotations -/

/-- **All quotations in the text are closed.** -/
inductive QuotesClosed : List Char → Prop
  | nil : QuotesClosed []
  | plain {c : Char} {cs : List Char} (h : c ≠ '\'' ∧ c ≠ '"') (more : QuotesClosed cs) : QuotesClosed (c :: cs)
  | quotation {mark : Char} {inner cs : List Char} (hmark : mark = '\'' ∨ mark = '"') (hinner : mark ∉ inner)
    (more : QuotesClosed cs) : QuotesClosed (mark :: (inner ++ mark :: cs))

theorem next_of_ne {c : Char} (h : c ≠ '\'' ∧ c ≠ '"') : QuoteState.next none c = none :=
  if_neg (not_or_intro h.1 h.2)

theorem next_of_mark {mark : Char} (h : mark = '\'' ∨ mark = '"') : QuoteState.next none mark = some mark := if_pos h

/-- A quotation is open until its mark comes again. -/
theorem after_open_eq_none_iff {mark : Char} {cs : List Char} :
    QuoteState.after (some mark) cs = none ↔
      ∃ inner rest, cs = inner ++ mark :: rest ∧ mark ∉ inner ∧ QuoteState.after none rest = none := by
  induction cs with
  | nil =>
    constructor
    · intro h
      cases h
    · rintro ⟨inner, rest, h, -⟩
      simp at h
  | cons c cs ih =>
    rw [after_cons]
    by_cases hc : c = mark
    · subst hc
      have hnext : QuoteState.next (some c) c = none := if_pos rfl
      rw [hnext]
      refine ⟨fun h => ⟨[], cs, rfl, List.not_mem_nil, h⟩, ?_⟩
      rintro ⟨inner, rest, heq, hinner, hrest⟩
      cases inner with
      | nil => rwa [(List.cons.inj heq).2]
      | cons d inner => exact absurd ((List.cons.inj heq).1 ▸ List.mem_cons_self) hinner
    · have hnext : QuoteState.next (some mark) c = some mark := if_neg hc
      rw [hnext, ih]
      constructor
      · rintro ⟨inner, rest, rfl, hinner, hrest⟩
        exact ⟨c :: inner, rest, rfl, by simp [hinner, Ne.symm hc], hrest⟩
      · rintro ⟨inner, rest, heq, hinner, hrest⟩
        cases inner with
        | nil => exact absurd (List.cons.inj heq).1 hc
        | cons d inner =>
          exact ⟨inner, rest, (List.cons.inj heq).2, fun hmem => hinner (List.mem_cons_of_mem _ hmem), hrest⟩

theorem quotesClosed_of_after {cs : List Char} (h : QuoteState.after none cs = none) : QuotesClosed cs := by
  induction hlength : cs.length using Nat.strong_induction_on generalizing cs with
  | _ n ih =>
    subst hlength
    cases cs with
    | nil => exact .nil
    | cons c cs =>
      rw [after_cons] at h
      by_cases hc : c = '\'' ∨ c = '"'
      · rw [next_of_mark hc] at h
        obtain ⟨inner, rest, rfl, hinner, hrest⟩ := after_open_eq_none_iff.mp h
        refine .quotation hc hinner (ih _ ?_ hrest rfl)
        simp only [List.length_cons, List.length_append]
        omega
      · have hplain : c ≠ '\'' ∧ c ≠ '"' := not_or.mp hc
        rw [next_of_ne hplain] at h
        exact .plain hplain (ih _ (Nat.lt_succ_self _) h rfl)

/-- **The scan is outside quotations** just if all of them are closed. -/
theorem after_eq_none_iff {cs : List Char} : QuoteState.after none cs = none ↔ QuotesClosed cs := by
  refine ⟨quotesClosed_of_after, fun h => ?_⟩
  induction h with
  | nil => rfl
  | plain hc _ ih => rwa [after_cons, next_of_ne hc]
  | quotation hmark hinner _ ih =>
    rw [after_cons, next_of_mark hmark]
    exact after_open_eq_none_iff.mpr ⟨_, _, rfl, hinner, ih⟩

instance (cs : List Char) : Decidable (QuotesClosed cs) := decidable_of_iff _ after_eq_none_iff

/-! ## Placeholders by position -/

/-- **At this position of the text there is a placeholder**: a `?` outside quotation marks. -/
def IsPlaceholderAt (cs : List Char) (i : Nat) : Prop := cs[i]? = some '?' ∧ QuotesClosed (cs.take i)

instance (cs : List Char) : DecidablePred (IsPlaceholderAt cs) := fun _ => inferInstanceAs (Decidable (_ ∧ _))

/-- The number of placeholders in front of a position. -/
def placeholdersBefore (cs : List Char) (i : Nat) : Nat := Nat.count (IsPlaceholderAt cs) i

/-- A text with others put in behind its characters. -/
def insertBehind (extra : Nat → List Char) (cs : List Char) : List Char := cs.zipIdx.flatMap fun p => p.1 :: extra p.2

/-- What numbering puts in behind a character: behind the `i`-th placeholder the number `used + i`. -/
def numeralBehind (cs : List Char) (used i : Nat) : List Char :=
  if IsPlaceholderAt cs i then (Nat.repr (used + placeholdersBefore cs (i + 1))).toList else []

section

variable {cs ds : List Char} {c : Char} {i : Nat}

theorem isPlaceholderAt_append (h : i < cs.length) : IsPlaceholderAt (cs ++ ds) i ↔ IsPlaceholderAt cs i := by
  rw [IsPlaceholderAt, IsPlaceholderAt, List.getElem?_append_left h, List.take_append_of_le_length h.le]

theorem isPlaceholderAt_length :
    IsPlaceholderAt (cs ++ [c]) cs.length ↔ isPlaceholder (QuoteState.after none cs) c = true := by
  rw [IsPlaceholderAt, List.take_left', ← after_eq_none_iff]
  · cases QuoteState.after none cs <;> simp [isPlaceholder]
  · rfl

theorem placeholdersBefore_append (h : i ≤ cs.length) :
    placeholdersBefore (cs ++ ds) i = placeholdersBefore cs i := by
  induction i with
  | zero => rfl
  | succ i ih =>
    have hi : i < cs.length := h
    have hrest := ih hi.le
    unfold placeholdersBefore at hrest ⊢
    rw [Nat.count_succ, Nat.count_succ, hrest]
    simp only [isPlaceholderAt_append hi]

theorem placeholdersBefore_succ : placeholdersBefore (cs ++ [c]) (cs.length + 1) =
    placeholdersBefore cs cs.length + countFrom (QuoteState.after none cs) [c] := by
  have hcount : placeholdersBefore (cs ++ [c]) cs.length = placeholdersBefore cs cs.length :=
    placeholdersBefore_append le_rfl
  unfold placeholdersBefore at hcount ⊢
  rw [Nat.count_succ, hcount]
  simp only [isPlaceholderAt_length, countFrom, Nat.add_zero]

/-- Placeholders are counted by their positions. -/
theorem countFrom_eq (cs : List Char) : countFrom none cs = placeholdersBefore cs cs.length := by
  induction cs using List.reverseRecOn with
  | nil => rfl
  | append_singleton cs c ih =>
    rw [countFrom_append, ih, List.length_append, List.length_singleton, placeholdersBefore_succ]

theorem insertBehind_append (extra : Nat → List Char) (cs : List Char) (c : Char) :
    insertBehind extra (cs ++ [c]) = insertBehind extra cs ++ c :: extra cs.length := by
  unfold insertBehind
  rw [List.zipIdx_append, List.flatMap_append]
  simp

theorem insertBehind_congr {extra extra' : Nat → List Char} (h : ∀ i < cs.length, extra i = extra' i) :
    insertBehind extra cs = insertBehind extra' cs :=
  List.flatMap_congr fun p hp => by rw [h p.2 (by simpa using List.snd_lt_of_mem_zipIdx hp)]

/-- The numerals in a text do not depend on what comes behind it. -/
theorem numeralBehind_append (used : Nat) (h : i < cs.length) :
    numeralBehind (cs ++ ds) used i = numeralBehind cs used i := by
  unfold numeralBehind
  rw [placeholdersBefore_append h]
  simp only [isPlaceholderAt_append h]

/-- **Numbering puts in the numerals and nothing else.** -/
theorem numberFrom_eq (cs : List Char) (used : Nat) :
    numberFrom none used cs = insertBehind (numeralBehind cs used) cs := by
  induction cs using List.reverseRecOn with
  | nil => rfl
  | append_singleton cs c ih =>
    have hlast : numberFrom (QuoteState.after none cs) (used + countFrom none cs) [c] =
        c :: numeralBehind (cs ++ [c]) used cs.length := by
      unfold numeralBehind
      rw [placeholdersBefore_succ, ← countFrom_eq]
      simp only [isPlaceholderAt_length, numberFrom, countFrom]
      split <;> simp [*, Nat.add_assoc]
    rw [numberFrom_append, ih, insertBehind_append, hlast,
      insertBehind_congr fun i hi => numeralBehind_append used hi]

end

/-! ## Numerals taken out again -/

/-- A text without the numerals behind its placeholders, which count on from `used`. -/
def eraseFrom (state : QuoteState) (used : Nat) : List Char → List Char
  | [] => []
  | c :: rest =>
    if isPlaceholder state c then
      c :: eraseFrom (state.next c) (used + 1) (rest.drop (Nat.repr (used + 1)).toList.length)
    else c :: eraseFrom (state.next c) used rest
termination_by cs => cs.length
decreasing_by
  · rw [List.length_drop, List.length_cons]
    omega
  · exact Nat.lt_succ_self _

/-- **Without its numerals a numbered text is as it was.** -/
theorem eraseFrom_numberFrom (state : QuoteState) (used : Nat) (cs : List Char) :
    eraseFrom state used (numberFrom state used cs) = cs := by
  induction cs generalizing state used with
  | nil => rw [numberFrom, eraseFrom]
  | cons c cs ih =>
    rw [numberFrom]
    split
    · next h => rw [eraseFrom, if_pos h, List.drop_left, ih]
    · next h => rw [eraseFrom, if_neg h, ih]

/-! ## Expressions -/

/-- **Numbering an expression only puts numbers in.** Behind each placeholder it writes the number that the
placeholder has when they are counted on from `used`, and the counter goes on by the number of placeholders; with the
numbers taken out again, the expression is back. If the quotations of the expression are closed, then to number it with
another one behind it is to number the two in turn, and their placeholders add up. -/
theorem number_inserts (expression : String) (used : Nat) :
    (number expression).run used =
        (String.ofList (insertBehind (numeralBehind expression.toList used) expression.toList),
          used + placeholderCount expression) ∧
      String.ofList (eraseFrom none used ((number expression).run used).1.toList) = expression ∧
      placeholderCount expression = placeholdersBefore expression.toList expression.toList.length ∧
      (QuotesClosed expression.toList → ∀ later,
        (number (expression ++ later)).run used =
            (((number expression).run used).1 ++ ((number later).run (used + placeholderCount expression)).1,
              used + placeholderCount (expression ++ later)) ∧
          placeholderCount (expression ++ later) = placeholderCount expression + placeholderCount later) := by
  refine ⟨?_, ?_, countFrom_eq _, fun hclosed later => ⟨?_, ?_⟩⟩
  · rw [number_run, numbered, numberFrom_eq]
  · rw [number_run, numbered, String.toList_ofList, eraseFrom_numberFrom, String.ofList_toList]
  · rw [number_run, number_run, number_run, numbered, String.toList_append, numberFrom_append,
      after_eq_none_iff.mpr hclosed, String.ofList_append]
    rfl
  · unfold placeholderCount
    rw [String.toList_append, countFrom_append, after_eq_none_iff.mpr hclosed]

/-- Quotations with both marks, a doubled mark, and characters of more than one byte. -/
theorem number_inserts_setts :
    QuotesClosed "näst = 'it''s ?' AND \"w'h?t\" > ? OR ö = ?".toList ∧
      (number "näst = 'it''s ?' AND \"w'h?t\" > ? OR ö = ?").run 7 =
        ("näst = 'it''s ?' AND \"w'h?t\" > ?8 OR ö = ?9", 9) ∧
      ((number ("näst = 'it''s ?' AND \"w'h?t\" > ? OR ö = ?" ++ " AND c < ?")).run 7).1 =
        ((number "näst = 'it''s ?' AND \"w'h?t\" > ? OR ö = ?").run 7).1 ++ ((number " AND c < ?").run 9).1 := by
  have hclosed : QuotesClosed "näst = 'it''s ?' AND \"w'h?t\" > ? OR ö = ?".toList := by decide
  have htext := (number_inserts "näst = 'it''s ?' AND \"w'h?t\" > ? OR ö = ?" 7).2.2.2 hclosed " AND c < ?"
  refine ⟨hclosed, ?_, ?_⟩
  · rw [number_run]
    exact congrArg₂ Prod.mk (by decide) (by decide)
  · rw [htext.1]
    rfl

end TermSearch.Sql
