import TermSearch.Proofs.Document.Answer
import TermSearch.Proofs.Regex.Lawful

/-!
# Comparisons and their inverses

A negated comparison asks for the inverse operator. How far that is the opposite depends on what can be compared
(`Document.inverse_partitions`): equality and likeness look for some value and their inverses for none, so they are
opposites for every document, as long as the engine takes the pattern of a likeness; of an order and its inverse both
look for some value, so they are opposites where exactly one value found can be ordered against the text.

An order that allows equality holds where the strict order or equality does (`Document.order_allows_equality`), but
for truth values: they equal the text that names them, and no order ranks them against a text.
-/

namespace TermSearch.Document

open Number (Binary64)

/-! ## Orders found -/

/-- How the values found stand to a text, those left out that cannot be ordered against it. -/
def ordersFound (value : String) (found : List Json) : List Ordering :=
  found.filterMap fun v => valueOrder? v (.string value)

theorem standsTo_eq (orders : List Ordering) (value : String) (found : List Json) :
    standsTo orders value found = (ordersFound value found).any (orders.contains ·) := by
  rw [ordersFound, List.any_filterMap, standsTo]
  rfl

/-- A single order is either the one or the other of two that exclude each other. -/
theorem standsTo_not_of_length_one {orders others : List Ordering} {value : String} {found : List Json}
    (hothers : ∀ o, others.contains o = !orders.contains o) (h : (ordersFound value found).length = 1) :
    standsTo others value found = !standsTo orders value found := by
  obtain ⟨o, ho⟩ := List.length_eq_one_iff.mp h
  simp only [standsTo_eq, ho, List.any_cons, List.any_nil, Bool.or_false, hothers]

theorem standsTo_or_of_ne_nil {orders others : List Ordering} {value : String} {found : List Json}
    (hothers : ∀ o, others.contains o = !orders.contains o) (h : ordersFound value found ≠ []) :
    standsTo orders value found = true ∨ standsTo others value found = true := by
  obtain ⟨o, os, ho⟩ := List.exists_cons_of_ne_nil h
  simp only [standsTo_eq, ho, List.any_cons, hothers]
  cases orders.contains o <;> simp

theorem standsTo_of_nil {orders : List Ordering} {value : String} {found : List Json}
    (h : ordersFound value found = []) : standsTo orders value found = false := by
  rw [standsTo_eq, h, List.any_nil]

/-! ## Opposites -/

/-- **Inverse comparisons part the documents as far as values can be ordered.** Equality is the opposite of its inverse
for every document, and so is likeness if the engine takes the pattern of the text; a pattern that is too large is
refused either way. An order and its inverse: none holds where nothing found can be ordered against the text, at least
one where something can, and exactly one where exactly one value can. -/
theorem inverse_partitions [PatternEngine] [LawfulPatternEngine] {q : DocumentQuery}
    (hq : q.clauses.filter.isEmpty = true) {path : String} (hpath : isOperatorKey path = false) (value : String)
    (document : Json) :
    let wants op := DocumentQuery.wants (Query.compare q path op value) document
    let orders := ordersFound value (resolve document path)
    (∃ equal, wants .eq = .ok equal ∧ wants .ne = .ok (!equal)) ∧
    (PatternReads value → ∃ like, wants .like = .ok like ∧ wants .notLike = .ok (!like)) ∧
    (¬ PatternReads value → PatternTooLarge value ∧ wants .like = .error (tooLargePattern value) ∧
      wants .notLike = .error (tooLargePattern value)) ∧
    ∀ op : Operator, op = .lt ∨ op = .gt →
      ∃ holds inverse, wants op = .ok holds ∧ wants op.inverse = .ok inverse ∧
        (orders = [] → holds = false ∧ inverse = false) ∧
        (orders ≠ [] → holds = true ∨ inverse = true) ∧
        (orders.length = 1 → inverse = !holds) := by
  have hwants op := compare_wants hq hpath op value document
  refine ⟨⟨_, hwants .eq, hwants .ne⟩, fun hreads => ?_, fun hrefused => ?_, ?_⟩
  · have hanswer {op : Operator} : answerTo op value (compares document path op value) =
        .ok (compares document path op value) := by
      rw [answerTo, refusal?_eq_none_of_reads hreads]
      rfl
    exact ⟨_, (hwants .like).trans hanswer, (hwants .notLike).trans hanswer⟩
  · have hlarge : PatternTooLarge value := (patternReads_or value).resolve_left hrefused
    exact ⟨hlarge, (hwants .like).trans (answerTo_of_tooLarge (by decide) hlarge _),
      (hwants .notLike).trans (answerTo_of_tooLarge (by decide) hlarge _)⟩
  · rintro op (rfl | rfl)
    · have hothers : ∀ o : Ordering, [Ordering.gt, .eq].contains o = !([Ordering.lt].contains o) := by decide
      exact ⟨_, _, hwants .lt, hwants .gte, fun h => ⟨standsTo_of_nil h, standsTo_of_nil h⟩,
        standsTo_or_of_ne_nil hothers, standsTo_not_of_length_one hothers⟩
    · have hothers : ∀ o : Ordering, [Ordering.lt, .eq].contains o = !([Ordering.gt].contains o) := by decide
      exact ⟨_, _, hwants .gt, hwants .lte, fun h => ⟨standsTo_of_nil h, standsTo_of_nil h⟩,
        standsTo_or_of_ne_nil hothers, standsTo_not_of_length_one hothers⟩

/-- One depth among things that are none. -/
def depths : Json := .ofFields [("depths", .array [.null, .number (.int 9), .bool true])]

theorem inverse_partitions_depths :
    (ClauseQuery.ofSource "setts" : DocumentQuery).clauses.filter.isEmpty = true ∧
    isOperatorKey "depths" = false ∧ ordersFound "7" (resolve depths "depths") = [.gt] ∧
    ∃ less, DocumentQuery.wants (Query.compare (.ofSource "setts") "depths" .lt "7") depths = .ok less ∧
      DocumentQuery.wants (Query.compare (.ofSource "setts") "depths" .gte "7") depths = .ok (!less) := by
  have hpath : isOperatorKey "depths" = false := by decide
  have horders : ordersFound "7" (resolve depths "depths") = [.gt] := by decide +kernel
  obtain ⟨_, _, _, hpartition⟩ := inverse_partitions (q := .ofSource "setts") rfl hpath "7" depths
  obtain ⟨less, atLeast, hless, hatLeast, _, _, hone⟩ := hpartition .lt (.inl rfl)
  refine ⟨rfl, hpath, horders, less, hless, ?_⟩
  rw [← hone (by rw [horders]; rfl)]
  exact hatLeast

theorem patternTooLarge_replicate {n : Nat} (hn : PatternRefusal.sizeLimit < 24 + n * 120) :
    PatternTooLarge (String.ofList (List.replicate n '?')) := by
  have hmark : Wildcard.sign '?' = .point := rfl
  rw [PatternTooLarge, readLike, Wildcard.toRegex_eq_pattern, Wildcard.signs, String.toList_ofList,
    List.map_replicate, hmark]
  exact Regex.read_replicate_point rfl hn

/-- A value of very many marks. -/
def manyMarks : String := String.ofList (List.replicate 100000 '?')

theorem patternTooLarge_manyMarks : PatternTooLarge manyMarks := patternTooLarge_replicate (by decide)

/-- Neither likeness nor its inverse passes where the pattern is too large. -/
theorem likeness_refused_manyMarks :
    let passes op := DocumentQuery.wants (Query.compare (.ofSource "setts") "depths" op manyMarks) depths = .ok true
    isOperatorKey "depths" = false ∧ ¬ (passes .notLike ↔ ¬ passes .like) := by
  intro passes
  have hpath : isOperatorKey "depths" = false := by decide
  have hrefused (op : Operator) (htakes : takesPattern op = true) : ¬ passes op := by
    have hwants := compare_wants (q := .ofSource "setts") rfl hpath op manyMarks depths
    rw [answerTo_of_tooLarge htakes patternTooLarge_manyMarks] at hwants
    intro hpasses
    cases hwants.symm.trans hpasses
  refine ⟨hpath, fun h => ?_⟩
  exact hrefused .notLike (by decide) (h.mpr (hrefused .like (by decide)))

/-! ## Orders that allow equality -/

theorem compare_eq_iff_sameValue (x y : Binary64) : x.compare y = .eq ↔ x.sameValue y = true := by
  rw [Binary64.compare, Binary64.sameValue, Std.compare_eq_iff_eq, beq_iff_eq]

/-- **A value is ranked equal to a text if it equals it**, unless it is a truth value, which is not ranked. -/
theorem valueOrder?_eq_some_eq_iff {found : Json} {value : String} :
    valueOrder? found (.string value) = some .eq ↔
      found.bool? = none ∧ equalValues found (.string value) = true := by
  cases found with
  | number x =>
    cases htext : readNumber? value with
    | none => simp [valueOrder?, equalValues, htext]
    | some y => simp [valueOrder?, equalValues, htext, compare_eq_iff_sameValue, Json.bool?]
  | string text => simp [valueOrder?, equalValues, Json.same, Json.bool?]
  | bool b => simp [valueOrder?, Json.bool?]
  | null | array | object => simp [valueOrder?, equalValues, Json.same]

/-- Some value found is ranked equal to a text if one equals it that is no truth value. -/
theorem standsTo_equal (value : String) (found : List Json) :
    standsTo [.eq] value found = found.any fun v => v.bool?.isNone && equalValues v (.string value) := by
  rw [standsTo, Bool.eq_iff_iff, List.any_eq_true, List.any_eq_true]
  refine exists_congr fun v => and_congr_right fun _ => ?_
  rw [Bool.and_eq_true, Option.isNone_iff_eq_none, ← valueOrder?_eq_some_eq_iff]
  cases valueOrder? v (.string value) <;> simp

theorem standsTo_cons (o : Ordering) (orders : List Ordering) (value : String) (found : List Json) :
    standsTo (o :: orders) value found = (standsTo [o] value found || standsTo orders value found) := by
  simp only [standsTo_eq, List.contains_cons, List.contains_nil, Bool.or_false]
  induction ordersFound value found with
  | nil => rfl
  | cons o' os ih =>
    simp only [List.any_cons, ih]
    grind

/-- Where the text names no truth value found, to be equal is to be ranked equal. -/
theorem isFound_eq_standsTo {value : String} {found : List Json}
    (hnamed : ∀ b, .bool b ∈ found → readBool? value ≠ some b) :
    isFound found (.string value) = standsTo [.eq] value found := by
  rw [standsTo_equal, isFound, Bool.eq_iff_iff, List.any_eq_true, List.any_eq_true]
  refine exists_congr fun v => and_congr_right fun hv => ?_
  cases v with
  | bool b =>
    have hnot : equalValues (.bool b) (.string value) = false := by simpa [equalValues] using hnamed b hv
    simp [hnot]
  | null | number | string | array | object => simp [Json.bool?]

/-- **An order that allows equality holds where the strict order or equality holds**, as long as the text names no
truth value found at the field. -/
theorem order_allows_equality [PatternEngine] {q : DocumentQuery} (hq : q.clauses.filter.isEmpty = true) {path : String}
    (hpath : isOperatorKey path = false) (value : String) (document : Json)
    (hnamed : ∀ b, .bool b ∈ resolve document path → readBool? value ≠ some b) :
    let wants op := DocumentQuery.wants (Query.compare q path op value) document
    ∃ greater less equal, wants .gt = .ok greater ∧ wants .lt = .ok less ∧ wants .eq = .ok equal ∧
      wants .gte = .ok (greater || equal) ∧ wants .lte = .ok (less || equal) := by
  have hwants op := compare_wants hq hpath op value document
  have hallows (o : Ordering) : standsTo [o, .eq] value (resolve document path) =
      (standsTo [o] value (resolve document path) || isFound (resolve document path) (.string value)) := by
    rw [standsTo_cons, isFound_eq_standsTo hnamed]
  exact ⟨_, _, _, hwants .gt, hwants .lt, hwants .eq, (hwants .gte).trans (congrArg Except.ok (hallows .gt)),
    (hwants .lte).trans (congrArg Except.ok (hallows .lt))⟩

theorem order_allows_equality_depths :
    (ClauseQuery.ofSource "setts" : DocumentQuery).clauses.filter.isEmpty = true ∧
    isOperatorKey "depths" = false ∧ (∀ b, .bool b ∈ resolve depths "depths" → readBool? "9" ≠ some b) ∧
    ∃ greater equal, DocumentQuery.wants (Query.compare (.ofSource "setts") "depths" .gt "9") depths = .ok greater ∧
      DocumentQuery.wants (Query.compare (.ofSource "setts") "depths" .eq "9") depths = .ok equal ∧
      DocumentQuery.wants (Query.compare (.ofSource "setts") "depths" .gte "9") depths = .ok (greater || equal) := by
  have hpath : isOperatorKey "depths" = false := by decide
  have hnamed : ∀ b, .bool b ∈ resolve depths "depths" → readBool? "9" ≠ some b := by
    have hnone : readBool? "9" = none := by decide
    intro b _ hb
    rw [hnone] at hb
    cases hb
  obtain ⟨greater, _, equal, hgreater, _, hequal, hatLeast, _⟩ :=
    order_allows_equality (q := .ofSource "setts") rfl hpath "9" depths hnamed
  exact ⟨rfl, hpath, hnamed, greater, equal, hgreater, hequal, hatLeast⟩

/-- A stored truth value equals the text that names it and is not ranked against it. -/
theorem order_misses_equal_truth :
    let wants op := DocumentQuery.wants (Query.compare (.ofSource "badgers" : DocumentQuery) "tame" op "true")
      (.ofFields [("tame", .bool true)])
    wants .eq = .ok true ∧ wants .gt = .ok false ∧ wants .gte = .ok false := by
  refine ⟨rfl, rfl, rfl⟩

end TermSearch.Document
