import Mathlib.Data.List.ReduceOption
import TermSearch.Proofs.Document.Inverse
import TermSearch.Proofs.Query.Formula
import TermSearch.Query.Scope

/-!
# Negated groups

For a negated term every comparison is the inverse one and every group joins its branches by the other connective. A
nest of groups then asks for the opposite (`negated_nest_is_opposite`). This takes two steps. The query that a nest
builds answers with the truth value of the nest as a formula over its comparisons (`adds_step`), where groups that
compare nothing are left out as they are when queries are merged (`Formula.value?`). And De Morgan's laws hold of
formulas read that way (`Formula.value?_not`), since both readings leave out the same groups.
-/

namespace TermSearch

open Document

/-! ## Formulas with empty joins left out -/

namespace Predicate

/-- The truth value of joined truth values, if there are any. -/
def holds? (p : Predicate) : List Bool → Option Bool
  | [] => none
  | values => some (p.holds values)

/-- De Morgan's laws. -/
theorem holds_flip_not (p : Predicate) (values : List Bool) : p.flip.holds (values.map not) = !p.holds values := by
  induction values with
  | nil => cases p <;> rfl
  | cons value values ih =>
    cases p with
    | and =>
      show (!value || Predicate.or.holds (values.map not)) = !(value && Predicate.and.holds values)
      rw [Bool.not_and, ← ih]
      rfl
    | or =>
      show (!value && Predicate.and.holds (values.map not)) = !(value || Predicate.or.holds values)
      rw [Bool.not_or, ← ih]
      rfl

theorem holds?_flip_not (p : Predicate) (values : List Bool) :
    p.flip.holds? (values.map not) = (p.holds? values).map not := by
  cases values with
  | nil => rfl
  | cons value values => exact congrArg some (holds_flip_not p (value :: values))

theorem holds?_eq_none {p : Predicate} {values : List Bool} : p.holds? values = none ↔ values = [] := by
  cases values <;> simp [holds?]

end Predicate

namespace Formula

variable {α : Type}

/-- The truth value of a formula, with the connectives exchanged if it is negated. Joins without atoms are left out,
and a formula that has none has no value. -/
def value? (assignment : α → Bool) (negated : Bool) (f : Formula α) : Option Bool :=
  f.fold (fun a => some (assignment a)) fun p values => (p.under negated).holds? values.reduceOption

@[simp] theorem value?_atom (assignment : α → Bool) (negated : Bool) (a : α) :
    (atom a).value? assignment negated = some (assignment a) := fold_atom _ _ _

@[simp] theorem value?_joined (assignment : α → Bool) (negated : Bool) (p : Predicate) (parts : List (Formula α)) :
    (joined p parts).value? assignment negated =
      (p.under negated).holds? (parts.map (value? assignment negated)).reduceOption := fold_joined _ _ _ _

/-- **A negated formula over negated atoms has the opposite value.** -/
theorem value?_not (assignment : α → Bool) (f : Formula α) :
    f.value? (fun a => !assignment a) true = (f.value? assignment false).map not := by
  induction f with
  | atom a => rw [value?_atom, value?_atom, Option.map_some]
  | joined p parts ih =>
    have hparts : parts.map (value? (fun a => !assignment a) true) =
        (parts.map (value? assignment false)).map (Option.map not) := by
      rw [List.map_map]
      exact List.map_congr_left ih
    rw [value?_joined, value?_joined, hparts, List.reduceOption_map]
    exact Predicate.holds?_flip_not p _

theorem value?_eq_none {assignment : α → Bool} {negated : Bool} {f : Formula α} :
    f.value? assignment negated = none ↔ f.atoms = [] := by
  induction f with
  | atom a => simp
  | joined p parts ih =>
    rw [value?_joined, Predicate.holds?_eq_none, atoms_joined, List.flatMap_eq_nil_iff, List.reduceOption,
      List.filterMap_eq_nil_iff, List.forall_mem_map]
    exact forall₂_congr ih

theorem mem_atoms_joined {p : Predicate} {parts : List (Formula α)} {part : Formula α} (hpart : part ∈ parts) {a : α}
    (ha : a ∈ part.atoms) : a ∈ (joined p parts).atoms := by
  rw [atoms_joined]
  exact List.mem_flatMap_of_mem hpart ha

end Formula

/-! ## Nests of groups as operations -/

namespace Formula

variable {Q : Type} [Query Q]

/-- The operations that a formula over fields stands for: joins are groups, and fields are compared. -/
def step (f : Formula String) : Step Q :=
  f.fold .compareBy fun
    | .and, steps => .allOf steps
    | .or, steps => .anyOf steps

theorem run_step_atom (v : Visit) (field : String) (s : Scope Q) :
    (atom field).step.run v s = .done (s.compareBy v field) := by
  rw [step, fold_atom, Step.run]

theorem run_step_joined (v : Visit) (p : Predicate) (parts : List (Formula String)) (s : Scope Q) :
    (joined p parts).step.run v s = s.grouped (p.under s.negated) (Step.runAll v (parts.map step)) := by
  rw [step, fold_joined]
  cases p with
  | and =>
    show Step.run v (.allOf (parts.map step)) s = _
    rw [Step.run]
  | or =>
    show Step.run v (.anyOf (parts.map step)) s = _
    rw [Step.run]

end Formula

namespace Document

section

variable [PatternEngine]

/-! ## Queries that judge a document -/

/-- The query asks for something, and a document meets it or not as told, unless the pattern of the value compared
is refused. -/
structure Judges (op : Operator) (value : String) (document : Json) (q : DocumentQuery) (holds : Bool) : Prop where
  notEmpty : q.clauses.filter.isEmpty = false
  wants : DocumentQuery.wants q document = answerTo op value holds

variable {op : Operator} {value : String} {document : Json}

theorem compare_judges {q : DocumentQuery} (hq : q.clauses.filter.isEmpty = true) {path : String}
    (hpath : isOperatorKey path = false) :
    Judges op value document (Query.compare q path op value) (compares document path op value) where
  notEmpty := by
    rw [compare_filter_of_isEmpty hq]
    rfl
  wants := compare_wants hq hpath op value document

section Merging

variable {queries : List DocumentQuery} {values : List Bool}

theorem notEmpty_of_judges (h : List.Forall₂ (Judges op value document) queries values) :
    ∀ q ∈ queries, q.clauses.filter.isEmpty = false := by
  induction h with
  | nil => exact fun _ hq => absurd hq List.not_mem_nil
  | cons hq _ ih => exact List.forall_mem_cons.mpr ⟨hq.notEmpty, ih⟩

theorem answers_of_judges (h : List.Forall₂ (Judges op value document) queries values) (hne : queries ≠ []) :
    Selector.answers (queries.map (·.clauses.filter)) document = answerTo op value values := by
  induction h with
  | nil => exact absurd rfl hne
  | @cons q holds queries values hq hqueries ih =>
    have hwants := hq.wants
    rw [DocumentQuery.wants] at hwants
    rw [List.map_cons, Selector.answers, List.mapM_cons, ← Selector.answers, hwants]
    cases hrefusal : refusal? op value with
    | some cause =>
      rw [answerTo, answerTo, hrefusal]
      rfl
    | none =>
      rw [answerTo, answerTo, hrefusal]
      cases hqueries with
      | nil => rfl
      | cons _ _ =>
        rw [ih (List.cons_ne_nil _ _), answerTo, hrefusal]
        rfl

/-- **A merge judges by the connective.** -/
theorem merge_judges (p : Predicate) {first : DocumentQuery}
    (h : List.Forall₂ (Judges op value document) (first :: queries) values) :
    Judges op value document (Query.merge first p queries) (p.holds values) := by
  have hnotEmpty := notEmpty_of_judges h
  have hparts : ∀ part ∈ (first :: queries).map (·.clauses.filter), part.isEmpty = false :=
    List.forall_mem_map.mpr hnotEmpty
  have hne : (first :: queries).map (·.clauses.filter) ≠ [] := List.cons_ne_nil _ _
  constructor
  · exact merge_notEmpty p List.mem_cons_self (hnotEmpty first List.mem_cons_self)
  · rw [DocumentQuery.wants, merge_filter, Selector.combine_wants p hne hparts,
      answers_of_judges h (List.cons_ne_nil _ _), answerTo, answerTo]
    cases refusal? op value <;> rfl

/-- A query without conditions leaves the judgement to what is merged into it. -/
theorem merge_empty_judges {q added : DocumentQuery} (hq : q.clauses.filter.isEmpty = true) {holds : Bool}
    (h : Judges op value document added holds) : Judges op value document (Query.merge q .and [added]) holds := by
  have hfilter : (Query.merge q .and [added]).clauses.filter = added.clauses.filter := by
    rw [merge_filter, Condition.combine, List.map_cons, List.map_cons, List.map_nil,
      List.filter_cons_of_neg (by simp [Condition.isEmpty, hq]),
      List.filter_cons_of_pos (by simp [Condition.isEmpty, h.notEmpty])]
    rfl
  obtain ⟨hne, hwants⟩ := h
  constructor
  · rw [hfilter]
    exact hne
  · rw [DocumentQuery.wants, hfilter]
    exact hwants

end Merging

/-! ## Nests run on a scope -/

section Branches

variable {v : Visit} {negated : Bool}

/-- What a nest of groups says of a document, by the comparisons made for a term. It says nothing without any. -/
def judgement? (v : Visit) (negated : Bool) (document : Json) (f : Formula String) : Option Bool :=
  f.value? (fun field => compares document field v.term.operator v.term.value) negated

/-- In a branching scope without conditions, the operations add branches that judge a document as listed, one by
one. -/
def AddsBranches (v : Visit) (negated : Bool) (document : Json)
    (run : Scope DocumentQuery → Outcome (Scope DocumentQuery)) (values : List Bool) : Prop :=
  ∀ root branches, root.clauses.filter.isEmpty = true →
    ∃ added, run (.branching root negated branches) = .done (.branching root negated (branches ++ added)) ∧
      List.Forall₂ (Judges v.term.operator v.term.value document) added values

/-- Operations in a row add what each of them adds. -/
theorem adds_runAll {parts : List (Formula String)}
    (h : ∀ part ∈ parts,
      AddsBranches v negated document (part.step.run v) (judgement? v negated document part).toList) :
    AddsBranches v negated document (Step.runAll v (parts.map Formula.step))
      (parts.map (judgement? v negated document)).reduceOption := by
  induction parts with
  | nil =>
    intro root branches _
    refine ⟨[], ?_, .nil⟩
    rw [List.map_nil, Step.runAll, List.append_nil]
  | cons part parts ih =>
    rw [List.forall_mem_cons] at h
    intro root branches hroot
    obtain ⟨first, hfirst, hjudges⟩ := h.1 root branches hroot
    obtain ⟨rest, hrest, hothers⟩ := ih h.2 root (branches ++ first) hroot
    refine ⟨first ++ rest, ?_, ?_⟩
    · rw [List.map_cons, Step.runAll, hfirst, Outcome.andThen_done, hrest, List.append_assoc]
    · have hvalues : ((part :: parts).map (judgement? v negated document)).reduceOption =
          (judgement? v negated document part).toList ++ (parts.map (judgement? v negated document)).reduceOption := by
        rw [List.map_cons]
        cases judgement? v negated document part with
        | none => rfl
        | some holds => rfl
      rw [hvalues]
      exact List.rel_append hjudges hothers

/-- A group pushes the merge of the branches that its operations add, if there are any. -/
theorem exists_merged {p : Predicate} {parts : List (Formula String)}
    (h : ∀ part ∈ parts,
      AddsBranches v negated document (part.step.run v) (judgement? v negated document part).toList)
    {s : Scope DocumentQuery} (hs : s.negated = negated) :
    ∃ merged : Option DocumentQuery, (Formula.joined p parts).step.run v s = .done (merged.elim s s.push) ∧
      Option.Rel (Judges v.term.operator v.term.value document) merged
        (judgement? v negated document (.joined p parts)) := by
  obtain ⟨added, hrun, hadded⟩ := adds_runAll h (Query.cleared s.current) [] rfl
  refine ⟨Scope.merged? (.branching (Query.cleared s.current) negated added) (p.under negated), ?_, ?_⟩
  · rw [Formula.run_step_joined, hs]
    unfold Scope.grouped Scope.branch
    rw [hs, hrun]
    rfl
  · rw [judgement?, Formula.value?_joined]
    change List.Forall₂ _ added (parts.map (judgement? v negated document)).reduceOption at hadded
    change Option.Rel _ _ ((p.under negated).holds? (parts.map (judgement? v negated document)).reduceOption)
    generalize (parts.map (judgement? v negated document)).reduceOption = values at hadded
    cases hadded with
    | nil => exact .none
    | cons hfirst hrest => exact .some (merge_judges _ (.cons hfirst hrest))

/-- **A nest of groups adds a query that judges a document by the nest**, or none if it compares nothing. -/
theorem adds_step (v : Visit) (negated : Bool) (document : Json) {f : Formula String}
    (hfields : ∀ field ∈ f.atoms, isOperatorKey field = false) :
    AddsBranches v negated document (f.step.run v) (judgement? v negated document f).toList := by
  induction f with
  | atom field =>
    intro root branches hroot
    refine ⟨[Query.compare root field v.term.operator v.term.value], Formula.run_step_atom v field _, ?_⟩
    rw [judgement?, Formula.value?_atom]
    exact .cons (compare_judges hroot (hfields field (by simp))) .nil
  | joined p parts ih =>
    intro root branches _
    have hparts := fun part hpart =>
      ih part hpart fun field hfield => hfields field (Formula.mem_atoms_joined hpart hfield)
    obtain ⟨merged, hrun, hmerged⟩ := exists_merged (s := .branching root negated branches) hparts rfl
    generalize judgement? v negated document (.joined p parts) = judgement at hmerged
    cases hmerged with
    | none => exact ⟨[], by rw [hrun, List.append_nil]; rfl, .nil⟩
    | @some q holds hjudges => exact ⟨[q], hrun, .cons hjudges .nil⟩

/-- **Run on a query without conditions, a nest leaves a query that judges a document by the nest.** -/
theorem exists_judges_of_nest {q : DocumentQuery} (hq : q.clauses.filter.isEmpty = true) {p : Predicate}
    {parts : List (Formula String)} (hleaf : (Formula.joined p parts).atoms ≠ [])
    (hfields : ∀ field ∈ (Formula.joined p parts).atoms, isOperatorKey field = false) (v : Visit) (negated : Bool)
    (document : Json) :
    ∃ holds result, judgement? v negated document (.joined p parts) = some holds ∧
      (Formula.joined p parts).step.run v (.start q negated) = .done (.single result negated true) ∧
      Judges v.term.operator v.term.value document result holds := by
  have hparts (part : Formula String) (hpart : part ∈ parts) :=
    adds_step v negated document fun field hfield => hfields field (Formula.mem_atoms_joined hpart hfield)
  obtain ⟨merged, hrun, hmerged⟩ := exists_merged (p := p) (s := .start q negated) hparts rfl
  cases hjudgement : judgement? v negated document (.joined p parts) with
  | none => exact absurd (Formula.value?_eq_none.mp hjudgement) hleaf
  | some holds =>
    rw [hjudgement] at hmerged
    cases hmerged with
    | @some merged _ hjudges => exact ⟨holds, _, rfl, hrun, merge_empty_judges hq hjudges⟩

end Branches

/-! ## The opposite of a nest -/

/-- The inverses of equality and likeness hold exactly where they do not. -/
theorem compares_inverse {op : Operator} (hop : op = .eq ∨ op = .like) (document : Json) (path value : String) :
    compares document path op.inverse value = !compares document path op value := by
  rcases hop with rfl | rfl
  · rfl
  · rfl

theorem refusal?_inverse (op : Operator) (value : String) : refusal? op.inverse value = refusal? op value := by
  cases op <;> rfl

/-- **The inverse comparisons judge a nest to the opposite** under exchanged connectives. -/
theorem judgement?_negated {op : Operator} (hop : op = .eq ∨ op = .like) (v : Visit) (field : Option String)
    (value : String) (quoting : Quoting) (document : Json) (f : Formula String) :
    judgement? { v with term := .make field op value quoting true } true document f =
      (judgement? { v with term := .make field op value quoting false } false document f).map not := by
  have hcompares : (fun path => compares document path op.inverse value) =
      fun path => !compares document path op value := funext fun path => compares_inverse hop document path value
  show f.value? (fun path => compares document path op.inverse value) true = _
  rw [hcompares, Formula.value?_not]
  rfl

/-- **A nest of groups asks the opposite for the negated term**, by equality or likeness: run for the term and for its
negation, it leaves queries of which exactly one wants a document, if the engine takes the pattern that likeness needs.
A pattern that is too large is refused either way. -/
theorem negated_nest_is_opposite [LawfulPatternEngine] {q : DocumentQuery} (hq : q.clauses.filter.isEmpty = true)
    {p : Predicate} {parts : List (Formula String)} (hleaf : (Formula.joined p parts).atoms ≠ [])
    (hfields : ∀ field ∈ (Formula.joined p parts).atoms, isOperatorKey field = false) (v : Visit)
    (field : Option String) {op : Operator} (hop : op = .eq ∨ op = .like) (value : String) (quoting : Quoting)
    (document : Json) :
    let run negated := (Formula.joined p parts).step.run
      { v with term := .make field op value quoting negated } (.start q negated)
    let wants negated := DocumentQuery.wants (run negated).state.current document
    (run false).failure = none ∧ (run true).failure = none ∧
      ((op = .like → PatternReads value) → ∃ holds, wants false = .ok holds ∧ wants true = .ok (!holds)) ∧
      (op = .like ∧ ¬ PatternReads value → PatternTooLarge value ∧ wants false = .error (tooLargePattern value) ∧
        wants true = .error (tooLargePattern value)) := by
  obtain ⟨holds, plain, hholds, hplain, -, hwants⟩ :=
    exists_judges_of_nest hq hleaf hfields { v with term := .make field op value quoting false } false document
  obtain ⟨inverse, opposite, hinverse, hopposite, -, hwants'⟩ :=
    exists_judges_of_nest hq hleaf hfields { v with term := .make field op value quoting true } true document
  obtain rfl : inverse = !holds := by
    rw [judgement?_negated hop, hholds] at hinverse
    exact (Option.some.inj hinverse).symm
  change DocumentQuery.wants opposite document = answerTo op.inverse value _ at hwants'
  change DocumentQuery.wants plain document = answerTo op value _ at hwants
  rw [answerTo, refusal?_inverse] at hwants'
  rw [answerTo] at hwants
  simp only [hplain, hopposite, Outcome.done, Scope.current, hwants, hwants', true_and]
  constructor
  · intro hreads
    have hnone : refusal? op value = none := by
      rcases hop with rfl | rfl
      · rfl
      · exact refusal?_eq_none_of_reads (hreads rfl)
    rw [hnone]
    exact ⟨holds, rfl, rfl⟩
  · rintro ⟨rfl, hrefused⟩
    have hlarge : PatternTooLarge value := (patternReads_or value).resolve_left hrefused
    have hsome : refusal? .like value = some (tooLargePattern value) :=
      refusal?_eq_some_iff.mpr ⟨by decide, hlarge, rfl⟩
    rw [hsome]
    exact ⟨hlarge, rfl, rfl⟩

end

/-- Badgers by their name, or by both parts of their sett; one inner group compares nothing. -/
def badgerNest : Formula String :=
  .joined .or [.atom "name", .joined .and [.atom "sett.name", .joined .or [], .atom "sett.side"]]

/-- A badger with one of its names in the north, and only one part of its sett. -/
def northBadger : Json :=
  .ofFields [("name", .array [.string "bob", .string "north"]), ("sett", .ofFields [("side", .string "north")])]

theorem atoms_badgerNest : badgerNest.atoms = ["name", "sett.name", "sett.side"] := by simp [badgerNest]

theorem negated_nest_is_opposite_badgers :
    let run negated := badgerNest.step.run (.start (.make none .eq "north" .none negated))
      (.start (ClauseQuery.ofSource "badgers" : DocumentQuery) negated)
    badgerNest.atoms ≠ [] ∧ (∀ field ∈ badgerNest.atoms, isOperatorKey field = false) ∧
      DocumentQuery.wants (run false).state.current northBadger = .ok true ∧
      DocumentQuery.wants (run true).state.current northBadger = .ok false := by
  have hfields : ∀ field ∈ badgerNest.atoms, isOperatorKey field = false := by
    rw [atoms_badgerNest]
    decide
  have hleaf : badgerNest.atoms ≠ [] := by
    rw [atoms_badgerNest]
    exact List.cons_ne_nil _ _
  have hplain : DocumentQuery.wants (badgerNest.step.run (.start (.make none .eq "north" .none false))
      (.start (ClauseQuery.ofSource "badgers" : DocumentQuery) false)).state.current northBadger = .ok true := rfl
  refine ⟨hleaf, hfields, hplain, ?_⟩
  obtain ⟨_, _, hopposite, _⟩ := negated_nest_is_opposite (q := .ofSource "badgers") rfl hleaf hfields
    (.start (.bare "north")) none (.inl rfl) "north" .none northBadger
  obtain ⟨holds, hholds, hnot⟩ := hopposite fun hlike => nomatch hlike
  obtain rfl : holds = true := Except.ok.inj (hholds.symm.trans hplain)
  exact hnot

/-- Neither a nest of likenesses nor its opposite passes where the pattern is too large. -/
theorem nest_refused_manyMarks :
    let run negated := badgerNest.step.run (.start (.make none .like manyMarks .none negated))
      (.start (ClauseQuery.ofSource "badgers" : DocumentQuery) negated)
    let passes negated := DocumentQuery.wants (run negated).state.current northBadger = .ok true
    badgerNest.atoms ≠ [] ∧ (∀ field ∈ badgerNest.atoms, isOperatorKey field = false) ∧
      ¬ (passes true ↔ ¬ passes false) := by
  intro run passes
  have hfields : ∀ field ∈ badgerNest.atoms, isOperatorKey field = false := by
    rw [atoms_badgerNest]
    decide
  have hleaf : badgerNest.atoms ≠ [] := by
    rw [atoms_badgerNest]
    exact List.cons_ne_nil _ _
  have hrefused (negated : Bool) : ¬ passes negated := by
    obtain ⟨holds, result, _, hrun, _, hwants⟩ := exists_judges_of_nest (q := .ofSource "badgers") rfl hleaf hfields
      (.start (.make none .like manyMarks .none negated)) negated northBadger
    have htakes : takesPattern (Term.make none .like manyMarks .none negated).operator = true := by
      cases negated <;> decide
    have hwants : DocumentQuery.wants result northBadger = .error (tooLargePattern manyMarks) :=
      hwants.trans (answerTo_of_tooLarge htakes patternTooLarge_manyMarks holds)
    have hresult : (run negated).state.current = result := congrArg (·.state.current) hrun
    intro hpasses
    change DocumentQuery.wants (run negated).state.current northBadger = _ at hpasses
    rw [hresult, hwants] at hpasses
    cases hpasses
  exact ⟨hleaf, hfields, fun h => hrefused true (h.mpr (hrefused false))⟩

end Document

end TermSearch
