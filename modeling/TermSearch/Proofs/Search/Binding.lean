import Mathlib.Data.List.Range
import Mathlib.Data.List.SplitBy
import TermSearch.Proofs.Query.Formula
import TermSearch.Proofs.Search.Runs

/-!
# *Or* binds tighter than *and*

The connective of a group is read off its keywords, and these come from several separators: within a run of slots they
stay in its group, between runs they go to the root. So it has to be seen that no second keyword of a separator ever
decides. A group is joined by *or* exactly if its slots are, and the root exactly if the search begins with *or*
(`Joining`).

What a search means follows. Its terms are numbered from left to right and each is true or not; a tree joins the truth
values of its children, without the groups that have no term (`Group.value`). Unless the search begins with *or*, it is
true exactly if each maximal run of slots joined by *or* has a true term or none at all (`Slot.eachHasTrue`).
-/

namespace TermSearch

/-! ## The truth value of a tree -/

namespace Node

mutual

/-- The truth value of a node, given those of its terms from left to right. -/
def value (truth : Nat → Bool) : Node → Bool
  | .term _ => truth 0
  | .group children keywords => (Keyword.connective keywords).holds (listValues truth children)

/-- The truth values of the nodes that have a term. -/
def listValues (truth : Nat → Bool) : List Node → List Bool
  | [] => []
  | node :: nodes =>
    let others := listValues (fun i => truth (node.terms.length + i)) nodes
    if node.terms.isEmpty then others else value truth node :: others

end

theorem listValues_terms (ts : List Term) (truth : Nat → Bool) :
    listValues truth (ts.map .term) = (List.range ts.length).map truth := by
  induction ts generalizing truth with
  | nil => rfl
  | cons t ts ih =>
    rw [List.map_cons, listValues, ih, List.length_cons, List.range_succ_eq_map, List.map_cons, List.map_map, value]
    refine congrArg (truth 0 :: ·) (List.map_congr_left fun i _ => ?_)
    rw [terms, List.length_singleton, Function.comp_apply, Nat.succ_eq_one_add]

end Node

/-- **The truth value of a tree**, given those of its terms from left to right. -/
def Group.value (truth : Nat → Bool) (g : Group) : Bool := g.predicate.holds (Node.listValues truth g.children)

/-! ## Runs joined by *or* -/

namespace Slot

/-- The maximal runs of slots joined by *or*. -/
def orRuns (slots : List Slot) : List (List Slot) := slots.splitBy fun _ next => next.joinsByOr

/-- How many terms the slots have; a void one is none. -/
def termCount (slots : List Slot) : Nat := (slots.filterMap Slot.term).length

/-- Whether each of the runs that have a term has a true one; the terms of all runs are numbered from left to right. -/
def eachHasTrue (truth : Nat → Bool) (runs : List (List Slot)) : Bool :=
  ((runs.map termCount).ranges.filter (!·.isEmpty)).all (·.any truth)

theorem termCount_append (slots slots' : List Slot) :
    termCount (slots ++ slots') = termCount slots + termCount slots' := by
  rw [termCount, List.filterMap_append, List.length_append]
  rfl

theorem eachHasTrue_cons (truth : Nat → Bool) (run : List Slot) (runs : List (List Slot)) :
    eachHasTrue truth (run :: runs) =
      ((termCount run == 0 || (List.range (termCount run)).any truth) &&
        eachHasTrue (fun i => truth (termCount run + i)) runs) := by
  -- the numbers of the other runs are moved on by the terms of the first
  have hothers : ∀ ranges : List (List Nat),
      ((ranges.map (List.map (termCount run + ·))).filter (!·.isEmpty)).all (·.any truth) =
        (ranges.filter (!·.isEmpty)).all (·.any fun i => truth (termCount run + i)) := by
    intro ranges
    simp [List.filter_map, Function.comp_def]
  rw [eachHasTrue, List.map_cons, List.ranges, List.filter_cons, eachHasTrue, ← hothers]
  cases hcount : termCount run with
  | zero => rfl
  | succ n =>
    rw [if_pos (by simp), List.all_cons]
    rfl

theorem eachHasTrue_append (truth : Nat → Bool) (runs runs' : List (List Slot)) :
    eachHasTrue truth (runs ++ runs') =
      (eachHasTrue truth runs && eachHasTrue (fun i => truth (termCount runs.flatten + i)) runs') := by
  induction runs generalizing truth with
  | nil => simp [eachHasTrue, termCount, List.ranges]
  | cons run runs ih =>
    rw [List.cons_append, eachHasTrue_cons, ih, eachHasTrue_cons, Bool.and_assoc, List.flatten_cons, termCount_append]
    simp only [Nat.add_assoc]

theorem eachHasTrue_singletons (truth : Nat → Bool) (slots : List Slot) :
    eachHasTrue truth (slots.map ([·])) = (List.range (termCount slots)).all truth := by
  induction slots generalizing truth with
  | nil => rfl
  | cons slot slots ih =>
    have hcount : termCount (slot :: slots) = termCount [slot] + termCount slots := termCount_append [slot] slots
    rw [List.map_cons, eachHasTrue_cons, ih, hcount, List.range_add, List.all_append, List.all_map]
    -- a single slot has at most one term
    congr 1
    obtain ⟨before, term⟩ := slot
    cases term <;> simp [termCount]

theorem flatten_orRuns (slots : List Slot) : (orRuns slots).flatten = slots := List.flatten_splitBy _ _

/-- Runs that no *or* joins are taken apart separately. -/
theorem orRuns_flatten {runs : List (List Slot)}
    (h : ∀ run ∈ runs.tail, ∀ slot ∈ run.head?, slot.joinsByOr = false) :
    orRuns runs.flatten = runs.flatMap orRuns := by
  induction runs with
  | nil => rfl
  | cons run runs ih =>
    rw [List.tail_cons] at h
    have hrest : orRuns runs.flatten = runs.flatMap orRuns := ih fun next hnext => h next (List.mem_of_mem_tail hnext)
    rw [List.flatten_cons, List.flatMap_cons, ← hrest]
    refine List.splitBy_append fun _ _ slot hslot => ?_
    rw [List.head?_flatten] at hslot
    obtain ⟨next, hnext, hslot⟩ := List.exists_of_findSome?_eq_some hslot
    exact h next hnext slot hslot

end Slot

theorem isChain_iff_forall_tail {α : Type} {P : α → Prop} {l : List α} :
    l.IsChain (fun _ b => P b) ↔ ∀ b ∈ l.tail, P b := by
  induction l with
  | nil => simp
  | cons a l ih =>
    rw [List.isChain_cons, ih, List.tail_cons]
    cases l with
    | nil => simp
    | cons b l => simp

namespace Slot

/-- Slots that are all joined by *or* are one run. -/
theorem orRuns_of_joined {slots : List Slot} (hne : slots ≠ []) (h : ∀ slot ∈ slots.tail, slot.joinsByOr = true) :
    orRuns slots = [slots] :=
  List.splitBy_of_isChain hne (isChain_iff_forall_tail.mpr h)

/-- Slots of which none is joined by *or* are runs of their own. -/
theorem orRuns_of_not_joined {slots : List Slot} (h : ∀ slot ∈ slots.tail, slot.joinsByOr = false) :
    orRuns slots = slots.map ([·]) := by
  have hsingle : orRuns (slots.map ([·])).flatten = (slots.map ([·])).flatMap orRuns := by
    refine orRuns_flatten fun run hrun slot hslot => ?_
    rw [← List.map_tail] at hrun
    obtain ⟨slot', hslot', rfl⟩ := List.mem_map.mp hrun
    obtain rfl : slot' = slot := by simpa using hslot
    exact h slot' hslot'
  rw [← List.flatMap_def, List.flatMap_singleton'] at hsingle
  rw [hsingle, List.flatMap_map]
  exact List.map_eq_flatMap.symm

end Slot

/-! ## Connectives -/

namespace Keyword

/-- Keywords that begin with *or*, as far as they connect, stand for *or*, whatever comes behind them. -/
theorem connective_of_joinsByOr {slot : Slot} (h : slot.joinsByOr = true) (keywords : List Keyword) :
    connective (slot.before ++ keywords) = .or := by
  rw [Slot.joinsByOr, beq_iff_eq] at h
  rw [connective, List.findSome?_append, h]
  rfl

/-- Separators of which none is *or* stand for *and*. -/
theorem connective_of_not_joinsByOr {run : List Placed} (h : ∀ p ∈ run, p.slot.joinsByOr = false) :
    connective (Placed.keywords run) = .and := by
  induction run with
  | nil => rfl
  | cons p run ih =>
    rw [List.forall_mem_cons] at h
    have hfirst := h.1
    have hrest := ih h.2
    rw [Slot.joinsByOr] at hfirst
    rw [connective] at hrest ⊢
    rw [Placed.keywords_cons, List.findSome?_append]
    cases hfound : p.slot.before.findSome? predicate? with
    | none => exact hrest
    | some q =>
      cases q with
      | and => rfl
      | or => simp [hfound] at hfirst

end Keyword

namespace Placed

/-- Only the first slot of a search can be joined by *or* to nothing. -/
theorem orBefore_eq_joinsByOr (slots : List Slot) (orBefore : Bool) :
    ∀ p ∈ (row orBefore slots).tail, p.orBefore = p.slot.joinsByOr := by
  induction slots generalizing orBefore with
  | nil => simp [row]
  | cons slot rest ih =>
    rw [row, List.tail_cons]
    cases rest with
    | nil => simp [row]
    | cons next rest =>
      rw [row]
      refine List.forall_mem_cons.mpr ⟨by simp, ?_⟩
      have := ih next.joinsByOr
      rwa [row, List.tail_cons] at this

end Placed

namespace Partition

variable {runs : List (List Placed)} {slots : List Slot}

/-- Within a run the slots are all joined by *or* or none is. -/
theorem joined_or_not (h : Partition runs) {run : List Placed} (hrun : run ∈ runs) :
    (∀ p ∈ run.tail, p.orBefore = true) ∨ ∀ p ∈ run.tail, p.orBefore = false := by
  obtain ⟨linked, hlinked⟩ := h.linked run hrun
  cases linked with
  | true =>
    refine .inl (isChain_iff_forall_tail.mp ((h.joined run hrun).imp_of_mem_imp fun p q hp hq hpq => ?_))
    rcases hpq with hpq | ⟨hnot, -⟩
    · exact hpq
    · exact absurd (hlinked p hp) hnot
  | false =>
    refine .inr fun p hp => ?_
    have hnot := hlinked p (List.mem_of_mem_tail hp)
    rw [Placed.orLinked, Bool.or_eq_false_iff] at hnot
    exact hnot.1

/-- No run is joined by *or* to the run before it. -/
theorem orBefore_head (h : Partition runs) : ∀ run ∈ runs.tail, ∀ p ∈ run.head?, p.orBefore = false := by
  refine isChain_iff_forall_tail.mp (h.apart.imp_of_mem_imp fun run next hrun _ hapart p hp => ?_)
  have hne : run ≠ [] := fun hnil => h.ne_nil (hnil ▸ hrun)
  have hnot := hapart (run.getLast hne) (List.getLast?_eq_some_getLast hne) p hp
  rw [Placed.Joined, not_or] at hnot
  exact Bool.eq_false_iff.mpr hnot.1

/-- Whether a slot behind the first of its run, or in a later run, is joined by *or* can be read off its separator. -/
theorem orBefore_eq_joinsByOr (h : Partition runs) (hrow : runs.flatten = Placed.row false slots) :
    (∀ run ∈ runs, ∀ p ∈ run.tail, p.orBefore = p.slot.joinsByOr) ∧
      ∀ run ∈ runs.tail, ∀ p ∈ run, p.orBefore = p.slot.joinsByOr := by
  have hslots := Placed.orBefore_eq_joinsByOr slots false
  rw [← hrow] at hslots
  cases runs with
  | nil => simp
  | cons first others =>
    have hne : first ≠ [] := fun hnil => h.ne_nil (hnil ▸ List.mem_cons_self)
    rw [List.flatten_cons, List.tail_append_of_ne_nil hne] at hslots
    have hothers : ∀ run ∈ others, ∀ p ∈ run, p.orBefore = p.slot.joinsByOr := fun run hrun p hp =>
      hslots p (List.mem_append_right _ (List.mem_flatten_of_mem hrun hp))
    refine ⟨List.forall_mem_cons.mpr ⟨fun p hp => ?_, fun run hrun p hp => ?_⟩, hothers⟩
    · exact hslots p (List.mem_append_left _ hp)
    · exact hothers run hrun p (List.mem_of_mem_tail hp)

/-- **A group is joined by *or* exactly if its slots are.** -/
theorem group_predicate (h : Partition runs) (hrow : runs.flatten = Placed.row false slots) {run : List Placed}
    (hrun : run ∈ runs) :
    ((Placed.group run).predicate = .or ∧ run.tail ≠ [] ∧ ∀ p ∈ run.tail, p.orBefore = true) ∨
      ((Placed.group run).predicate = .and ∧ ∀ p ∈ run.tail, p.orBefore = false) := by
  have hkeys := (h.orBefore_eq_joinsByOr hrow).1 run hrun
  rcases h.joined_or_not hrun with hor | hnot
  · cases htail : run.tail with
    | nil =>
      refine .inr ⟨?_, by simp⟩
      rw [Group.predicate, Placed.group, htail]
      rfl
    | cons p rest =>
      rw [htail] at hor hkeys
      refine .inl ⟨?_, List.cons_ne_nil _ _, hor⟩
      rw [Group.predicate, Placed.group, htail, Placed.keywords_cons]
      refine Keyword.connective_of_joinsByOr ?_ _
      rw [← hkeys p List.mem_cons_self]
      exact hor p List.mem_cons_self
  · refine .inr ⟨?_, hnot⟩
    refine Keyword.connective_of_not_joinsByOr fun p hp => ?_
    rw [← hkeys p hp]
    exact hnot p hp

/-- The first slots of all runs but the first are not joined by *or*. -/
theorem head_not_joinsByOr (h : Partition runs) (hrow : runs.flatten = Placed.row false slots) :
    ∀ run ∈ runs.tail, ∀ p ∈ run.head?, p.slot.joinsByOr = false := by
  intro run hrun p hp
  rw [← (h.orBefore_eq_joinsByOr hrow).2 run hrun p (List.mem_of_mem_head? hp)]
  exact h.orBefore_head run hrun p hp

/-- **The root is joined by *or* exactly if the search begins with it**: no separator behind the first slot decides. -/
theorem root_predicate (h : Partition runs) (hrow : runs.flatten = Placed.row false slots) :
    Keyword.connective (runs.flatMap fun run => Placed.keywords (run.take 1)) = .or ↔
      slots.head?.any Slot.joinsByOr = true := by
  have hslots : runs.flatten.map Placed.slot = slots := by rw [hrow, Placed.row_map_slot]
  have hheads := h.head_not_joinsByOr hrow
  match runs, h with
  | [], _ =>
    rw [← hslots]
    exact iff_of_false (by decide) (by decide)
  | [] :: others, h => exact absurd List.mem_cons_self h.ne_nil
  | (p :: back) :: others, h =>
    have hhead : slots.head?.any Slot.joinsByOr = p.slot.joinsByOr := by
      rw [← hslots]
      rfl
    rw [hhead]
    cases hor : p.slot.joinsByOr with
    | true =>
      refine iff_of_true ?_ rfl
      rw [List.flatMap_cons, List.take_succ_cons, Placed.keywords_cons, List.append_assoc]
      exact Keyword.connective_of_joinsByOr hor _
    | false =>
      have hfirsts : ∀ q ∈ ((p :: back) :: others).flatMap (List.take 1), q.slot.joinsByOr = false := by
        intro q hq
        rw [List.flatMap_cons, List.mem_append] at hq
        rcases hq with hq | hq
        · obtain rfl : q = p := by simpa using hq
          exact hor
        · obtain ⟨run, hrun, hq⟩ := List.mem_flatMap.mp hq
          refine hheads run hrun q ?_
          rw [List.take_one] at hq
          exact Option.mem_toList.mp hq
      have hand := Keyword.connective_of_not_joinsByOr hfirsts
      rw [Placed.keywords, List.flatMap_assoc] at hand
      exact iff_of_false (fun heq => absurd (hand.symm.trans heq) (by decide)) Bool.false_ne_true

end Partition

/-! ## The groups of a search -/

namespace Placed

theorem length_terms_group (run : List Placed) :
    (Node.ofGroup (group run)).terms.length = Slot.termCount (run.map slot) := by
  rw [Node.ofGroup, Node.terms, group, listTerms_nodes, Slot.termCount, List.filterMap_map]
  rfl

/-- A group joins the truth values of its terms. -/
theorem value_group (truth : Nat → Bool) (run : List Placed) :
    (Node.ofGroup (group run)).value truth =
      (group run).predicate.holds ((List.range (Slot.termCount (run.map slot))).map truth) := by
  have hcount : Slot.termCount (run.map slot) = (run.filterMap (·.slot.term)).length := by
    rw [Slot.termCount, List.filterMap_map]
    rfl
  rw [Node.ofGroup, Node.value, hcount, ← Node.listValues_terms]
  rfl

end Placed

namespace Partition

variable {runs : List (List Placed)} {slots : List Slot}

/-- A group is true exactly if the runs joined by *or* that it holds are. -/
theorem value_group (h : Partition runs) (hrow : runs.flatten = Placed.row false slots) {run : List Placed}
    (hrun : run ∈ runs) (truth : Nat → Bool) :
    (Slot.termCount (run.map Placed.slot) == 0 || (Node.ofGroup (Placed.group run)).value truth) =
      Slot.eachHasTrue truth (Slot.orRuns (run.map Placed.slot)) := by
  have hkeys := (h.orBefore_eq_joinsByOr hrow).1 run hrun
  have htail : ∀ {b : Bool}, (∀ p ∈ run.tail, p.orBefore = b) →
      ∀ slot ∈ (run.map Placed.slot).tail, slot.joinsByOr = b := by
    intro b hb slot hslot
    rw [← List.map_tail] at hslot
    obtain ⟨p, hp, rfl⟩ := List.mem_map.mp hslot
    rw [← hkeys p hp, hb p hp]
  rw [Placed.value_group]
  rcases h.group_predicate hrow hrun with ⟨hor, hne, hjoined⟩ | ⟨hand, hnot⟩
  · have hslots : run.map Placed.slot ≠ [] := by
      rintro hnil
      rw [List.map_eq_nil_iff.mp hnil] at hne
      exact hne rfl
    rw [hor, Slot.orRuns_of_joined hslots (htail hjoined), Slot.eachHasTrue_cons]
    simp [Predicate.holds, Slot.eachHasTrue, List.ranges]
  · rw [hand, Slot.orRuns_of_not_joined (htail hnot), Slot.eachHasTrue_singletons]
    cases hcount : Slot.termCount (run.map Placed.slot) <;> simp [Predicate.holds]

/-- The runs joined by *or* are found within the runs of the grouping. -/
theorem orRuns_eq (h : Partition runs) (hrow : runs.flatten = Placed.row false slots) :
    Slot.orRuns slots = runs.flatMap fun run => Slot.orRuns (run.map Placed.slot) := by
  have hslots : (runs.map (List.map Placed.slot)).flatten = slots := by
    rw [← List.map_flatten, hrow, Placed.row_map_slot]
  rw [← hslots, Slot.orRuns_flatten, List.flatMap_map]
  intro run hrun slot hslot
  rw [← List.map_tail] at hrun
  obtain ⟨placed, hplaced, rfl⟩ := List.mem_map.mp hrun
  rw [List.head?_map] at hslot
  obtain ⟨p, hp, rfl⟩ := Option.map_eq_some_iff.mp hslot
  exact h.head_not_joinsByOr hrow placed hplaced p hp

/-- **All groups are true exactly if all runs joined by *or* are.** -/
theorem listValues_groups (h : Partition runs) (hrow : runs.flatten = Placed.row false slots) (truth : Nat → Bool) :
    (Node.listValues truth (runs.map fun run => .ofGroup (Placed.group run))).all id =
      Slot.eachHasTrue truth (Slot.orRuns slots) := by
  have hgroup : ∀ run ∈ runs, ∀ truth : Nat → Bool,
      (Slot.termCount (run.map Placed.slot) == 0 || (Node.ofGroup (Placed.group run)).value truth) =
        Slot.eachHasTrue truth (Slot.orRuns (run.map Placed.slot)) := fun _ hrun => h.value_group hrow hrun
  rw [h.orRuns_eq hrow]
  clear h hrow
  induction runs generalizing truth with
  | nil => rfl
  | cons run runs ih =>
    rw [List.forall_mem_cons] at hgroup
    have hcount := Placed.length_terms_group run
    rw [List.map_cons, Node.listValues, List.flatMap_cons, Slot.eachHasTrue_append, Slot.flatten_orRuns, ← hgroup.1,
      ← ih _ hgroup.2, hcount]
    -- a group without terms counts for nothing on either side
    cases hterms : (Node.ofGroup (Placed.group run)).terms with
    | nil =>
      rw [hterms] at hcount
      simp [← hcount]
    | cons t ts =>
      rw [hterms, List.length_cons] at hcount
      simp [← hcount]

end Partition

/-- A search with a term is a row of stretches, and the runs of their slots are its groups. -/
theorem Group.ofLexemes_partition {ls : List Lexeme} (h : ∃ w, .term w ∈ ls) :
    ∃ (stretches : List Stretch) (trailing : List Keyword) (runs : List (List Placed)),
      ls = stretches.flatMap Stretch.lexemes ++ trailing.map .keyword ∧
      ofLexemes ls =
        { children := runs.map fun run => .ofGroup (Placed.group run)
          keywords := runs.flatMap fun run => Placed.keywords (run.take 1) } ∧
      runs.flatten = Placed.row false (stretches.map Stretch.slot) ∧ Partition runs := by
  obtain ⟨stretches, trailing, rfl⟩ := Stretch.exists_of_lexemes ls
  have hslots := Slot.collect_stretches stretches trailing
  have hne : (Slot.collect [] false (stretches.flatMap Stretch.lexemes ++ trailing.map .keyword)).1 ≠ [] := by
    rw [hslots]
    rintro hnil
    obtain rfl := List.map_eq_nil_iff.mp hnil
    simp at h
  obtain ⟨runs, hroot, hrow, hpart⟩ := ofLexemes_runs hne
  rw [hslots] at hrow
  exact ⟨stretches, trailing, runs, rfl, hroot, hrow, hpart⟩

/-- **How the groups of a search are joined**: each run of slots is one group. -/
structure Joining (slots : List Slot) (runs : List (List Placed)) (root : Group) : Prop where
  /-- The runs hold the slots of the search, in order. -/
  row : runs.flatten = Placed.row false slots
  children : root.children = runs.map fun run => .ofGroup (Placed.group run)
  /-- A group is joined by *or* exactly if *or* joins each of its slots to the one before it. -/
  byOr : ∀ run ∈ runs, (Placed.group run).predicate = .or ↔ run.tail ≠ [] ∧ ∀ p ∈ run.tail, p.orBefore = true
  /-- It is joined by *and* exactly if *or* joins none of them. -/
  byAnd : ∀ run ∈ runs, (Placed.group run).predicate = .and ↔ ∀ p ∈ run.tail, p.orBefore = false
  /-- The root is joined by *or* exactly if the search begins with it. -/
  root : root.predicate = .or ↔ slots.head?.any Slot.joinsByOr = true

theorem Partition.joining {runs : List (List Placed)} {slots : List Slot} (h : Partition runs)
    (hrow : runs.flatten = Placed.row false slots) :
    Joining slots runs
      { children := runs.map fun run => .ofGroup (Placed.group run)
        keywords := runs.flatMap fun run => Placed.keywords (run.take 1) } where
  row := hrow
  children := rfl
  byOr := by
    intro run hrun
    rcases h.group_predicate hrow hrun with ⟨hor, hne, hjoined⟩ | ⟨hand, hnot⟩
    · exact iff_of_true hor ⟨hne, hjoined⟩
    · refine iff_of_false (by simp [hand]) fun ⟨hne, hjoined⟩ => ?_
      obtain ⟨p, hp⟩ := List.exists_mem_of_ne_nil _ hne
      exact absurd (hjoined p hp) (by simp [hnot p hp])
  byAnd := by
    intro run hrun
    rcases h.group_predicate hrow hrun with ⟨hor, hne, hjoined⟩ | ⟨hand, hnot⟩
    · refine iff_of_false (by simp [hor]) fun hnot => ?_
      obtain ⟨p, hp⟩ := List.exists_mem_of_ne_nil _ hne
      exact absurd (hjoined p hp) (by simp [hnot p hp])
    · exact iff_of_true hand hnot
  root := h.root_predicate hrow

/-- ***Or* binds tighter than *and*.** Unless a search begins with *or*, its tree is true exactly if each maximal
run of slots joined by *or* has a true term, leaving out the runs without terms. If it does, one of its groups has
to be true. -/
theorem Group.value_ofLexemes {ls : List Lexeme} (h : ∃ w, .term w ∈ ls) :
    ∃ (stretches : List Stretch) (trailing : List Keyword) (runs : List (List Placed)),
      ls = stretches.flatMap Stretch.lexemes ++ trailing.map .keyword ∧
      Joining (stretches.map Stretch.slot) runs (ofLexemes ls) ∧
      ∀ truth : Nat → Bool, (ofLexemes ls).value truth =
        if (stretches.map Stretch.slot).head?.any Slot.joinsByOr then
          (Node.listValues truth (ofLexemes ls).children).any id
        else Slot.eachHasTrue truth (Slot.orRuns (stretches.map Stretch.slot)) := by
  obtain ⟨stretches, trailing, runs, hlexemes, hroot, hrow, hpart⟩ := ofLexemes_partition h
  have hjoining := hpart.joining hrow
  rw [← hroot] at hjoining
  refine ⟨stretches, trailing, runs, hlexemes, hjoining, fun truth => ?_⟩
  rw [value]
  split
  · next hor => rw [hjoining.root.mpr hor, Predicate.holds]
  · next hnot =>
    have hand : (ofLexemes ls).predicate = .and := by
      cases hpredicate : (ofLexemes ls).predicate with
      | and => rfl
      | or => exact absurd (hjoining.root.mp hpredicate) hnot
    rw [hand, Predicate.holds, hjoining.children]
    exact hpart.listValues_groups hrow truth

/-- The lexemes of *badger or and fox not owl or nest: and vole*, with a void term and separators of two keywords. -/
def voleSearch : List Lexeme :=
  [.term ⟨none, .eq, some "badger", .none, "badger"⟩, .keyword .or, .keyword .and,
   .term ⟨none, .eq, some "fox", .none, "fox"⟩, .keyword .not, .term ⟨none, .eq, some "owl", .none, "owl"⟩,
   .keyword .or, .term ⟨some "nest", .eq, none, .none, "nest:"⟩, .keyword .and, .keyword .or,
   .term ⟨none, .eq, some "vole", .none, "vole"⟩]

theorem Group.value_ofLexemes_vole :
    (∃ w, .term w ∈ voleSearch) ∧
    ∃ (stretches : List Stretch) (trailing : List Keyword) (runs : List (List Placed)),
      voleSearch = stretches.flatMap Stretch.lexemes ++ trailing.map .keyword ∧
      Joining (stretches.map Stretch.slot) runs (ofLexemes voleSearch) ∧
      ∀ truth : Nat → Bool, (ofLexemes voleSearch).value truth =
        if (stretches.map Stretch.slot).head?.any Slot.joinsByOr then
          (Node.listValues truth (ofLexemes voleSearch).children).any id
        else Slot.eachHasTrue truth (Slot.orRuns (stretches.map Stretch.slot)) := by
  have hterm : ∃ w, .term w ∈ voleSearch := ⟨_, List.mem_cons_self⟩
  exact ⟨hterm, Group.value_ofLexemes hterm⟩

-- a badger does for the fox, but not for the vole
example : (Group.ofLexemes voleSearch).value (· ≠ 1) = true ∧ (Group.ofLexemes voleSearch).value (· ≠ 3) = false := by
  decide

end TermSearch
