import Mathlib.Data.List.Chain
import Mathlib.Data.List.Perm.Basic
import TermSearch.Search.Slot

/-!
# Groups are maximal runs

The groups of a search are the runs of its slots. Two neighbours stand in one run exactly if they are joined by *or*, or
if neither is joined by *or* to anything (`Placed.Joined`), so a run is cut off on both sides where this changes, and
within a run all slots are linked by *or* or none is (`Partition`).

Grouping looks at one slot and at the separators on its two sides; `Slot.runs_partition` is the induction over the slots
that are still to come, with the open run represented by its last slot. What the whole search makes of its lexemes
follows: which terms it has and which of them are negated, where they stand, and where the keywords between them go
(`Grouping`, `Group.ofLexemes_grouping`).
-/

namespace TermSearch

/-! ## Slots in their places -/

/-- A slot, and how it is joined to its neighbours. -/
structure Placed where
  slot : Slot
  /-- The separator before the slot is *or*. -/
  orBefore : Bool
  /-- The separator after the slot is *or*. -/
  orAfter : Bool

namespace Placed

/-- The slots of a search in their places, from one on whose separator is *or* or not. -/
def row (orBefore : Bool) : List Slot → List Placed
  | [] => []
  | slot :: rest =>
    ⟨slot, orBefore, rest.head?.any Slot.joinsByOr⟩ :: row (rest.head?.any Slot.joinsByOr) rest

/-- Whether a separator next to the slot is *or*. -/
def orLinked (p : Placed) : Bool := p.orBefore || p.orAfter

/-- Two neighbours belong together: the separator between them is *or*, or no separator next to either is. -/
def Joined (p q : Placed) : Prop := q.orBefore ∨ ¬p.orLinked ∧ ¬q.orLinked

/-- The last slot of one run and the first of the next do not belong together. -/
def Apart (run next : List Placed) : Prop := ∀ p ∈ run.getLast?, ∀ q ∈ next.head?, ¬Joined p q

theorem row_map_slot (orBefore : Bool) (slots : List Slot) : (row orBefore slots).map slot = slots := by
  induction slots generalizing orBefore with
  | nil => rfl
  | cons s rest ih => rw [row, List.map_cons, ih]

theorem Joined.orLinked_eq {p q : Placed} (h : Joined p q) (hpq : p.orAfter = q.orBefore) :
    q.orLinked = p.orLinked := by
  rcases h with h | ⟨hp, hq⟩
  · rw [orLinked, orLinked, hpq, h, Bool.true_or, Bool.or_true]
  · rw [Bool.eq_false_iff.mpr hp, Bool.eq_false_iff.mpr hq]

/-- The children of a run: its terms, without the void ones. -/
def nodes (run : List Placed) : List Node := (run.filterMap (·.slot.term)).map .term

/-- The keywords in front of the slots of a run. -/
def keywords (run : List Placed) : List Keyword := run.flatMap (·.slot.before)

@[simp] theorem nodes_nil : nodes [] = [] := rfl

@[simp] theorem nodes_cons (p : Placed) (run : List Placed) : nodes (p :: run) = p.slot.nodes ++ nodes run := by
  rw [nodes, List.filterMap_cons, Slot.nodes]
  cases p.slot.term <;> rfl

@[simp] theorem keywords_nil : keywords [] = [] := rfl

@[simp] theorem keywords_cons (p : Placed) (run : List Placed) :
    keywords (p :: run) = p.slot.before ++ keywords run := List.flatMap_cons

end Placed

/-- **A partition of a search into runs**: none is empty, neighbours within a run belong together, neighbours across
two runs do not, and a run consists of slots that are linked by *or* or of slots that are not. -/
structure Partition (runs : List (List Placed)) : Prop where
  ne_nil : [] ∉ runs
  joined : ∀ run ∈ runs, run.IsChain Placed.Joined
  apart : runs.IsChain Placed.Apart
  linked : ∀ run ∈ runs, ∃ linked : Bool, ∀ p ∈ run, p.orLinked = linked

namespace Partition

/-- The run of a single slot. -/
theorem singleton (p : Placed) : Partition [[p]] where
  ne_nil := by simp
  joined := by simp
  apart := by simp
  linked := by simp

/-- A slot that belongs together with the first slot opens the first run with it. -/
theorem extend {p q : Placed} {run : List Placed} {runs : List (List Placed)} (h : Partition ((q :: run) :: runs))
    (hpq : Placed.Joined p q) (hlink : q.orLinked = p.orLinked) : Partition ((p :: q :: run) :: runs) where
  ne_nil := by simpa using h.ne_nil
  joined := by
    intro r hr
    rcases List.mem_cons.mp hr with rfl | hr
    · exact List.isChain_cons_cons.mpr ⟨hpq, h.joined _ List.mem_cons_self⟩
    · exact h.joined r (List.mem_cons_of_mem _ hr)
  apart := by
    cases runs with
    | nil => exact List.isChain_singleton _
    | cons next runs =>
      obtain ⟨hfirst, hrest⟩ := List.isChain_cons_cons.mp h.apart
      refine List.isChain_cons_cons.mpr ⟨?_, hrest⟩
      rw [Placed.Apart, List.getLast?_cons_cons]
      exact hfirst
  linked := by
    intro r hr
    rcases List.mem_cons.mp hr with rfl | hr
    · obtain ⟨linked, hlinked⟩ := h.linked _ List.mem_cons_self
      refine ⟨linked, fun r hr => ?_⟩
      rcases List.mem_cons.mp hr with rfl | hr
      · rw [← hlink, hlinked q List.mem_cons_self]
      · exact hlinked r hr
    · exact h.linked r (List.mem_cons_of_mem _ hr)

/-- A slot that does not belong together with the first slot is a run of its own. -/
theorem separate {p q : Placed} {run : List Placed} {runs : List (List Placed)} (h : Partition ((q :: run) :: runs))
    (hpq : ¬Placed.Joined p q) : Partition ([p] :: (q :: run) :: runs) where
  ne_nil := by simpa using h.ne_nil
  joined := List.forall_mem_cons.mpr ⟨List.isChain_singleton p, h.joined⟩
  apart := by
    refine List.isChain_cons_cons.mpr ⟨?_, h.apart⟩
    intro p' hp' q' hq'
    obtain rfl : p = p' := by simpa using hp'
    obtain rfl : q = q' := by simpa using hq'
    exact hpq
  linked := List.forall_mem_cons.mpr ⟨⟨p.orLinked, by simp⟩, h.linked⟩

end Partition

/-! ## Grouping cuts the slots into runs -/

namespace Slot

/-- What the next slot is decided by. -/
theorem joined_iff {p : Placed} {slot : Slot} (hp : p.orAfter = slot.joinsByOr) (orAfter : Bool) :
    Placed.Joined p ⟨slot, slot.joinsByOr, orAfter⟩ ↔ (slot.joinsByOr || (!p.orBefore && !orAfter)) = true := by
  rw [Placed.Joined, Placed.orLinked, Placed.orLinked, hp]
  cases slot.joinsByOr <;> simp

/-- **The open run takes slots as long as they belong together**, and the others are cut in the same way. -/
theorem runs_partition (slots : List Slot) : ∀ (p : Placed) (children : List Node) (keywords : List Keyword),
    p.orAfter = slots.head?.any joinsByOr →
    ∃ (back : List Placed) (others : List (List Placed)),
      runs p.orBefore children keywords slots =
        ({ children := children ++ Placed.nodes back, keywords := keywords ++ Placed.keywords back } ::
          others.map (fun run => { children := Placed.nodes run, keywords := Placed.keywords run.tail }),
          others.flatMap fun run => Placed.keywords (run.take 1)) ∧
      back ++ others.flatten = Placed.row p.orAfter slots ∧ Partition ((p :: back) :: others) := by
  induction slots with
  | nil =>
    intro p children keywords _
    exact ⟨[], [], by simp [runs], rfl, .singleton p⟩
  | cons slot rest ih =>
    intro p children keywords hp
    rw [List.head?_cons, Option.any_some] at hp
    have hstep := joined_iff hp (rest.head?.any joinsByOr)
    by_cases hjoin : slot.joinsByOr || (!p.orBefore && !rest.head?.any joinsByOr)
    · obtain ⟨back, others, hruns, hrow, hpart⟩ := ih ⟨slot, slot.joinsByOr, rest.head?.any joinsByOr⟩
        (children ++ slot.nodes) (keywords ++ slot.before) rfl
      refine ⟨⟨slot, slot.joinsByOr, rest.head?.any joinsByOr⟩ :: back, others, ?_, ?_, ?_⟩
      · rw [runs, if_pos hjoin, hruns]
        simp
      · rw [List.cons_append, hrow, Placed.row, hp]
      · exact hpart.extend (hstep.mpr hjoin) ((hstep.mpr hjoin).orLinked_eq hp)
    · obtain ⟨back, others, hruns, hrow, hpart⟩ := ih ⟨slot, slot.joinsByOr, rest.head?.any joinsByOr⟩
        slot.nodes [] rfl
      refine ⟨[], (⟨slot, slot.joinsByOr, rest.head?.any joinsByOr⟩ :: back) :: others, ?_, ?_, ?_⟩
      · rw [runs, if_neg hjoin, hruns]
        simp
      · rw [List.nil_append, List.flatten_cons, List.cons_append, hrow, Placed.row, hp]
      · exact hpart.separate (mt hstep.mp hjoin)

end Slot

/-! ## The terms of a search -/

namespace Placed

/-- The group of a run. -/
def group (run : List Placed) : Group where
  children := nodes run
  keywords := keywords run.tail

/-- What the runs keep and what they leave to the root are all separators. -/
theorem keywords_perm (runs : List (List Placed)) :
    ((runs.flatMap fun run => keywords (run.take 1)) ++ runs.flatMap fun run => keywords run.tail).Perm
      ((runs.flatten.map slot).flatMap Slot.before) := by
  have hrun : ∀ run : List Placed, keywords (run.take 1) ++ keywords run.tail = run.flatMap (·.slot.before) := by
    intro run
    cases run <;> simp [keywords]
  refine (List.flatMap_append_perm runs _ _).trans (.of_eq ?_)
  rw [List.flatMap_map, List.flatten_eq_flatMap, List.flatMap_assoc]
  exact List.flatMap_congr fun run _ => hrun run

theorem listTerms_nodes (run : List Placed) : Node.listTerms (nodes run) = run.filterMap (·.slot.term) := by
  rw [nodes]
  induction run.filterMap (·.slot.term) with
  | nil => rfl
  | cons t ts ih => rw [List.map_cons, Node.listTerms, Node.terms, ih]; rfl

theorem listTerms_groups (runs : List (List Placed)) :
    Node.listTerms (runs.map fun run => .ofGroup (group run)) = (runs.flatten.map slot).filterMap Slot.term := by
  induction runs with
  | nil => rfl
  | cons run runs ih =>
    have hrun : run.filterMap (·.slot.term) = (run.map slot).filterMap Slot.term := List.filterMap_map.symm
    rw [List.map_cons, Node.listTerms, ih, Node.ofGroup, Node.terms, group, listTerms_nodes, hrun,
      List.flatten_cons, List.map_append, List.filterMap_append]

end Placed

/-- Slots become the groups of their runs, and the separators between two runs go to the root. -/
theorem Group.ofLexemes_runs {ls : List Lexeme} (h : (Slot.collect [] false ls).1 ≠ []) :
    ∃ runs : List (List Placed),
      ofLexemes ls =
        { children := runs.map fun run => .ofGroup (Placed.group run)
          keywords := runs.flatMap fun run => Placed.keywords (run.take 1) } ∧
      runs.flatten = Placed.row false (Slot.collect [] false ls).1 ∧ Partition runs := by
  rw [ofLexemes]
  generalize Slot.collect [] false ls = found at h ⊢
  obtain ⟨slots, trailing⟩ := found
  cases slots with
  | nil => exact absurd rfl h
  | cons first rest =>
    let p : Placed := ⟨first, false, rest.head?.any Slot.joinsByOr⟩
    obtain ⟨back, others, hruns, hrow, hpart⟩ := Slot.runs_partition rest p first.nodes [] rfl
    refine ⟨(p :: back) :: others, ?_, ?_, hpart⟩
    · have hopened : Slot.runs false first.nodes [] rest = _ := hruns
      simp [hopened, Placed.group, p]
    · rw [List.flatten_cons, List.cons_append, hrow, Placed.row]

/-- **The terms of a search are those of its slots**, in order. -/
theorem Group.terms_ofLexemes (ls : List Lexeme) :
    (ofLexemes ls).terms = (Slot.collect [] false ls).1.filterMap Slot.term := by
  by_cases h : (Slot.collect [] false ls).1 = []
  · rw [h, ofLexemes]
    split
    · rfl
    · next heq => exact absurd (heq ▸ h) (List.cons_ne_nil _ _)
  · obtain ⟨runs, hroot, hrow, -⟩ := ofLexemes_runs h
    rw [hroot, terms, Placed.listTerms_groups, hrow, Placed.row_map_slot]

/-! ## Lexemes as slots -/

/-- A term of a search, and all keywords between the term before it and it. -/
structure Stretch where
  keywords : List Keyword
  term : WrittenTerm

namespace Stretch

/-- The lexemes of a stretch. -/
def lexemes (s : Stretch) : List Lexeme := s.keywords.map .keyword ++ [.term s.term]

/-- The separator in front of the term: its keywords that connect. -/
def separator (s : Stretch) : List Keyword := s.keywords.filter (· ≠ .not)

/-- The term, negated if one of the keywords negates; a void term gives none. -/
def finish? (s : Stretch) : Option Term := s.term.finish? (s.keywords.contains .not)

/-- The slot of a stretch. -/
def slot (s : Stretch) : Slot where
  before := s.separator
  term := s.finish?

/-- Every search is a row of stretches, and keywords behind them. -/
theorem exists_of_lexemes (ls : List Lexeme) :
    ∃ (stretches : List Stretch) (trailing : List Keyword),
      ls = stretches.flatMap lexemes ++ trailing.map .keyword := by
  induction ls with
  | nil => exact ⟨[], [], rfl⟩
  | cons l ls ih =>
    obtain ⟨stretches, trailing, rfl⟩ := ih
    cases l with
    | term w => exact ⟨⟨[], w⟩ :: stretches, trailing, by simp [lexemes]⟩
    | keyword k =>
      cases stretches with
      | nil => exact ⟨[], k :: trailing, by simp⟩
      | cons s stretches => exact ⟨⟨k :: s.keywords, s.term⟩ :: stretches, trailing, by simp [lexemes]⟩

end Stretch

namespace Slot

theorem collect_keywords (ks : List Keyword) (rest : List Lexeme) : ∀ (before : List Keyword) (negated : Bool),
    collect before negated (ks.map .keyword ++ rest) =
      collect (before ++ ks.filter (· ≠ .not)) (negated || ks.contains .not) rest := by
  induction ks with
  | nil => intro before negated; simp
  | cons k ks ih =>
    intro before negated
    cases k <;> simp [collect, ih]

theorem collect_stretches (stretches : List Stretch) (trailing : List Keyword) :
    (collect [] false (stretches.flatMap Stretch.lexemes ++ trailing.map .keyword)).1 =
      stretches.map Stretch.slot := by
  induction stretches with
  | nil =>
    have htrailing := collect_keywords trailing [] [] false
    rw [List.append_nil] at htrailing
    rw [List.flatMap_nil, List.nil_append, htrailing, collect]
    rfl
  | cons s stretches ih =>
    rw [List.flatMap_cons, Stretch.lexemes, List.append_assoc, List.append_assoc, collect_keywords,
      List.singleton_append, collect]
    simp [ih, Stretch.slot, Stretch.separator, Stretch.finish?]

end Slot

/-- **How a search is grouped.** -/
structure Grouping (stretches : List Stretch) (runs : List (List Placed)) (root : Group) : Prop where
  /-- The runs hold the slots of the search, in order. -/
  slots : runs.flatten = Placed.row false (stretches.map Stretch.slot)
  /-- They are cut where neighbours do not belong together. -/
  partition : Partition runs
  /-- Each run is a group of its terms, with the separators between its slots, in order. -/
  children : root.children = runs.map fun run => .group (Placed.nodes run) (Placed.keywords run.tail)
  /-- The separators in front of the runs are those of the root. -/
  keywords : root.keywords = runs.flatMap fun run => Placed.keywords (run.take 1)
  /-- The terms are those of the stretches, in order. -/
  terms : root.terms = stretches.filterMap Stretch.finish?
  /-- No separator is lost, and none is kept twice. -/
  kept : (root.keywords ++ runs.flatMap fun run => Placed.keywords run.tail).Perm
    (stretches.flatMap Stretch.separator)

/-- **A search with a term is grouped into runs and loses nothing**: whatever its lexemes, the tree is the one that
`Grouping` describes. Of the keywords, only the negations and those behind the last term are gone. -/
theorem Group.ofLexemes_grouping {ls : List Lexeme} (h : ∃ w, .term w ∈ ls) :
    ∃ (stretches : List Stretch) (trailing : List Keyword) (runs : List (List Placed)),
      ls = stretches.flatMap Stretch.lexemes ++ trailing.map .keyword ∧ Grouping stretches runs (ofLexemes ls) := by
  obtain ⟨stretches, trailing, rfl⟩ := Stretch.exists_of_lexemes ls
  have hslots := Slot.collect_stretches stretches trailing
  have hne : (Slot.collect [] false (stretches.flatMap Stretch.lexemes ++ trailing.map .keyword)).1 ≠ [] := by
    rw [hslots]
    rintro hnil
    obtain rfl := List.map_eq_nil_iff.mp hnil
    simp at h
  obtain ⟨runs, hroot, hrow, hpart⟩ := ofLexemes_runs hne
  rw [hslots] at hrow
  refine ⟨stretches, trailing, runs, rfl, hrow, hpart, ?_, ?_, ?_, ?_⟩
  · rw [hroot]; rfl
  · rw [hroot]
  · rw [terms_ofLexemes, hslots, List.filterMap_map]; rfl
  · have hkept := Placed.keywords_perm runs
    rw [hrow, Placed.row_map_slot, List.flatMap_map] at hkept
    rw [hroot]
    exact hkept

/-- The lexemes of *fox owl or nest: not badger and*, with a void term and a keyword at the end. -/
def foxSearch : List Lexeme :=
  [.term ⟨none, .eq, some "fox", .none, "fox"⟩, .term ⟨none, .eq, some "owl", .none, "owl"⟩, .keyword .or,
   .term ⟨some "nest", .eq, none, .none, "nest:"⟩, .keyword .not,
   .term ⟨none, .eq, some "badger", .none, "badger"⟩, .keyword .and]

theorem Group.ofLexemes_grouping_fox :
    (∃ w, .term w ∈ foxSearch) ∧
    ∃ (stretches : List Stretch) (trailing : List Keyword) (runs : List (List Placed)),
      foxSearch = stretches.flatMap Stretch.lexemes ++ trailing.map .keyword ∧
      Grouping stretches runs (ofLexemes foxSearch) := by
  have hterm : ∃ w, .term w ∈ foxSearch := ⟨_, List.mem_cons_self⟩
  exact ⟨hterm, Group.ofLexemes_grouping hterm⟩

-- the slots on the two sides of *or* are cut out of the row
example : (Group.ofLexemes [.term ⟨none, .eq, some "A", .none, "A"⟩, .term ⟨none, .eq, some "B", .none, "B"⟩,
      .keyword .or, .term ⟨none, .eq, some "C", .none, "C"⟩, .term ⟨none, .eq, some "D", .none, "D"⟩]).render =
    "(and (and :eq:A) (or :eq:B :eq:C) (and :eq:D))" := by decide

end TermSearch
