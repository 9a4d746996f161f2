import Mathlib.Data.List.Forall2
import TermSearch.Definition.Basic

/-!
# Stages of a definition

A helper declares a rule and its matcher together, under a name with a running number. What counts afterwards
is the list of stages declared this way (`Stage`), not the names: `Draft.HasStages` says that a draft consists
of certain stages, `HasStages.generate` that a helper adds one, and `HasStages.build` that the built definition
runs just these, in the order of their ranks.
-/

namespace TermSearch

/-! ## Numbered names -/

/-- A name made up from a stem and a number. -/
def numberedName (stem : String) (number : Nat) : String := stem ++ "#" ++ Nat.repr number

theorem hash_not_mem_repr (n : Nat) : '#' ∉ (Nat.repr n).toList := by
  intro h
  rw [Nat.toList_repr] at h
  have hdigit := Nat.isDigit_of_mem_toDigits (by decide) (by decide) h
  revert hdigit
  decide

/-- What stands behind the last `#` of a name. -/
theorem takeWhile_reverse_numberedName (stem : String) (n : Nat) :
    (numberedName stem n).toList.reverse.takeWhile (· ≠ '#') = (Nat.repr n).toList.reverse := by
  have hne : ∀ c ∈ (Nat.repr n).toList.reverse, decide (c ≠ '#') = true := by
    intro c hc
    rw [List.mem_reverse] at hc
    exact decide_eq_true fun h => hash_not_mem_repr n (h ▸ hc)
  have hsplit : (numberedName stem n).toList.reverse =
      (Nat.repr n).toList.reverse ++ '#' :: stem.toList.reverse := by
    simp [numberedName, String.toList_append]
  rw [hsplit, List.takeWhile_append_of_pos hne, List.takeWhile_cons_of_neg (by decide), List.append_nil]

/-- The number can be read off a numbered name, whatever the stem. -/
theorem number_eq_of_numberedName_eq {stem stem' : String} {n n' : Nat}
    (h : numberedName stem n = numberedName stem' n') : n = n' := by
  have hrev : (Nat.repr n).toList.reverse = (Nat.repr n').toList.reverse := by
    rw [← takeWhile_reverse_numberedName stem n, ← takeWhile_reverse_numberedName stem' n', h]
  have hlist := List.reverse_injective hrev
  rw [Nat.toList_repr, Nat.toList_repr] at hlist
  rw [← Nat.ofDigitChars_ten_toDigits (n := n), hlist, Nat.ofDigitChars_ten_toDigits]

/-! ## Lists in step with each other -/

theorem forall₂_mergeSort {α β : Type} {R : α → β → Prop} {key : α → Int} {key' : β → Int} {l : List α}
    {l' : List β} (h : List.Forall₂ R l l') (hkey : ∀ a b, R a b → key a = key' b) :
    List.Forall₂ R (l.mergeSort fun a b => decide (key a ≤ key b))
      (l'.mergeSort fun a b => decide (key' a ≤ key' b)) := by
  -- both lists are sorted as the two halves of their zip
  obtain ⟨hlen, hzip⟩ := List.forall₂_iff_zip.mp h
  have hR : ∀ p ∈ l.zip l', R p.1 p.2 := fun p hp => hzip hp
  have hfst : ((l.zip l').mergeSort fun a b => decide (key a.1 ≤ key b.1)).map Prod.fst =
      l.mergeSort fun a b => decide (key a ≤ key b) := by
    rw [List.map_mergeSort (s := fun a b => decide (key a ≤ key b)) fun _ _ _ _ => rfl,
      List.map_fst_zip (Nat.le_of_eq hlen)]
  have hsnd : ((l.zip l').mergeSort fun a b => decide (key a.1 ≤ key b.1)).map Prod.snd =
      l'.mergeSort fun a b => decide (key' a ≤ key' b) := by
    rw [List.map_mergeSort (s := fun a b => decide (key' a ≤ key' b)) fun a ha b hb => ?_,
      List.map_snd_zip (Nat.le_of_eq hlen.symm)]
    rw [hkey _ _ (hR a ha), hkey _ _ (hR b hb)]
  rw [← hfst, ← hsnd, List.forall₂_map_left_iff, List.forall₂_map_right_iff, List.forall₂_same]
  intro p hp
  exact hR p (List.mem_mergeSort.mp hp)

/-- What ranks before everything else stays in front. -/
theorem mergeSort_append_of_le {α : Type} {key : α → Int} {front l : List α}
    (hfront : front.Pairwise fun a b => key a ≤ key b) (hle : ∀ a ∈ front, ∀ b ∈ l, key a ≤ key b) :
    ((front ++ l).mergeSort fun a b => decide (key a ≤ key b)) =
      front ++ l.mergeSort fun a b => decide (key a ≤ key b) := by
  induction front with
  | nil => rfl
  | cons a front ih =>
    obtain ⟨hfirst, hrest⟩ := List.pairwise_cons.mp hfront
    obtain ⟨l₁, l₂, hcons, hsort, hlt⟩ := @List.mergeSort_cons α (fun a b => decide (key a ≤ key b))
      (fun a b c => by simpa using Int.le_trans) (fun a b => by simpa using Int.le_total (key a) (key b))
      a (front ++ l)
    -- nothing comes in front of the first element
    have hnil : l₁ = [] := by
      refine List.eq_nil_iff_forall_not_mem.mpr fun b hb => ?_
      have hsorted : b ∈ (front ++ l).mergeSort fun a b => decide (key a ≤ key b) := by
        rw [hsort]
        exact List.mem_append_left _ hb
      have hmem : b ∈ front ++ l := List.mem_mergeSort.mp hsorted
      have hab : key a ≤ key b := by
        rcases List.mem_append.mp hmem with hb | hb
        · exact hfirst b hb
        · exact hle a List.mem_cons_self b hb
      have := hlt b hb
      simp [hab] at this
    rw [hnil, List.nil_append] at hsort hcons
    rw [List.cons_append, hcons, ← hsort, ih hrest fun a ha => hle a (List.mem_cons_of_mem _ ha),
      List.cons_append]

theorem exists_of_forall₂ {α β : Type} {R : α → β → Prop} {l : List α} {l' : List β} (h : List.Forall₂ R l l') :
    ∀ a ∈ l, ∃ b ∈ l', R a b := by
  induction h with
  | nil => exact nofun
  | @cons a b l l' hfirst _ ih =>
    refine List.forall_mem_cons.mpr ⟨⟨b, List.mem_cons_self, hfirst⟩, fun a' ha' => ?_⟩
    obtain ⟨b', hb', hrest⟩ := ih a' ha'
    exact ⟨b', List.mem_cons_of_mem _ hb', hrest⟩

theorem exists_forall₂_iff {α β : Type} {R : α → β → Prop} {as : List α} :
    (∃ bs, List.Forall₂ R as bs) ↔ ∀ a ∈ as, ∃ b, R a b := by
  induction as with
  | nil => exact ⟨fun _ => nofun, fun _ => ⟨[], .nil⟩⟩
  | cons a as ih =>
    rw [List.forall_mem_cons, ← ih]
    constructor
    · rintro ⟨_, h⟩
      cases h with
      | cons hfirst hrest => exact ⟨⟨_, hfirst⟩, ⟨_, hrest⟩⟩
    · rintro ⟨⟨b, hfirst⟩, ⟨bs, hrest⟩⟩
      exact ⟨b :: bs, .cons hfirst hrest⟩

/-- A traversal works exactly if each element has a result. -/
theorem mapM_eq_ok_iff {ε α β : Type} {f : α → Except ε β} {l : List α} {l' : List β} :
    l.mapM f = .ok l' ↔ List.Forall₂ (fun a b => f a = .ok b) l l' := by
  induction l generalizing l' with
  | nil =>
    rw [List.mapM_nil, List.forall₂_nil_left_iff]
    exact ⟨fun h => (Except.ok.inj h).symm, fun h => congrArg Except.ok h.symm⟩
  | cons a l ih =>
    rw [List.mapM_cons, List.forall₂_cons_left_iff]
    cases hfirst : f a with
    | error cause =>
      constructor
      · intro h
        cases h
      · rintro ⟨b, bs, hb, -⟩
        cases hb
    | ok b =>
      cases hrest : l.mapM f with
      | error cause =>
        constructor
        · intro h
          cases h
        · rintro ⟨b', bs, -, hbs, -⟩
          cases hrest.symm.trans (ih.mpr hbs)
      | ok bs =>
        refine ⟨fun h => ⟨b, bs, rfl, ih.mp hrest, (Except.ok.inj h).symm⟩, ?_⟩
        rintro ⟨b', bs', hb, hbs, rfl⟩
        cases hb
        cases hrest.symm.trans (ih.mpr hbs)
        rfl

/-- A traversal that works has a result for each element, and no others. -/
theorem mapM_ok {ε α β : Type} {f : α → Except ε β} {l : List α} {l' : List β} (h : l.mapM f = .ok l') :
    (∀ a ∈ l, ∃ b, f a = .ok b) ∧ ∀ b ∈ l', ∃ a ∈ l, f a = .ok b := by
  have hall := mapM_eq_ok_iff.mp h
  exact ⟨exists_forall₂_iff.mp ⟨l', hall⟩, exists_of_forall₂ hall.flip⟩

/-! ## Stages -/

variable {Q : Type}

/-- A rule body and the terms it runs for, without a name. -/
structure Stage (Q : Type) where
  fields : AcceptedFields
  rank : Int
  body : RuleBody Q

/-- The options of the matcher that a stage is declared with. -/
def Stage.options (st : Stage Q) : MatcherOptions Q := { fields := st.fields, rank := st.rank }

/-- The matcher of a stage under a name. -/
def Stage.matcher (st : Stage Q) (rule : String) : Matcher Q :=
  { rule, rank := st.rank, fields := st.fields, onlyIf := none, exceptIf := none }

/-- The stages in the order they run in. -/
def Stage.sort (stages : List (Stage Q)) : List (Stage Q) :=
  stages.mergeSort fun a b => decide (a.rank ≤ b.rank)

/-- A pending matcher stands for a stage. -/
def Declarations.Declares (s : Declarations Q) (m : PendingMatcher Q) (st : Stage Q) : Prop :=
  m.options = st.options ∧ s.rules.get? m.rule = some st.body

/-- A matcher runs a stage. -/
def Declarations.Runs (s : Declarations Q) (m : Matcher Q) (st : Stage Q) : Prop :=
  m = st.matcher m.rule ∧ s.rules.get? m.rule = some st.body

/-- A name that can have been made up so far. -/
def Declarations.Generated (s : Declarations Q) (name : String) : Prop :=
  ∃ stem n, n ≤ s.generated ∧ name = numberedName stem n

/-- The next number has not been given yet. -/
theorem Declarations.not_generated_next {s : Declarations Q} (stem : String) :
    ¬ s.Generated (numberedName stem (s.generated + 1)) := by
  rintro ⟨stem', n, hn, h⟩
  have := number_eq_of_numberedName_eq h
  omega

namespace Draft

/-- **A draft consists of stages**: nothing has gone wrong, its matchers stand for the stages in order, and
all its rules have made-up names. -/
structure HasStages (d : Draft Q) (stages : List (Stage Q)) : Prop where
  errors : d.errors = []
  matchers : List.Forall₂ d.declarations.Declares d.declarations.matchers stages
  rules : ∀ name, d.declarations.rules.get? name ≠ none → d.declarations.Generated name
  ownRules : ∀ name ∈ d.ownRules, d.declarations.Generated name

variable {d : Draft Q} {stages : List (Stage Q)}

theorem HasStages.start : (Definition.start : Draft Q).HasStages [] where
  errors := rfl
  matchers := .nil
  rules := fun _ h => absurd rfl h
  ownRules := fun _ h => nomatch h

/-- A filter leaves the stages alone. -/
theorem HasStages.filter (h : d.HasStages stages) (test : Visit → Bool) : (d.filter test).HasStages stages :=
  ⟨h.errors, h.matchers, h.rules, h.ownRules⟩

theorem rule_of_not_mem {name : String} {body : RuleBody Q} (h : name ∉ d.ownRules) :
    d.rule name body = { d.declare (fun s => { s with rules := s.rules.insert name body }) with
      ownRules := name :: d.ownRules } :=
  if_neg h

/-- **A helper adds a stage.** -/
theorem HasStages.generate (h : d.HasStages stages) (stem : String) (st : Stage Q) :
    (d.generate stem st.body st.options).HasStages (stages ++ [st]) := by
  have hnew := d.declarations.not_generated_next stem
  have hown : numberedName stem (d.declarations.generated + 1) ∉ d.ownRules := fun hmem =>
    hnew (h.ownRules _ hmem)
  have hdraft : d.generate stem st.body st.options =
      { declarations := { d.declarations with
          generated := d.declarations.generated + 1
          rules := d.declarations.rules.insert (numberedName stem (d.declarations.generated + 1)) st.body
          matchers := d.declarations.matchers ++
            [{ rule := numberedName stem (d.declarations.generated + 1), options := st.options }] }
        ownRules := numberedName stem (d.declarations.generated + 1) :: d.ownRules
        errors := d.errors } := by
    show ((d.declare _).rule (numberedName stem _) st.body).matcher (numberedName stem _) st.options = _
    rw [rule_of_not_mem (d := d.declare _) hown]
    rfl
  have hgenerated : ∀ name, d.declarations.Generated name →
      ∃ stem n, n ≤ d.declarations.generated + 1 ∧ name = numberedName stem n := by
    rintro name ⟨stem, n, hn, hname⟩
    exact ⟨stem, n, by omega, hname⟩
  -- no rule declared before has the new name
  have hkeep : ∀ m st', d.declarations.Declares m st' →
      (d.declarations.rules.insert (numberedName stem (d.declarations.generated + 1)) st.body).get? m.rule
        = some st'.body := by
    intro m st' hm
    have hne : m.rule ≠ numberedName stem (d.declarations.generated + 1) := by
      intro heq
      refine hnew (heq ▸ h.rules m.rule ?_)
      rw [hm.2]
      exact Option.some_ne_none _
    rw [KeyMap.get?_insert_of_ne hne, hm.2]
  rw [hdraft]
  refine ⟨h.errors, ?_, fun name hname => ?_, fun name hname => ?_⟩
  · exact List.rel_append (h.matchers.imp fun m st' hm => ⟨hm.1, hkeep m st' hm⟩)
      (.cons ⟨rfl, KeyMap.get?_insert_self _ _ _⟩ .nil)
  · by_cases heq : name = numberedName stem (d.declarations.generated + 1)
    · exact ⟨stem, _, Nat.le_refl _, heq⟩
    · have hget : d.declarations.rules.get? name ≠ none := by
        rw [← KeyMap.get?_insert_of_ne heq st.body]
        exact hname
      exact hgenerated name (h.rules name hget)
  · rcases List.mem_cons.mp hname with rfl | hname
    · exact ⟨stem, _, Nat.le_refl _, rfl⟩
    · exact hgenerated name (h.ownRules name hname)

/-! ## Filters -/

theorem rule_filters (d : Draft Q) (name : String) (body : RuleBody Q) :
    (d.rule name body).declarations.filters = d.declarations.filters := by
  unfold Draft.rule
  split <;> rfl

/-- A helper adds no filter. -/
theorem generate_filters (d : Draft Q) (stem : String) (body : RuleBody Q) (options : MatcherOptions Q) :
    (d.generate stem body options).declarations.filters = d.declarations.filters :=
  rule_filters (d.declare _) _ _

theorem foldl_filters {α : Type} {f : Draft Q → α → Draft Q}
    (hf : ∀ d a, (f d a).declarations.filters = d.declarations.filters) (l : List α) (d : Draft Q) :
    (l.foldl f d).declarations.filters = d.declarations.filters := by
  induction l generalizing d with
  | nil => rfl
  | cons a l ih => rw [List.foldl_cons, ih, hf]

/-! ## Building -/

/-- **A draft is built** if nothing went wrong on the way and each matcher can be resolved. -/
theorem build_eq_ok_iff {d : Draft Q} {definition : Definition Q} :
    d.build = .ok definition ↔
      d.errors = [] ∧ definition.declarations = d.declarations ∧ ∃ resolved,
        List.Forall₂ (fun spec m => resolve d.declarations spec = .ok m) d.declarations.matchers resolved ∧
        definition.matchers = resolved.mergeSort fun a b => decide (a.rank ≤ b.rank) := by
  unfold Draft.build
  cases d.errors with
  | cons cause causes =>
    constructor
    · intro h
      cases h
    · rintro ⟨h, -⟩
      cases h
  | nil =>
    cases hresolved : d.declarations.matchers.mapM (resolve d.declarations) with
    | error cause =>
      constructor
      · intro h
        cases h
      · rintro ⟨-, -, resolved, hall, -⟩
        cases hresolved.symm.trans (mapM_eq_ok_iff.mpr hall)
    | ok resolved =>
      constructor
      · intro h
        cases h
        exact ⟨rfl, rfl, resolved, mapM_eq_ok_iff.mp hresolved, rfl⟩
      · rintro ⟨-, hdeclarations, resolved', hall, hsort⟩
        cases hresolved.symm.trans (mapM_eq_ok_iff.mpr hall)
        obtain ⟨declarations, matchers⟩ := definition
        cases hdeclarations
        cases hsort
        rfl

/-- A matcher is resolved if its rule is declared and its guards have tests. -/
theorem resolve_eq_ok_iff {s : Declarations Q} {spec : PendingMatcher Q} {m : Matcher Q} :
    resolve s spec = .ok m ↔
      s.rules.has spec.rule = true ∧ guardTest s.conditions spec.options.onlyIf = .ok m.onlyIf ∧
        guardTest s.conditions spec.options.exceptIf = .ok m.exceptIf ∧
        m.rule = spec.rule ∧ m.rank = spec.options.rank ∧ m.fields = spec.options.fields := by
  unfold resolve
  by_cases hdeclared : s.rules.has spec.rule = true
  · rw [hdeclared]
    constructor
    · intro h
      cases honlyIf : guardTest s.conditions spec.options.onlyIf with
      | error cause =>
        rw [honlyIf] at h
        cases h
      | ok onlyIf =>
        cases hexceptIf : guardTest s.conditions spec.options.exceptIf with
        | error cause =>
          rw [honlyIf, hexceptIf] at h
          cases h
        | ok exceptIf =>
          rw [honlyIf, hexceptIf] at h
          cases h
          exact ⟨rfl, rfl, rfl, rfl, rfl, rfl⟩
    · obtain ⟨rule, rank, fields, onlyIf, exceptIf⟩ := m
      rintro ⟨-, honlyIf, hexceptIf, rfl, rfl, rfl⟩
      rw [honlyIf, hexceptIf]
      rfl
  · refine ⟨fun h => ?_, fun h => absurd h.1 hdeclared⟩
    simp only [hdeclared] at h
    cases h

theorem resolve_of_declares {s : Declarations Q} {m : PendingMatcher Q} {st : Stage Q} (h : s.Declares m st) :
    resolve s m = .ok (st.matcher m.rule) := by
  obtain ⟨hoptions, hget⟩ := h
  have hhas : s.rules.has m.rule = true := by simp [Entries.has, hget]
  rw [resolve_eq_ok_iff, hoptions]
  exact ⟨hhas, rfl, rfl, rfl, rfl, rfl⟩

theorem mapM_resolve {s : Declarations Q} {ms : List (PendingMatcher Q)}
    (h : List.Forall₂ s.Declares ms stages) :
    ∃ resolved, ms.mapM (resolve s) = .ok resolved ∧ List.Forall₂ s.Runs resolved stages := by
  induction h with
  | nil => exact ⟨[], rfl, .nil⟩
  | @cons m st ms stages hm _ ih =>
    obtain ⟨resolved, hresolved, hruns⟩ := ih
    refine ⟨st.matcher m.rule :: resolved, ?_, .cons ⟨rfl, hm.2⟩ hruns⟩
    rw [List.mapM_cons, resolve_of_declares hm, hresolved]
    rfl

/-- **The definition of a draft made of stages runs them by rank.** -/
theorem HasStages.build (h : d.HasStages stages) :
    ∃ definition, d.build = .ok definition ∧ definition.declarations = d.declarations ∧
      List.Forall₂ definition.declarations.Runs definition.matchers (Stage.sort stages) := by
  obtain ⟨resolved, hresolved, hruns⟩ := mapM_resolve h.matchers
  refine ⟨{ declarations := d.declarations, matchers := resolved.mergeSort fun a b => decide (a.rank ≤ b.rank) },
    ?_, rfl, forall₂_mergeSort hruns ?_⟩
  · unfold Draft.build
    rw [h.errors, hresolved]
    rfl
  · intro m st hm
    rw [hm.1]
    rfl

/-- A definition that runs a stage has a rule. -/
theorem hasRules_of_runs {d : Definition Q} (h : List.Forall₂ d.declarations.Runs d.matchers stages)
    (hne : stages ≠ []) : d.hasRules = true := by
  obtain ⟨st, sts, rfl⟩ := List.exists_cons_of_ne_nil hne
  obtain ⟨m, _, hm, _, _⟩ := List.forall₂_cons_right_iff.mp h
  cases hrules : d.declarations.rules with
  | nil =>
    have hget := hm.2
    rw [hrules] at hget
    cases hget
  | cons => simp [Definition.hasRules, Entries.isEmpty, hrules]

end Draft

end TermSearch
