import TermSearch.Regex.Basic

/-!
# Where expressions lead

`Regex.ends` computes sets of places round by round. `Regex.Leads` says by the structure of an expression, without sets
and without a bound on the search, to which places it leads from a place. The two agree in every text (`mem_ends`), so
an expression occurs in a text if it leads anywhere from some place of it (`occursIn_iff`).

Two facts carry the argument:

* places of one text are told apart by their index (`Place.IsOf.ext`), so a set loses nothing when it keeps one place
  for each index;
* a search that goes on from new places only finds all that can be reached in so many rounds (`Computes.mem_closure`),
  and where no bound is given, as many rounds will do as there are characters left (`Computes.shorten`), since a round
  that takes no character leads back to where it began.
-/

namespace TermSearch.Regex

/-! ## Places of a text -/

@[simp] theorem Place.rest_after (p : Place) (c : Char) (rest : List Char) : (p.after c rest).rest = rest := rfl

/-- The place lies in the text, after the characters taken. -/
def Place.IsOf (text : List Char) (p : Place) : Prop :=
  ∃ taken, taken ++ p.rest = text ∧ p.index = taken.length ∧ p.previous = taken.getLast?

namespace Place.IsOf

variable {text : List Char} {p q : Place}

theorem start (text : List Char) : (Place.start text).IsOf text := ⟨[], rfl, rfl, rfl⟩

theorem after (hp : p.IsOf text) {c : Char} {rest : List Char} (hrest : p.rest = c :: rest) :
    (p.after c rest).IsOf text := by
  obtain ⟨taken, htext, hindex, _⟩ := hp
  refine ⟨taken ++ [c], ?_, ?_, ?_⟩
  · rw [← htext, hrest, List.append_assoc]
    rfl
  · simp [Place.after, hindex]
  · simp [Place.after]

theorem index_add_length (hp : p.IsOf text) : p.index + p.rest.length = text.length := by
  obtain ⟨taken, htext, hindex, _⟩ := hp
  rw [← htext, hindex, List.length_append]

/-- **Places of one text are told apart by their index.** -/
theorem ext (hp : p.IsOf text) (hq : q.IsOf text) (h : p.index = q.index) : p = q := by
  obtain ⟨taken, htext, hindex, hprevious⟩ := hp
  obtain ⟨taken', htext', hindex', hprevious'⟩ := hq
  obtain ⟨rfl, hrest⟩ := List.append_inj (htext.trans htext'.symm) (by omega)
  cases p
  cases q
  simp_all

end Place.IsOf

theorem isOf_append (taken rest : List Char) : Place.IsOf (taken ++ rest) ⟨taken.length, taken.getLast?, rest⟩ :=
  ⟨taken, rfl, rfl, rfl⟩

theorem mem_onward_append {p : Place} (taken rest : List Char) :
    p ∈ Place.onward taken.length taken.getLast? rest ↔ p.IsOf (taken ++ rest) ∧ taken.length ≤ p.index := by
  induction rest generalizing taken with
  | nil =>
    rw [Place.onward, List.mem_singleton]
    constructor
    · rintro rfl
      exact ⟨isOf_append taken [], Nat.le_refl _⟩
    · rintro ⟨hp, hle⟩
      have hlength := hp.index_add_length
      rw [List.append_nil] at hlength
      exact hp.ext (isOf_append taken []) (by simp only; omega)
  | cons c rest ih =>
    have hrest := ih (taken ++ [c])
    rw [List.append_assoc, List.length_append, List.getLast?_concat] at hrest
    change _ ∈ Place.onward (taken.length + 1) (some c) rest ↔ p.IsOf (taken ++ c :: rest) ∧ _ at hrest
    rw [Place.onward, List.mem_cons, hrest]
    constructor
    · rintro (rfl | ⟨hp, hlt⟩)
      · exact ⟨isOf_append taken (c :: rest), Nat.le_refl _⟩
      · exact ⟨hp, Nat.le_of_succ_le hlt⟩
    · rintro ⟨hp, hle⟩
      rcases Nat.lt_or_eq_of_le hle with hlt | heq
      · exact .inr ⟨hp, hlt⟩
      · exact .inl (hp.ext (isOf_append taken (c :: rest)) heq.symm)

/-- The places of a text, one after the other. -/
theorem mem_onward {p : Place} {text : List Char} : p ∈ Place.onward 0 none text ↔ p.IsOf text := by
  have h := mem_onward_append (p := p) [] text
  simpa using h

/-! ## Where an expression leads -/

/-- So many steps of a relation. -/
inductive Rounds (R : Place → Place → Prop) : Nat → Place → Place → Prop
  | zero (p : Place) : Rounds R 0 p p
  | succ {n : Nat} {p m q : Place} (first : R p m) (rest : Rounds R n m q) : Rounds R (n + 1) p q

/-- **To which places an expression leads**, told by its structure. -/
def Leads : Regex → Place → Place → Prop
  | .empty, p, q => q = p
  | .chars set, p, q => ∃ c rest, p.rest = c :: rest ∧ set.contains c = true ∧ q = p.after c rest
  | .look condition, p, q => condition.holds p = true ∧ q = p
  | .concat a b, p, q => ∃ m, Leads a p m ∧ Leads b m q
  | .either a b, p, q => Leads a p q ∨ Leads b p q
  | .repeated body min max, p, q =>
    ∃ n, min ≤ n ∧ (∀ most ∈ max, n ≤ min + (most - min)) ∧ Rounds (Leads body) n p q

namespace Rounds

variable {R : Place → Place → Prop} {k n : Nat} {p m q : Place}

theorem zero_iff : Rounds R 0 p q ↔ q = p := by
  constructor
  · intro h
    cases h
    rfl
  · rintro rfl
    exact .zero _

theorem succ_iff : Rounds R (n + 1) p q ↔ ∃ m, R p m ∧ Rounds R n m q := by
  constructor
  · intro h
    cases h with
    | succ first rest => exact ⟨_, first, rest⟩
  · rintro ⟨m, first, rest⟩
    exact .succ first rest

theorem add_iff : Rounds R (k + n) p q ↔ ∃ m, Rounds R k p m ∧ Rounds R n m q := by
  induction k generalizing p with
  | zero => simp [zero_iff]
  | succ k ih =>
    rw [Nat.add_right_comm, succ_iff]
    simp only [ih, succ_iff]
    constructor
    · rintro ⟨x, first, m, hx, hm⟩
      exact ⟨m, ⟨x, first, hx⟩, hm⟩
    · rintro ⟨m, ⟨x, first, hx⟩, hm⟩
      exact ⟨x, first, m, hx, hm⟩

end Rounds

/-! ## Sets of places -/

section Sets

variable {text : List Char} {q : Place}

theorem mem_addPlace {places : List Place} {p : Place} (hplaces : ∀ x ∈ places, x.IsOf text) (hp : p.IsOf text) :
    q ∈ addPlace places p ↔ q ∈ places ∨ q = p := by
  unfold addPlace
  split
  · next hany =>
    -- the place with this index that the set has is the place itself
    obtain ⟨x, hx, hindex⟩ := List.any_eq_true.mp hany
    have hxp : x = p := (hplaces x hx).ext hp (by simpa using hindex)
    constructor
    · exact .inl
    · rintro (hq | rfl)
      · exact hq
      · exact hxp ▸ hx
  · rw [List.mem_cons, or_comm]

theorem mem_foldl_addPlace {l places : List Place} (hplaces : ∀ x ∈ places, x.IsOf text)
    (hl : ∀ x ∈ l, x.IsOf text) : q ∈ l.foldl addPlace places ↔ q ∈ places ∨ q ∈ l := by
  induction l generalizing places with
  | nil => simp
  | cons p l ih =>
    obtain ⟨hp, hl⟩ := List.forall_mem_cons.mp hl
    have hadded : ∀ x ∈ addPlace places p, x.IsOf text := by
      intro x hx
      rcases (mem_addPlace hplaces hp).mp hx with hx | rfl
      · exact hplaces x hx
      · exact hp
    rw [List.foldl_cons, ih hadded hl, mem_addPlace hplaces hp, List.mem_cons, or_assoc]

end Sets

/-- In a text, a step leads to the places of a relation, and these do not lie before the place it starts from. -/
structure Computes (text : List Char) (step : Place → List Place) (R : Place → Place → Prop) : Prop where
  mem_iff : ∀ {p q : Place}, p.IsOf text → (q ∈ step p ↔ R p q)
  isOf : ∀ {p q : Place}, p.IsOf text → R p q → q.IsOf text
  index_le : ∀ {p q : Place}, p.IsOf text → R p q → p.index ≤ q.index

namespace Computes

variable {text : List Char} {step : Place → List Place} {R : Place → Place → Prop} (h : Computes text step R)
  {places : List Place} (hplaces : ∀ p ∈ places, p.IsOf text) {n : Nat} {p q : Place}
include h

theorem rounds_isOf (hp : p.IsOf text) (hrounds : Rounds R n p q) : q.IsOf text := by
  induction hrounds with
  | zero => exact hp
  | succ first _ ih => exact ih (h.isOf hp first)

theorem rounds_index_le (hp : p.IsOf text) (hrounds : Rounds R n p q) : p.index ≤ q.index := by
  induction hrounds with
  | zero => exact Nat.le_refl _
  | succ first _ ih => exact Nat.le_trans (h.index_le hp first) (ih (h.isOf hp first))

/-- **A round that takes no character can be left out**, so no more rounds are needed than characters are taken. -/
theorem shorten (hp : p.IsOf text) (hrounds : Rounds R n p q) : ∃ k ≤ q.index - p.index, Rounds R k p q := by
  induction hrounds with
  | zero p => exact ⟨0, Nat.zero_le _, .zero p⟩
  | @succ n p m q first rest ih =>
    have hm : m.IsOf text := h.isOf hp first
    obtain ⟨k, hk, hrest⟩ := ih hm
    have hle : m.index ≤ q.index := h.rounds_index_le hm rest
    rcases Nat.lt_or_eq_of_le (h.index_le hp first) with hlt | heq
    · exact ⟨k + 1, by omega, .succ first hrest⟩
    · rw [hp.ext hm heq]
      exact ⟨k, hk, hrest⟩

include hplaces

theorem mem_advance : q ∈ advance step places ↔ ∃ p ∈ places, R p q := by
  have hreached : ∀ x ∈ places.flatMap step, x.IsOf text := by
    intro x hx
    obtain ⟨p, hp, hx⟩ := List.mem_flatMap.mp hx
    exact h.isOf (hplaces p hp) ((h.mem_iff (hplaces p hp)).mp hx)
  rw [advance, mem_foldl_addPlace (by simp) hreached, List.mem_flatMap]
  simp only [List.not_mem_nil, false_or]
  refine exists_congr fun p => and_congr_right fun hp => ?_
  exact h.mem_iff (hplaces p hp)

theorem advance_isOf : ∀ p ∈ advance step places, p.IsOf text := by
  intro q hq
  obtain ⟨p, hp, hstep⟩ := (h.mem_advance hplaces).mp hq
  exact h.isOf (hplaces p hp) hstep

theorem mem_times : q ∈ times step n places ↔ ∃ p ∈ places, Rounds R n p q := by
  induction n generalizing places with
  | zero => simp [times, Rounds.zero_iff]
  | succ n ih =>
    rw [times]
    split
    · next hempty => simp [List.isEmpty_iff.mp hempty]
    · rw [ih (h.advance_isOf hplaces)]
      simp only [h.mem_advance hplaces, Rounds.succ_iff]
      constructor
      · rintro ⟨m, ⟨p, hp, hstep⟩, hrounds⟩
        exact ⟨p, hp, m, hstep, hrounds⟩
      · rintro ⟨p, hp, m, hstep, hrounds⟩
        exact ⟨m, ⟨p, hp, hstep⟩, hrounds⟩

omit hplaces

/-- What a step leads to is new, or it has been seen. -/
theorem mem_advance_append {frontier seen : List Place} (hfrontier : ∀ p ∈ frontier, p.IsOf text)
    (hseen : ∀ p ∈ seen, p.IsOf text) :
    q ∈ (advance step frontier).filter (fun p => !seen.any (·.index == p.index)) ++ seen ↔
      q ∈ seen ∨ ∃ p ∈ frontier, R p q := by
  rw [List.mem_append, List.mem_filter, h.mem_advance hfrontier]
  constructor
  · rintro (⟨hstep, _⟩ | hq)
    · exact .inr hstep
    · exact .inl hq
  · rintro (hq | ⟨p, hp, hpq⟩)
    · exact .inr hq
    · cases hany : seen.any (·.index == q.index) with
      | false => exact .inl ⟨⟨p, hp, hpq⟩, rfl⟩
      | true =>
        -- a place with this index that has been seen is the place itself
        obtain ⟨x, hx, hindex⟩ := List.any_eq_true.mp hany
        have hxq : x = q := (hseen x hx).ext (h.isOf (hfrontier p hp) hpq) (by simpa using hindex)
        exact .inr (hxq ▸ hx)

/-- **A search that goes on from new places only** finds what can be reached from the places it has seen. Of a place
that it does not go on from, all that a step leads to has been seen. -/
theorem mem_closure {frontier seen : List Place} (hseen : ∀ p ∈ seen, p.IsOf text)
    (hfrontier : ∀ p ∈ frontier, p ∈ seen) (hdone : ∀ p ∈ seen, p ∈ frontier ∨ ∀ m, R p m → m ∈ seen) :
    q ∈ closure step n frontier seen ↔ ∃ p ∈ seen, ∃ k ≤ n, Rounds R k p q := by
  induction n generalizing frontier seen with
  | zero => simp [closure, Rounds.zero_iff]
  | succ n ih =>
    have hof : ∀ p ∈ frontier, p.IsOf text := fun p hp => hseen p (hfrontier p hp)
    have hmem := fun m => h.mem_advance_append hof hseen (q := m)
    rw [closure]
    generalize (advance step frontier).filter (fun p => !seen.any (·.index == p.index)) = new at hmem ⊢
    have hnext : ∀ p ∈ seen, ∀ m, R p m → m ∈ new ++ seen := by
      intro p hp m hpm
      rw [hmem]
      rcases hdone p hp with hp | hp
      · exact .inr ⟨p, hp, hpm⟩
      · exact .inl (hp m hpm)
    split
    · next hempty =>
      have hnil : new = [] := List.isEmpty_iff.mp hempty
      rw [hnil, List.nil_append] at hnext
      -- nothing leads out of what has been seen
      have hclosed : ∀ {k p}, p ∈ seen → Rounds R k p q → q ∈ seen := by
        intro k p hp hrounds
        clear ih
        induction hrounds with
        | zero => exact hp
        | succ first _ ih => exact ih (hnext _ hp _ first)
      constructor
      · exact fun hq => ⟨q, hq, 0, Nat.zero_le _, .zero q⟩
      · rintro ⟨p, hp, k, _, hrounds⟩
        exact hclosed hp hrounds
    · have hall : ∀ p ∈ new ++ seen, p.IsOf text := by
        intro m hm
        rcases (hmem m).mp hm with hm | ⟨p, hp, hpm⟩
        · exact hseen m hm
        · exact h.isOf (hof p hp) hpm
      have hdone' : ∀ p ∈ new ++ seen, p ∈ new ∨ ∀ m, R p m → m ∈ new ++ seen := by
        intro p hp
        exact (List.mem_append.mp hp).imp_right (hnext p)
      rw [ih hall (fun p hp => List.mem_append_left _ hp) hdone']
      constructor
      · rintro ⟨m, hm, k, hk, hrounds⟩
        rcases (hmem m).mp hm with hm | ⟨p, hp, hpm⟩
        · exact ⟨m, hm, k, by omega, hrounds⟩
        · exact ⟨p, hfrontier p hp, k + 1, by omega, .succ hpm hrounds⟩
      · rintro ⟨p, hp, k, hk, hrounds⟩
        cases hrounds with
        | zero => exact ⟨_, List.mem_append_right _ hp, 0, Nat.zero_le _, .zero _⟩
        | succ first rest => exact ⟨_, hnext p hp _ first, _, by omega, rest⟩

/-- At least so many rounds, and at most so many more. -/
theorem mem_closure_times {least : Nat} (hp : p.IsOf text) :
    q ∈ closure step n (times step least [p]) (times step least [p]) ↔
      ∃ k ≤ n, Rounds R (least + k) p q := by
  have hmem : ∀ m, m ∈ times step least [p] ↔ Rounds R least p m := by
    intro m
    rw [h.mem_times (by simpa using hp)]
    simp
  rw [h.mem_closure (fun m hm => h.rounds_isOf hp ((hmem m).mp hm)) (fun _ => id) (fun _ => .inl)]
  simp only [hmem, Rounds.add_iff]
  constructor
  · rintro ⟨m, hm, k, hk, hrounds⟩
    exact ⟨k, hk, m, hm, hrounds⟩
  · rintro ⟨k, hk, m, hm, hrounds⟩
    exact ⟨m, hm, k, hk, hrounds⟩

end Computes

/-! ## Whole expressions -/

/-- **The places computed in a text are those that the expression leads to.** -/
theorem computes_ends (text : List Char) (r : Regex) : Computes text (ends r) (Leads r) := by
  induction r with
  | empty => exact ⟨fun _ => by simp [ends, Leads], fun hp hq => hq ▸ hp, fun _ hq => hq ▸ Nat.le_refl _⟩
  | chars set =>
    refine ⟨fun {p q} _ => ?_, ?_, ?_⟩
    · rw [ends, Leads]
      split
      · next hrest => simp [hrest]
      · next c rest hrest =>
        rw [hrest]
        split
        · next hset =>
          rw [List.mem_singleton]
          constructor
          · rintro rfl
            exact ⟨c, rest, rfl, hset, rfl⟩
          · rintro ⟨_, _, ⟨⟩, _, hq⟩
            exact hq
        · next hset =>
          simp only [List.not_mem_nil, false_iff]
          rintro ⟨_, _, ⟨⟩, hcontains, _⟩
          exact hset hcontains
    · rintro p q hp ⟨c, rest, hrest, _, rfl⟩
      exact hp.after hrest
    · rintro p q hp ⟨c, rest, _, _, rfl⟩
      exact Nat.le_succ _
  | look condition =>
    refine ⟨fun {p q} _ => ?_, fun hp hq => hq.2 ▸ hp, fun _ hq => hq.2 ▸ Nat.le_refl _⟩
    rw [ends, Leads]
    cases hholds : condition.holds p <;> simp
  | concat a b iha ihb =>
    refine ⟨fun {p q} hp => ?_, ?_, ?_⟩
    · have hends : ∀ m ∈ ends a p, m.IsOf text := fun m hm => iha.isOf hp ((iha.mem_iff hp).mp hm)
      rw [ends, ihb.mem_advance hends, Leads]
      exact exists_congr fun m => and_congr_left fun _ => iha.mem_iff hp
    · rintro p q hp ⟨m, ha, hb⟩
      exact ihb.isOf (iha.isOf hp ha) hb
    · rintro p q hp ⟨m, ha, hb⟩
      exact Nat.le_trans (iha.index_le hp ha) (ihb.index_le (iha.isOf hp ha) hb)
  | either a b iha ihb =>
    refine ⟨fun {p q} hp => ?_, ?_, ?_⟩
    · have hends : ∀ m ∈ ends a p ++ ends b p, m.IsOf text := by
        intro m hm
        rcases List.mem_append.mp hm with hm | hm
        · exact iha.isOf hp ((iha.mem_iff hp).mp hm)
        · exact ihb.isOf hp ((ihb.mem_iff hp).mp hm)
      rw [ends, mem_foldl_addPlace (by simp) hends, List.mem_append, iha.mem_iff hp, ihb.mem_iff hp, Leads]
      simp
    · rintro p q hp (ha | hb)
      · exact iha.isOf hp ha
      · exact ihb.isOf hp hb
    · rintro p q hp (ha | hb)
      · exact iha.index_le hp ha
      · exact ihb.index_le hp hb
  | repeated body least max ih =>
    refine ⟨fun {p q} hp => ?_, ?_, ?_⟩
    · cases max with
      | some most =>
        rw [ends, ih.mem_closure_times hp, Leads]
        constructor
        · rintro ⟨k, hk, hrounds⟩
          refine ⟨least + k, by omega, ?_, hrounds⟩
          rintro _ ⟨⟩
          omega
        · rintro ⟨n, hleast, hmost, hrounds⟩
          obtain ⟨k, rfl⟩ := Nat.exists_eq_add_of_le hleast
          have hk := hmost most rfl
          exact ⟨k, by omega, hrounds⟩
      | none =>
        rw [ends, ih.mem_closure_times hp, Leads]
        constructor
        · rintro ⟨k, _, hrounds⟩
          exact ⟨least + k, by omega, by simp, hrounds⟩
        · rintro ⟨n, hleast, _, hrounds⟩
          obtain ⟨k, rfl⟩ := Nat.exists_eq_add_of_le hleast
          obtain ⟨m, hm, hrest⟩ := Rounds.add_iff.mp hrounds
          have hmof := ih.rounds_isOf hp hm
          obtain ⟨j, hj, hshort⟩ := ih.shorten hmof hrest
          have hpm := ih.rounds_index_le hp hm
          have hplength := hp.index_add_length
          have hqlength := (ih.rounds_isOf hmof hrest).index_add_length
          exact ⟨j, by omega, Rounds.add_iff.mpr ⟨m, hm, hshort⟩⟩
    · rintro p q hp ⟨n, _, _, hrounds⟩
      exact ih.rounds_isOf hp hrounds
    · rintro p q hp ⟨n, _, _, hrounds⟩
      exact ih.rounds_index_le hp hrounds

theorem mem_ends {text : List Char} {r : Regex} {p q : Place} (hp : p.IsOf text) : q ∈ ends r p ↔ Leads r p q :=
  (computes_ends text r).mem_iff hp

/-- **An expression occurs in a text if it leads anywhere from some place of it.** -/
theorem occursIn_iff {r : Regex} {text : String} :
    r.occursIn text = true ↔ ∃ p, p.IsOf text.toList ∧ ∃ q, Leads r p q := by
  rw [occursIn, List.any_eq_true]
  refine exists_congr fun p => ?_
  rw [mem_onward]
  refine and_congr_right fun hp => ?_
  rw [Bool.not_eq_true', ← Bool.not_eq_true, List.isEmpty_iff, List.eq_nil_iff_forall_not_mem]
  simp only [mem_ends hp, Classical.not_forall, Classical.not_not]

end TermSearch.Regex
