import TermSearch.Document.Store
import TermSearch.Proofs.Sql.Outline

/-!
# Settings

The source, the limit and the offset of a query are settings (`Setting`): an edit replaces them, and of several queries
the last one that has a value passes it on. Nothing else has an effect on them, in either backend that keeps clauses
(`ClauseBackend`).

What operations leave in a setting (`Setting.left`) can therefore be told from the operations alone
(`Setting.run_single_value`). A value that is left was given by one of the operations, or it was there before
(`Setting.left_mem`).
-/

namespace TermSearch

/-! ## Last values -/

namespace Clauses

variable {α : Type}

@[simp] theorem lastPresent_singleton (a : Option α) : lastPresent [a] = a := by
  cases a <;> rfl

theorem lastPresent_append (l l' : List (Option α)) : lastPresent (l ++ l') = (lastPresent l').or (lastPresent l) := by
  rw [lastPresent, List.reverse_append, List.findSome?_append]
  rfl

theorem lastPresent_cons (a : Option α) (l : List (Option α)) : lastPresent (a :: l) = (lastPresent l).or a := by
  rw [← List.singleton_append, lastPresent_append, lastPresent_singleton]

theorem lastPresent_flatten (ls : List (List (Option α))) :
    lastPresent ls.flatten = lastPresent (ls.map lastPresent) := by
  induction ls with
  | nil => rfl
  | cons l ls ih => rw [List.flatten_cons, lastPresent_append, List.map_cons, lastPresent_cons, ih]

theorem lastPresent_eq_none_iff {l : List (Option α)} : lastPresent l = none ↔ ∀ a, some a ∉ l := by
  rw [lastPresent, List.findSome?_eq_none_iff]
  constructor
  · intro h a ha
    cases h _ (List.mem_reverse.mpr ha)
  · intro h a ha
    cases a with
    | none => rfl
    | some a => exact absurd (List.mem_reverse.mp ha) (h a)

theorem mem_of_lastPresent {l : List (Option α)} {a : α} (h : lastPresent l = some a) : some a ∈ l := by
  obtain ⟨x, hx, hvalue⟩ := List.exists_of_findSome?_eq_some h
  cases hvalue
  exact List.mem_reverse.mp hx

/-- The value of queries that are merged, if there are any. -/
def mergedValue? (values : List (Option α)) : Option (Option α) :=
  if values.isEmpty then none else some (lastPresent values)

theorem mem_of_mergedValue? {values : List (Option α)} {a : α} (h : mergedValue? values = some (some a)) :
    some a ∈ values := by
  unfold mergedValue? at h
  split at h
  · cases h
  · exact mem_of_lastPresent (Option.some.inj h)

theorem mergedValue?_join_isSome {values : List (Option α)} {a : α} (h : some a ∈ values) :
    (mergedValue? values).join.isSome = true := by
  unfold mergedValue?
  rw [if_neg (by rw [List.isEmpty_iff]; exact List.ne_nil_of_mem h), Option.isSome_iff_ne_none]
  exact fun hnone => lastPresent_eq_none_iff.mp hnone a h

end Clauses

/-! ## Settings -/

/-- A clause with a single value. -/
structure Setting (α : Type) where
  /-- Its value in a query. -/
  get {C : Type} (clauses : Clauses C) : Option α
  /-- What an edit replaces the value by, if it does. -/
  set? : ClauseEdit → Option (Option α)
  get_run {C : Type} (clauses : Clauses C) (e : ClauseEdit) : get (e.run clauses) = (set? e).getD (get clauses)
  get_merge {C : Type} [Condition C] (p : Predicate) (queries : List (Clauses C)) :
    get (Clauses.merge p queries) = Clauses.lastPresent (queries.map get)
  /-- Conditions do not matter to it. -/
  get_conditions {C : Type} (clauses : Clauses C) (filter having : C) :
    get { clauses with filter, having } = get clauses

namespace Setting

/-- Where the rows come from. -/
def source : Setting String where
  get clauses := clauses.source
  set?
    | .source name => some (some name)
    | _ => none
  get_run clauses e := by cases e <;> rfl
  get_merge _ _ := rfl
  get_conditions _ _ _ := rfl

/-- How many rows are wanted. -/
def limit : Setting Nat where
  get clauses := clauses.limit
  set?
    | .limit value => some value
    | _ => none
  get_run clauses e := by cases e <;> rfl
  get_merge _ _ := rfl
  get_conditions _ _ _ := rfl

/-- How many rows are skipped. -/
def offset : Setting Nat where
  get clauses := clauses.offset
  set?
    | .offset value => some value
    | _ => none
  get_run clauses e := by cases e <;> rfl
  get_merge _ _ := rfl
  get_conditions _ _ _ := rfl

end Setting

/-! ## Backends with clauses -/

/-- A backend whose queries are made of clauses: each of its methods edits a clause that is no condition, or only
conditions. -/
class ClauseBackend (C : Type) [Condition C] [Query (ClauseQuery C)] where
  edit? : Query.Method (ClauseQuery C) → Option ClauseEdit
  merge_eq (q : ClauseQuery C) (p : Predicate) (others : List (ClauseQuery C)) :
    Query.merge q p others = q.merge p others
  cleared_eq (q : ClauseQuery C) : Query.cleared q = q.cleared
  compare_clauses (q : ClauseQuery C) (field : String) (op : Operator) (value : String) :
    ∃ filter, (Query.compare q field op value).clauses = { q.clauses with filter }
  perform_edit {m : Query.Method (ClauseQuery C)} {e : ClauseEdit} (h : edit? m = some e) (q : ClauseQuery C) :
    Query.perform m q = .ok (q.edit e)
  perform_conditions {m : Query.Method (ClauseQuery C)} (h : edit? m = none) {q q' : ClauseQuery C}
    (hperform : Query.perform m q = .ok q') : ∃ filter having, q'.clauses = { q.clauses with filter, having }

theorem Sql.SqlMethod.run_clauses {m : Sql.SqlMethod} (hm : ∀ e, m ≠ .edit e) {q q' : Sql.SqlQuery}
    (h : m.run q = .ok q') : ∃ filter having, q'.clauses = { q.clauses with filter, having } := by
  cases m with
  | edit e => exact absurd rfl (hm e)
  | filter expr binds =>
    obtain ⟨-, rfl⟩ := Sql.addFilter_eq_ok h
    exact ⟨_, _, rfl⟩
  | filterEq column value =>
    have hadd : Sql.addFilter (Sql.quoteName column ++ " = ?") [value] q = .ok q' := h
    obtain ⟨-, rfl⟩ := Sql.addFilter_eq_ok hadd
    exact ⟨_, _, rfl⟩
  | having expr binds =>
    obtain ⟨-, rfl⟩ := Sql.having_eq_ok h
    exact ⟨_, _, rfl⟩

theorem Document.DocumentMethod.run_clauses [PatternEngine] {m : Document.DocumentMethod} (hm : ∀ e, m ≠ .edit e)
    {q q' : Document.DocumentQuery} (h : m.run q = .ok q') :
    ∃ filter having, q'.clauses = { q.clauses with filter, having } := by
  cases m with
  | edit e => exact absurd rfl (hm e)
  | filter value =>
    rw [Document.DocumentMethod.run] at h
    split at h
    · cases h
      exact ⟨_, _, rfl⟩
    · cases h
  | filterEq field value =>
    cases h
    exact ⟨_, _, rfl⟩

instance : ClauseBackend Sql.Expressions where
  edit?
    | Sql.SqlMethod.edit e => some e
    | _ => none
  merge_eq _ _ _ := rfl
  cleared_eq _ := rfl
  compare_clauses _ _ _ _ := ⟨_, rfl⟩
  perform_edit {m} _ h _ := by
    cases m <;> cases h
    rfl
  perform_conditions {m} h {_ _} hperform :=
    Sql.SqlMethod.run_clauses (fun e he => by rw [he] at h; cases h) hperform

instance [PatternEngine] : ClauseBackend Document.Selector where
  edit?
    | Document.DocumentMethod.edit e => some e
    | _ => none
  merge_eq _ _ _ := rfl
  cleared_eq _ := rfl
  compare_clauses _ _ _ _ := ⟨_, rfl⟩
  perform_edit {m} _ h _ := by
    cases m <;> cases h
    rfl
  perform_conditions {m} h {_ _} hperform :=
    Document.DocumentMethod.run_clauses (fun e he => by rw [he] at h; cases h) hperform

namespace Setting

variable {α C : Type} [Condition C] [Query (ClauseQuery C)] [ClauseBackend C] (k : Setting α)

/-- What a method replaces the value by, if it does. -/
def setBy (m : Query.Method (ClauseQuery C)) : Option (Option α) := (ClauseBackend.edit? m).bind k.set?

theorem get_compare (q : ClauseQuery C) (field : String) (op : Operator) (value : String) :
    k.get (Query.compare q field op value).clauses = k.get q.clauses := by
  obtain ⟨filter, hclauses⟩ := ClauseBackend.compare_clauses q field op value
  rw [hclauses]
  exact k.get_conditions _ _ _

theorem get_cleared (q : ClauseQuery C) : k.get (Query.cleared q).clauses = k.get q.clauses := by
  rw [ClauseBackend.cleared_eq]
  exact k.get_conditions _ _ _

/-- A merge has the last value of the merged queries. -/
theorem get_mergeQueries (q : ClauseQuery C) (p : Predicate) (others : List (ClauseQuery C)) :
    k.get (Query.merge q p others).clauses = Clauses.lastPresent ((q :: others).map fun q => k.get q.clauses) := by
  rw [ClauseBackend.merge_eq]
  cases others with
  | nil => exact (Clauses.lastPresent_singleton _).symm
  | cons other others =>
    show k.get (Clauses.merge p ((q :: other :: others).map (·.clauses))) = _
    rw [k.get_merge, List.map_map]
    rfl

/-- A method leaves the value alone or replaces it. -/
theorem get_perform {m : Query.Method (ClauseQuery C)} {q q' : ClauseQuery C} (h : Query.perform m q = .ok q') :
    k.get q'.clauses = (k.setBy m).getD (k.get q.clauses) := by
  unfold setBy
  cases hedit : ClauseBackend.edit? m with
  | some e =>
    rw [ClauseBackend.perform_edit hedit] at h
    cases h
    exact k.get_run _ _
  | none =>
    obtain ⟨filter, having, hclauses⟩ := ClauseBackend.perform_conditions hedit h
    rw [hclauses]
    exact k.get_conditions _ _ _

/-! ## What operations leave -/

mutual

/-- The value of the branch that an operation adds to a block, if it adds one, from the value of the root. -/
def branchValue (root : Option α) : Step (ClauseQuery C) → Option (Option α)
  | .compare | .compareBy _ | .compareWith _ _ _ | .clear => some root
  | .method m => some ((k.setBy m).getD root)
  | .push query => some (k.get query.clauses)
  | .fail _ => none
  | .grouped _ steps | .anyOf steps | .allOf steps => Clauses.mergedValue? (branchValues root steps)

/-- The values of the branches that operations add to a block. -/
def branchValues (root : Option α) : List (Step (ClauseQuery C)) → List (Option α)
  | [] => []
  | step :: steps => (branchValue root step).toList ++ branchValues root steps

end

/-- The value of the query that an operation puts in place of one with a certain value, if it does. A method replaces
this query; what else is added is merged with it. -/
def nextValue (value : Option α) : Step (ClauseQuery C) → Option (Option α)
  | .method m => some ((k.setBy m).getD value)
  | step => (k.branchValue value step).map (·.or value)

/-- **The value that operations leave** in the query they build from one with a certain value, if they build any. -/
def left (value : Option α) : List (Step (ClauseQuery C)) → Option (Option α)
  | [] => none
  | step :: steps => (left ((k.nextValue value step).getD value) steps).or (k.nextValue value step)

/-! ## What operations give -/

mutual

/-- The values that an operation gives the setting: those that its methods set, also within blocks, and those of the
queries that it adds. -/
def given : Step (ClauseQuery C) → List α
  | .compare | .compareBy _ | .compareWith _ _ _ | .clear | .fail _ => []
  | .method m => (k.setBy m).join.toList
  | .push query => (k.get query.clauses).toList
  | .grouped _ steps | .anyOf steps | .allOf steps => givenIn steps

/-- The values that operations give the setting. -/
def givenIn : List (Step (ClauseQuery C)) → List α
  | [] => []
  | step :: steps => given step ++ givenIn steps

end

mutual

/-- The value of a branch is that of the root, or given. -/
theorem branchValue_mem (root : Option α) {x : α} :
    ∀ step : Step (ClauseQuery C), k.branchValue root step = some (some x) → some x = root ∨ x ∈ k.given step
  | .compare, h | .compareBy _, h | .compareWith _ _ _, h | .clear, h => by
    rw [branchValue] at h
    exact .inl (Option.some.inj h).symm
  | .fail _, h => by
    rw [branchValue] at h
    cases h
  | .method m, h => by
    rw [branchValue] at h
    rw [given]
    cases hset : k.setBy m with
    | none =>
      rw [hset] at h
      exact .inl (Option.some.inj h).symm
    | some value =>
      rw [hset] at h
      exact .inr (Option.mem_toList.mpr (Option.some.inj h))
  | .push query, h => by
    rw [branchValue] at h
    rw [given]
    exact .inr (Option.mem_toList.mpr (Option.some.inj h))
  | .grouped _ steps, h | .anyOf steps, h | .allOf steps, h => by
    rw [branchValue] at h
    rw [given]
    exact branchValues_mem root steps (Clauses.mem_of_mergedValue? h)

theorem branchValues_mem (root : Option α) {x : α} :
    ∀ steps : List (Step (ClauseQuery C)), some x ∈ k.branchValues root steps → some x = root ∨ x ∈ k.givenIn steps
  | [], h => by
    rw [branchValues] at h
    cases h
  | step :: steps, h => by
    rw [branchValues, List.mem_append] at h
    rw [givenIn, List.mem_append]
    rcases h with h | h
    · exact (branchValue_mem root step (Option.mem_toList.mp h)).imp_right .inl
    · exact (branchValues_mem root steps h).imp_right .inr

end

mutual

/-- A branch to which a value is given has a value. -/
theorem branchValue_join_isSome (root : Option α) :
    ∀ step : Step (ClauseQuery C), k.given step ≠ [] → (k.branchValue root step).join.isSome = true
  | .compare, h | .compareBy _, h | .compareWith _ _ _, h | .clear, h | .fail _, h => by
    rw [given] at h
    exact absurd rfl h
  | .method m, h => by
    rw [given] at h
    rw [branchValue]
    cases hset : k.setBy m with
    | none => exact absurd (by rw [hset]; rfl) h
    | some value =>
      cases value with
      | none => exact absurd (by rw [hset]; rfl) h
      | some x => rfl
  | .push query, h => by
    rw [given] at h
    rw [branchValue]
    cases hvalue : k.get query.clauses with
    | none => exact absurd (by rw [hvalue]; rfl) h
    | some x => rfl
  | .grouped _ steps, h | .anyOf steps, h | .allOf steps, h => by
    rw [given] at h
    rw [branchValue]
    obtain ⟨x, hx⟩ := exists_mem_branchValues root steps h
    exact Clauses.mergedValue?_join_isSome hx

theorem exists_mem_branchValues (root : Option α) :
    ∀ steps : List (Step (ClauseQuery C)), k.givenIn steps ≠ [] → ∃ x, some x ∈ k.branchValues root steps
  | [], h => by
    rw [givenIn] at h
    exact absurd rfl h
  | step :: steps, h => by
    rw [givenIn] at h
    rw [branchValues]
    by_cases hstep : k.given step = []
    · rw [hstep, List.nil_append] at h
      exact (exists_mem_branchValues root steps h).imp fun x hx => List.mem_append_right _ hx
    · obtain ⟨x, hx⟩ := Option.isSome_iff_exists.mp (branchValue_join_isSome root step hstep)
      exact ⟨x, List.mem_append_left _ (Option.mem_toList.mpr (Option.join_eq_some_iff.mp hx))⟩

end

/-- The value that an operation puts in place is the one before, or given. -/
theorem nextValue_mem {value : Option α} {step : Step (ClauseQuery C)} {x : α}
    (h : k.nextValue value step = some (some x)) : some x = value ∨ x ∈ k.given step := by
  unfold nextValue at h
  split at h
  · next m => exact k.branchValue_mem value (.method m) (by rwa [branchValue])
  · obtain ⟨added, hbranch, hadded⟩ := Option.map_eq_some_iff.mp h
    rcases Option.or_eq_some_iff.mp hadded with rfl | ⟨-, rfl⟩
    · exact k.branchValue_mem value step hbranch
    · exact .inl rfl

/-- **A value that operations leave is the one before, or one of them gives it.** -/
theorem left_mem {value : Option α} {steps : List (Step (ClauseQuery C))} {x : α}
    (h : k.left value steps = some (some x)) : some x = value ∨ x ∈ k.givenIn steps := by
  induction steps generalizing value with
  | nil => cases h
  | cons step steps ih =>
    rw [givenIn, List.mem_append]
    rw [left] at h
    rcases Option.or_eq_some_iff.mp h with hlater | ⟨-, hnext⟩
    · rcases ih hlater with hx | hx
      · cases hnext : k.nextValue value step with
        | none =>
          rw [hnext] at hx
          exact .inl hx
        | some next =>
          rw [hnext] at hx
          subst hx
          exact (k.nextValue_mem hnext).imp_right .inl
      · exact .inr (.inr hx)
    · exact (k.nextValue_mem hnext).imp_right .inl

/-- Operations none of which takes the value of their own query away. -/
def Keeps (steps : List (Step (ClauseQuery C))) : Prop := ∀ m, Step.method m ∈ steps → k.setBy m ≠ some none

/-- What an operation puts in place has a value if it gives one, or if there was one before. -/
theorem nextValue_isSome {value : Option α} {step : Step (ClauseQuery C)}
    (hkeeps : ∀ m, step = .method m → k.setBy m ≠ some none) (h : k.given step ≠ [] ∨ value.isSome = true) :
    ((k.nextValue value step).getD value).isSome = true := by
  rcases h with h | h
  · obtain ⟨x, hx⟩ := Option.isSome_iff_exists.mp (k.branchValue_join_isSome value step h)
    rw [Option.join_eq_some_iff] at hx
    unfold nextValue
    split
    · rw [branchValue] at hx
      rw [hx]
      rfl
    · rw [hx]
      rfl
  · unfold nextValue
    split
    · next m =>
      cases hset : k.setBy m with
      | none => exact h
      | some replaced =>
        cases replaced with
        | none => exact absurd hset (hkeeps m rfl)
        | some x => rfl
    · cases k.branchValue value step with
      | none => exact h
      | some added => exact Option.isSome_or.trans (by rw [h, Bool.or_true])

/-- **From a query without a value, operations that give one leave a value that they give.** -/
theorem left_of_given {steps : List (Step (ClauseQuery C))} (hkeeps : k.Keeps steps) (h : k.givenIn steps ≠ []) :
    ∃ x ∈ k.givenIn steps, k.left none steps = some (some x) := by
  have hleft : ∀ value, k.givenIn steps ≠ [] ∨ value.isSome = true →
      ((k.left value steps).getD value).isSome = true := by
    clear h
    induction steps with
    | nil => exact fun value h => h.resolve_left (· rfl)
    | cons step steps ih =>
      intro value h
      rw [left, Option.getD_or]
      refine ih (fun m hm => hkeeps m (List.mem_cons_of_mem _ hm)) _ ?_
      by_cases hrest : k.givenIn steps = []
      · rw [givenIn, hrest, List.append_nil] at h
        exact .inr (k.nextValue_isSome (fun m hm => hkeeps m (by rw [hm]; exact List.mem_cons_self)) h)
      · exact .inl hrest
  obtain ⟨x, hx⟩ := Option.isSome_iff_exists.mp (hleft none (.inl h))
  have hvalue : k.left none steps = some (some x) := by
    cases hl : k.left none steps with
    | none =>
      rw [hl] at hx
      cases hx
    | some value =>
      rw [hl] at hx
      exact congrArg some hx
  exact ⟨x, (k.left_mem hvalue).resolve_left (Option.some_ne_none x), hvalue⟩

/-! ## Operations on scopes -/

/-- A group that works adds a query with the value of its branches, if it has any. -/
theorem grouped_adds {p : Predicate} {block : Scope (ClauseQuery C) → Outcome (Scope (ClauseQuery C))}
    {s : Scope (ClauseQuery C)} {values : List (Option α)}
    (hblock : (block (.branch (Query.cleared s.current) s.negated)).failure = none →
      (block (.branch (Query.cleared s.current) s.negated)).state.branches.map (fun q => k.get q.clauses) = values)
    (h : (s.grouped p block).failure = none) :
    ∃ added : Option (ClauseQuery C), (s.grouped p block).state = added.elim s s.push ∧
      added.map (fun q => k.get q.clauses) = Clauses.mergedValue? values := by
  unfold Scope.grouped at h ⊢
  generalize block (.branch (Query.cleared s.current) s.negated) = inner at hblock h
  obtain ⟨state, failure⟩ := inner
  cases failure with
  | some cause => cases h
  | none =>
    refine ⟨state.merged? p, rfl, ?_⟩
    rw [← hblock rfl]
    unfold Scope.merged?
    cases state.branches with
    | nil => rfl
    | cons first rest => exact congrArg some (k.get_mergeQueries first p rest)

/-- The branches of a block have the values that its operations say, also without the conditions of the root. -/
theorem branches_of_block {s : Scope (ClauseQuery C)} {root : ClauseQuery C} {negated : Bool}
    {steps : List (Step (ClauseQuery C))}
    (h : ∃ added, s = .branching (Query.cleared root) negated ([] ++ added) ∧
      added.map (fun q => k.get q.clauses) = k.branchValues (k.get (Query.cleared root).clauses) steps) :
    s.branches.map (fun q => k.get q.clauses) = k.branchValues (k.get root.clauses) steps := by
  obtain ⟨added, rfl, hvalues⟩ := h
  rw [k.get_cleared] at hvalues
  exact hvalues

/-- A group inside a block that works adds a branch with the value of its own branches, if it has any. -/
theorem grouped_branching (v : Visit) (root : ClauseQuery C) (negated : Bool) (p : Predicate)
    (steps : List (Step (ClauseQuery C))) (branches : List (ClauseQuery C))
    (hsteps : (Step.runAll v steps (.branching (Query.cleared root) negated [])).failure = none →
      ∃ added, (Step.runAll v steps (.branching (Query.cleared root) negated [])).state =
          .branching (Query.cleared root) negated ([] ++ added) ∧
        added.map (fun q => k.get q.clauses) = k.branchValues (k.get (Query.cleared root).clauses) steps)
    (h : ((Scope.branching root negated branches).grouped p (Step.runAll v steps)).failure = none) :
    ∃ added, ((Scope.branching root negated branches).grouped p (Step.runAll v steps)).state =
        .branching root negated (branches ++ added) ∧
      added.map (fun q => k.get q.clauses) =
        (Clauses.mergedValue? (k.branchValues (k.get root.clauses) steps)).toList := by
  obtain ⟨added, hstate, hvalue⟩ := k.grouped_adds (fun hinner => k.branches_of_block (hsteps hinner)) h
  refine ⟨added.toList, ?_, ?_⟩
  · rw [hstate]
    cases added with
    | none => simp
    | some q => rfl
  · rw [← hvalue]
    cases added <;> rfl

mutual

/-- An operation of a block that works adds a branch with the value it says, or none. -/
theorem run_branching (v : Visit) (root : ClauseQuery C) (negated : Bool) :
    ∀ (step : Step (ClauseQuery C)) (branches : List (ClauseQuery C)),
      (step.run v (.branching root negated branches)).failure = none →
        ∃ added, (step.run v (.branching root negated branches)).state = .branching root negated (branches ++ added) ∧
          added.map (fun q => k.get q.clauses) = (k.branchValue (k.get root.clauses) step).toList
  | .compare, branches, h => by
    rw [Step.run, Scope.compare] at h ⊢
    cases hfield : v.field with
    | none =>
      rw [hfield] at h
      cases h
    | some field => exact ⟨[_], rfl, congrArg (fun value => [value]) (k.get_compare _ _ _ _)⟩
  | .compareBy field, branches, _ => by
    rw [Step.run]
    exact ⟨[_], rfl, congrArg (fun value => [value]) (k.get_compare _ _ _ _)⟩
  | .compareWith field op value, branches, _ => by
    rw [Step.run]
    exact ⟨[_], rfl, congrArg (fun value => [value]) (k.get_compare _ _ _ _)⟩
  | .method m, branches, h => by
    rw [Step.run, Scope.apply] at h ⊢
    cases hperform : Query.perform m root with
    | error cause =>
      rw [show (Scope.branching root negated branches).current = root from rfl, hperform] at h
      cases h
    | ok q =>
      rw [show (Scope.branching root negated branches).current = root from rfl, hperform]
      exact ⟨[q], rfl, congrArg (fun value => [value]) (k.get_perform hperform)⟩
  | .clear, branches, _ => by
    rw [Step.run]
    exact ⟨[_], rfl, congrArg (fun value => [value]) (k.get_cleared _)⟩
  | .push query, branches, _ => by
    rw [Step.run]
    exact ⟨[query], rfl, rfl⟩
  | .fail cause, branches, h => by
    rw [Step.run] at h
    cases h
  | .grouped p steps, branches, h => by
    rw [Step.run] at h ⊢
    exact k.grouped_branching v root negated p steps branches (runAll_branching v _ negated steps []) h
  | .anyOf steps, branches, h => by
    rw [Step.run] at h ⊢
    exact k.grouped_branching v root negated _ steps branches (runAll_branching v _ negated steps []) h
  | .allOf steps, branches, h => by
    rw [Step.run] at h ⊢
    exact k.grouped_branching v root negated _ steps branches (runAll_branching v _ negated steps []) h

/-- Operations of a block add branches with the values they say. -/
theorem runAll_branching (v : Visit) (root : ClauseQuery C) (negated : Bool) :
    ∀ (steps : List (Step (ClauseQuery C))) (branches : List (ClauseQuery C)),
      (Step.runAll v steps (.branching root negated branches)).failure = none →
        ∃ added, (Step.runAll v steps (.branching root negated branches)).state =
            .branching root negated (branches ++ added) ∧
          added.map (fun q => k.get q.clauses) = k.branchValues (k.get root.clauses) steps
  | [], branches, _ => by
    rw [Step.runAll]
    exact ⟨[], by rw [List.append_nil]; rfl, rfl⟩
  | step :: steps, branches, h => by
    rw [Step.runAll] at h ⊢
    obtain ⟨hworks, hrun⟩ := Outcome.andThen_works h
    obtain ⟨first, hfirst, hvalue⟩ := run_branching v root negated step branches hworks
    rw [hrun, hfirst] at h ⊢
    obtain ⟨added, hadded, hvalues⟩ := runAll_branching v root negated steps (branches ++ first) h
    refine ⟨first ++ added, by rw [hadded, List.append_assoc], ?_⟩
    rw [List.map_append, hvalue, hvalues, branchValues]

end

theorem get_push (q added : ClauseQuery C) :
    k.get (Query.merge q .and [added]).clauses = (k.get added.clauses).or (k.get q.clauses) := by
  rw [k.get_mergeQueries, List.map_cons, Clauses.lastPresent_cons, List.map_singleton, Clauses.lastPresent_singleton]

/-- A group on a single scope that works merges the value of its branches with that of the scope. -/
theorem grouped_single_value (v : Visit) (p : Predicate) (steps : List (Step (ClauseQuery C))) (q : ClauseQuery C)
    (negated touched : Bool)
    (h : ((Scope.single q negated touched).grouped p (Step.runAll v steps)).failure = none) :
    ∃ q', ((Scope.single q negated touched).grouped p (Step.runAll v steps)).state =
        .single q' negated (touched || (k.nextValue (k.get q.clauses) (.grouped p steps)).isSome) ∧
      k.get q'.clauses = (k.nextValue (k.get q.clauses) (.grouped p steps)).getD (k.get q.clauses) := by
  obtain ⟨added, hstate, hvalue⟩ := k.grouped_adds
    (fun hinner => k.branches_of_block (k.runAll_branching v _ negated steps [] hinner)) h
  change Option.map _ added = Clauses.mergedValue? (k.branchValues (k.get q.clauses) steps) at hvalue
  rw [hstate, nextValue, branchValue, ← hvalue]
  · cases added with
    | none => exact ⟨q, by simp, rfl⟩
    | some added => exact ⟨_, by simp [Scope.push], k.get_push q added⟩
  · exact nofun

/-- An operation on a single scope that works leaves the value it says, and a scope without one untouched. -/
theorem run_single_value (v : Visit) (step : Step (ClauseQuery C)) (q : ClauseQuery C) (negated touched : Bool)
    (h : (step.run v (.single q negated touched)).failure = none) :
    ∃ q', (step.run v (.single q negated touched)).state =
        .single q' negated (touched || (k.nextValue (k.get q.clauses) step).isSome) ∧
      k.get q'.clauses = (k.nextValue (k.get q.clauses) step).getD (k.get q.clauses) := by
  -- what does not change the value
  have hsame : ∀ q' : ClauseQuery C, k.get q'.clauses = k.get q.clauses →
      k.get q'.clauses = (k.get q.clauses).or (k.get q.clauses) := by
    intro q' hq'
    rw [hq', Option.or_self]
  cases step with
  | compare =>
    rw [Step.run, Scope.compare] at h ⊢
    cases hfield : v.field with
    | none =>
      rw [hfield] at h
      cases h
    | some field => exact ⟨_, by rw [Bool.or_comm]; rfl, hsame _ (k.get_compare _ _ _ _)⟩
  | compareBy field =>
    rw [Step.run]
    exact ⟨_, by rw [Bool.or_comm]; rfl, hsame _ (k.get_compare _ _ _ _)⟩
  | compareWith field op value =>
    rw [Step.run]
    exact ⟨_, by rw [Bool.or_comm]; rfl, hsame _ (k.get_compare _ _ _ _)⟩
  | method m =>
    rw [Step.run, Scope.apply] at h ⊢
    cases hperform : Query.perform m q with
    | error cause =>
      rw [show (Scope.single q negated touched).current = q from rfl, hperform] at h
      cases h
    | ok q' =>
      rw [show (Scope.single q negated touched).current = q from rfl, hperform]
      exact ⟨q', by rw [Bool.or_comm]; rfl, k.get_perform hperform⟩
  | clear =>
    rw [Step.run]
    exact ⟨_, by rw [Bool.or_comm]; rfl, hsame _ (k.get_cleared _)⟩
  | push added =>
    rw [Step.run]
    exact ⟨_, by rw [Bool.or_comm]; rfl, k.get_push q added⟩
  | fail cause =>
    rw [Step.run] at h
    cases h
  | grouped p steps =>
    rw [Step.run] at h ⊢
    exact k.grouped_single_value v p steps q negated touched h
  | anyOf steps =>
    rw [Step.run] at h ⊢
    exact k.grouped_single_value v _ steps q negated touched h
  | allOf steps =>
    rw [Step.run] at h ⊢
    exact k.grouped_single_value v _ steps q negated touched h

end Setting

end TermSearch
