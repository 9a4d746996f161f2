import Mathlib.Data.List.Forall2
import TermSearch.Proofs.Document.Meaning
import TermSearch.Proofs.Query.Formula

/-!
# Reading selectors

A selector is read back as a formula of field conditions (`Selector.read?`): `$and` and `$or` join what they list,
and members side by side are joined by *and*. Whatever compiles can be read, and it accepts the documents for which
its formula comes out true (`Selector.exists_reading`). A formula written as a selector is read as itself
(`Selector.read_ofFormula`).
-/

namespace TermSearch.Document

/-! ## The reader -/

/-- A path and what is asked of the values found there. -/
abbrev FieldCondition := String × Json

/-- The connective that a key stands for. -/
def connective? (key : String) : Option Predicate :=
  if key = "$and" then some .and else if key = "$or" then some .or else none

/-- The condition that a member is, unless its key stands for an operator. -/
def fieldReading (key : String) (value : Json) : Option (Formula FieldCondition) :=
  if isOperatorKey key then none else some (.atom (key, value))

mutual

/-- The readings of the members of a selector. -/
def memberReadings : {low : Option String} → Entries Json low → Option (List (Formula FieldCondition))
  | _, .nil => some []
  | _, .cons key _ value rest =>
    match memberReading key value with
    | none => none
    | some reading => (memberReadings rest).map (reading :: ·)

/-- The reading of a member. -/
def memberReading (key : String) : Json → Option (Formula FieldCondition)
  | .array items =>
    match connective? key with
    | some p => (itemReadings items).map (.join p)
    | none => fieldReading key (.array items)
  | value => fieldReading key value

/-- The readings of a list of selectors. -/
def itemReadings : List Json → Option (List (Formula FieldCondition))
  | [] => some []
  | item :: rest =>
    match itemReading item with
    | none => none
    | some reading => (itemReadings rest).map (reading :: ·)

/-- The reading of one selector of a list. -/
def itemReading : Json → Option (Formula FieldCondition)
  | .object fields => (memberReadings fields).map (.join .and)
  | _ => none

end

section

variable [PatternEngine]

/-- Whether the values found at the path of a condition pass what it asks. -/
def FieldCondition.holds (document : Json) (c : FieldCondition) : Bool :=
  match testOf c.2 with
  | .ok test => (Filter.field c.1 test).accepts document
  | .error _ => false

/-- The filter accepts the documents for which the formula comes out true. -/
def Filter.Reads (filter : Filter) (reading : Formula FieldCondition) : Prop :=
  ∀ document, filter.accepts document = reading.value (FieldCondition.holds document)

/-- The filter of several under a connective. -/
def Filter.joined : Predicate → List Filter → Filter
  | .and => .all
  | .or => .any

theorem Filter.Reads.joined {parts : List Filter} {readings : List (Formula FieldCondition)} (p : Predicate)
    (h : List.Forall₂ Reads parts readings) : Reads (.joined p parts) (.join p readings) := by
  intro document
  rw [Formula.value_join]
  cases p with
  | and =>
    show Filter.acceptsAll document parts = (readings.map _).all id
    induction h with
    | nil => rfl
    | cons hpart _ ih => rw [Filter.acceptsAll, hpart document, ih]; rfl
  | or =>
    show Filter.acceptsAny document parts = (readings.map _).any id
    induction h with
    | nil => rfl
    | cons hpart _ ih => rw [Filter.acceptsAny, hpart document, ih]; rfl

end

namespace Selector

/-- **The formula that a selector is read as**, if it can be read. -/
def read? (s : Selector) : Option (Formula FieldCondition) := (memberReadings s.fields).map (.join .and)

/-! ## Single members -/

theorem isOperatorKey_connectiveKey (p : Predicate) : isOperatorKey (connectiveKey p) = true := by
  cases p <;> decide

theorem connective?_connectiveKey (p : Predicate) : connective? (connectiveKey p) = some p := by
  cases p <;> decide

theorem connective?_eq_some {key : String} {p : Predicate} (h : connective? key = some p) : key = connectiveKey p := by
  unfold connective? at h
  split at h
  · next hand => cases h; exact hand
  · split at h
    · next hor => cases h; exact hor
    · cases h

theorem connective?_of_isOperatorKey {key : String} (h : isOperatorKey key = false) : connective? key = none := by
  cases hkey : connective? key with
  | none => rfl
  | some p =>
    rw [connective?_eq_some hkey, isOperatorKey_connectiveKey] at h
    cases h

section

variable [PatternEngine]

theorem memberFilters_connectiveKey (p : Predicate) (value : Json) :
    memberFilters (KeyMap.single (connectiveKey p) value) =
      (listedFilters (connectiveKey p) value).map fun parts => [.joined p parts] := by
  rw [memberFilters_single]
  cases p with
  | and =>
    rw [connectiveKey]
    cases listedFilters "$and" value <;> rfl
  | or =>
    rw [connectiveKey]
    cases listedFilters "$or" value <;> rfl

theorem memberFilters_connective {p : Predicate} {value : Json} {filter : Filter}
    (h : memberFilters (KeyMap.single (connectiveKey p) value) = .ok [filter]) :
    ∃ items parts, value = .array items ∧ itemFilters (connectiveKey p) items = .ok parts ∧
      filter = .joined p parts := by
  rw [memberFilters_connectiveKey] at h
  cases value with
  | array items =>
    rw [listedFilters] at h
    cases hitems : itemFilters (connectiveKey p) items with
    | error cause =>
      rw [hitems] at h
      cases h
    | ok parts =>
      rw [hitems] at h
      cases h
      exact ⟨items, parts, rfl, hitems, rfl⟩
  | null | bool | number | string | object => cases h

theorem memberFilters_field {key : String} {value : Json} {filter : Filter} (hkey : connective? key = none)
    (h : memberFilters (KeyMap.single key value) = .ok [filter]) :
    isOperatorKey key = false ∧ ∃ test, testOf value = .ok test ∧ filter = .field key test := by
  have hand : key ≠ "$and" := fun heq => by rw [heq] at hkey; cases hkey
  have hor : key ≠ "$or" := fun heq => by rw [heq] at hkey; cases hkey
  rw [memberFilters_single, if_neg hand, if_neg hor] at h
  cases hoperator : isOperatorKey key with
  | true =>
    rw [if_pos hoperator] at h
    cases h
  | false =>
    rw [if_neg (by simp [hoperator])] at h
    cases htest : testOf value with
    | error cause =>
      rw [htest] at h
      cases h
    | ok test =>
      rw [htest] at h
      cases h
      exact ⟨rfl, test, rfl, rfl⟩

/-- A condition on a field is met when its test is passed. -/
theorem reads_field {key : String} {value : Json} {test : PathTest} (h : testOf value = .ok test) :
    (Filter.field key test).Reads (.atom (key, value)) := by
  intro document
  rw [Formula.value_atom, FieldCondition.holds, h]

/-! ## Reading what compiles -/

mutual

theorem exists_memberReadings {low : Option String} (fields : Entries Json low) {filters : List Filter}
    (h : memberFilters fields = .ok filters) :
    ∃ readings, memberReadings fields = some readings ∧ List.Forall₂ Filter.Reads filters readings := by
  match fields with
  | .nil =>
    rw [memberFilters] at h
    cases h
    exact ⟨[], by rw [memberReadings], .nil⟩
  | .cons key _ value rest =>
    obtain ⟨filter, more, hfilter, hmore, rfl⟩ := memberFilters_cons_eq_ok.mp h
    obtain ⟨reading, hreading, hreads⟩ := exists_memberReading key value hfilter
    obtain ⟨readings, hreadings, hall⟩ := exists_memberReadings rest hmore
    exact ⟨reading :: readings, by rw [memberReadings, hreading, hreadings]; rfl, .cons hreads hall⟩

theorem exists_memberReading (key : String) (value : Json) {filter : Filter}
    (h : memberFilters (KeyMap.single key value) = .ok [filter]) :
    ∃ reading, memberReading key value = some reading ∧ filter.Reads reading := by
  cases hkey : connective? key with
  | none =>
    obtain ⟨hoperator, test, htest, rfl⟩ := memberFilters_field hkey h
    refine ⟨.atom (key, value), ?_, reads_field htest⟩
    cases value <;> simp [memberReading, hkey, fieldReading, hoperator]
  | some p =>
    obtain rfl := connective?_eq_some hkey
    match value, memberFilters_connective h with
    | .array items, ⟨_, parts, rfl, hparts, hfilter⟩ =>
      obtain ⟨readings, hreadings, hall⟩ := exists_itemReadings items hparts
      rw [hfilter]
      exact ⟨.join p readings, by rw [memberReading, hkey, hreadings]; rfl, .joined p hall⟩

theorem exists_itemReadings {key : String} (items : List Json) {filters : List Filter}
    (h : itemFilters key items = .ok filters) :
    ∃ readings, itemReadings items = some readings ∧ List.Forall₂ Filter.Reads filters readings := by
  match items with
  | [] =>
    rw [itemFilters] at h
    cases h
    exact ⟨[], by rw [itemReadings], .nil⟩
  | item :: rest =>
    rw [itemFilters] at h
    cases hitem : itemFilter key item with
    | error cause =>
      rw [hitem] at h
      cases h
    | ok filter =>
      cases hrest : itemFilters key rest with
      | error cause =>
        rw [hitem, hrest] at h
        cases h
      | ok more =>
        rw [hitem, hrest] at h
        cases h
        obtain ⟨reading, hreading, hreads⟩ := exists_itemReading item hitem
        obtain ⟨readings, hreadings, hall⟩ := exists_itemReadings rest hrest
        exact ⟨reading :: readings, by rw [itemReadings, hreading, hreadings]; rfl, .cons hreads hall⟩

theorem exists_itemReading {key : String} (item : Json) {filter : Filter} (h : itemFilter key item = .ok filter) :
    ∃ reading, itemReading item = some reading ∧ filter.Reads reading := by
  match item with
  | .object fields =>
    rw [itemFilter] at h
    cases hfields : memberFilters fields with
    | error cause =>
      rw [hfields] at h
      cases h
    | ok filters =>
      rw [hfields] at h
      cases h
      obtain ⟨readings, hreadings, hall⟩ := exists_memberReadings fields hfields
      exact ⟨.join .and readings, by rw [itemReading, hreadings]; rfl, .joined .and hall⟩
  | .null | .bool _ | .number _ | .string _ | .array _ => simp [itemFilter] at h

end

/-- **What compiles can be read**, and the filter accepts the documents for which the reading comes out true. -/
theorem exists_reading {s : Selector} {filter : Filter} (h : s.compile = .ok filter) :
    ∃ reading, s.read? = some reading ∧ filter.Reads reading := by
  obtain ⟨filters, hfilters, rfl⟩ := compile_eq_ok.mp h
  obtain ⟨readings, hreadings, hall⟩ := exists_memberReadings s.fields hfilters
  exact ⟨.join .and readings, by rw [read?, hreadings]; rfl, .joined .and hall⟩

end

/-! ## Reading what is written -/

/-- The selector that a formula of field conditions is written as. -/
def ofFormula (f : Formula FieldCondition) : Selector := f.fold (fun c => field c.1 c.2) join

theorem itemReadings_toJson {parts : List (Formula FieldCondition)}
    (h : ∀ part ∈ parts, (ofFormula part).read? = some part) :
    itemReadings ((parts.map ofFormula).map toJson) = some parts := by
  induction parts with
  | nil => rw [List.map_nil, List.map_nil, itemReadings]
  | cons part parts ih =>
    rw [List.forall_mem_cons] at h
    have hitem : itemReading (ofFormula part).toJson = some part := h.1
    rw [List.map_cons, List.map_cons, itemReadings, hitem, ih h.2]
    rfl

/-- A selector with one member is read as that member. -/
theorem read_field (key : String) (value : Json) : (field key value).read? = memberReading key value := by
  rw [read?, field, KeyMap.single, memberReadings]
  cases memberReading key value with
  | none => rfl
  | some reading => rfl

/-- **A formula that is written as a selector is read as itself**, if its fields are no operators. -/
theorem read_ofFormula {f : Formula FieldCondition} (h : f.Sound fun c => isOperatorKey c.1 = false) :
    (ofFormula f).read? = some f := by
  induction h with
  | @atom c h =>
    obtain ⟨key, value⟩ := c
    have hkey := connective?_of_isOperatorKey h
    have hmember : memberReading key value = some (.atom (key, value)) := by
      cases value <;> simp [memberReading, hkey, fieldReading, h]
    rw [ofFormula, Formula.fold_atom, read_field, hmember]
  | @joined p parts hseveral _ ih =>
    have hmember : memberReading (connectiveKey p) (.array ((parts.map ofFormula).map toJson)) =
        some (.joined p parts) := by
      rw [memberReading, connective?_connectiveKey, itemReadings_toJson ih, ← Formula.join_of_two_le p hseveral]
      rfl
    rw [ofFormula, Formula.fold_joined, join, read_field]
    exact hmember

end Selector

end TermSearch.Document
