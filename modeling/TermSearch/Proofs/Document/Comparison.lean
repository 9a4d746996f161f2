import TermSearch.Document.Store
import TermSearch.Proofs.Document.Meaning

/-!
# What comparisons ask of documents

The comparison of a field with a text is a selector with one member. `compares` says directly when a document
passes it, by the values found at the field and without selectors, and `field_comparison_means` that the
selector means just that. A comparison with a pattern needs a pattern that can be read (`PatternReads`).
-/

namespace TermSearch.Document

variable [PatternEngine]

/-! ## Comparisons without selectors -/

/-- The texts that are like a value, as the engine reads its pattern. -/
def readLike (value : String) : Except PatternRefusal (String → Bool) :=
  PatternEngine.read (patternFlags "i") (Wildcard.toRegex value)

/-- Whether some text among the values found is like a value. -/
def matchesLike (value : String) (found : List Json) : Bool :=
  match readLike value with
  | .ok occursIn => found.any fun v => v.text?.any occursIn
  | .error _ => false

/-- Whether some value found stands to the text in one of these orders. -/
def standsTo (orders : List Ordering) (value : String) (found : List Json) : Bool :=
  found.any fun v => (valueOrder? v (.string value)).any (orders.contains ·)

/-- Whether the values found at a field pass its comparison with a text. -/
def passesComparison (op : Operator) (value : String) (found : List Json) : Bool :=
  match op with
  | .eq => isFound found (.string value)
  | .ne => !isFound found (.string value)
  | .lt => standsTo [.lt] value found
  | .gt => standsTo [.gt] value found
  | .lte => standsTo [.lt, .eq] value found
  | .gte => standsTo [.gt, .eq] value found
  | .like => matchesLike value found
  | .notLike => !matchesLike value found

/-- **Whether a document passes the comparison of a field with a text.** -/
def compares (document : Json) (path : String) (op : Operator) (value : String) : Bool :=
  passesComparison op value (resolve document path)

/-- Whether an operator reads its value as a pattern. -/
def takesPattern (op : Operator) : Bool := op = .like ∨ op = .notLike

/-- The engine takes the pattern that a value stands for. -/
def PatternReads (value : String) : Prop := ∃ occursIn, readLike value = .ok occursIn

/-! ## Tests of comparisons -/

theorem testOf_operatorObject {operator : String} {operand : Json} {test : PathTest}
    (hkey : isOperatorKey operator = true) (hoptions : operator ≠ "$options") (hnot : operator ≠ "$not")
    (htest : operatorTest "" operator operand = .ok (some test)) :
    testOf (operatorObject operator operand) = .ok test := by
  have hopts : patternOptions (KeyMap.single operator operand) = .ok "" := by
    simp [patternOptions, KeyMap.get?_single, hoptions]
  have hare : areOperators (KeyMap.single operator operand) = true := by
    simp [areOperators, Entries.isEmpty, Entries.keys, hkey]
  rw [operatorObject, testOf, if_pos hare, hopts]
  simp [KeyMap.single, operatorTests, hnot, htest, PathTest.ofList]

/-- The members of the condition for a pattern in key order: the options come before the pattern. -/
def likeMembers (value : String) : KeyMap Json :=
  .cons "$options" (Entries.above_none _) (.string "i")
    (.cons "$regex" (Entries.above_some (by decide)) (.string (Wildcard.toRegex value)) .nil)

omit [PatternEngine] in
theorem likeCondition_eq (value : String) : likeCondition value = .object (likeMembers value) := by
  have hne : ¬ "$regex" = "$options" := by decide
  have hlt : "$options" < "$regex" := by decide
  rw [likeCondition, Json.ofFields, KeyMap.ofList, KeyMap.extend, List.foldl_cons, List.foldl_cons, List.foldl_nil,
    KeyMap.insert_nil, KeyMap.insert, KeyMap.single, Entries.put, dif_neg hne, dif_pos hlt, likeMembers]

/-- The test for a pattern is read like the pattern. -/
theorem testOf_likeCondition_eq (value : String) :
    testOf (likeCondition value) = (compilePattern "i" (.string (Wildcard.toRegex value))).map PathTest.matches := by
  have hare : areOperators (likeMembers value) = true := by
    simp [likeMembers, areOperators, Entries.isEmpty, Entries.keys, isOperatorKey]
  have hopts : patternOptions (likeMembers value) = .ok "i" := by
    simp [likeMembers, patternOptions, Entries.get?, Entries.has]
  rw [likeCondition_eq, testOf, if_pos hare, hopts]
  simp only [likeMembers, operatorTests, show ¬ "$options" = "$not" by decide, show ¬ "$regex" = "$not" by decide,
    if_false, operatorTest]
  cases compilePattern "i" (.string (Wildcard.toRegex value)) with
  | error cause => rfl
  | ok occursIn => rfl

/-- The condition has a test if the engine takes the pattern, and is refused for what the engine refuses it for. -/
theorem testOf_likeCondition (value : String) :
    testOf (likeCondition value) =
      match readLike value with
      | .ok occursIn => .ok (.matches occursIn)
      | .error cause => .error (.badPattern (Wildcard.toRegex value) cause) := by
  rw [testOf_likeCondition_eq, compilePattern, readLike]
  cases PatternEngine.read (patternFlags "i") (Wildcard.toRegex value) <;> rfl

/-- The test for the opposite of a condition is read like that of the condition. -/
theorem testOf_not (condition : Json) :
    testOf (operatorObject "$not" condition) = (testOf condition).map PathTest.not := by
  have hopts : patternOptions (KeyMap.single "$not" condition) = .ok "" := rfl
  have hare : areOperators (KeyMap.single "$not" condition) = true := by
    simp [areOperators, Entries.isEmpty, Entries.keys, isOperatorKey]
  rw [operatorObject, testOf, if_pos hare, hopts]
  simp only [KeyMap.single, operatorTests, if_true]
  cases testOf condition with
  | error cause => rfl
  | ok test => rfl

omit [PatternEngine] in
theorem standsTo_eq_compare {bound : Bound} {orders : List Ordering} {value : String} {found : List Json}
    (h : ∀ o, bound.accepts o = orders.contains o) :
    PathTest.passes found (.compare bound (.string value)) = standsTo orders value found := by
  have haccepts : bound.accepts = (orders.contains ·) := funext h
  rw [PathTest.passes, haccepts, standsTo]

theorem passes_matches {value : String} {occursIn : String → Bool} {found : List Json}
    (h : readLike value = .ok occursIn) : PathTest.passes found (.matches occursIn) = matchesLike value found := by
  simp only [PathTest.passes, matchesLike, h]

/-- **The test of a comparison**, if it can be read, passes the values that pass the comparison. -/
theorem testOf_comparison {op : Operator} {value : String} (h : takesPattern op = true → PatternReads value) :
    ∃ test, testOf (comparison op value) = .ok test ∧
      ∀ found, test.passes found = passesComparison op value found := by
  cases op with
  | eq =>
    refine ⟨.eq (.string value), by simp [comparison, testOf], fun found => ?_⟩
    simp [PathTest.passes, equalsFound, Json.isNull, passesComparison]
  | ne =>
    refine ⟨.ne (.string value), testOf_operatorObject (by decide) (by decide) (by decide) rfl, fun found => ?_⟩
    simp [PathTest.passes, equalsFound, Json.isNull, passesComparison]
  | lt =>
    exact ⟨_, testOf_operatorObject (by decide) (by decide) (by decide) rfl,
      fun found => standsTo_eq_compare fun o => by cases o <;> rfl⟩
  | gt =>
    exact ⟨_, testOf_operatorObject (by decide) (by decide) (by decide) rfl,
      fun found => standsTo_eq_compare fun o => by cases o <;> rfl⟩
  | lte =>
    exact ⟨_, testOf_operatorObject (by decide) (by decide) (by decide) rfl,
      fun found => standsTo_eq_compare fun o => by cases o <;> rfl⟩
  | gte =>
    exact ⟨_, testOf_operatorObject (by decide) (by decide) (by decide) rfl,
      fun found => standsTo_eq_compare fun o => by cases o <;> rfl⟩
  | like =>
    obtain ⟨occursIn, hread⟩ := h (by decide)
    exact ⟨.matches occursIn, by rw [comparison, testOf_likeCondition, hread], fun found => passes_matches hread⟩
  | notLike =>
    obtain ⟨occursIn, hread⟩ := h (by decide)
    refine ⟨.not (.matches occursIn), ?_, fun found => ?_⟩
    · rw [comparison, testOf_not, testOf_likeCondition, hread]
      rfl
    · rw [PathTest.passes, passes_matches hread, passesComparison]

/-- The comparison of a field, as a selector, wants the documents that pass it. -/
theorem field_comparison_means {path : String} {op : Operator} {value : String}
    (hpath : isOperatorKey path = false) (h : takesPattern op = true → PatternReads value) :
    (Selector.field path (comparison op value)).Means fun document => compares document path op value = true := by
  obtain ⟨test, htest, hpasses⟩ := testOf_comparison h
  have hcompile : (Selector.field path (comparison op value)).compile = .ok (.all [.field path test]) := by
    rw [Selector.field_compile hpath, htest]
    rfl
  refine ⟨⟨_, hcompile⟩, fun document => ?_⟩
  rw [Selector.wants_iff_accepts, hcompile]
  simp [Filter.accepts, Filter.acceptsAll, hpasses, compares]

end TermSearch.Document
