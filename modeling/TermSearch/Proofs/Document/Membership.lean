import TermSearch.Proofs.Document.Answer
import TermSearch.Regex.Reader

/-!
# Membership

`$in` asks for one of several values and `$nin` for none of them. That is a disjunction of equalities, and a conjunction
of inequalities, wherever something is found at the field (`Selector.membership_is_disjunction`). At a missing field the
equality with null passes, but null among several values does not (`Selector.membership_misses_null`).
-/

namespace TermSearch.Document

/-- Membership looks for values, and equality takes null for a missing field besides. -/
theorem any_isFound_eq {found options : List Json} (h : found ≠ [] ∨ ∀ option ∈ options, option.isNull = false) :
    options.any (isFound found) = options.any (equalsFound found) := by
  rw [Bool.eq_iff_iff, List.any_eq_true, List.any_eq_true]
  refine exists_congr fun option => and_congr_right fun hoption => ?_
  rw [equalsFound]
  rcases h with h | h
  · simp [h]
  · simp [h option hoption]

/-- At a missing field nothing is found. -/
theorem any_isFound_nil (options : List Json) : options.any (isFound []) = false := by
  simp [isFound]

namespace Selector

section

variable [PatternEngine] {path : String} (hpath : isOperatorKey path = false) (document : Json)
include hpath

/-- A member with one operator answers by its test. -/
theorem field_operator_wants (operator : String) {operand : Json} (test : PathTest)
    (hkey : isOperatorKey operator = true) (hoptions : operator ≠ "$options") (hnot : operator ≠ "$not")
    (htest : operatorTest "" operator operand = .ok (some test)) :
    (field path (operatorObject operator operand)).wants document = .ok (test.passes (resolve document path)) := by
  rw [field_wants hpath, testOf_operatorObject hkey hoptions hnot htest]
  rfl

/-- **Membership is a disjunction of equalities**, and its opposite a conjunction of inequalities, if something is found
at the path or null is not among the values. Where nothing is found, membership fails. -/
theorem membership_is_disjunction (options : List Json) :
    ∃ equals : Json → Bool,
      (∀ option, (field path (operatorObject "$eq" option)).wants document = .ok (equals option)) ∧
      (∀ option, (field path (operatorObject "$ne" option)).wants document = .ok (!equals option)) ∧
      ((resolve document path ≠ [] ∨ ∀ option ∈ options, option.isNull = false) →
        (field path (operatorObject "$in" (.array options))).wants document = .ok (options.any equals) ∧
        (field path (operatorObject "$nin" (.array options))).wants document = .ok (options.all (!equals ·))) ∧
      (resolve document path = [] →
        (field path (operatorObject "$in" (.array options))).wants document = .ok false ∧
        (field path (operatorObject "$nin" (.array options))).wants document = .ok true) := by
  have heq : ∀ option, (field path (operatorObject "$eq" option)).wants document =
      .ok (equalsFound (resolve document path) option) :=
    fun option => field_operator_wants hpath document "$eq" (.eq option) (by decide) (by decide) (by decide) rfl
  have hne : ∀ option, (field path (operatorObject "$ne" option)).wants document =
      .ok (!equalsFound (resolve document path) option) :=
    fun option => field_operator_wants hpath document "$ne" (.ne option) (by decide) (by decide) (by decide) rfl
  have hin : (field path (operatorObject "$in" (.array options))).wants document =
      .ok (options.any (isFound (resolve document path))) :=
    field_operator_wants hpath document "$in" (.isIn options) (by decide) (by decide) (by decide) rfl
  have hnin : (field path (operatorObject "$nin" (.array options))).wants document =
      .ok (!options.any (isFound (resolve document path))) :=
    field_operator_wants hpath document "$nin" (.notIn options) (by decide) (by decide) (by decide) rfl
  rw [hin, hnin]
  refine ⟨equalsFound (resolve document path), heq, hne, ?_, ?_⟩
  · intro h
    rw [any_isFound_eq h, List.not_any_eq_all_not]
    exact ⟨rfl, rfl⟩
  · intro h
    rw [h, any_isFound_nil]
    exact ⟨rfl, rfl⟩

end

theorem membership_is_disjunction_tags :
    isOperatorKey "tags" = false ∧
      (field "tags" (operatorObject "$in" (.array [.null, .string "red"]))).wants
        (.ofFields [("tags", .array [.string "red"])]) = .ok true ∧
      (field "tags" (operatorObject "$eq" (.string "red"))).wants
        (.ofFields [("tags", .array [.string "red"])]) = .ok true := by
  have hpath : isOperatorKey "tags" = false := by decide
  obtain ⟨equals, heq, _, hin, _⟩ := membership_is_disjunction hpath (.ofFields [("tags", .array [.string "red"])])
    [.null, .string "red"]
  have hred : (field "tags" (operatorObject "$eq" (.string "red"))).wants
      (.ofFields [("tags", .array [.string "red"])]) = .ok true := by rfl
  have hequals : equals (.string "red") = true := by
    have hsame := (heq (.string "red")).symm.trans hred
    injection hsame
  obtain ⟨hmember, _⟩ := hin (.inl (by decide))
  rw [hmember]
  simp [hequals, hpath, hred]

/-- Null passes for a missing field, but not among the values of a membership. -/
theorem membership_misses_null :
    (field "age" (operatorObject "$in" (.array [.null]))).wants (.object .nil) = .ok false ∧
      (field "age" (operatorObject "$eq" .null)).wants (.object .nil) = .ok true ∧
      (field "age" (operatorObject "$nin" (.array [.null]))).wants (.object .nil) = .ok true ∧
      (field "age" (operatorObject "$ne" .null)).wants (.object .nil) = .ok false :=
  ⟨rfl, rfl, rfl, rfl⟩

end Selector

end TermSearch.Document
