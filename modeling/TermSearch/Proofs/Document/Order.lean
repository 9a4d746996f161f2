import TermSearch.Document.Collection
import TermSearch.Proofs.Sorting

/-!
# The order of documents

Documents are sorted by keys that look at values of any kind, and a value may be missing. Still this is an order
(`compareBy_total_preorder`): a document equals itself, two documents compare the other way round when they are swapped,
and both *before* and *equal* are transitive.

* Values are compared by their rank, then by a number, then by a text (`OrderKey.compareFound_eq`). Within a rank only
  one of the two tells values apart, and neither does for arrays and objects.
* A key compares what is found at its path, in one direction or the other.
* Of several keys the first that tells documents apart decides, as in a dictionary.
-/

namespace TermSearch.Document

open Std (TransCmp OrientedCmp ReflCmp)

/-! ## Values -/

namespace OrderKey

/-- The number that tells values of one rank apart: of a number its size, and of the truth values one. -/
def magnitude : Option Json → Int
  | some (.number x) => x.toBinary64.toInt
  | some (.bool true) => 1
  | _ => 0

/-- The text that tells values of one rank apart: that of a string. -/
def wording : Option Json → String
  | some (.string s) => s
  | _ => ""

/-- **Values are compared by rank, number and text.** -/
theorem compareFound_eq :
    compareFound = compareLex (compareOn rank) (compareLex (compareOn magnitude) (compareOn wording)) := by
  funext a b
  rcases a with _ | a <;> rcases b with _ | b
  · rfl
  · cases b <;> rfl
  · cases a <;> rfl
  · cases a with
    | number x =>
      cases b with
      | number y =>
        show x.toBinary64.compare y.toBinary64 = (x.toBinary64.compare y.toBinary64).then _
        exact Ordering.then_eq.symm
      | string y =>
        -- whether the text reads as a number does not matter
        show Ordering.lt = Ordering.lt
        rfl
      | _ => rfl
    | string x => cases b <;> rfl
    | bool x =>
      cases b with
      | bool y => cases x <;> cases y <;> rfl
      | _ => rfl
    | null => cases b <;> rfl
    | array xs => cases b <;> rfl
    | object xs => cases b <;> rfl

instance : TransCmp compareFound := by
  rw [compareFound_eq]
  infer_instance

/-! ## Keys -/

/-- What a key looks at. -/
def found (key : OrderKey) (document : Json) : Option Json := (resolve document key.path).head?

theorem compare_descending {key : OrderKey} (h : key.descending = true) (a b : Json) :
    key.compare a b = compareFound (key.found b) (key.found a) := by
  have hswap : key.compare a b = (compareFound (key.found a) (key.found b)).swap := if_pos h
  rw [hswap]
  exact OrientedCmp.eq_swap.symm

theorem compare_ascending {key : OrderKey} (h : key.descending = false) (a b : Json) :
    key.compare a b = compareFound (key.found a) (key.found b) := if_neg (by simp [h])

instance (key : OrderKey) : TransCmp key.compare := by
  cases h : key.descending with
  | true =>
    refine { eq_swap := ?_, isLE_trans := ?_ }
    · intro a b
      rw [compare_descending h, compare_descending h]
      exact OrientedCmp.eq_swap
    · intro a b c hab hbc
      rw [compare_descending h] at hab hbc ⊢
      exact TransCmp.isLE_trans hbc hab
  | false =>
    refine { eq_swap := ?_, isLE_trans := ?_ }
    · intro a b
      rw [compare_ascending h, compare_ascending h]
      exact OrientedCmp.eq_swap
    · intro a b c hab hbc
      rw [compare_ascending h] at hab hbc ⊢
      exact TransCmp.isLE_trans hab hbc

end OrderKey

/-! ## Several keys -/

theorem compareBy_cons (key : OrderKey) (keys : List OrderKey) :
    compareBy (key :: keys) = compareLex key.compare (compareBy keys) := rfl

/-- **Documents are ordered by several keys as words are in a dictionary.** -/
instance transCmp_compareBy (keys : List OrderKey) : TransCmp (compareBy keys) := by
  induction keys with
  | nil => exact { eq_swap := rfl, isLE_trans := fun _ _ => rfl }
  | cons key keys ih =>
    rw [compareBy_cons]
    infer_instance

/-! ## Sorting -/

/-- The order by which documents are sorted is transitive. -/
theorem isLE_compareBy_trans (keys : List OrderKey) (a b c : Json) (hab : (compareBy keys a b).isLE = true)
    (hbc : (compareBy keys b c).isLE = true) : (compareBy keys a c).isLE = true :=
  TransCmp.isLE_trans hab hbc

/-- Of two documents, one does not come after the other. -/
theorem isLE_compareBy_total (keys : List OrderKey) (a b : Json) :
    ((compareBy keys a b).isLE || (compareBy keys b a).isLE) = true := by
  have hswap : compareBy keys b a = (compareBy keys a b).swap := OrientedCmp.eq_swap
  rw [hswap]
  cases compareBy keys a b <;> rfl

/-- **The order of documents is a total preorder**, whatever its keys are and whatever stands at their paths: a document
equals itself, swapping documents reverses their order, and both *before* and *equal* are transitive. So sorting only
moves documents, and none ends up behind one that it is before. -/
theorem compareBy_total_preorder (specs : List String) :
    (∀ a b c : Json,
      compareBy (specs.map OrderKey.parse) a a = .eq ∧
      compareBy (specs.map OrderKey.parse) b a = (compareBy (specs.map OrderKey.parse) a b).swap ∧
      (compareBy (specs.map OrderKey.parse) a b = .lt → compareBy (specs.map OrderKey.parse) b c = .lt →
        compareBy (specs.map OrderKey.parse) a c = .lt) ∧
      (compareBy (specs.map OrderKey.parse) a b = .eq → compareBy (specs.map OrderKey.parse) b c = .eq →
        compareBy (specs.map OrderKey.parse) a c = .eq)) ∧
    ∀ documents : List Json,
      (sortDocuments (specs.map OrderKey.parse) documents).Perm documents ∧
      (sortDocuments (specs.map OrderKey.parse) documents).Pairwise fun a b =>
        compareBy (specs.map OrderKey.parse) b a ≠ .lt := by
  generalize specs.map OrderKey.parse = keys
  constructor
  · intro a b c
    exact ⟨ReflCmp.compare_self, OrientedCmp.eq_swap, TransCmp.lt_trans, TransCmp.eq_trans⟩
  · intro documents
    refine ⟨List.mergeSort_perm _ _, ?_⟩
    have hsorted := List.pairwise_mergeSort (isLE_compareBy_trans keys) (isLE_compareBy_total keys) documents
    refine hsorted.imp ?_
    intro a b hab hlt
    exact OrientedCmp.not_isLE_of_lt hlt hab

/-- The oldest first: ages that are texts stand before ages that are numbers, and these before none at all. -/
theorem compareBy_total_preorder_badgers :
    let order := compareBy (["-age", "name asc"].map OrderKey.parse)
    let old : Json := .ofFields [("age", .string "old")]
    let four : Json := .ofFields [("age", .number (.int 4)), ("name", .string "Brock")]
    let ageless : Json := .ofFields [("age", .null)]
    order old four = .lt ∧ order four ageless = .lt ∧ order old ageless = .lt := by
  intro order old four ageless
  have hfirst : order old four = .lt := by decide +kernel
  have hsecond : order four ageless = .lt := by decide +kernel
  exact ⟨hfirst, hsecond, ((compareBy_total_preorder ["-age", "name asc"]).1 _ _ _).2.2.1 hfirst hsecond⟩

end TermSearch.Document
