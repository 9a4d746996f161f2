import Mathlib.Data.List.Basic
import TermSearch.Document.Path

/-!
# Paths by descent

The values at a path are looked up level by level: each segment is followed from all values of a level at once. The
same values, in the same order and as often, are found by descending into the document along one branch after the
other (`reached_eq_descend`). This holds because branches never meet: what is reached from a level is what is reached
from its values one by one (`reach_eq_flatMap_descend`).

By descent it is plain how paths distribute. An object hands the path to a member, an array to one of its items or to
each of them, and where a path is put together from two, the second starts from every value that the first one leads
to (`resolve_distributes`).
-/

namespace TermSearch.Document

open Json (IsScalar)

/-- **The values that segments lead to from a value**, along one branch after the other. -/
def descend : List String → Json → List Json
  | [], value => [value]
  | segment :: rest, .object fields => (fields.get? segment).elim [] (descend rest)
  | segment :: rest, .array items =>
    match index? segment with
    | some i => items[i]?.elim [] (descend rest)
    | none => items.flatMap fun item => (item.member? segment).elim [] (descend rest)
  | _ :: _, _ => []

/-- The values that a path leads to, without the items of arrays that it ends at. -/
def reached (document : Json) (path : String) : List Json := reach (Text.segments path) [document]

/-! ## One segment -/

section

variable {segment : String} {rest : List String} {fields : KeyMap Json} {items : List Json} {value : Json} {i : Nat}

theorem flatMap_toList {α β : Type} (o : Option α) (f : α → List β) : o.toList.flatMap f = o.elim [] f := by
  cases o <;> simp

theorem follow_of_isScalar (h : value.IsScalar) : follow segment value = [] := by
  cases value with
  | array => cases h.1
  | object => cases h.2
  | null | bool | number | string => rfl

theorem follow_array_of_index (h : index? segment = some i) : follow segment (.array items) = items[i]?.toList := by
  rw [follow, h]

/-- **A name is handed to the items of an array**, except for those that are arrays themselves. -/
theorem follow_array_of_name (h : index? segment = none) :
    follow segment (.array items) = (items.filter (·.items?.isNone)).flatMap (follow segment) := by
  rw [follow, h]
  induction items with
  | nil => rfl
  | cons item items ih =>
    cases item with
    | object fields =>
      have hmember : (Json.object fields).member? segment = fields.get? segment := rfl
      rw [List.filter_cons_of_pos rfl, List.flatMap_cons, ← ih, follow]
      cases hget : fields.get? segment with
      | none => rw [List.filterMap_cons_none (hmember.trans hget)]; rfl
      | some v => rw [List.filterMap_cons_some (hmember.trans hget)]; rfl
    -- an array is left out, and the others have no members
    | array | null | bool | number | string => exact ih

/-! ## Levels and branches -/

/-- A segment is followed first, and the rest of the path from each value that it leads to. -/
theorem descend_cons : descend (segment :: rest) value = (follow segment value).flatMap (descend rest) := by
  cases value with
  | object fields => rw [descend, follow, flatMap_toList]
  | array items =>
    rw [descend, follow]
    cases index? segment with
    | some i => exact (flatMap_toList _ _).symm
    | none =>
      rw [List.filterMap_eq_flatMap_toList, List.flatMap_assoc]
      exact List.flatMap_congr fun item _ => (flatMap_toList _ _).symm
  | null | bool | number | string => rfl

end

/-- **Branches never meet**: what is reached from a level is what each of its values leads to, in turn. -/
theorem reach_eq_flatMap_descend (segments : List String) (level : List Json) :
    reach segments level = level.flatMap (descend segments) := by
  induction segments generalizing level with
  | nil => exact (List.flatMap_singleton' level).symm
  | cons segment rest ih =>
    have hnext : reach (segment :: rest) level = reach rest (level.flatMap (follow segment)) := rfl
    rw [hnext, ih, List.flatMap_assoc]
    exact List.flatMap_congr fun value _ => descend_cons.symm

/-- A path that is put together from two is descended in two parts. -/
theorem descend_append (first second : List String) (value : Json) :
    descend (first ++ second) value = (descend first value).flatMap (descend second) := by
  induction first generalizing value with
  | nil => exact (List.flatMap_singleton (descend second) value).symm
  | cons segment rest ih =>
    rw [List.cons_append, descend_cons, descend_cons, List.flatMap_assoc]
    exact List.flatMap_congr fun value _ => ih value

/-! ## Paths -/

section

variable {document value : Json} {path first : String} {segments : List String} {items : List Json} {i : Nat}

theorem resolve_eq (document : Json) (path : String) : resolve document path = (reached document path).flatMap expand :=
  rfl

/-- **What is found level by level is what is found by descent**, in the same order and as often. -/
theorem reached_eq_descend (document : Json) (path : String) :
    reached document path = descend (Text.segments path) document := by
  rw [reached, reach_eq_flatMap_descend, List.flatMap_singleton]

/-- **Where two paths are put together the second starts from all that the first leads to.** -/
theorem reached_append (document : Json) (path rest : String) :
    reached document (path ++ "." ++ rest) = (reached document path).flatMap (reached · rest) := by
  rw [reached_eq_descend, Text.segments_append, descend_append, ← reached_eq_descend]
  exact List.flatMap_congr fun value _ => (reached_eq_descend value rest).symm

theorem resolve_append (document : Json) (path rest : String) :
    resolve document (path ++ "." ++ rest) = (reached document path).flatMap (resolve · rest) := by
  rw [resolve_eq, reached_append, List.flatMap_assoc]
  exact List.flatMap_congr fun value _ => (resolve_eq value rest).symm

/-- A name without dots is a path of one segment. -/
theorem reached_of_notMem (h : '.' ∉ first.toList) : reached document first = follow first document := by
  rw [reached_eq_descend, Text.segments_of_notMem h, descend_cons]
  exact List.flatMap_singleton' _

/-- What is found at a path is found behind the values that its first segment leads to. -/
theorem resolve_of_segments (h : Text.segments path = first :: segments) :
    resolve document path =
      (follow first document).flatMap fun value => (descend segments value).flatMap expand := by
  rw [resolve_eq, reached_eq_descend, h, descend_cons, List.flatMap_assoc]

theorem resolve_of_isScalar (h : value.IsScalar) (path : String) : resolve value path = [] := by
  obtain ⟨first, segments, hpath⟩ := List.exists_cons_of_ne_nil (Text.segments_ne_nil path)
  rw [resolve_of_segments hpath, follow_of_isScalar h, List.flatMap_nil]

/-- **A path that starts with a name is handed to the items of an array**, except for those that are arrays
themselves. -/
theorem resolve_array_of_name (hpath : Text.segments path = first :: segments) (hfirst : index? first = none) :
    resolve (.array items) path = (items.filter (·.items?.isNone)).flatMap (resolve · path) := by
  rw [resolve_of_segments hpath, follow_array_of_name hfirst, List.flatMap_assoc]
  exact List.flatMap_congr fun item _ => (resolve_of_segments hpath).symm

-- a name is not looked up in an array that is an item of an array
example : resolve (.array [.array [.ofFields [("depth", .null)]], .ofFields [("depth", .bool true)]]) "depth" =
    [.bool true] := rfl

/-- The number of an item is written without dots. -/
theorem notMem_of_index? (h : index? first = some i) : '.' ∉ first.toList := by
  intro hdot
  have hall {cs : List Char} (hcs : '.' ∈ cs) : cs.all Number.isDigit = false :=
    List.all_eq_false.mpr ⟨'.', hcs, by decide⟩
  have hnone : index? first = none := by
    unfold index?
    split
    · next cs hcs =>
      have hdot : '.' ∈ cs := by simpa [hcs] using hdot
      simp [hall hdot]
    · simp [hall hdot]
  rw [hnone] at h
  cases h

end

/-- **Paths distribute over documents.** An object hands a path to the member that its first segment names, an array
to the item that it numbers, or, if it is no number, to all items in turn, unless they are arrays; nothing is found
where there is no such member or item, and nothing in a scalar. At the end of the path each value that was reached is
found itself, and if it is an array its items follow it before the next value does. The values reached are those that
descending along one branch after the other leads to, and where a path is put together from two, they are what the
second leads to from all that the first one reaches. -/
theorem resolve_distributes :
    (∀ key, '.' ∉ key.toList → ∀ fields : KeyMap Json,
      resolve (.object fields) key = (fields.get? key).elim [] expand ∧
      ∀ rest, resolve (.object fields) (key ++ "." ++ rest) = (fields.get? key).elim [] (resolve · rest)) ∧
    (∀ path first segments, Text.segments path = first :: segments → index? first = none →
      ∀ items : List Json, (∀ item ∈ items, item.items? = none) →
        resolve (.array items) path = items.flatMap (resolve · path)) ∧
    (∀ segment i, index? segment = some i → ∀ items : List Json,
      resolve (.array items) segment = items[i]?.elim [] expand ∧
      ∀ rest, resolve (.array items) (segment ++ "." ++ rest) = items[i]?.elim [] (resolve · rest)) ∧
    (∀ value : Json, value.IsScalar → ∀ path, resolve value path = []) ∧
    ((∀ document path, resolve document path = (reached document path).flatMap expand) ∧
      (∀ items, expand (.array items) = .array items :: items) ∧
      ∀ value, value.items? = none → expand value = [value]) ∧
    (∀ document path, reached document path = descend (Text.segments path) document) ∧
    ∀ document path rest,
      reached document (path ++ "." ++ rest) = (reached document path).flatMap (reached · rest) := by
  have hobject (key : String) (fields : KeyMap Json) : follow key (.object fields) = (fields.get? key).toList := rfl
  refine ⟨fun key hkey fields => ⟨?_, fun rest => ?_⟩, ?_, fun segment i hindex items => ⟨?_, fun rest => ?_⟩,
    fun value hvalue path => ?_, ⟨resolve_eq, fun _ => rfl, ?_⟩, reached_eq_descend, reached_append⟩
  · rw [resolve_eq, reached_of_notMem hkey, hobject, flatMap_toList]
  · rw [resolve_append, reached_of_notMem hkey, hobject, flatMap_toList]
  · intro path first segments hpath hfirst items hitems
    have hall : items.filter (·.items?.isNone) = items :=
      List.filter_eq_self.mpr fun item hitem => by rw [hitems item hitem]; rfl
    rw [resolve_array_of_name hpath hfirst, hall]
  · rw [resolve_eq, reached_of_notMem (notMem_of_index? hindex), follow_array_of_index hindex, flatMap_toList]
  · rw [resolve_append, reached_of_notMem (notMem_of_index? hindex), follow_array_of_index hindex, flatMap_toList]
  · exact resolve_of_isScalar hvalue path
  · intro value hvalue
    rw [expand, hvalue]
    rfl

/-- The tunnels of a sett: one with two depths, one with a single depth, and one that is only a remark. -/
def tunnels : List Json :=
  [.ofFields [("depth", .array [.ofNat 2, .ofNat 9])], .ofFields [("depth", .ofNat 7)], .string "blind"]

/-- All depths, those of one tunnel, and the depth of a remark. -/
theorem resolve_distributes_tunnels :
    '.' ∉ "tunnels".toList ∧ Text.segments "depth" = ["depth"] ∧ index? "depth" = none ∧
      (∀ tunnel ∈ tunnels, tunnel.items? = none) ∧ index? "+0" = some 0 ∧ (Json.string "blind").IsScalar ∧
      (Json.ofNat 7).items? = none ∧
      resolve (.ofFields [("tunnels", .array tunnels)]) "tunnels.depth" =
        [.array [.ofNat 2, .ofNat 9], .ofNat 2, .ofNat 9, .ofNat 7] ∧
      resolve (.ofFields [("tunnels", .array tunnels)]) "tunnels.+0.depth" =
        [.array [.ofNat 2, .ofNat 9], .ofNat 2, .ofNat 9] ∧
      resolve (.ofFields [("tunnels", .array tunnels)]) "tunnels.2.depth" = [] := by
  have hdot : '.' ∉ "tunnels".toList := by decide
  have hdepth : Text.segments "depth" = ["depth"] := by decide
  have hword : index? "depth" = none := by decide
  have hitems : ∀ tunnel ∈ tunnels, tunnel.items? = none :=
    List.forall_mem_cons.mpr ⟨rfl, List.forall_mem_cons.mpr ⟨rfl, List.forall_mem_singleton.mpr rfl⟩⟩
  have hzero : index? "+0" = some 0 := by decide
  have htwo : index? "2" = some 2 := by decide
  have hblind : (Json.string "blind").IsScalar := ⟨rfl, rfl⟩
  have hseven : (Json.ofNat 7).items? = none := rfl
  obtain ⟨hmember, hname, hnumber, hscalar, ⟨-, harray, hvalue⟩, -, -⟩ := resolve_distributes
  have hsett (rest : String) :
      resolve (.ofFields [("tunnels", .array tunnels)]) ("tunnels" ++ "." ++ rest) = resolve (.array tunnels) rest :=
    (hmember "tunnels" hdot (KeyMap.single "tunnels" (.array tunnels))).2 rest
  have hdepths (value : Json) : resolve (.ofFields [("depth", value)]) "depth" = expand value :=
    (hmember "depth" (by decide) (KeyMap.single "depth" value)).1
  refine ⟨hdot, hdepth, hword, hitems, hzero, hblind, hseven, ?_, ?_, ?_⟩
  · refine (hsett "depth").trans ((hname "depth" "depth" [] hdepth hword tunnels hitems).trans ?_)
    rw [tunnels, List.flatMap_cons, List.flatMap_cons, List.flatMap_singleton, hdepths, hdepths, harray,
      hvalue _ hseven, hscalar _ hblind]
    rfl
  · refine (hsett "+0.depth").trans (((hnumber "+0" 0 hzero tunnels).2 "depth").trans ?_)
    exact (hdepths _).trans (harray _)
  · refine (hsett "2.depth").trans (((hnumber "2" 2 htwo tunnels).2 "depth").trans ?_)
    exact hscalar _ hblind "depth"

end TermSearch.Document
