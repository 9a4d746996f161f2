import Mathlib.Data.Set.Insert
import TermSearch.Document.Collection
import TermSearch.Proofs.KeyMap

/-!
# Projection

A projection places the values found at some paths into an object, one after the other. One path may go on where
another one ends, before it or after it, and an array that is only passed through becomes an object, so what a step
does depends on the steps before it. The result does not. `Cut d paths r` says, without an order of the paths, what is
left of a value when only these places in it are kept. To place one more value is to keep one more path (`Cut.place`),
and for given paths nothing but one value can be left (`Cut.unique`). What a projection keeps, and that it does nothing
when it is done once more, are facts about cuts.
-/

namespace TermSearch.Document

open Json (IsScalar)

/-! ## Places -/

/-- The value in the place that segments name. -/
def at? (path : List String) (document : Json) : Option Json :=
  path.foldlM (fun value segment => step? segment value) document

/-- **A value in a document**, and the segments that lead to it: an item of an array is named by its number. -/
inductive Inside : List String → Json → Json → Prop
  | here (value : Json) : Inside [] value value
  | member {key : String} {path : List String} {value inner : Json} {fields : KeyMap Json}
    (h : (key, inner) ∈ fields.toList) (inside : Inside path value inner) : Inside (key :: path) value (.object fields)
  | item {i : Nat} {path : List String} {value inner : Json} {items : List Json} (h : items[i]? = some inner)
    (inside : Inside path value inner) : Inside (Nat.repr i :: path) value (.array items)

section

variable {d v : Json} {segment : String} {path : List String}

@[simp] theorem at?_nil : at? [] d = some d := rfl

@[simp] theorem at?_cons : at? (segment :: path) d = (step? segment d).bind (at? path) := rfl

theorem at?_cons_eq_some : at? (segment :: path) d = some v ↔ ∃ w, step? segment d = some w ∧ at? path w = some v :=
  Option.bind_eq_some_iff

/-- A value that is in its place already changes nothing when it is placed there. -/
theorem place_of_at? {fields : KeyMap Json} (h : at? path (.object fields) = some v) :
    place v path fields = fields := by
  fun_induction place v path fields with
  | case1 => rfl
  | case2 segment fields =>
    obtain ⟨w, hw, hnil⟩ := at?_cons_eq_some.mp h
    obtain rfl : w = v := Option.some.inj hnil
    exact KeyMap.insert_of_get? hw
  | case3 segment next rest fields hget =>
    obtain ⟨w, hw, -⟩ := at?_cons_eq_some.mp h
    exact absurd (hget.symm.trans hw) (Option.some_ne_none w).symm
  | case4 segment next rest fields inner hget ih =>
    obtain ⟨w, hw, hrest⟩ := at?_cons_eq_some.mp h
    obtain rfl : Json.object inner = w := Option.some.inj (hget.symm.trans hw)
    rw [ih hrest]
    exact KeyMap.insert_of_get? hget
  | case5 => rfl

end

/-! ## Cuts -/

/-- Paths into a value. -/
abbrev Paths := Set (List String)

/-- How the paths that start with a segment go on. -/
def Paths.behind (paths : Paths) (segment : String) : Paths := {rest | segment :: rest ∈ paths}

/-- **What is left of a value when only some places in it are kept.** -/
inductive Cut : Json → Paths → Json → Prop
  /-- All of it, if a path ends here. -/
  | whole {d : Json} {paths : Paths} (ends : [] ∈ paths) : Cut d paths d
  /-- Otherwise an object with one member for each way in which paths go on. -/
  | passed {d : Json} {paths : Paths} {fields : KeyMap Json} (ends : [] ∉ paths)
    (has : ∀ segment rest, segment :: rest ∈ paths → fields.get? segment ≠ none)
    (hasOnly : ∀ segment r, fields.get? segment = some r → ∃ rest, segment :: rest ∈ paths)
    (members : ∀ segment r, fields.get? segment = some r → ∀ w, step? segment d = some w →
      Cut w (paths.behind segment) r) : Cut d paths (.object fields)

/-- Each of the paths leads to a value. -/
def Paths.LeadIn (paths : Paths) (d : Json) : Prop := ∀ path ∈ paths, ∃ v, at? path d = some v

namespace Paths

variable {paths : Paths} {segment other : String} {path rest : List String} {d w : Json}

theorem mem_behind : rest ∈ paths.behind segment ↔ segment :: rest ∈ paths := Iff.rfl

theorem behind_insert_self : behind (insert (segment :: path) paths) segment = insert path (paths.behind segment) := by
  ext rest
  simp [mem_behind]

theorem behind_insert_of_ne (h : other ≠ segment) :
    behind (insert (segment :: path) paths) other = paths.behind other := by
  ext rest
  simp [mem_behind, h]

theorem LeadIn.behind (h : paths.LeadIn d) (hstep : step? segment d = some w) : (paths.behind segment).LeadIn w := by
  intro rest hrest
  obtain ⟨v, hv⟩ := h _ hrest
  obtain ⟨w', hw', hv⟩ := at?_cons_eq_some.mp hv
  obtain rfl : w = w' := Option.some.inj (hstep.symm.trans hw')
  exact ⟨v, hv⟩

theorem LeadIn.step? (h : paths.LeadIn d) (hmem : segment :: rest ∈ paths) : ∃ w, step? segment d = some w := by
  obtain ⟨v, hv⟩ := h _ hmem
  obtain ⟨w, hw, -⟩ := at?_cons_eq_some.mp hv
  exact ⟨w, hw⟩

end Paths

namespace Cut

variable {d r r' v w : Json} {paths : Paths} {fields : KeyMap Json} {segment : String} {path : List String}

/-- Where nothing is kept nothing is left. -/
theorem empty (h : paths = ∅) : Cut d paths (.object .nil) := by
  subst h
  exact .passed (Set.notMem_empty _) (fun _ _ hmem => absurd hmem (Set.notMem_empty _))
    (fun _ _ hget => by cases hget) fun _ _ hget => by cases hget

/-- **For given paths only one value can be left.** -/
theorem unique (h : Cut d paths r) (h' : Cut d paths r') (hpaths : paths.LeadIn d) : r = r' := by
  induction h generalizing r' with
  | whole ends =>
    cases h' with
    | whole => rfl
    | passed ends' => exact absurd ends ends'
  | @passed d paths fields ends has hasOnly members ih =>
    cases h' with
    | whole ends' => exact absurd ends' ends
    | @passed _ _ fields' _ has' hasOnly' members' =>
      refine congrArg Json.object (Entries.ext fun segment => ?_)
      cases hget : fields.get? segment with
      | none =>
        cases hget' : fields'.get? segment with
        | none => rfl
        | some s =>
          obtain ⟨rest, hrest⟩ := hasOnly' segment s hget'
          exact absurd hget (has segment rest hrest)
      | some s =>
        obtain ⟨rest, hrest⟩ := hasOnly segment s hget
        obtain ⟨w, hw⟩ := hpaths.step? hrest
        obtain ⟨s', hget'⟩ := Option.ne_none_iff_exists'.mp (has' segment rest hrest)
        rw [hget', ih segment s hget w hw (members' segment s' hget' w hw) (hpaths.behind hw)]

/-- The members of an object that is passed through. -/
theorem member (h : Cut d paths (.object fields)) (ends : [] ∉ paths) (hget : fields.get? segment = some r)
    (hw : step? segment d = some w) : Cut w (paths.behind segment) r := by
  cases h with
  | whole ends' => exact absurd ends' ends
  | passed _ _ _ members => exact members segment r hget w hw

/-! ### One more path -/

/-- What is left behind one segment takes its place in the object. -/
theorem enter (h : Cut d paths (.object fields)) (ends : [] ∉ paths) (hw : step? segment d = some w)
    (hr : Cut w (insert path (paths.behind segment)) r) :
    Cut d (insert (segment :: path) paths) (.object (fields.insert segment r)) := by
  cases h with
  | whole ends' => exact absurd ends' ends
  | passed _ has hasOnly members =>
    refine .passed ?_ ?_ ?_ ?_
    · simpa using ends
    · intro other rest hmem
      by_cases hother : other = segment
      · rw [hother, KeyMap.get?_insert_self]
        exact Option.some_ne_none r
      · rw [KeyMap.get?_insert_of_ne hother]
        exact has other rest (by simpa [hother] using hmem)
    · intro other s hget
      by_cases hother : other = segment
      · exact ⟨path, hother ▸ Set.mem_insert _ _⟩
      · rw [KeyMap.get?_insert_of_ne hother] at hget
        obtain ⟨rest, hrest⟩ := hasOnly other s hget
        exact ⟨rest, Set.mem_insert_of_mem _ hrest⟩
    · intro other s hget w' hw'
      by_cases hother : other = segment
      · subst hother
        rw [KeyMap.get?_insert_self] at hget
        obtain rfl := Option.some.inj hget
        obtain rfl := Option.some.inj (hw.symm.trans hw')
        rwa [Paths.behind_insert_self]
      · rw [KeyMap.get?_insert_of_ne hother] at hget
        rw [Paths.behind_insert_of_ne hother]
        exact members other s hget w' hw'

/-- What is there in whole stays as it is. -/
theorem place_of_ends (h : Cut d paths (.object fields)) (ends : [] ∈ paths)
    (hv : at? path d = some v) : Cut d (insert path paths) (.object (Document.place v path fields)) := by
  cases h with
  | passed ends' => exact absurd ends ends'
  | whole =>
    rw [place_of_at? hv]
    exact .whole (Set.mem_insert_of_mem _ ends)

/-- **To place the value of a path is to keep the path too.** -/
theorem place (h : Cut d paths (.object fields)) (hne : path ≠ []) (hv : at? path d = some v) :
    Cut d (insert path paths) (.object (Document.place v path fields)) := by
  by_cases ends : [] ∈ paths
  · exact h.place_of_ends ends hv
  fun_induction Document.place v path fields generalizing d paths with
  | case1 => exact absurd rfl hne
  | case2 segment fields =>
    obtain ⟨w, hw, hv⟩ := at?_cons_eq_some.mp hv
    obtain rfl : w = v := Option.some.inj hv
    exact h.enter ends hw (.whole (Set.mem_insert _ _))
  | case3 segment next rest fields hget ih =>
    obtain ⟨w, hw, hv⟩ := at?_cons_eq_some.mp hv
    have hnone : paths.behind segment = ∅ := by
      cases h with
      | whole ends' => exact absurd ends' ends
      | passed _ has => exact Set.eq_empty_of_forall_notMem fun rest hrest => has segment rest hrest hget
    have hnil : [] ∉ paths.behind segment := hnone ▸ Set.notMem_empty _
    exact h.enter ends hw (ih (.empty hnone) (List.cons_ne_nil _ _) hv hnil)
  | case4 segment next rest fields inner hget ih =>
    obtain ⟨w, hw, hv⟩ := at?_cons_eq_some.mp hv
    have hinner := h.member ends hget hw
    by_cases hnil : [] ∈ paths.behind segment
    · exact h.enter ends hw (hinner.place_of_ends hnil hv)
    · exact h.enter ends hw (ih hinner (List.cons_ne_nil _ _) hv hnil)
  | case5 segment next rest fields other hother hget =>
    obtain ⟨w, hw, hv⟩ := at?_cons_eq_some.mp hv
    -- only what is there in whole can be something else than an object
    have hwhole : Cut w (insert (next :: rest) (paths.behind segment)) other := by
      cases h.member ends hget hw with
      | whole hnil => exact .whole (Set.mem_insert_of_mem _ hnil)
      | passed => exact absurd rfl (hother _)
    have henter := h.enter ends hw hwhole
    rwa [KeyMap.insert_of_get? hget] at henter

/-! ### What is kept -/

/-- **The kept places keep their values.** -/
theorem at? (h : Cut d paths r) (hmem : path ∈ paths) (hv : Document.at? path d = some v) :
    Document.at? path r = some v := by
  induction h generalizing path with
  | whole => exact hv
  | passed ends has _ members ih =>
    cases path with
    | nil => exact absurd hmem ends
    | cons segment rest =>
      obtain ⟨w, hw, hv⟩ := at?_cons_eq_some.mp hv
      obtain ⟨s, hget⟩ := Option.ne_none_iff_exists'.mp (has segment rest hmem)
      exact at?_cons_eq_some.mpr ⟨s, hget, ih segment s hget w hw hmem hv⟩

/-- Every place in what is left is a place in the value. -/
theorem exists_at? (h : Cut d paths r) (hpaths : paths.LeadIn d) (hv : Document.at? path r = some v) :
    ∃ w, Document.at? path d = some w := by
  induction h generalizing path with
  | whole => exact ⟨v, hv⟩
  | @passed d paths fields _ _ hasOnly _ ih =>
    cases path with
    | nil => exact ⟨d, rfl⟩
    | cons segment rest =>
      obtain ⟨s, hget, hv⟩ := at?_cons_eq_some.mp hv
      obtain ⟨rest', hrest'⟩ := hasOnly segment s hget
      obtain ⟨w, hw⟩ := hpaths.step? hrest'
      obtain ⟨u, hu⟩ := ih segment s hget w hw (hpaths.behind hw) hv
      exact ⟨u, at?_cons_eq_some.mpr ⟨w, hw, hu⟩⟩

/-- **Every scalar that is left is in one of the kept places.** -/
theorem exists_prefix (h : Cut d paths r) (hpaths : paths.LeadIn d) {place : List String} (hinside : Inside place v r)
    (hscalar : v.IsScalar) : ∃ path ∈ paths, path <+: place := by
  induction h generalizing place with
  | whole ends => exact ⟨[], ends, List.nil_prefix⟩
  | passed _ _ hasOnly _ ih =>
    cases hinside with
    | here => cases hscalar.2
    | @member segment place _ inner _ hmem hinside =>
      have hget := Entries.get?_eq_some_iff.mpr hmem
      obtain ⟨rest, hrest⟩ := hasOnly segment inner hget
      obtain ⟨w, hw⟩ := hpaths.step? hrest
      obtain ⟨path, hpath, hprefix⟩ := ih segment inner hget w hw (hpaths.behind hw) hinside
      exact ⟨segment :: path, hpath, List.cons_prefix_cons.mpr ⟨rfl, hprefix⟩⟩

/-- What is left is left once more. -/
theorem again (h : Cut d paths r) (hpaths : paths.LeadIn d) : Cut r paths r := by
  induction h with
  | whole ends => exact .whole ends
  | passed ends has hasOnly _ ih =>
    refine .passed ends has hasOnly fun segment s hget s' hget' => ?_
    obtain rfl : s = s' := Option.some.inj (hget.symm.trans hget')
    obtain ⟨rest, hrest⟩ := hasOnly segment s hget
    obtain ⟨w, hw⟩ := hpaths.step? hrest
    exact ih segment s hget w hw (hpaths.behind hw)

end Cut

/-! ## Projections -/

/-- The paths of a list that lead to a value. -/
def keptPaths (paths : List String) (d : Json) : Paths :=
  {path | ∃ p ∈ paths, Text.segments p = path ∧ ∃ v, pointed? d p = some v}

section

variable {d : Json} {paths paths' : List String} {p : String}

theorem leadIn_keptPaths (paths : List String) (d : Json) : (keptPaths paths d).LeadIn d := by
  rintro _ ⟨p, -, rfl, v, hv⟩
  exact ⟨v, hv⟩

theorem keptPaths_nil : keptPaths [] d = ∅ := by
  ext path
  simp [keptPaths]

theorem keptPaths_cons_of_none (h : pointed? d p = none) : keptPaths (p :: paths) d = keptPaths paths d := by
  ext path
  simp [keptPaths, h]

theorem keptPaths_cons_of_some {v : Json} (h : pointed? d p = some v) :
    keptPaths (p :: paths) d = insert (Text.segments p) (keptPaths paths d) := by
  ext path
  simp [keptPaths, h, eq_comm]

theorem keptPaths_congr {d' : Json} (hpaths : ∀ p, p ∈ paths' ↔ p ∈ paths)
    (h : ∀ p ∈ paths, (∃ v, pointed? d' p = some v) ↔ ∃ v, pointed? d p = some v) :
    keptPaths paths' d' = keptPaths paths d := by
  ext path
  constructor
  · rintro ⟨p, hp, hsegments, hv⟩
    have hmem := (hpaths p).mp hp
    exact ⟨p, hmem, hsegments, (h p hmem).mp hv⟩
  · rintro ⟨p, hp, hsegments, hv⟩
    exact ⟨p, (hpaths p).mpr hp, hsegments, (h p hp).mpr hv⟩

theorem cut_foldl (paths : List String) {kept : Paths} {fields : KeyMap Json}
    (h : Cut d kept (.object fields)) :
    Cut d (kept ∪ keptPaths paths d) (.object (paths.foldl (fun fields path =>
      match pointed? d path with
      | some value => place value (Text.segments path) fields
      | none => fields) fields)) := by
  induction paths generalizing kept fields with
  | nil =>
    rw [keptPaths_nil, Set.union_empty]
    exact h
  | cons p paths ih =>
    rw [List.foldl_cons]
    cases hv : pointed? d p with
    | none =>
      rw [keptPaths_cons_of_none hv]
      exact ih h
    | some v =>
      rw [keptPaths_cons_of_some hv, Set.union_insert, ← Set.insert_union]
      exact ih (h.place (Text.segments_ne_nil p) hv)

/-- **A projection is a cut along the paths that lead to a value.** -/
theorem cut_project (hpaths : paths ≠ []) : Cut d (keptPaths paths d) (project paths d) := by
  rw [project, if_neg (by rwa [List.isEmpty_iff])]
  have hcut := cut_foldl (d := d) paths (.empty rfl)
  rwa [Set.empty_union] at hcut

/-- **A projection keeps what its paths lead to, and nothing else.** It does not depend on the order of the paths or on
their number. Each path that leads to a value in the document leads to the same value in the projection. Each scalar in
the projection is at the end of such a path or behind it. And to project once more along the same paths changes
nothing. -/
theorem project_restricts (hpaths : paths ≠ []) :
    (∀ paths', (∀ p, p ∈ paths' ↔ p ∈ paths) → project paths' d = project paths d) ∧
      (∀ p ∈ paths, ∀ v, pointed? d p = some v → pointed? (project paths d) p = some v) ∧
      (∀ position v, Inside position v (project paths d) → v.IsScalar →
        ∃ p ∈ paths, (∃ w, pointed? d p = some w) ∧ Text.segments p <+: position) ∧
      project paths (project paths d) = project paths d := by
  have hcut := cut_project (d := d) hpaths
  have hlead := leadIn_keptPaths paths d
  have hkept : ∀ p ∈ paths, ∀ v, pointed? d p = some v → pointed? (project paths d) p = some v :=
    fun p hp v hv => hcut.at? ⟨p, hp, rfl, v, hv⟩ hv
  refine ⟨fun paths' hsame => ?_, hkept, ?_, ?_⟩
  · have hne : paths' ≠ [] := by
      rintro rfl
      exact hpaths (List.eq_nil_iff_forall_not_mem.mpr fun p hp => absurd ((hsame p).mpr hp) List.not_mem_nil)
    have hcut' := cut_project (d := d) hne
    rw [keptPaths_congr hsame fun _ _ => Iff.rfl] at hcut'
    exact hcut'.unique hcut hlead
  · intro position v hinside hscalar
    obtain ⟨_, ⟨p, hp, rfl, hv⟩, hprefix⟩ := hcut.exists_prefix hlead hinside hscalar
    exact ⟨p, hp, hv, hprefix⟩
  · have hagain := cut_project (d := project paths d) hpaths
    rw [keptPaths_congr (fun _ => Iff.rfl) fun p hp =>
      ⟨fun ⟨v, hv⟩ => hcut.exists_at? hlead hv, fun ⟨v, hv⟩ => ⟨v, hkept p hp v hv⟩⟩] at hagain
    exact hagain.unique (hcut.again hlead) fun path ⟨p, hp, hsegments, v, hv⟩ => ⟨v, hsegments ▸ hkept p hp v hv⟩

end

/-- A sett with two owners, of whom one has a name and an age. -/
def hillSett : Json :=
  .ofFields [("name", .string "hill"), ("depth", .ofFields [("from", .ofNat 3), ("to", .null)]),
    ("owners", .array [.ofFields [("name", .string "bob"), ("age", .ofNat 7)], .string "alice"])]

/-- An item of an array and a member of that item, in either order, and a path that leads nowhere. -/
theorem project_restricts_hillSett :
    ["owners.0.age", "owners.0", "depth.to", "owners.2"] ≠ [] ∧
      project ["owners.0.age", "owners.0", "depth.to", "owners.2"] hillSett =
        .ofFields [("depth", .ofFields [("to", .null)]),
          ("owners", .ofFields [("0", .ofFields [("name", .string "bob"), ("age", .ofNat 7)])])] ∧
      project ["owners.2", "owners.0", "depth.to", "owners.0.age", "owners.0"] hillSett =
        project ["owners.0.age", "owners.0", "depth.to", "owners.2"] hillSett ∧
      project ["owners.0.age", "owners.0", "depth.to", "owners.2"]
          (project ["owners.0.age", "owners.0", "depth.to", "owners.2"] hillSett) =
        project ["owners.0.age", "owners.0", "depth.to", "owners.2"] hillSett := by
  have hne : ["owners.0.age", "owners.0", "depth.to", "owners.2"] ≠ [] := List.cons_ne_nil _ _
  obtain ⟨hsame, -, -, hagain⟩ := project_restricts (d := hillSett) hne
  refine ⟨hne, by rfl, hsame _ fun p => ?_, hagain⟩
  simp only [List.mem_cons, List.not_mem_nil, or_false]
  tauto

end TermSearch.Document
