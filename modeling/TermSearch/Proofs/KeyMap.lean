import Mathlib.Data.List.Nodup
import TermSearch.KeyMap

/-!
# Entries of maps

A map can be told from its entries: their keys ascend (`Entries.pairwise_keys`), so each key is there once, and looking
up finds just the entries (`Entries.get?_eq_some_iff`, `Entries.ext`). Beside that it is told what putting an entry in
does to the others, which entries are left when two maps are put together, and which of several entries with one key
counts (`KeyMap.LastGiven`).
-/

namespace TermSearch

variable {α : Type}

namespace Entries

variable {low : Option String} {key : String} {value : α} {m m' : Entries α low} {e : String × α}

/-! ## Key order -/

/-- All keys are above the bound. -/
theorem lt_of_mem (m : Entries α low) : ∀ e ∈ m.toList, ∀ k ∈ low, k < e.1 := by
  induction m with
  | nil => exact fun e he => absurd he List.not_mem_nil
  | cons key above value rest ih =>
    intro e he k hk
    rcases List.mem_cons.mp he with rfl | he
    · exact above k hk
    · exact Std.lt_trans (above k hk) (ih e he key rfl)

/-- **The keys ascend.** -/
theorem pairwise_keys (m : Entries α low) : m.keys.Pairwise (· < ·) := by
  induction m with
  | nil => exact List.Pairwise.nil
  | cons key above value rest ih =>
    refine List.pairwise_cons.mpr ⟨fun other hother => ?_, ih⟩
    obtain ⟨e, he, rfl⟩ := List.mem_map.mp hother
    exact rest.lt_of_mem e he key rfl

/-- Each key is there once. -/
theorem nodup_keys (m : Entries α low) : m.keys.Nodup := by
  refine m.pairwise_keys.imp fun {a b} hlt => ?_
  rintro rfl
  exact Std.lt_irrefl hlt

theorem toList_injective (h : m.toList = m'.toList) : m = m' := by
  induction m with
  | nil =>
    cases m' with
    | nil => rfl
    | cons => cases h
  | cons key above value rest ih =>
    cases m' with
    | nil => cases h
    | cons key' above' value' rest' =>
      obtain ⟨hfirst, hrest⟩ := List.cons.inj h
      cases hfirst
      rw [ih hrest]

/-! ## Looking up -/

theorem has_eq_false : m.has key = false ↔ ∀ e ∈ m.toList, e.1 ≠ key := by
  induction m with
  | nil => simp [has, get?, toList]
  | cons k above v rest ih =>
    rw [toList, List.forall_mem_cons, ← ih]
    by_cases hk : k = key
    · simp [has, get?, hk]
    · simp [has, get?, hk]

theorem not_mem_of_get?_eq_none (h : m.get? key = none) : key ∉ m.keys := by
  have hhas : m.has key = false := by rw [has, h, Option.isSome_none]
  intro hkey
  obtain ⟨e, he, rfl⟩ := List.mem_map.mp hkey
  exact has_eq_false.mp hhas e he rfl

theorem mem_of_get?_eq_some (h : m.get? key = some value) : (key, value) ∈ m.toList := by
  induction m with
  | nil => cases h
  | cons k above v rest ih =>
    rw [get?] at h
    split at h
    · next hk =>
      obtain rfl := Option.some.inj h
      exact hk ▸ List.mem_cons_self
    · exact List.mem_cons_of_mem _ (ih h)

/-- **The entries of a map** are those that looking up finds. -/
theorem get?_eq_some_iff : m.get? key = some value ↔ (key, value) ∈ m.toList := by
  refine ⟨mem_of_get?_eq_some, fun hmem => ?_⟩
  cases hget : m.get? key with
  | none => exact absurd (List.mem_map_of_mem hmem) (not_mem_of_get?_eq_none hget)
  | some other =>
    have heq := List.inj_on_of_nodup_map m.nodup_keys hmem (mem_of_get?_eq_some hget) rfl
    rw [(Prod.mk.inj heq).2]

/-- **Maps are told apart by looking up.** -/
theorem ext (heq : ∀ key, m.get? key = m'.get? key) : m = m' := by
  have hmem : ∀ e, e ∈ m.toList ↔ e ∈ m'.toList := fun ⟨key, value⟩ => by
    rw [← get?_eq_some_iff, ← get?_eq_some_iff, heq]
  have hperm : m.toList.Perm m'.toList :=
    (List.perm_ext_iff_of_nodup (List.Nodup.of_map _ m.nodup_keys) (List.Nodup.of_map _ m'.nodup_keys)).mpr hmem
  have hanti (e f : String × α) (_ : e ∈ m.toList) (_ : f ∈ m'.toList) (hef : e.1 < f.1) (hfe : f.1 < e.1) : e = f :=
    absurd (Std.lt_trans hef hfe) Std.lt_irrefl
  exact toList_injective <|
    hperm.eq_of_pairwise hanti (List.pairwise_map.mp m.pairwise_keys) (List.pairwise_map.mp m'.pairwise_keys)

/-! ## One entry more -/

section

variable {above : ∀ k ∈ low, k < key}

/-- An entry is the one put in, or it was there before. -/
theorem mem_of_mem_put (h : e ∈ (m.put key value above).toList) : e = (key, value) ∨ e ∈ m.toList := by
  induction m with
  | nil => exact .inl (List.mem_singleton.mp h)
  | cons k hk v rest ih =>
    unfold put at h
    split at h
    · next heq => exact (List.mem_cons.mp h).imp (fun he => heq ▸ he) (List.mem_cons_of_mem _)
    · split at h
      · exact List.mem_cons.mp h
      · rcases List.mem_cons.mp h with rfl | h
        · exact .inr List.mem_cons_self
        · exact (ih h).imp_right (List.mem_cons_of_mem _)

theorem mem_put_self : (key, value) ∈ (m.put key value above).toList :=
  mem_of_get?_eq_some (m.get?_put_self key value above)

/-- Entries under other keys stay. -/
theorem mem_put_of_ne (he : e ∈ m.toList) (hne : e.1 ≠ key) : e ∈ (m.put key value above).toList := by
  obtain ⟨other, v⟩ := e
  rw [← get?_eq_some_iff, m.get?_put_of_ne hne]
  exact get?_eq_some_iff.mpr he

end

end Entries

namespace KeyMap

/-! ## Two maps put together -/

section

variable {m : KeyMap α} {extra : List (String × α)} {e : String × α}

theorem mem_extend (he : e ∈ m.toList) (hne : ∀ x ∈ extra, x.1 ≠ e.1) : e ∈ (m.extend extra).toList := by
  induction extra generalizing m with
  | nil => exact he
  | cons x extra ih =>
    exact ih (Entries.mem_put_of_ne he (hne x List.mem_cons_self).symm) fun y hy => hne y (List.mem_cons_of_mem _ hy)

theorem mem_of_mem_extend (h : e ∈ (m.extend extra).toList) : e ∈ m.toList ∨ e ∈ extra := by
  induction extra generalizing m with
  | nil => exact .inl h
  | cons x extra ih =>
    rcases ih h with h | h
    · rcases Entries.mem_of_mem_put h with rfl | h
      · exact .inr List.mem_cons_self
      · exact .inl h
    · exact .inr (List.mem_cons_of_mem _ h)

/-- An entry that is added stays, if no later one has its key. -/
theorem mem_extend_of_mem (hkeys : (extra.map Prod.fst).Nodup) (he : e ∈ extra) : e ∈ (m.extend extra).toList := by
  induction extra generalizing m with
  | nil => cases he
  | cons x extra ih =>
    obtain ⟨hfresh, hkeys⟩ := List.nodup_cons.mp hkeys
    show e ∈ ((m.insert x.1 x.2).extend extra).toList
    rcases List.mem_cons.mp he with rfl | he
    · refine mem_extend Entries.mem_put_self fun y hy heq => hfresh ?_
      exact heq ▸ List.mem_map_of_mem hy
    · exact ih hkeys he

end

/-- Putting in what is there already changes nothing. -/
theorem insert_of_get? {m : KeyMap α} {key : String} {value : α} (hget : m.get? key = some value) :
    m.insert key value = m := by
  refine Entries.ext fun other => ?_
  by_cases hother : other = key
  · rw [hother, get?_insert_self, hget]
  · exact get?_insert_of_ne hother value m

/-! ## Lists of entries -/

/-- The last of the entries with a key gives it a value. -/
def LastGiven (entries : List (String × α)) (key : String) (value : α) : Prop :=
  ∃ before after, entries = before ++ (key, value) :: after ∧ ∀ e ∈ after, e.1 ≠ key

theorem extend_append (m : KeyMap α) (l l' : List (String × α)) : m.extend (l ++ l') = (m.extend l).extend l' :=
  List.foldl_append

theorem get?_extend_of_forall_ne {key : String} {entries : List (String × α)} (h : ∀ e ∈ entries, e.1 ≠ key)
    (m : KeyMap α) : (m.extend entries).get? key = m.get? key := by
  induction entries generalizing m with
  | nil => rfl
  | cons e entries ih =>
    rw [List.forall_mem_cons] at h
    exact (ih h.2 (m.insert e.1 e.2)).trans (get?_insert_of_ne (Ne.symm h.1) e.2 m)

theorem LastGiven.get?_extend {entries : List (String × α)} {key : String} {value : α}
    (h : LastGiven entries key value) (m : KeyMap α) : (m.extend entries).get? key = some value := by
  obtain ⟨before, after, rfl, hafter⟩ := h
  rw [extend_append]
  exact (get?_extend_of_forall_ne hafter _).trans (get?_insert_self key value _)

/-- A key that has an entry has a last one. -/
theorem exists_lastGiven {entries : List (String × α)} {key : String} (h : key ∈ entries.map Prod.fst) :
    ∃ value, LastGiven entries key value := by
  induction entries with
  | nil => cases h
  | cons e entries ih =>
    by_cases hrest : key ∈ entries.map Prod.fst
    · obtain ⟨value, before, after, rfl, hafter⟩ := ih hrest
      exact ⟨value, e :: before, after, rfl, hafter⟩
    · have hkey : key = e.1 := (List.mem_cons.mp h).resolve_right hrest
      exact ⟨e.2, [], entries, by rw [hkey, List.nil_append], fun e' he' heq => hrest (List.mem_map.mpr ⟨e', he', heq⟩)⟩

/-- **The map of a list of entries** has for each key the value that it is given last. -/
theorem get?_ofList_eq_some_iff {entries : List (String × α)} {key : String} {value : α} :
    (ofList entries).get? key = some value ↔ LastGiven entries key value := by
  refine ⟨fun h => ?_, fun h => h.get?_extend .nil⟩
  by_cases hkey : key ∈ entries.map Prod.fst
  · obtain ⟨value', hlast⟩ := exists_lastGiven hkey
    have heq : some value' = some value := (hlast.get?_extend .nil).symm.trans h
    rwa [Option.some.inj heq] at hlast
  · have hnone : (ofList entries).get? key = none :=
      get?_extend_of_forall_ne (fun e he heq => hkey (List.mem_map.mpr ⟨e, he, heq⟩)) .nil
    rw [hnone] at h
    cases h

theorem has_ofList {entries : List (String × α)} {key : String} :
    (ofList entries).has key = true ↔ key ∈ entries.map Prod.fst := by
  rw [Entries.has, Option.isSome_iff_exists]
  simp only [get?_ofList_eq_some_iff]
  refine ⟨?_, exists_lastGiven⟩
  rintro ⟨value, before, after, rfl, -⟩
  simp

/-- An entry is the last of its key if it is so in its part of the list and no later part has the key. -/
theorem LastGiven.append {entries later : List (String × α)} {key : String} {value : α}
    (h : LastGiven entries key value) (hlater : key ∉ later.map Prod.fst) (earlier : List (String × α)) :
    LastGiven (earlier ++ (entries ++ later)) key value := by
  obtain ⟨before, after, rfl, hafter⟩ := h
  refine ⟨earlier ++ before, after ++ later, by simp, fun e he => ?_⟩
  rcases List.mem_append.mp he with he | he
  · exact hafter e he
  · exact fun heq => hlater (List.mem_map.mpr ⟨e, he, heq⟩)

/-- If no key is given twice, then every entry is the last of its key. -/
theorem lastGiven_of_mem {entries : List (String × α)} (hnodup : (entries.map Prod.fst).Nodup) {key : String}
    {value : α} (h : (key, value) ∈ entries) : LastGiven entries key value := by
  obtain ⟨before, after, rfl⟩ := List.append_of_mem h
  refine ⟨before, after, rfl, fun e he heq => ?_⟩
  rw [List.map_append, List.map_cons] at hnodup
  exact (List.nodup_cons.mp (List.nodup_append.mp hnodup).2.1).1 (List.mem_map.mpr ⟨e, he, heq⟩)

end KeyMap

end TermSearch
