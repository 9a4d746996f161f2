import Mathlib.Data.List.Forall2
import TermSearch.Proofs.Document.Order
import TermSearch.Regex.Reader

/-!
# Answers of a collection

A query is answered with the documents that its filter accepts. Which document comes where is settled by the query and
the collection alone: there is just one way to arrange the places of the accepted documents that follows the keys and
leaves documents that are equal by all of them as they are stored (`Arranges.unique`), and it is the one that sorting
finds (`arranges_placed`).

A window keeps a stretch of the arranged documents (`getElem?_window`). As the arrangement does not depend on the
window, windows that follow one another make up the whole answer, with nothing lost and nothing repeated
(`flatten_windows`, `Collection.find_arranged`).
-/

namespace TermSearch.Document

/-! ## Arrangements -/

/-- The places of the documents that a filter accepts, each of them once. None stands before one that the keys put
strictly before it, and places whose documents are equal by all keys stand in the order of the collection. -/
structure Arranges (keys : List OrderKey) (filter : Filter) (documents : List Json) (places : List Nat) : Prop where
  nodup : places.Nodup
  mem_iff (i : Nat) : i ∈ places ↔ ∃ document, documents[i]? = some document ∧ filter.accepts document = true
  ordered : places.Pairwise fun i j =>
    ∀ a ∈ documents[i]?, ∀ b ∈ documents[j]?, compareBy keys b a ≠ .lt
  stable : places.Pairwise fun i j =>
    ∀ a ∈ documents[i]?, ∀ b ∈ documents[j]?, compareBy keys a b = .eq → i < j

section Arrangements

variable {keys : List OrderKey} {filter : Filter} {documents : List Json} {places places' : List Nat}

/-- **There is only one arrangement.** -/
theorem Arranges.unique (h : Arranges keys filter documents places) (h' : Arranges keys filter documents places') :
    places = places' := by
  have hperm : places.Perm places' := by
    refine (List.perm_ext_iff_of_nodup h.nodup h'.nodup).mpr ?_
    intro i
    rw [h.mem_iff, h'.mem_iff]
  refine List.Perm.eq_of_pairwise ?_ (h.ordered.and h.stable) (h'.ordered.and h'.stable) hperm
  intro i j hi hj hij hji
  obtain ⟨a, ha, -⟩ := (h.mem_iff i).mp hi
  obtain ⟨b, hb, -⟩ := (h'.mem_iff j).mp hj
  have hba := hij.1 a ha b hb
  have hab := hji.1 b hb a ha
  -- the documents are equal by all keys, so each place would be in front of the other
  have heq : compareBy keys a b = .eq := by
    have hswap : compareBy keys b a = (compareBy keys a b).swap := Std.OrientedCmp.eq_swap
    rw [hswap] at hba
    cases horder : compareBy keys a b with
    | lt => exact absurd horder hab
    | eq => rfl
    | gt => exact absurd (by rw [horder]; rfl) hba
  have hlt := hij.2 a ha b hb heq
  have hgt := hji.2 b hb a ha (Std.OrientedCmp.eq_symm heq)
  omega

/-- The accepted documents with their places, in the order of the keys. -/
def placed (keys : List OrderKey) (filter : Filter) (documents : List Json) : List (Json × Nat) :=
  (documents.zipIdx.filter fun e => filter.accepts e.1).mergeSort fun e e' => (compareBy keys e.1 e'.1).isLE

theorem mem_placed {e : Json × Nat} :
    e ∈ placed keys filter documents ↔ documents[e.2]? = some e.1 ∧ filter.accepts e.1 = true := by
  unfold placed
  rw [List.mem_mergeSort, List.mem_filter, List.mem_zipIdx_iff_getElem?]

/-- Places are not looked at in sorting. -/
theorem map_fst_placed : (placed keys filter documents).map Prod.fst =
    sortDocuments keys (documents.filter filter.accepts) := by
  have hfilter : (documents.zipIdx.filter fun e => filter.accepts e.1).map Prod.fst =
      documents.filter filter.accepts := by
    have hmap := List.filter_map (f := Prod.fst) (p := filter.accepts) (l := documents.zipIdx)
    rw [List.zipIdx_map_fst] at hmap
    exact hmap.symm
  unfold placed sortDocuments
  rw [List.map_mergeSort (s := fun a b => (compareBy keys a b).isLE) fun _ _ _ _ => rfl, hfilter]

/-- **Sorting arranges the accepted documents.** -/
theorem arranges_placed : Arranges keys filter documents ((placed keys filter documents).map Prod.snd) := by
  have hplaces : (documents.zipIdx.map Prod.snd).Pairwise (· < ·) := by
    rw [List.zipIdx_map_snd]
    exact List.pairwise_lt_range'
  have hstored : (documents.zipIdx.filter fun e => filter.accepts e.1).Pairwise fun e e' => e.2 < e'.2 :=
    (List.pairwise_map.mp hplaces).filter _
  have hsorted := @pairwise_mergeSort_stable _ (fun e e' : Json × Nat => (compareBy keys e.1 e'.1).isLE)
    (fun e e' e'' => isLE_compareBy_trans keys e.1 e'.1 e''.1) (fun e e' => isLE_compareBy_total keys e.1 e'.1)
    _ _ hstored
  have hdocument : ∀ e ∈ placed keys filter documents, documents[e.2]? = some e.1 :=
    fun e he => (mem_placed.mp he).1
  refine ⟨?_, ?_, ?_, ?_⟩
  · have hperm : ((placed keys filter documents).map Prod.snd).Perm
        ((documents.zipIdx.filter fun e => filter.accepts e.1).map Prod.snd) := (List.mergeSort_perm _ _).map _
    refine hperm.nodup_iff.mpr ?_
    refine (List.pairwise_map.mpr hstored).imp ?_
    intro i j hlt
    exact Nat.ne_of_lt hlt
  · intro i
    rw [List.mem_map]
    constructor
    · rintro ⟨e, he, rfl⟩
      exact ⟨e.1, mem_placed.mp he⟩
    · rintro ⟨document, hdocument, haccepts⟩
      exact ⟨(document, i), mem_placed.mpr ⟨hdocument, haccepts⟩, rfl⟩
  · rw [List.pairwise_map]
    refine hsorted.imp_of_mem ?_
    intro e e' he he' hle a ha b hb hlt
    rw [hdocument e he] at ha
    rw [hdocument e' he'] at hb
    cases ha
    cases hb
    exact Std.OrientedCmp.not_isLE_of_lt hlt hle.1
  · rw [List.pairwise_map]
    refine hsorted.imp_of_mem ?_
    intro e e' he he' hle a ha b hb heq
    rw [hdocument e he] at ha
    rw [hdocument e' he'] at hb
    cases ha
    cases hb
    refine hle.2 ?_
    rw [Std.OrientedCmp.eq_symm heq]
    rfl

end Arrangements

/-! ## Windows -/

section Windows

variable {α β : Type}

/-- **A window keeps the items from its offset on**, as many as its limit allows. -/
theorem getElem?_window (offset limit : Option Nat) (items : List α) (i : Nat) :
    (window offset limit items)[i]? = if limit.all (i < ·) then items[offset.getD 0 + i]? else none := by
  unfold window
  cases limit with
  | none => simp
  | some l => simp [List.getElem?_take]

theorem length_window (offset limit : Option Nat) (items : List α) :
    (window offset limit items).length = limit.elim id min (items.length - offset.getD 0) := by
  cases limit <;> simp [window]

theorem map_window (f : α → β) (offset limit : Option Nat) (items : List α) :
    (window offset limit items).map f = window offset limit (items.map f) := by
  unfold window
  cases limit <;> simp

/-- **Windows that follow one another** keep the items up to the end of the last. -/
theorem flatten_windows (n k : Nat) (items : List α) :
    ((List.range k).map fun i => window (some (i * n)) (some n) items).flatten = items.take (k * n) := by
  induction k with
  | zero => simp
  | succ k ih =>
    have hlast : window (some (k * n)) (some n) items = (items.drop (k * n)).take n := rfl
    rw [List.range_succ, List.map_append, List.flatten_append, ih, List.map_singleton, List.flatten_singleton, hlast,
      Nat.succ_mul, List.take_add]

/-- Counts may be cut off at any number that is not below the number of items. -/
theorem window_clamped {most : Nat} {items : List α} (h : items.length ≤ most) (offset limit : Option Nat) :
    window (offset.map (min · most)) (some (limit.elim most (min · most))) items = window offset limit items := by
  refine List.ext_getElem? ?_
  intro i
  have hdrop : ∀ o, items[min o most + i]? = items[o + i]? := by
    intro o
    by_cases ho : o ≤ most
    · rw [Nat.min_eq_left ho]
    · rw [List.getElem?_eq_none (by omega), List.getElem?_eq_none (by omega)]
  have hoffset : items[(offset.map (min · most)).getD 0 + i]? = items[offset.getD 0 + i]? := by
    cases offset with
    | none => rfl
    | some o => exact hdrop o
  rw [getElem?_window, getElem?_window, hoffset]
  by_cases hi : i < most
  · cases limit with
    | none => simp [hi]
    | some l =>
      have hlt : i < min l most ↔ i < l := by omega
      simp [hlt]
  · have hnone : items[offset.getD 0 + i]? = none := List.getElem?_eq_none (by omega)
    simp [hnone]

end Windows

/-! ## Answers -/

namespace Collection

/-- A window of the arranged documents answers a query, each of them cut down to the paths selected. -/
theorem find_window [PatternEngine] {clauses : Clauses Selector} {filter : Filter} (h : clauses.filter.compile = .ok filter)
    (c : Collection) (offset limit : Option Nat) :
    c.find { clauses with offset, limit } = .ok (window offset limit
      ((placed (clauses.order.map OrderKey.parse) filter c.documents).map fun e => project clauses.select e.1)) := by
  have hmap : ((placed (clauses.order.map OrderKey.parse) filter c.documents).map fun e => project clauses.select e.1) =
      (matching filter clauses.order c.documents).map (project clauses.select) := by
    rw [matching, ← map_fst_placed, List.map_map]
    rfl
  rw [find, h, hmap, ← map_window]
  rfl

/-- **Each document that the filter accepts is found once, in order, and windows tile the answer.** Without a window the
rows are the selected parts of the documents at the places of the one arrangement that follows the keys and leaves
documents that are equal by all of them as they are stored. A window keeps the rows from its offset on, as many as its
limit allows; windows of one length that follow one another make up all rows. Counts make no difference beyond the
number of documents, so they may be cut off there. -/
theorem find_arranged [PatternEngine] (c : Collection) (clauses : Clauses Selector) {filter : Filter}
    (h : clauses.filter.compile = .ok filter) :
    ∃ (places : List Nat) (rows : List Json),
      (Arranges (clauses.order.map OrderKey.parse) filter c.documents places ∧
        ∀ places', Arranges (clauses.order.map OrderKey.parse) filter c.documents places' → places' = places) ∧
      rows.map some = places.map (fun i => c.documents[i]?.map (project clauses.select)) ∧
      c.find { clauses with offset := none, limit := none } = .ok rows ∧
      (∀ offset limit : Option Nat, ∃ page,
        c.find { clauses with offset, limit } = .ok page ∧
        (∀ i, page[i]? = if limit.all (i < ·) then rows[offset.getD 0 + i]? else none) ∧
        page.length = limit.elim id min (c.documents.countP filter.accepts - offset.getD 0)) ∧
      (∀ n, 0 < n → ∀ k, rows.length ≤ k * n → ∃ pages,
        (List.range k).mapM (fun i => c.find { clauses with offset := some (i * n), limit := some n }) = .ok pages ∧
        pages.flatten = rows) ∧
      ∀ most, c.documents.length ≤ most → ∀ offset limit : Option Nat,
        c.find { clauses with
          offset := offset.map (min · most), limit := some (limit.elim most (min · most)) } =
          c.find { clauses with offset, limit } := by
  let arranged := placed (clauses.order.map OrderKey.parse) filter c.documents
  let rows := arranged.map fun e => project clauses.select e.1
  have hfind := find_window h c
  have hlength : rows.length = c.documents.countP filter.accepts := by
    have hplaced : arranged.map Prod.fst = _ := map_fst_placed
    rw [List.length_map, ← List.length_map Prod.fst, hplaced, sortDocuments, List.length_mergeSort,
      List.countP_eq_length_filter]
  refine ⟨arranged.map Prod.snd, rows, ⟨arranges_placed, ?_⟩, ?_, hfind none none, ?_, ?_, ?_⟩
  · intro places' hplaces'
    exact hplaces'.unique arranges_placed
  · rw [List.map_map, List.map_map]
    refine List.map_congr_left ?_
    intro e he
    have hdocument : c.documents[e.2]? = some e.1 := (mem_placed.mp he).1
    simp [hdocument]
  · intro offset limit
    refine ⟨_, hfind offset limit, getElem?_window offset limit rows, ?_⟩
    rw [length_window, hlength]
  · intro n hn k hk
    have hpages : (fun i => c.find { clauses with offset := some (i * n), limit := some n }) =
        fun i => pure (window (some (i * n)) (some n) rows) := funext fun i => hfind _ _
    rw [hpages]
    refine ⟨_, List.mapM_pure, ?_⟩
    rw [flatten_windows, List.take_of_length_le hk]
  · intro most hmost offset limit
    have hrows : rows.length ≤ most := by
      rw [hlength]
      exact Nat.le_trans List.countP_le_length hmost
    rw [hfind, hfind, window_clamped hrows]

/-- The oldest badgers first, two on a page: of the two that are four the one that is stored first ends the first page,
and the other one starts the second. -/
theorem find_arranged_badgers :
    let badger (name : String) (age : Int) : Json := .ofFields [("name", .string name), ("age", .number (.int age))]
    let c : Collection := { name := "badgers", documents := [badger "Brock" 4, badger "Meles" 7, badger "Tess" 4] }
    let clauses : Clauses Selector := { (Clauses.empty : Clauses Selector) with order := ["-age"] }
    clauses.filter.compile = .ok (.all []) ∧
      ∃ pages,
        (List.range 2).mapM (fun i => c.find { clauses with offset := some (i * 2), limit := some 2 }) = .ok pages ∧
        pages.flatten = [badger "Meles" 7, badger "Brock" 4, badger "Tess" 4] := by
  intro badger c clauses
  have hcompile : clauses.filter.compile = .ok (.all []) := rfl
  obtain ⟨places, rows, ⟨-, honly⟩, hrows, -, -, htile, -⟩ := find_arranged c clauses hcompile
  have harranges : Arranges (clauses.order.map OrderKey.parse) (.all []) c.documents [1, 0, 2] := by
    refine { nodup := by decide, mem_iff := ?_, ordered := by decide +kernel, stable := by decide +kernel }
    intro i
    rcases i with _ | _ | _ | i <;> simp [c, Filter.accepts, Filter.acceptsAll]
  rw [← honly _ harranges] at hrows
  have hthree : rows = [badger "Meles" 7, badger "Brock" 4, badger "Tess" 4] :=
    List.map_injective_iff.mpr (fun _ _ => Option.some.inj) hrows
  subst hthree
  obtain ⟨pages, hpages, hflatten⟩ := htile 2 (by decide) 2 (by simp)
  exact ⟨hcompile, pages, hpages, hflatten⟩

end Collection

end TermSearch.Document
