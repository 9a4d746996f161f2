import TermSearch.Search.Operator

/-!
# Formulas

Things joined by connectives, to any depth. A formula is worked out by `Formula.fold`, and a proof by induction may
assume what it is to show of all parts of a join.
-/

namespace TermSearch

/-- Whether truth values joined by a connective come out true. -/
def Predicate.holds : Predicate → List Bool → Bool
  | .and, values => values.all id
  | .or, values => values.any id

/-- Single things and formulas joined by a connective. -/
inductive Formula (α : Type) where
  | atom (a : α)
  | joined (p : Predicate) (parts : List (Formula α))

namespace Formula

variable {α β γ : Type}

/-- Induction with the parts of a join as a list. -/
@[elab_as_elim, induction_eliminator]
theorem ind {motive : Formula α → Prop} (atom : ∀ a, motive (.atom a))
    (joined : ∀ p parts, (∀ part ∈ parts, motive part) → motive (.joined p parts)) (f : Formula α) : motive f :=
  Formula.rec (motive_1 := motive) (motive_2 := fun parts => ∀ part ∈ parts, motive part) atom joined
    (fun _ h => nomatch h) (fun _ _ hhead htail => List.forall_mem_cons.mpr ⟨hhead, htail⟩) f

mutual

/-- The value of a formula, given what its atoms and joins stand for. -/
def fold (atom : α → β) (join : Predicate → List β → β) : Formula α → β
  | .atom a => atom a
  | .joined p parts => join p (foldAll atom join parts)

/-- The values of formulas. -/
def foldAll (atom : α → β) (join : Predicate → List β → β) : List (Formula α) → List β
  | [] => []
  | part :: parts => fold atom join part :: foldAll atom join parts

end

theorem foldAll_eq_map (atom : α → β) (join : Predicate → List β → β) (parts : List (Formula α)) :
    foldAll atom join parts = parts.map (fold atom join) := by
  induction parts with
  | nil => rfl
  | cons part parts ih => rw [foldAll, ih, List.map_cons]

@[simp] theorem fold_atom (atom : α → β) (join : Predicate → List β → β) (a : α) :
    fold atom join (.atom a) = atom a := by rw [fold]

@[simp] theorem fold_joined (atom : α → β) (join : Predicate → List β → β) (p : Predicate)
    (parts : List (Formula α)) : fold atom join (.joined p parts) = join p (parts.map (fold atom join)) := by
  rw [fold, foldAll_eq_map]

/-- The formula with formulas in place of its atoms. -/
def bind (f : Formula α) (g : α → Formula β) : Formula β := f.fold g .joined

/-- The formula with its atoms replaced. -/
def map (g : α → β) (f : Formula α) : Formula β := f.bind fun a => .atom (g a)

/-- The truth value of a formula, given those of its atoms. -/
def value (assignment : α → Bool) (f : Formula α) : Bool := f.fold assignment Predicate.holds

/-- The atoms from left to right. -/
def atoms (f : Formula α) : List α := f.fold (fun a => [a]) fun _ parts => parts.flatten

/-- Formulas joined by a connective, a single one standing for itself. -/
def join (p : Predicate) : List (Formula α) → Formula α
  | [single] => single
  | parts => .joined p parts

/-! ## Joins -/

@[simp] theorem bind_atom (a : α) (g : α → Formula β) : (atom a).bind g = g a := fold_atom _ _ _

@[simp] theorem bind_joined (p : Predicate) (parts : List (Formula α)) (g : α → Formula β) :
    (joined p parts).bind g = .joined p (parts.map (·.bind g)) := fold_joined _ _ _ _

@[simp] theorem map_atom (a : α) (g : α → β) : (atom a).map g = .atom (g a) := bind_atom _ _

@[simp] theorem map_joined (p : Predicate) (parts : List (Formula α)) (g : α → β) :
    (joined p parts).map g = .joined p (parts.map (map g)) := bind_joined _ _ _

@[simp] theorem value_atom (a : α) (assignment : α → Bool) : (atom a).value assignment = assignment a :=
  fold_atom _ _ _

@[simp] theorem value_joined (p : Predicate) (parts : List (Formula α)) (assignment : α → Bool) :
    (joined p parts).value assignment = p.holds (parts.map (value assignment)) := fold_joined _ _ _ _

@[simp] theorem atoms_atom (a : α) : (atom a).atoms = [a] := fold_atom _ _ _

@[simp] theorem atoms_joined (p : Predicate) (parts : List (Formula α)) :
    (joined p parts).atoms = parts.flatMap atoms := by
  rw [List.flatMap_def]
  exact fold_joined _ _ _ _

theorem join_of_two_le (p : Predicate) {parts : List (Formula α)} (h : 2 ≤ parts.length) :
    join p parts = .joined p parts := by
  match parts, h with
  | _ :: _ :: _, _ => rfl

theorem map_join (p : Predicate) (parts : List (Formula α)) (g : α → β) :
    (join p parts).map g = join p (parts.map (map g)) := by
  match parts with
  | [] => exact map_joined p [] g
  | [_] => rfl
  | first :: second :: rest => exact map_joined p (first :: second :: rest) g

theorem atoms_join (p : Predicate) (parts : List (Formula α)) : (join p parts).atoms = parts.flatMap atoms := by
  match parts with
  | [] => exact atoms_joined p []
  | [single] => rw [List.flatMap_singleton, join]
  | first :: second :: rest => exact atoms_joined p (first :: second :: rest)

theorem value_join (p : Predicate) (parts : List (Formula α)) (assignment : α → Bool) :
    (join p parts).value assignment = p.holds (parts.map (value assignment)) := by
  match parts with
  | [] => exact value_joined p [] assignment
  | [single] => cases p <;> simp [join, Predicate.holds]
  | first :: second :: rest => exact value_joined p (first :: second :: rest) assignment

/-! ## Replaced atoms -/

theorem value_bind (g : α → Formula β) (assignment : β → Bool) (f : Formula α) :
    (f.bind g).value assignment = f.value fun a => (g a).value assignment := by
  induction f with
  | atom a => rw [bind_atom, value_atom]
  | joined p parts ih =>
    rw [bind_joined, value_joined, value_joined, List.map_map]
    exact congrArg _ (List.map_congr_left ih)

theorem value_map (g : α → β) (assignment : β → Bool) (f : Formula α) :
    (f.map g).value assignment = f.value (assignment ∘ g) := by
  unfold map
  rw [value_bind]
  exact congrArg (f.value ·) (funext fun a => value_atom (g a) assignment)

/-! ## Formulas with proper joins -/

/-- All atoms are good, and each join has several parts. -/
inductive Sound (good : α → Prop) : Formula α → Prop
  | atom {a : α} (h : good a) : Sound good (.atom a)
  | joined (p : Predicate) {parts : List (Formula α)} (hseveral : 2 ≤ parts.length)
    (h : ∀ part ∈ parts, Sound good part) : Sound good (.joined p parts)

theorem Sound.mono {good good' : α → Prop} {f : Formula α} (h : f.Sound good) (hgood : ∀ a, good a → good' a) :
    f.Sound good' := by
  induction h with
  | atom h => exact .atom (hgood _ h)
  | joined p hseveral _ ih => exact .joined p hseveral ih

theorem Sound.join {good : α → Prop} (p : Predicate) {parts : List (Formula α)} (hne : parts ≠ [])
    (h : ∀ part ∈ parts, Sound good part) : (Formula.join p parts).Sound good := by
  match parts, hne with
  | [single], _ => exact h single List.mem_cons_self
  | first :: second :: rest, _ => exact .joined p (by simp) h

theorem Sound.map {good : β → Prop} {g : α → β} {f : Formula α} (h : f.Sound fun a => good (g a)) :
    (f.map g).Sound good := by
  induction h with
  | @atom a h =>
    rw [map_atom]
    exact .atom h
  | @joined p parts hseveral _ ih =>
    rw [map_joined]
    refine .joined p (by rw [List.length_map]; exact hseveral) fun part hpart => ?_
    obtain ⟨source, hsource, rfl⟩ := List.mem_map.mp hpart
    exact ih source hsource

theorem Sound.of_mem_atoms {good : α → Prop} {f : Formula α} (h : f.Sound good) : ∀ a ∈ f.atoms, good a := by
  induction h with
  | @atom a h =>
    intro b hb
    rw [atoms_atom] at hb
    rw [List.mem_singleton.mp hb]
    exact h
  | joined p _ _ ih =>
    intro b hb
    rw [atoms_joined] at hb
    obtain ⟨part, hpart, hb⟩ := List.mem_flatMap.mp hb
    exact ih part hpart b hb

end Formula

end TermSearch
