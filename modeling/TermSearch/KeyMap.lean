/-!
# Maps with text keys in key order

A map is the sequence of its entries. Each entry carries the proof that its key is above the key before it, so every
map has its keys in ascending order and each of them once. Text is ordered by code points, which is also the order of
its UTF-8 bytes. `KeyMap.insert` replaces the value of a key that is present, and leaves the other keys alone
(`KeyMap.get?_insert_self`, `KeyMap.get?_insert_of_ne`).
-/

namespace TermSearch

/-- Entries in ascending order of their keys, all of which are above `low` if there is such a key. -/
inductive Entries (α : Type) : Option String → Type
  | nil {low : Option String} : Entries α low
  | cons {low : Option String} (key : String) (above : ∀ k ∈ low, k < key) (value : α)
    (rest : Entries α (some key)) : Entries α low
  deriving DecidableEq, Repr

/-- A map with text keys. -/
abbrev KeyMap (α : Type) := Entries α none

variable {α : Type}

namespace Entries

variable {low : Option String}

/-- Every key may stand first. -/
theorem above_none (key : String) : ∀ k ∈ (none : Option String), k < key := fun _ h => nomatch h

/-- A key may stand behind one that is below it. -/
theorem above_some {previous key : String} (h : previous < key) : ∀ k ∈ some previous, k < key :=
  fun _ hk => Option.some.inj hk ▸ h

/-- The entries in order. -/
def toList : {low : Option String} → Entries α low → List (String × α)
  | _, nil => []
  | _, cons key _ value rest => (key, value) :: rest.toList

/-- The value of a key. -/
def get? (key : String) : {low : Option String} → Entries α low → Option α
  | _, nil => none
  | _, cons k _ v rest => if k = key then some v else rest.get? key

/-- Whether the key is present. -/
def has (key : String) (m : Entries α low) : Bool := (m.get? key).isSome

/-- The keys in order. -/
def keys (m : Entries α low) : List String := m.toList.map Prod.fst

/-- Whether there are no entries. -/
def isEmpty (m : Entries α low) : Bool := m.toList.isEmpty

/-- The entries with `key` standing for `value`. -/
def put (key : String) (value : α) :
    {low : Option String} → (∀ k ∈ low, k < key) → Entries α low → Entries α low
  | _, above, nil => cons key above value nil
  | _, above, cons k h v rest =>
    if heq : k = key then cons k h value rest
    else if hlt : key < k then cons key above value (cons k (above_some hlt) v rest)
    else cons k h v (rest.put key value (above_some (Std.lt_of_le_of_ne hlt heq)))

@[simp] theorem toList_nil : (nil : Entries α low).toList = [] := rfl

@[simp] theorem toList_cons {key : String} {above : ∀ k ∈ low, k < key} {value : α} {rest : Entries α (some key)} :
    (cons key above value rest).toList = (key, value) :: rest.toList := rfl

@[simp] theorem isEmpty_nil : (nil : Entries α low).isEmpty = true := rfl

@[simp] theorem isEmpty_cons {key : String} {above : ∀ k ∈ low, k < key} {value : α} {rest : Entries α (some key)} :
    (cons key above value rest).isEmpty = false := rfl

theorem isEmpty_put (key : String) (value : α) (above : ∀ k ∈ low, k < key) (m : Entries α low) :
    (m.put key value above).isEmpty = false := by
  cases m with
  | nil => rfl
  | cons =>
    unfold put
    split
    · rfl
    · split <;> rfl

theorem get?_put_self (key : String) (value : α) (above : ∀ k ∈ low, k < key) (m : Entries α low) :
    (m.put key value above).get? key = some value := by
  induction m with
  | nil => simp [put, get?]
  | cons k h v rest ih =>
    unfold put
    split
    · next heq => simp [get?, heq]
    · next hne =>
      split
      · simp [get?]
      · simp [get?, hne, ih]

theorem get?_put_of_ne {key other : String} (hother : other ≠ key) (value : α) (above : ∀ k ∈ low, k < key)
    (m : Entries α low) : (m.put key value above).get? other = m.get? other := by
  have hother' : ¬ key = other := fun heq => hother heq.symm
  induction m with
  | nil => simp [put, get?, hother']
  | cons k h v rest ih =>
    unfold put
    split
    · next heq => simp [get?, heq, hother']
    · split
      · simp [get?, hother']
      · simp [get?, ih]

end Entries

namespace KeyMap

/-- The map with one entry. -/
def single (key : String) (value : α) : KeyMap α := .cons key (Entries.above_none key) value .nil

/-- The map with `key` standing for `value`. -/
def insert (key : String) (value : α) (m : KeyMap α) : KeyMap α := m.put key value (Entries.above_none key)

/-- The map with some entries added in turn. -/
def extend (m : KeyMap α) (extra : List (String × α)) : KeyMap α :=
  extra.foldl (fun acc entry => acc.insert entry.1 entry.2) m

/-- The map of a list of entries; of two with one key the later one counts. -/
def ofList (entries : List (String × α)) : KeyMap α := extend .nil entries

@[simp] theorem toList_single (key : String) (value : α) : (single key value).toList = [(key, value)] := rfl

@[simp] theorem isEmpty_single (key : String) (value : α) : (single key value).isEmpty = false := rfl

theorem insert_nil (key : String) (value : α) : insert key value .nil = single key value := rfl

theorem get?_single (key other : String) (value : α) :
    (single key value).get? other = if key = other then some value else none := rfl

@[simp] theorem isEmpty_insert (key : String) (value : α) (m : KeyMap α) : (m.insert key value).isEmpty = false :=
  m.isEmpty_put key value (Entries.above_none key)

theorem get?_insert_self (key : String) (value : α) (m : KeyMap α) : (m.insert key value).get? key = some value :=
  m.get?_put_self key value (Entries.above_none key)

theorem get?_insert_of_ne {key other : String} (h : other ≠ key) (value : α) (m : KeyMap α) :
    (m.insert key value).get? other = m.get? other :=
  m.get?_put_of_ne h value (Entries.above_none key)

end KeyMap

end TermSearch
