/-!
# Dictionaries

A dictionary is a list of entries with distinct keys in the order of their first insertion.
Putting a key that is present replaces its value.  `Dictionary.get?` is the view that every
operation is described by.
-/

namespace RootedStorage

/-- Entries with text keys. -/
structure Dictionary (α : Type) where
  entries : List (String × α)
  deriving Repr, Inhabited, DecidableEq

namespace Dictionary

variable {α : Type}

/-- The dictionary without entries. -/
def empty : Dictionary α := ⟨[]⟩

/-- The value of the first entry with a key. -/
def find? (key : String) : List (String × α) → Option α
  | [] => none
  | (k, value) :: rest => if k = key then some value else find? key rest

/-- The value of a key. -/
def get? (d : Dictionary α) (key : String) : Option α := find? key d.entries

/-- Whether the key has a value. -/
def contains (d : Dictionary α) (key : String) : Bool := (d.get? key).isSome

/-- Gives a value to a key. -/
def put (d : Dictionary α) (key : String) (value : α) : Dictionary α :=
  if d.contains key then
    ⟨d.entries.map fun e => if e.1 = key then (key, value) else e⟩
  else ⟨d.entries ++ [(key, value)]⟩

/-- Puts entries one after the other. -/
def ofList (entries : List (String × α)) : Dictionary α :=
  entries.foldl (fun d e => d.put e.1 e.2) empty

/-- The keys. -/
def keys (d : Dictionary α) : List String := d.entries.map (·.1)

/-- The keys in the order of their octets, which is the order of their code points. -/
def sortedKeys (d : Dictionary α) : List String :=
  d.keys.mergeSort fun a b => decide (a ≤ b)

theorem find?_append_single (l : List (String × α)) (key k : String) (value : α) :
    find? k (l ++ [(key, value)]) = (find? k l).or (if key = k then some value else none) := by
  induction l with
  | nil => simp [find?]
  | cons e l ih =>
    by_cases h : e.1 = k <;> simp [find?, h, ih]

theorem find?_map_replace (l : List (String × α)) (key k : String) (value : α) :
    find? k (l.map fun e => if e.1 = key then (key, value) else e)
      = if k = key then (find? key l).map fun _ => value else find? k l := by
  induction l with
  | nil => by_cases h : k = key <;> simp [find?, h]
  | cons e l ih =>
    by_cases ha : e.1 = key
    · by_cases hk : k = key
      · simp [find?, ha, hk]
      · simp [find?, ha, hk, Ne.symm hk, ih]
    · by_cases hk : k = key
      · subst hk
        simpa [find?, ha] using ih
      · by_cases h : e.1 = k <;> simp [find?, ha, hk, h, ih]

/-- Putting changes the value of its key and of no other. -/
@[simp] theorem get?_put (d : Dictionary α) (key k : String) (value : α) :
    (d.put key value).get? k = if k = key then some value else d.get? k := by
  unfold put
  split
  · next h =>
    obtain ⟨v, hv⟩ := Option.isSome_iff_exists.1 h
    unfold get? at hv ⊢
    rw [find?_map_replace]
    by_cases hk : k = key <;> simp [hk, hv]
  · next h =>
    have hn : find? key d.entries = none := Option.not_isSome_iff_eq_none.1 h
    unfold get?
    rw [find?_append_single]
    by_cases hk : k = key
    · simp [hk, hn]
    · simp [hk, Ne.symm hk]

end Dictionary

end RootedStorage
