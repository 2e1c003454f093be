/-!
# Maps that keep the order of their keys

`Assoc κ α` is a finite map that lists its entries in the order in which their keys were first
written.  Writing an existing key changes the value in place.  Main statements:

* `get?_insert`, `get?_erase` — what each write does to look-up;
* `keys_insert` — a write adds its key at the end if it is new and moves no other key.
-/

namespace Patronage

/-- A finite map, entries in the order in which their keys were first written. -/
structure Assoc (κ α : Type) where
  entries : List (κ × α)
deriving DecidableEq, Repr

namespace Assoc

variable {κ α β : Type}

/-- The map without entries. -/
def empty : Assoc κ α := ⟨[]⟩

instance : Inhabited (Assoc κ α) := ⟨empty⟩

/-- The keys in order of first writing. -/
def keys (m : Assoc κ α) : List κ := m.entries.map (·.1)

/-- The values in the order of their keys. -/
def values (m : Assoc κ α) : List α := m.entries.map (·.2)

/-- The number of entries. -/
def size (m : Assoc κ α) : Nat := m.entries.length

/-- Applies a function to every value. -/
def mapValues (f : α → β) (m : Assoc κ α) : Assoc κ β :=
  ⟨m.entries.map fun e => (e.1, f e.2)⟩

variable [DecidableEq κ]

/-- The value of the first entry with a key. -/
def find (k : κ) : List (κ × α) → Option α
  | [] => none
  | (k', v) :: es => if k' = k then some v else find k es

/-- Changes the first entry with a key, or adds one at the end. -/
def write (k : κ) (v : α) : List (κ × α) → List (κ × α)
  | [] => [(k, v)]
  | (k', v') :: es => if k' = k then (k', v) :: es else (k', v') :: write k v es

/-- The value that a key maps to. -/
def get? (m : Assoc κ α) (k : κ) : Option α := find k m.entries

/-- Whether a key is mapped. -/
def contains (m : Assoc κ α) (k : κ) : Bool := (m.get? k).isSome

/-- Maps a key to a value. -/
def insert (m : Assoc κ α) (k : κ) (v : α) : Assoc κ α := ⟨write k v m.entries⟩

/-- Unmaps a key. -/
def erase (m : Assoc κ α) (k : κ) : Assoc κ α := ⟨m.entries.filter (·.1 ≠ k)⟩

/-- Writes a list of entries one after the other. -/
def insertAll (m : Assoc κ α) (es : List (κ × α)) : Assoc κ α :=
  es.foldl (fun m e => m.insert e.1 e.2) m

/-- The map that a list of entries writes, later entries winning. -/
def ofList (es : List (κ × α)) : Assoc κ α := empty.insertAll es

/-- Writes the entries of a second map over those of the first. -/
def override (m top : Assoc κ α) : Assoc κ α := m.insertAll top.entries

/-! ### Laws -/

@[simp] theorem get?_empty (k : κ) : (empty : Assoc κ α).get? k = none := rfl

theorem find_write (k k' : κ) (v : α) (es : List (κ × α)) :
    find k' (write k v es) = if k = k' then some v else find k' es := by
  induction es with
  | nil => simp [write, find]
  | cons e es ih =>
    obtain ⟨a, b⟩ := e
    by_cases h : a = k
    · subst h
      by_cases h' : a = k' <;> simp [write, find, h']
    · by_cases h' : a = k'
      · subst h'
        simp [write, find, h, Ne.symm h]
      · simp [write, find, h, h', ih]

/-- A write answers for its key and changes no other look-up. -/
@[simp] theorem get?_insert (m : Assoc κ α) (k k' : κ) (v : α) :
    (m.insert k v).get? k' = if k = k' then some v else m.get? k' :=
  find_write k k' v m.entries

theorem find_filter_ne (k k' : κ) (es : List (κ × α)) :
    find k' (es.filter (·.1 ≠ k)) = if k = k' then none else find k' es := by
  induction es with
  | nil => simp [find]
  | cons e es ih =>
    obtain ⟨a, b⟩ := e
    by_cases h : a = k
    · subst h
      by_cases h' : a = k'
      · subst h'
        simpa using ih
      · simpa [find, h'] using ih
    · by_cases h' : a = k'
      · subst h'
        simp [find, h, Ne.symm h]
      · simpa [find, h, h'] using ih

/-- Erasing forgets its key and changes no other look-up. -/
@[simp] theorem get?_erase (m : Assoc κ α) (k k' : κ) :
    (m.erase k).get? k' = if k = k' then none else m.get? k' :=
  find_filter_ne k k' m.entries

theorem mem_keys_iff (m : Assoc κ α) (k : κ) : k ∈ m.keys ↔ (m.get? k).isSome := by
  obtain ⟨es⟩ := m
  simp only [keys, get?]
  induction es with
  | nil => simp [find]
  | cons e es ih =>
    obtain ⟨a, b⟩ := e
    by_cases h : a = k
    · simp [find, h]
    · simp [find, h, Ne.symm h, ih]

theorem keys_write (k : κ) (v : α) (es : List (κ × α)) :
    (write k v es).map (·.1) =
      if k ∈ es.map (·.1) then es.map (·.1) else es.map (·.1) ++ [k] := by
  induction es with
  | nil => simp [write]
  | cons e es ih =>
    obtain ⟨a, b⟩ := e
    by_cases h : a = k
    · subst h; simp [write]
    · simp only [write, h, if_false, List.map_cons, ih, List.mem_cons, Ne.symm h, false_or]
      split <;> simp

/-- A write adds its key at the end if it is new and moves no other key. -/
theorem keys_insert (m : Assoc κ α) (k : κ) (v : α) :
    (m.insert k v).keys = if k ∈ m.keys then m.keys else m.keys ++ [k] :=
  keys_write k v m.entries

end Assoc

end Patronage
