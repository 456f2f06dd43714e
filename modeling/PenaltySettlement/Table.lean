/-!
# Tables

A table has at most one value for each key. It keeps its entries in the order in which their keys
came in, and the value of a key may change later without a change of that order.

## Main definitions

* `Table` — a list of entries with different keys.
* `Table.find?` — the value of a key.
* `Table.insert`, `Table.modify`, `Table.erase` — the changes, each with its effect on `find?`.
-/

set_option autoImplicit false

namespace PenaltySettlement

/-- A list of entries with different keys. -/
structure Table (κ α : Type) where
  entries : List (κ × α)
  nodup_keys : (entries.map Prod.fst).Nodup
  deriving DecidableEq

namespace Table

section

variable {κ α : Type}

/-- The table without entries. -/
def empty : Table κ α := ⟨[], by simp⟩

instance : Inhabited (Table κ α) := ⟨empty⟩

/-- The number of entries. -/
def size (t : Table κ α) : Nat := t.entries.length

/-- The keys, in the order in which they came in. -/
def keys (t : Table κ α) : List κ := t.entries.map Prod.fst

@[ext]
theorem ext {s t : Table κ α} (h : s.entries = t.entries) : s = t := by
  cases s
  cases t
  simp_all

end

section

variable {κ α : Type} [DecidableEq κ]

/-- The value of a key in a list of entries. -/
def valueIn? (key : κ) : List (κ × α) → Option α
  | [] => none
  | (k, value) :: entries => if k = key then some value else valueIn? key entries

/-- The value of a key, if it has one. -/
def find? (t : Table κ α) (key : κ) : Option α := valueIn? key t.entries

/-- An entry with its value changed, if it is the entry of a key. -/
def changeEntry (key : κ) (change : α → α) (e : κ × α) : κ × α :=
  (e.1, if e.1 = key then change e.2 else e.2)

/-- Changes the value of a key that has one. -/
def modify (t : Table κ α) (key : κ) (change : α → α) : Table κ α where
  entries := t.entries.map (changeEntry key change)
  nodup_keys := by
    rw [List.map_map]
    exact t.nodup_keys

/-- Gives a key a value. A key that has one keeps its place. -/
def insert (t : Table κ α) (key : κ) (value : α) : Table κ α :=
  if h : key ∈ t.keys then t.modify key fun _ => value
  else
    { entries := t.entries ++ [(key, value)]
      nodup_keys := by
        rw [List.map_append, List.nodup_append]
        refine ⟨t.nodup_keys, by simp, ?_⟩
        intro a ha b hb
        obtain rfl : b = key := by simpa using hb
        exact fun e => h (e ▸ ha) }

/-- Takes a key and its value away. -/
def erase (t : Table κ α) (key : κ) : Table κ α where
  entries := t.entries.filter fun e => e.1 ≠ key
  nodup_keys := t.nodup_keys.sublist (List.filter_sublist.map Prod.fst)

/-! ## What the changes do -/

@[simp]
theorem find?_empty (key : κ) : (empty : Table κ α).find? key = none := rfl

private theorem valueIn?_eq_none_iff (key : κ) (entries : List (κ × α)) :
    valueIn? key entries = none ↔ key ∉ entries.map Prod.fst := by
  induction entries with
  | nil => simp [valueIn?]
  | cons e es ih =>
    by_cases h : e.1 = key
    · simp [valueIn?, h]
    · simp only [valueIn?, h, if_false, ih, List.map_cons, List.mem_cons, not_or]
      exact ⟨fun hn => ⟨Ne.symm h, hn⟩, And.right⟩

/-- A key has a value when it is among the keys. -/
theorem find?_eq_none_iff (t : Table κ α) (key : κ) : t.find? key = none ↔ key ∉ t.keys :=
  valueIn?_eq_none_iff key t.entries

@[simp]
theorem find?_modify (t : Table κ α) (key other : κ) (change : α → α) :
    (t.modify key change).find? other =
      if other = key then (t.find? other).map change else t.find? other := by
  show valueIn? other (t.entries.map (changeEntry key change)) =
    if other = key then (valueIn? other t.entries).map change else valueIn? other t.entries
  induction t.entries with
  | nil => simp [valueIn?]
  | cons e es ih =>
    simp only [List.map_cons, valueIn?, changeEntry]
    grind

private theorem valueIn?_concat (key other : κ) (value : α) (entries : List (κ × α)) :
    valueIn? other (entries ++ [(key, value)]) =
      (valueIn? other entries).or (if key = other then some value else none) := by
  induction entries with
  | nil => simp [valueIn?]
  | cons e es ih =>
    simp only [List.cons_append, valueIn?]
    split
    · simp
    · exact ih

@[simp]
theorem find?_insert (t : Table κ α) (key other : κ) (value : α) :
    (t.insert key value).find? other = if other = key then some value else t.find? other := by
  unfold insert
  split
  · rename_i h
    obtain ⟨old, hold⟩ : ∃ old, t.find? key = some old :=
      Option.ne_none_iff_exists'.1 fun hn => (find?_eq_none_iff t key).1 hn h
    rw [find?_modify]
    split
    · simp_all
    · rfl
  · rename_i h
    have := (find?_eq_none_iff t key).2 h
    show valueIn? other (t.entries ++ [(key, value)]) = _
    rw [valueIn?_concat]
    unfold find? at *
    grind

@[simp]
theorem find?_erase (t : Table κ α) (key other : κ) :
    (t.erase key).find? other = if other = key then none else t.find? other := by
  show valueIn? other (t.entries.filter fun e => e.1 ≠ key) =
    if other = key then none else valueIn? other t.entries
  induction t.entries with
  | nil => simp [valueIn?]
  | cons e es ih =>
    by_cases h : e.1 = key
    · simp only [List.filter_cons, ne_eq, h, not_true, decide_false, valueIn?]
      grind
    · simp only [List.filter_cons, ne_eq, h, not_false_eq_true, decide_true, if_true, valueIn?]
      grind

end

end Table

end PenaltySettlement
