/-!
# Tables

A table is a list of entries in strictly increasing order of their keys, compared by code point.
One set of entries therefore has one table: two tables hold the same entries exactly when they are
the same list. Members of a JSON object, the defines of a layer and the fields of an appearance
category are all tables.
-/

namespace MapStyle

/-- Entries in strictly increasing order of their keys. -/
abbrev Table (α : Type) := List (String × α)

namespace Table

variable {α β : Type}

/-- The keys increase strictly, so no key occurs twice. -/
def Ordered (t : Table α) : Prop := t.Pairwise fun a b ↦ a.1 < b.1

/-- The value stored under a key. -/
def get? : Table α → String → Option α
  | [], _ => none
  | (k, v) :: rest, key => if k = key then some v else get? rest key

/-- Stores a value under a key, in place of an earlier value of that key. -/
def insert (key : String) (value : α) : Table α → Table α
  | [] => [(key, value)]
  | (k, v) :: rest =>
    if key < k then (key, value) :: (k, v) :: rest
    else if key = k then (key, value) :: rest
    else (k, v) :: insert key value rest

/-- The table of a list of entries; of entries with one key the last is kept. -/
def ofEntries (entries : List (String × α)) : Table α :=
  entries.foldl (fun t e ↦ t.insert e.1 e.2) []

/-- The entries with their values replaced; the keys stay as they are. -/
def mapValues (f : α → β) (t : Table α) : Table β := t.map fun e ↦ (e.1, f e.2)

@[simp] theorem get?_nil (key : String) : get? ([] : Table α) key = none := rfl

@[simp] theorem get?_insert_self (t : Table α) (key : String) (value : α) :
    get? (t.insert key value) key = some value := by
  induction t with
  | nil => simp [insert, get?]
  | cons e rest ih =>
    obtain ⟨k, v⟩ := e
    simp only [insert]
    split
    · simp [get?]
    · split
      · simp [get?]
      · rename_i h
        simp [get?, Ne.symm h, ih]

theorem get?_insert_of_ne (t : Table α) {key other : String} (value : α) (h : other ≠ key) :
    get? (t.insert key value) other = get? t other := by
  induction t with
  | nil => simp [insert, get?, Ne.symm h]
  | cons e rest ih =>
    obtain ⟨k, v⟩ := e
    simp only [insert]
    split
    · simp [get?, Ne.symm h]
    · split
      · rename_i hk
        subst hk
        simp [get?, Ne.symm h]
      · simp [get?, ih]

end Table

end MapStyle
