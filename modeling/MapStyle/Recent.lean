/-!
# Recent entries

A memory of a bounded number of entries. It keeps its entries in the order of their last use, the
latest first, and forgets the one at the end when there are too many. Storing an entry and finding
one both count as uses.
-/

namespace MapStyle

/-- The most recently used entries, up to a bound. -/
structure Recent (α : Type) where
  /-- The number of entries asked for; at least one is kept. -/
  capacity : Nat
  /-- The entries, the most recently used first. -/
  entries : List (String × α) := []
  deriving Repr

namespace Recent

variable {α : Type}

/-- The number of entries that are kept. -/
def window (r : Recent α) : Nat := max r.capacity 1

/-- The entries under other keys. -/
def others (r : Recent α) (key : String) : List (String × α) := r.entries.filter fun e ↦ e.1 != key

def find? (r : Recent α) (key : String) : Option α := r.entries.lookup key

/-- Stores a value under a key as the most recently used entry. -/
def put (r : Recent α) (key : String) (value : α) : Recent α :=
  { r with entries := ((key, value) :: r.others key).take r.window }

/-- Looks a key up; an entry that is found becomes the most recently used. -/
def get (r : Recent α) (key : String) : Option α × Recent α :=
  match r.find? key with
  | none => (none, r)
  | some value => (some value, { r with entries := (key, value) :: r.others key })

def clear (r : Recent α) : Recent α := { r with entries := [] }

def size (r : Recent α) : Nat := r.entries.length

/-- The keys, the most recently used first. -/
def keys (r : Recent α) : List String := r.entries.map (·.1)

end Recent

end MapStyle
