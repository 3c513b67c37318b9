/-!
# Sets of characters by their boundaries

A set of code points is written as the increasing list of its boundaries: the points at which
membership changes, starting from "outside" below the first. A point belongs to the set when an odd
number of boundaries lie at or below it. Every combination of two sets is one walk along their
merged boundaries, and the complement toggles a single boundary at zero.
-/

namespace MapStyle.Text

/-- A set of code points, given by the increasing points at which membership changes. -/
abbrev CharSet := List Nat

namespace CharSet

def containsPoint : CharSet → Nat → Bool
  | [], _ => false
  | b :: rest, c => if c < b then false else !containsPoint rest c

def contains (set : CharSet) (c : Char) : Bool := set.containsPoint c.toNat

def empty : CharSet := []

def full : CharSet := [0]

/-- The closed interval from `lo` to `hi`, empty when the bounds are out of order. -/
def interval (lo hi : Nat) : CharSet := if lo ≤ hi then [lo, hi + 1] else []

def single (c : Char) : CharSet := interval c.toNat c.toNat

/-- Everything outside the set. -/
def complement : CharSet → CharSet
  | 0 :: rest => rest
  | set => 0 :: set

/-- A boundary is written where membership changes, and left out where it stays. -/
def boundary (before after : Bool) (point : Nat) (rest : CharSet) : CharSet :=
  if before = after then rest else point :: rest

/-- The points that `keep` accepts by their membership in two sets. `p` and `q` say whether the
walk is inside the left and the right set; `keep` must refuse points outside both. -/
def combine (keep : Bool → Bool → Bool) (p q : Bool) : CharSet → CharSet → CharSet
  | [], [] => []
  | a :: left, [] => boundary (keep p q) (keep (!p) q) a (combine keep (!p) q left [])
  | [], b :: right => boundary (keep p q) (keep p (!q)) b (combine keep p (!q) [] right)
  | a :: left, b :: right =>
    if a < b then
      boundary (keep p q) (keep (!p) q) a (combine keep (!p) q left (b :: right))
    else if b < a then
      boundary (keep p q) (keep p (!q)) b (combine keep p (!q) (a :: left) right)
    else
      boundary (keep p q) (keep (!p) (!q)) a (combine keep (!p) (!q) left right)
termination_by left right => left.length + right.length

def union (a b : CharSet) : CharSet := combine (· || ·) false false a b

def inter (a b : CharSet) : CharSet := combine (· && ·) false false a b

/-- The points of the first set that are not in the second. -/
def diff (a b : CharSet) : CharSet := combine (fun p q ↦ p && !q) false false a b

/-- The points of exactly one of the sets. -/
def symmDiff (a b : CharSet) : CharSet := combine (fun p q ↦ p != q) false false a b

def unions (sets : List CharSet) : CharSet := sets.foldl union []

end CharSet

end MapStyle.Text
