import MapStyle.Decimal.Basic
/-!
# The fewest digits that read back

The reals that round to a double form an interval around it, which reaches half way to either
neighbour and includes its ends when the mantissa is even. The shortest decimal of a double is the
one on the coarsest decimal grid that has a point in that interval, and of two such points the
nearer one. A point of a grid that lies in the interval has the value's own two neighbours on that
grid at most as far away, so only those two are tried.
-/

namespace MapStyle.Decimal

/-- Which of two equally near decimals is taken. -/
inductive Tie where
  | toEven
  | awayFromZero
  deriving Repr, DecidableEq

/-- Compares `a * 10 ^ i` with `n * 2 ^ j`, exactly. -/
def compareScaled (a : Nat) (i : Int) (n : Nat) (j : Int) : Ordering :=
  compare (a * Nat.pow 10 i.toNat * Nat.pow 2 (-j).toNat)
    (n * Nat.pow 2 j.toNat * Nat.pow 10 (-i).toNat)

/-- Whether the decimal rounds to the double with the given mantissa and exponent. The neighbour
below a power of two is half as far away as the one above, which `narrow` says. -/
def readsBack (m : Nat) (e : Int) (narrow : Bool) (d : Decimal) : Bool :=
  let low := if narrow then 4 * m - 1 else 4 * m - 2
  let high := 4 * m + 2
  let closed := m % 2 = 0
  let below := compareScaled d.digits d.exponent low (e - 2)
  let above := compareScaled d.digits d.exponent high (e - 2)
  (below = .gt || (closed && below = .eq)) && (above = .lt || (closed && above = .eq))

/-- The greatest multiple of `10 ^ scale` that is at most `m * 2 ^ e`, in units of `10 ^ scale`. -/
def floorOn (m : Nat) (e scale : Int) : Nat :=
  (m * Nat.pow 2 e.toNat * Nat.pow 10 (-scale).toNat) /
    (Nat.pow 2 (-e).toNat * Nat.pow 10 scale.toNat)

/-- Of the two neighbours of `m * 2 ^ e` on the grid of `10 ^ scale`, the one that reads back and
is nearer. -/
def onGrid (tie : Tie) (m : Nat) (e : Int) (narrow : Bool) (scale : Int) : Option Decimal :=
  let lower := floorOn m e scale
  let low : Decimal := ⟨lower, scale⟩
  let high : Decimal := ⟨lower + 1, scale⟩
  let lowFits := lower ≠ 0 && readsBack m e narrow low
  let highFits := readsBack m e narrow high
  if lowFits && highFits then
    -- the middle of the two neighbours is half a unit above the lower one
    match compareScaled (2 * lower + 1) scale m (e + 1) with
    | .gt => some low
    | .lt => some high
    | .eq => match tie with
      | .awayFromZero => some high
      | .toEven => some (if lower % 2 = 0 then low else high)
  else if lowFits then some low
  else if highFits then some high
  else none

/-- The least `k` with `m * 2 ^ e < 10 ^ k`: the number of places before the point. -/
def magnitude (m : Nat) (e : Int) : Int :=
  -- the logarithm is estimated a little low, then corrected upwards by at most three steps
  let estimate := ((m.log2 : Int) + e) * 30103 / 100000 - 1
  let reaches (k : Int) : Bool := compareScaled 1 k m e = .gt
  if reaches estimate then estimate
  else if reaches (estimate + 1) then estimate + 1
  else if reaches (estimate + 2) then estimate + 2
  else estimate + 3

/-- The decimal without its trailing zeros; `fuel` bounds their number. -/
def strip : Nat → Decimal → Decimal
  | 0, d => d
  | fuel + 1, d =>
    if d.digits % 10 = 0 && d.digits ≠ 0 then strip fuel ⟨d.digits / 10, d.exponent + 1⟩ else d

/-- The exact decimal value of `m * 2 ^ e`. -/
def exact (m : Nat) (e : Int) : Decimal :=
  if 0 ≤ e then ⟨m * Nat.pow 2 e.toNat, 0⟩ else ⟨m * Nat.pow 5 (-e).toNat, e⟩

/-- The shortest decimal that reads back as the absolute value of a finite double. -/
def shortest (tie : Tie) (x : Float) : Decimal :=
  let m := Binary64.mantissa x
  let e := Binary64.exponent x
  if m = 0 then ⟨0, 0⟩
  else
    let narrow := Binary64.fraction x = 0 && 1 < Binary64.biasedExponent x
    let k := magnitude m e
    let found := (List.range 17).findSome? fun n ↦ onGrid tie m e narrow (k - (n + 1 : Nat))
    strip 400 (found.getD (exact m e))

end MapStyle.Decimal
