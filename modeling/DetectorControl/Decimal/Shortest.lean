import DetectorControl.Decimal.Binary

/-!
# Shortest decimals

The shortest decimal that reads back as a given double, and among those of that length the nearest.
A decimal `d * 10 ^ k` reads back as `m * 2 ^ q` iff it lies in the interval of reals that round to
it, so the coarsest grid `10 ^ k` with a point in that interval carries the shortest decimals; of
a grid only the two neighbours of the value have to be tried.
-/

namespace DetectorControl.Decimal

/-- The positive decimal `digits * 10 ^ exponent`. -/
structure Digits where
  digits : Nat
  exponent : Int
  deriving DecidableEq, Repr

/-- How a value exactly half way between two decimals of the coarsest grid is written. -/
inductive Tie where
  | even
  | up
  deriving DecidableEq, Repr

/-- The reals that round to `value / den`, as the numerators of their bounds over the same
denominator. The bounds belong to it iff `closed`. -/
structure Interval where
  low : Nat
  value : Nat
  high : Nat
  den : Nat
  closed : Bool

namespace Interval

/-- Below a power of two the neighbours are half as far away as above it. -/
def ofBinary (b : Binary) : Interval :=
  let unit := Nat.pow 2 (b.q - 2).toNat
  let below := if b.m = leastNormal ∧ -1074 < b.q then 1 else 2
  { low := (4 * b.m - below) * unit
    value := 4 * b.m * unit
    high := (4 * b.m + 2) * unit
    den := Nat.pow 2 (2 - b.q).toNat
    closed := b.m % 2 = 0 }

/-- Bounds and value in units of `10 ^ k`. -/
def scale (i : Interval) (k : Int) : Interval :=
  let up := Nat.pow 10 (-k).toNat
  { i with
    low := i.low * up
    value := i.value * up
    high := i.high * up
    den := i.den * Nat.pow 10 k.toNat }

/-- Whether the integer `d` lies in the interval. -/
def contains (i : Interval) (d : Nat) : Bool :=
  if i.closed then i.low ≤ d * i.den && d * i.den ≤ i.high
  else i.low < d * i.den && d * i.den < i.high

/-- The nearest integer in the interval, of the value's two neighbours. -/
def nearest? (i : Interval) (tie : Tie) : Option Nat :=
  let d := i.value / i.den
  let r := 2 * (i.value % i.den)
  let upper : Bool := match compare r i.den with
    | .lt => false
    | .gt => true
    | .eq => tie == .up || d % 2 == 1
  match i.contains d, i.contains (d + 1) with
  | true, true => some (if upper then d + 1 else d)
  | true, false => some d
  | false, true => some (d + 1)
  | false, false => none

/-- Tries the grids `10 ^ k`, `10 ^ (k - 1)`, …, at most `tries` of them. -/
def coarsest? (i : Interval) (tie : Tie) : (tries : Nat) → (k : Int) → Option Digits
  | 0, _ => none
  | tries + 1, k =>
    match (i.scale k).nearest? tie with
    | some (d + 1) => some ⟨d + 1, k⟩
    | _ => coarsest? i tie tries (k - 1)

end Interval

/-- The shortest decimal that reads back as the magnitude of `b`; `none` for zero. The first grid
is coarser than the value (`2 ^ 10 < 10 ^ 4`, so `0.302` digits go to a bit), and seventeen digits
are always enough. -/
def shortest? (b : Binary) (tie : Tie) : Option Digits :=
  if b.m = 0 then none
  else
    let bits : Int := Nat.log2 b.m + 1 + b.q
    (Interval.ofBinary b).coarsest? tie 24 (bits * 302 / 1000 + 2)

end DetectorControl.Decimal
