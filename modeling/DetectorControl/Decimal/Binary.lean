/-!
# Binary numbers behind a float

A finite double is `± m * 2 ^ q` with `m < 2 ^ 53`. Everything that has to be exact about floats
(their integer part, their shortest decimal text, a time in whole nanoseconds) is computed on
`m` and `q` in integers.
-/

namespace DetectorControl.Decimal

/-- The number `± m * 2 ^ q`. -/
structure Binary where
  negative : Bool
  m : Nat
  q : Int
  deriving DecidableEq, Repr

/-- What a double stands for. -/
inductive Reading where
  | finite (b : Binary)
  | infinite (negative : Bool)
  | nan
  deriving DecidableEq, Repr

/-- The least `m` of a double that has all its bits, `2 ^ 52`. -/
def leastNormal : Nat := 0x10000000000000

/-- Splits the 64 bits into sign, 11 bits of exponent and 52 bits of fraction. -/
def Reading.ofBits (bits : Nat) : Reading :=
  let negative := bits / (leastNormal * 2048) % 2 == 1
  let e : Nat := bits / leastNormal % 2048
  let f : Nat := bits % leastNormal
  if e = 2047 then
    if f = 0 then .infinite negative else .nan
  else if e = 0 then .finite ⟨negative, f, -1074⟩
  else .finite ⟨negative, f + leastNormal, (e : Int) - 1075⟩

def Reading.ofFloat (x : Float) : Reading :=
  .ofBits x.toBits.toNat

namespace Binary

/-- The magnitude as a quotient `num / den`. -/
def num (b : Binary) : Nat := b.m * Nat.pow 2 b.q.toNat

def den (b : Binary) : Nat := Nat.pow 2 (-b.q).toNat

theorem den_pos (b : Binary) : 0 < b.den := Nat.two_pow_pos _

/-- The integer part: the fraction is dropped, so that the result lies toward zero. -/
def truncate (b : Binary) : Int :=
  if b.negative then -((b.num / b.den : Nat) : Int) else ((b.num / b.den : Nat) : Int)

end Binary

/-- `num / den` rounded to the nearest integer, a half to the even neighbour. -/
def roundHalfEven (num den : Nat) : Nat :=
  let d := num / den
  let r := 2 * (num % den)
  if r < den then d
  else if den < r then d + 1
  else if d % 2 = 0 then d else d + 1

end DetectorControl.Decimal
