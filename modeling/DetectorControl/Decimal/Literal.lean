import DetectorControl.Bounds
import DetectorControl.Decimal.Binary

/-!
# Reading decimals

Two ways from digits to a double. `nearest` rounds correctly. `scaled` is the quick way in which
numbers of JSON texts are read: the leading digits as a 64-bit integer, then one multiplication or
division by a power of ten, which may be off in the last bit. `readText?` is the grammar of numbers
that come as text.
-/

namespace DetectorControl.Decimal

/-- `digits * 10 ^ exponent` rounded to the nearest double. The exponent is cut where the result is
infinite or zero anyway. -/
def nearest (digits : Nat) (exponent : Int) : Float :=
  if digits = 0 then 0
  else
    let e : Int := exponent + (Nat.log2 digits + 1 : Nat) * 301 / 1000
    if 310 < e then 1 / 0
    else if e < -330 then 0
    else Float.ofScientific digits (exponent < 0) exponent.natAbs

def powerOfTen (n : Nat) : Float :=
  Float.ofScientific 1 false n

/-- `x / 10 ^ n`, in steps of at most `10 ^ 308`. -/
def scaleDown (x : Float) (n : Nat) : Float :=
  if n ≤ 308 then x / powerOfTen n
  else if x == 0 then x
  else scaleDown (x / powerOfTen 308) (n - 308)
  termination_by n

/-- The magnitude `significand * 10 ^ exponent`; `none` if it is too large. -/
def scaled (significand : UInt64) (exponent : Int) : Option Float :=
  let x := significand.toFloat
  if exponent < 0 then some (scaleDown x exponent.natAbs)
  else if exponent ≤ 308 then
    let y := x * powerOfTen exponent.toNat
    if y.isInf then none else some y
  else if x == 0 then some x
  else none

/-- Appends digits while the significand fits into 64 bits; the second part counts the digits that
were appended, and the third those left over. -/
def appendDigits (significand : Nat) (digits : List Nat) (taken : Nat) : Nat × Nat × Nat :=
  match digits with
  | [] => (significand, taken, 0)
  | d :: rest =>
    if significand * 10 + d ≤ Bounds.natural64 then appendDigits (significand * 10 + d) rest (taken + 1)
    else (significand, taken, rest.length + 1)

def ofDigits (digits : List Nat) : Nat :=
  digits.foldl (fun n d => n * 10 + d) 0

/-- The number that digits of a base spell, of which none is looked at once `limit` is passed. -/
def ofDigitsUpTo (base limit : Nat) (digits : List Nat) : Nat :=
  digits.foldl (fun n d => if n ≤ limit then n * base + d else n) 0

/-- The number that the digits of an exponent spell; those behind a number of 65536 or more are left
out. -/
def exponentOf (digits : List Nat) : Nat :=
  ofDigitsUpTo 10 65535 digits

/-- An unsigned decimal as it is spelled: the digits before and after the point, and the exponent. -/
structure Spelling where
  whole : List Nat
  fraction : List Nat
  exponent : Int
  deriving DecidableEq, Repr

namespace Spelling

/-- Enough digits to round correctly: a double's neighbours differ within the first 800. -/
def significant : Nat := 800

/-- All digits as one integer and its exponent. Digits past the first 800 only tell whether the
value lies above those. -/
def digits (s : Spelling) : Nat × Int :=
  let all := (s.whole ++ s.fraction).dropWhile (· == 0)
  let kept := all.take significant
  let dropped := all.drop significant
  let e := s.exponent - s.fraction.length
  if dropped.all (· == 0) then (ofDigits kept, e + dropped.length)
  else (ofDigits kept * 10 + 1, e + dropped.length - 1)

/-- The nearest double. -/
def toFloat (s : Spelling) : Float :=
  nearest s.digits.1 s.digits.2

/-- The double that the quick way gives; `none` if it is too large. -/
def quick? (s : Spelling) : Option Float :=
  let (w, _, left) := appendDigits 0 s.whole 0
  let (f, taken, _) := appendDigits w s.fraction 0
  scaled f.toUInt64 (s.exponent + left - taken)

end Spelling

/-- The leading digits of a text, and what follows them. -/
def takeDigits (cs : List Char) : List Nat × List Char :=
  ((cs.takeWhile Char.isDigit).map fun c => c.toNat - '0'.toNat, cs.dropWhile Char.isDigit)

/-- A sign, if there is one: whether it is a minus, and what follows. -/
def takeSign : List Char → Bool × List Char
  | '-' :: cs => (true, cs)
  | '+' :: cs => (false, cs)
  | cs => (false, cs)

/-- An exponent mark with digits, or nothing. -/
def readExponent? : List Char → Option Int
  | [] => some 0
  | c :: cs =>
    if c = 'e' ∨ c = 'E' then
      let (negative, cs) := takeSign cs
      match takeDigits cs with
      | ([], _) => none
      | (ds, []) => some (if negative then -(exponentOf ds : Int) else exponentOf ds)
      | (_, _ :: _) => none
    else none

/-- Digits, a point and digits, an exponent; a digit stands before or behind the point. -/
def readSpelling? (cs : List Char) : Option Spelling := do
  let (whole, cs) := takeDigits cs
  let (fraction, cs) := match cs with
    | '.' :: rest => takeDigits rest
    | _ => ([], cs)
  if whole.isEmpty && fraction.isEmpty then none
  else some ⟨whole, fraction, ← readExponent? cs⟩

/-- The names of values that are not finite, in letters of either case. -/
def readName? (cs : List Char) : Option Float :=
  match String.ofList (cs.map Char.toLower) with
  | "inf" => some (1 / 0)
  | "infinity" => some (1 / 0)
  | "nan" => some (0 / 0)
  | _ => none

/-- The double that a whole text spells. -/
def readText? (s : String) : Option Float :=
  let (negative, cs) := takeSign s.toList
  let magnitude := (readName? cs).orElse fun _ => (readSpelling? cs).map Spelling.toFloat
  magnitude.map fun x => if negative then -x else x

end DetectorControl.Decimal
