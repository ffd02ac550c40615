import DetectorControl.Toml.Value
import DetectorControl.Decimal.Literal
import DetectorControl.Text.Digit

/-!
# TOML scalars

Numbers, booleans, dates and times, as the word that a value consists of.
-/

namespace DetectorControl.Toml

open DetectorControl.Decimal (Spelling)

namespace Scalar

/-- Digits of a base with single underscores between them, at least one; and the rest. -/
def digits? (base : Nat) : List Char → Option (List Nat × List Char)
  | c :: cs =>
    match Text.digit? base c with
    | none => none
    | some d => go [d] cs
  | [] => none
where
  go (done : List Nat) : List Char → Option (List Nat × List Char)
    | '_' :: c :: cs =>
      match Text.digit? base c with
      | none => none
      | some d => go (d :: done) cs
    | c :: cs =>
      match Text.digit? base c with
      | none => some (done.reverse, c :: cs)
      | some d => go (d :: done) cs
    | [] => some (done.reverse, [])

/-- Digits before a point or exponent, without leading zeros. -/
def whole? (cs : List Char) : Option (List Nat × List Char) :=
  match digits? 10 cs with
  | some (0 :: _ :: _, _) => none
  | r => r

def exponent? (cs : List Char) : Option Int :=
  let (negative, cs) := Decimal.takeSign cs
  match digits? 10 cs with
  | some (ds, []) =>
    some (if negative then -(Decimal.exponentOf ds : Int) else Decimal.exponentOf ds)
  | _ => none

/-- A fraction, an exponent, or both; at least one of them. -/
def tail? : List Char → Option (List Nat × Int)
  | '.' :: cs =>
    match digits? 10 cs with
    | some (fraction, []) => some (fraction, 0)
    | some (fraction, c :: cs) =>
      if c = 'e' ∨ c = 'E' then (exponent? cs).map fun e => (fraction, e) else none
    | none => none
  | c :: cs => if c = 'e' ∨ c = 'E' then (exponent? cs).map fun e => ([], e) else none
  | [] => none

/-- The least integer of 128 bits, one of which is the sign. -/
def least128 : Int := -170141183460469231731687303715884105728

/-- The greatest integer of 128 bits. -/
def natural128 : Int := 340282366920938463463374607431768211455

/-- Integers are kept as long as 128 bits hold them. -/
def int? (i : Int) : Option Value :=
  if least128 ≤ i ∧ i ≤ natural128 then some (.int i) else none

/-- The integer of some digits, which may have a minus sign in front. -/
def ofDigits? (negative : Bool) (base : Nat) (digits : List Nat) : Option Value :=
  let n : Int := Decimal.ofDigitsUpTo base natural128.toNat digits
  int? (if negative then -n else n)

/-- All of a word as the digits of a base. -/
def number? (base : Nat) (cs : List Char) : Option Value :=
  match digits? base cs with
  | some (ds, []) => ofDigits? false base ds
  | _ => none

/-- A decimal integer or a float behind its sign. A float must not be too large. -/
def decimal? (negative : Bool) (cs : List Char) : Option Value :=
  match whole? cs with
  | none => none
  | some (whole, []) => ofDigits? negative 10 whole
  | some (whole, rest) => do
    let (fraction, e) ← tail? rest
    let x := Spelling.toFloat ⟨whole, fraction, e⟩
    if x.isInf then none else some (.float (if negative then -x else x))

/-- What may follow a sign. -/
def signed? (negative : Bool) (cs : List Char) : Option Value :=
  if cs = ['i', 'n', 'f'] then some (.float (if negative then -(1 / 0) else 1 / 0))
  else if cs = ['n', 'a', 'n'] then some (.float (0 / 0))
  else decimal? negative cs

/-! ## Dates and times -/

/-- Exactly `n` digits. -/
def fixed? (n : Nat) (cs : List Char) : Option (Nat × List Char) :=
  if (cs.take n).length = n ∧ (cs.take n).all Char.isDigit then
    some (Decimal.ofDigits ((cs.take n).map fun c => c.toNat - '0'.toNat), cs.drop n)
  else none

def literal? (c : Char) : List Char → Option (List Char)
  | x :: cs => if x = c then some cs else none
  | [] => none

def isLeap (year : Nat) : Bool :=
  year % 4 == 0 && (year % 100 != 0 || year % 400 == 0)

def daysIn (year month : Nat) : Nat :=
  if month = 2 then (if isLeap year then 29 else 28)
  else if month = 4 ∨ month = 6 ∨ month = 9 ∨ month = 11 then 30
  else 31

/-- A date, and the rest. -/
def date? (cs : List Char) : Option (List Char) := do
  let (year, cs) ← fixed? 4 cs
  let (month, cs) ← fixed? 2 (← literal? '-' cs)
  let (day, cs) ← fixed? 2 (← literal? '-' cs)
  if 1 ≤ month ∧ month ≤ 12 ∧ 1 ≤ day ∧ day ≤ daysIn year month then some cs else none

/-- A fraction of a second, if there is one. -/
def fraction? : List Char → Option (List Char)
  | '.' :: cs =>
    if (cs.takeWhile Char.isDigit).isEmpty then none else some (cs.dropWhile Char.isDigit)
  | cs => some cs

/-- A time of day, with or without seconds; and the rest. -/
def time? (cs : List Char) : Option (List Char) := do
  let (hour, cs) ← fixed? 2 cs
  let (minute, cs) ← fixed? 2 (← literal? ':' cs)
  if 23 < hour ∨ 59 < minute then none
  else match cs with
    | ':' :: cs => do
      let (second, cs) ← fixed? 2 cs
      if 60 < second then none else fraction? cs
    | cs => some cs

/-- An offset from UTC up to the end of the word, or nothing. -/
def isOffset : List Char → Bool
  | [] => true
  | ['Z'] | ['z'] => true
  | c :: cs =>
    if c = '+' ∨ c = '-' then
      match (do
        let (hour, cs) ← fixed? 2 cs
        let (minute, cs) ← fixed? 2 (← literal? ':' cs)
        if hour ≤ 23 ∧ minute ≤ 59 then some cs else none) with
      | some [] => true
      | _ => false
    else false

def isDatetime (cs : List Char) : Bool :=
  match date? cs with
  | some [] => true
  | some (c :: cs) =>
    if c = 'T' ∨ c = 't' ∨ c = ' ' then
      match time? cs with
      | some rest => isOffset rest
      | none => false
    else false
  | none => time? cs == some []

/-! ## Words -/

/-- The value that a word stands for. -/
def ofWord? (cs : List Char) : Option Value :=
  match cs with
  | '+' :: rest => signed? false rest
  | '-' :: rest => signed? true rest
  | '0' :: 'x' :: rest => number? 16 rest
  | '0' :: 'o' :: rest => number? 8 rest
  | '0' :: 'b' :: rest => number? 2 rest
  | _ =>
    if cs = ['t', 'r', 'u', 'e'] then some (.bool true)
    else if cs = ['f', 'a', 'l', 's', 'e'] then some (.bool false)
    else if isDatetime cs then some .datetime
    else signed? false cs

def isWordChar (c : Char) : Bool :=
  c.isAlphanum || c == '_' || c == '-' || c == '+' || c == '.' || c == ':'

/-- The word at the front of a text, and the rest. A date and a time may be separated by a space. -/
def takeWord (cs : List Char) : List Char × List Char :=
  let word := cs.takeWhile isWordChar
  let rest := cs.dropWhile isWordChar
  match date? word, rest with
  | some [], ' ' :: c :: more =>
    if c.isDigit then
      (word ++ ' ' :: (c :: more).takeWhile isWordChar, (c :: more).dropWhile isWordChar)
    else (word, rest)
  | _, _ => (word, rest)

end Scalar

end DetectorControl.Toml
