import DetectorControl.Bytes
import DetectorControl.Json.Value
import DetectorControl.Decimal.Literal

/-!
# Tokens of JSON texts

A text is read byte by byte by an automaton whose state is the token that it stands in. Strings and
numbers that are spelled correctly but stand for no value (half a surrogate pair, bytes that are no
UTF-8, a number too large for a double) are tokens without a value: they are errors only where the
value is wanted.
-/

namespace DetectorControl.Json

inductive Token where
  | open (object : Bool)
  | close (object : Bool)
  | comma
  | colon
  | null
  | bool (b : Bool)
  | number (n : Option Number)
  | string (s : Option String)
  deriving Repr

/-- The contents of a string so far: its bytes, the last first; the first half of a surrogate pair
whose other half has to follow; whether all of it stands for text. -/
structure Contents where
  bytes : Bytes := []
  high : Option Nat := none
  sound : Bool := true
  deriving Repr

namespace Contents

def isHigh (unit : Nat) : Bool := 0xD800 ≤ unit && unit < 0xDC00

def isLow (unit : Nat) : Bool := 0xDC00 ≤ unit && unit < 0xE000

/-- Anything but the second half of an open pair leaves the first half alone. -/
def settle (c : Contents) : Contents :=
  if c.high.isSome then { c with high := none, sound := false } else c

def addByte (c : Contents) (b : UInt8) : Contents :=
  { c.settle with bytes := b :: c.bytes }

def addChar (c : Contents) (x : Char) : Contents :=
  { c with bytes := (String.utf8EncodeChar x).reverse ++ c.bytes }

/-- Adds a UTF-16 unit that was given by its number. -/
def addUnit (c : Contents) (unit : Nat) : Contents :=
  match c.high with
  | some high =>
    if isLow unit then
      { c with high := none }.addChar (Char.ofNat (0x10000 + (high - 0xD800) * 0x400 + (unit - 0xDC00)))
    else c.settle
  | none =>
    if isHigh unit then { c with high := some unit }
    else if isLow unit then { c with sound := false }
    else c.addChar (Char.ofNat unit)

def toString? (c : Contents) : Option String :=
  if c.settle.sound then Bytes.toString? c.bytes.reverse else none

end Contents

/-- The parts of a number so far, the last digit of each first. -/
structure Numeral where
  negative : Bool := false
  whole : List Nat := []
  fraction : List Nat := []
  /-- Whether there is a point or an exponent. -/
  fractional : Bool := false
  exponentNegative : Bool := false
  exponent : List Nat := []
  deriving Repr

namespace Numeral

/-- Exponents above this one are all the same. -/
def exponentLimit : Nat := 2147483647

/-- Integers of 64 bits, with or without sign, stay integers; all other numbers are floats, and so
is a zero with a minus sign. -/
def value? (n : Numeral) : Option Number :=
  let whole := n.whole.reverse
  let i := (Decimal.appendDigits 0 whole 0).1
  let fits : Bool := (Decimal.appendDigits 0 whole 0).2.2 == 0
  if !n.fractional && fits && (!n.negative || (0 < i && i ≤ Bounds.least64.natAbs)) then
    some (.int (if n.negative then -(i : Int) else i))
  else
    let e : Int := Decimal.ofDigitsUpTo 10 exponentLimit n.exponent.reverse
    let spelling : Decimal.Spelling :=
      ⟨whole, n.fraction.reverse, if n.exponentNegative then -e else e⟩
    (spelling.quick?).map fun x => .float (if n.negative then -x else x)

end Numeral

/-- Where in a number the reader stands: behind the sign, a leading zero, a digit, the point, a
digit of the fraction, the exponent mark, its sign, a digit of the exponent. -/
inductive Place where
  | sign | zero | whole | point | fraction | mark | markSign | exponent
  deriving DecidableEq, Repr

/-- The token that the reader stands in. -/
inductive Scanner where
  | between
  /-- A name, of which the given letters have to follow. -/
  | name (rest : Bytes) (token : Token)
  | string (c : Contents)
  /-- Behind a backslash. -/
  | escape (c : Contents)
  /-- Inside the four digits of a unit: those still to come, and the number that the others make. -/
  | unit (c : Contents) (left : Nat) (high : Nat)
  | number (place : Place) (n : Numeral)
  deriving Repr

namespace Scanner

def isBlank (b : UInt8) : Bool := b == 0x20 || b == 0x0A || b == 0x0D || b == 0x09

def digit? (b : UInt8) : Option Nat :=
  if 0x30 ≤ b && b ≤ 0x39 then some (b.toNat - 0x30) else none

def hexDigit? (b : UInt8) : Option Nat :=
  if 0x30 ≤ b && b ≤ 0x39 then some (b.toNat - 0x30)
  else if 0x61 ≤ b && b ≤ 0x66 then some (b.toNat - 0x57)
  else if 0x41 ≤ b && b ≤ 0x46 then some (b.toNat - 0x37)
  else none

/-- The state behind the first byte of a token, and the token if that byte is all of it. -/
def start? (b : UInt8) : Option (Scanner × Option Token) :=
  if isBlank b then some (.between, none)
  else if b = 0x7B then some (.between, some (.open true))
  else if b = 0x7D then some (.between, some (.close true))
  else if b = 0x5B then some (.between, some (.open false))
  else if b = 0x5D then some (.between, some (.close false))
  else if b = 0x2C then some (.between, some .comma)
  else if b = 0x3A then some (.between, some .colon)
  else if b = 0x22 then some (.string {}, none)
  else if b = 0x6E then some (.name [0x75, 0x6C, 0x6C] .null, none)
  else if b = 0x74 then some (.name [0x72, 0x75, 0x65] (.bool true), none)
  else if b = 0x66 then some (.name [0x61, 0x6C, 0x73, 0x65] (.bool false), none)
  else if b = 0x2D then some (.number .sign { negative := true }, none)
  else match digit? b with
    | some 0 => some (.number .zero { whole := [0] }, none)
    | some d => some (.number .whole { whole := [d] }, none)
    | none => none

/-- What one more byte does to a number; `none` if the number ends before it. -/
def extend (place : Place) (n : Numeral) (b : UInt8) : Option (Place × Numeral) :=
  let isMark : Bool := b == 0x65 || b == 0x45
  match place, digit? b with
  | .sign, some 0 => some (.zero, { n with whole := [0] })
  | .sign, some d => some (.whole, { n with whole := [d] })
  | .whole, some d => some (.whole, { n with whole := d :: n.whole })
  | .point, some d => some (.fraction, { n with fraction := [d] })
  | .fraction, some d => some (.fraction, { n with fraction := d :: n.fraction })
  | .mark, some d => some (.exponent, { n with exponent := [d] })
  | .markSign, some d => some (.exponent, { n with exponent := [d] })
  | .exponent, some d => some (.exponent, { n with exponent := d :: n.exponent })
  | .mark, none =>
    if b = 0x2B then some (.markSign, n)
    else if b = 0x2D then some (.markSign, { n with exponentNegative := true })
    else none
  | .zero, none | .whole, none =>
    if b = 0x2E then some (.point, { n with fractional := true })
    else if isMark then some (.mark, { n with fractional := true })
    else none
  | .fraction, none => if isMark then some (.mark, n) else none
  | _, _ => none

/-- The token of a number that ends at the given place. -/
def finish? (place : Place) (n : Numeral) : Option Token :=
  match place with
  | .zero | .whole | .fraction | .exponent => some (.number n.value?)
  | _ => none

/-- Reads one byte: the next state and the tokens that end with it or before it. -/
def step? (s : Scanner) (b : UInt8) : Option (Scanner × List Token) :=
  match s with
  | .between => (start? b).map fun (s, t) => (s, t.toList)
  | .name [] _ => none
  | .name (c :: rest) token =>
    if b = c then
      match rest with
      | [] => some (.between, [token])
      | _ => some (.name rest token, [])
    else none
  | .string c =>
    if b = 0x22 then some (.between, [.string c.toString?])
    else if b = 0x5C then some (.escape c, [])
    else if b < 0x20 then none
    else some (.string (c.addByte b), [])
  | .escape c =>
    if b = 0x75 then some (.unit c 4 0, [])
    else
      let c := c.settle
      if b = 0x22 || b = 0x5C || b = 0x2F then some (.string (c.addByte b), [])
      else if b = 0x62 then some (.string (c.addByte 0x08), [])
      else if b = 0x66 then some (.string (c.addByte 0x0C), [])
      else if b = 0x6E then some (.string (c.addByte 0x0A), [])
      else if b = 0x72 then some (.string (c.addByte 0x0D), [])
      else if b = 0x74 then some (.string (c.addByte 0x09), [])
      else none
  | .unit c left high =>
    match hexDigit? b with
    | none => none
    | some d =>
      match left with
      | 0 | 1 => some (.string (c.addUnit (high * 16 + d)), [])
      | left + 2 => some (.unit c (left + 1) (high * 16 + d), [])
  | .number place n =>
    match extend place n b with
    | some (place, n) => some (.number place n, [])
    | none => do
      let token ← finish? place n
      let (s, t) ← start? b
      return (s, token :: t.toList)

/-- Tokens still open at the end of the text. -/
def stop? : Scanner → Option (List Token)
  | .between => some []
  | .number place n => (finish? place n).map ([·])
  | _ => none

/-- Reads the rest of a text; `tokens` are those read so far, the last first. -/
def run? (s : Scanner) (tokens : List Token) : Bytes → Option (List Token)
  | [] => s.stop?.map fun ts => (ts.reverse ++ tokens).reverse
  | b :: rest =>
    match s.step? b with
    | none => none
    | some (s, ts) => run? s (ts.reverse ++ tokens) rest

end Scanner

/-- The tokens of a text. -/
def tokens? (text : Bytes) : Option (List Token) :=
  Scanner.between.run? [] text

end DetectorControl.Json
