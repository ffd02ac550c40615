import DetectorControl.Decimal.Shortest

/-!
# How a float is written

Two layouts of the shortest decimal are in use: the one of numbers in JSON texts, and the plain one
of numbers inside messages, which never has an exponent.
-/

namespace DetectorControl.Decimal

/-- The decisions of a layout. -/
structure Layout where
  /-- Whether a value in `[10 ^ e, 10 ^ (e + 1))` is written without an exponent. -/
  positional : (e : Int) → Bool
  /-- What follows an integer that is written without an exponent. -/
  whole : String
  tie : Tie

namespace Layout

/-- Floats of JSON texts keep a fraction, and take an exponent below `1e-5` and from `1e16` on. -/
def json : Layout where
  positional e := -5 ≤ e && e < 16
  whole := ".0"
  tie := .even

/-- Floats inside messages: all their digits, and no fraction on integers. -/
def plain : Layout where
  positional _ := true
  whole := ""
  tie := .up

/-- `n` zeros. -/
def zeros (n : Nat) : String :=
  String.ofList (List.replicate n '0')

def writePositional (l : Layout) (d : Digits) : String :=
  let cs := (toString d.digits).toList
  if 0 ≤ d.exponent then toString d.digits ++ zeros d.exponent.toNat ++ l.whole
  else
    let places := (-d.exponent).toNat
    if places < cs.length then
      String.ofList (cs.take (cs.length - places)) ++ "." ++ String.ofList (cs.drop (cs.length - places))
    else "0." ++ zeros (places - cs.length) ++ toString d.digits

/-- One digit, the others behind a point, and a signed exponent. -/
def writeScientific (d : Digits) (e : Int) : String :=
  let cs := (toString d.digits).toList
  let fraction := if cs.length ≤ 1 then "" else "." ++ String.ofList (cs.drop 1)
  String.ofList (cs.take 1) ++ fraction ++ "e" ++ (if e < 0 then "-" else "+") ++ toString e.natAbs

def writeMagnitude (l : Layout) (b : Binary) : String :=
  match shortest? b l.tie with
  | none => "0" ++ l.whole
  | some d =>
    let e := d.exponent + (toString d.digits).length - 1
    if l.positional e then l.writePositional d else writeScientific d e

def write (l : Layout) (b : Binary) : String :=
  if b.negative then "-" ++ l.writeMagnitude b else l.writeMagnitude b

end Layout

/-- A float inside a message. -/
def text (x : Float) : String :=
  match Reading.ofFloat x with
  | .nan => "NaN"
  | .infinite negative => if negative then "-inf" else "inf"
  | .finite b => Layout.plain.write b

end DetectorControl.Decimal
