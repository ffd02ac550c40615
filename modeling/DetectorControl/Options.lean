import DetectorControl.Bounds
import DetectorControl.Json.Printer
import DetectorControl.Json.Record
import DetectorControl.Text.Blank

/-!
# Command options

The `option` object of a request, and reading a number, an integer or a text out of it. An option
that is `null` counts as missing. Numbers may come as text.
-/

namespace DetectorControl

structure Options where
  map : Fields
  deriving BEq, Repr, Inhabited

inductive OptionError where
  | missing (key : String)
  /-- `value` is the JSON text of what could not be used. -/
  | invalid (key value : String)
  deriving DecidableEq, Repr

namespace OptionError

def kind : OptionError → String
  | missing _ => "Missing"
  | invalid .. => "Invalid"

def message : OptionError → String
  | missing key => "missing option '" ++ key ++ "'"
  | invalid key value => "invalid option '" ++ key ++ "' (" ++ value ++ ")"

end OptionError

namespace Options

def empty : Options := ⟨[]⟩

def ofPairs (pairs : List (String × Json)) : Options := ⟨Entries.ofList pairs⟩

def toJson (o : Options) : Json := .object o.map

def get? (o : Options) (key : String) : Option Json :=
  (Entries.get? o.map key).filter fun v => !v.isNull

/-- The number that a value stands for, if it is finite. -/
def numberOf? (v : Json) : Option Float :=
  let x? := match v with
    | .number n => some n.toFloat
    | .string s => Decimal.readText? (Text.trim s)
    | _ => none
  x?.filter Float.isFinite

def number (o : Options) (key : String) : Except OptionError Float :=
  match o.get? key with
  | none => .error (.missing key)
  | some v =>
    match numberOf? v with
    | some x => .ok x
    | none => .error (.invalid key v.compact)

/-- The integer part of a number, if 64 bits hold it. -/
def integerOf? (x : Float) : Option Int :=
  match Decimal.Reading.ofFloat x with
  | .finite b => if Bounds.least64 ≤ b.truncate ∧ b.truncate ≤ Bounds.greatest64 then some b.truncate else none
  | _ => none

/-- A number without its fraction. -/
def integer (o : Options) (key : String) : Except OptionError Int := do
  let x ← o.number key
  match integerOf? x with
  | some i => .ok i
  | none => .error (.invalid key (Json.float x).compact)

def string (o : Options) (key : String) : Except OptionError String :=
  match o.get? key with
  | none => .error (.missing key)
  | some (.string s) => .ok s
  | some v => .error (.invalid key v.compact)

/-- Options in a text, `depth` levels of which are left. -/
def ofTree? (depth : Nat) : Json.Tree → Option Options
  | .object members =>
    match Json.Tree.value? depth (.object members) with
    | some (.object fields) => some ⟨fields⟩
    | _ => none
  | _ => none

end Options

end DetectorControl
