import DetectorControl.Entries
import DetectorControl.Decimal.Binary

/-!
# JSON values

Numbers keep apart what was written as an integer and what was written as a float. The members of
an object are a list: increasing by key in every value that was read, in the order of writing in a
value that is made to be written.
-/

namespace DetectorControl

/-- An integer of `-2 ^ 63` to `2 ^ 64 - 1`, or a finite float. -/
inductive Number where
  | int (i : Int)
  | float (x : Float)
  deriving BEq, Repr

namespace Number

/-- The nearest double. -/
def toFloat : Number → Float
  | .float x => x
  | .int i => if i < 0 then -i.natAbs.toUInt64.toFloat else i.natAbs.toUInt64.toFloat

end Number

inductive Json where
  | null
  | bool (b : Bool)
  | number (n : Number)
  | string (s : String)
  | array (items : List Json)
  | object (members : List (String × Json))
  deriving BEq, Repr, Inhabited

/-- The members of an object. -/
abbrev Fields := Entries String Json

namespace Json

def isNull : Json → Bool
  | .null => true
  | _ => false

def int (i : Int) : Json :=
  .number (.int i)

def nat (n : Nat) : Json :=
  .int n

/-- A float; JSON has no number for one that is not finite. -/
def float (x : Float) : Json :=
  if x.isFinite then .number (.float x) else .null

def ofOption (f : α → Json) : Option α → Json
  | none => .null
  | some a => f a

mutual

/-- The value with the members of every object increasing by key. -/
def sorted : Json → Json
  | .array items => .array (sortedItems items)
  | .object members => .object (sortedMembers [] members)
  | v => v

def sortedItems : List Json → List Json
  | [] => []
  | v :: vs => sorted v :: sortedItems vs

def sortedMembers (done : Fields) : List (String × Json) → Fields
  | [] => done
  | (k, v) :: ms => sortedMembers (Entries.insert k (sorted v) done) ms

end

/-- The member of an object with the given key. -/
def get? (key : String) : Json → Option Json
  | .object members => Entries.get? members key
  | _ => none

end Json

end DetectorControl
