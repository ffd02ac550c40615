import DetectorControl.Json.Value
import DetectorControl.Decimal.Layout

/-!
# Writing JSON

The compact text of a value, and the indented one. Both extend a text that is written already, so
that long arrays and long strings are written in one pass.
-/

namespace DetectorControl

def Number.write : Number → String
  | .int i => toString i
  | .float x =>
    match Decimal.Reading.ofFloat x with
    | .finite b => Decimal.Layout.json.write b
    | _ => "null"

namespace Json

def hexDigit (n : Nat) : Char :=
  if n < 10 then Char.ofNat ('0'.toNat + n) else Char.ofNat ('a'.toNat + (n - 10))

/-- How a character stands inside a string: quotes, backslashes and control characters are escaped. -/
def escape (c : Char) : List Char :=
  if c = '"' then ['\\', '"']
  else if c = '\\' then ['\\', '\\']
  else if 0x20 ≤ c.toNat then [c]
  else if c = '\n' then ['\\', 'n']
  else if c = '\r' then ['\\', 'r']
  else if c = '\t' then ['\\', 't']
  else if c.toNat = 0x08 then ['\\', 'b']
  else if c.toNat = 0x0C then ['\\', 'f']
  else ['\\', 'u', '0', '0', hexDigit (c.toNat / 16), hexDigit (c.toNat % 16)]

def writeString (out : String) (s : String) : String :=
  (s.toList.foldl (fun out c => (escape c).foldl String.push out) (out.push '"')).push '"'

mutual

/-- Appends the compact text of a value. -/
def write (out : String) : Json → String
  | .null => out ++ "null"
  | .bool b => out ++ (if b then "true" else "false")
  | .number n => out ++ n.write
  | .string s => writeString out s
  | .array [] => out ++ "[]"
  | .array (v :: vs) => (writeItems (write (out.push '[') v) vs).push ']'
  | .object [] => out ++ "\x7b\x7d"
  | .object ((k, v) :: ms) => (writeMembers (write ((writeString (out.push '\x7b') k).push ':') v) ms).push '\x7d'

/-- Appends the items behind the first. -/
def writeItems (out : String) : List Json → String
  | [] => out
  | v :: vs => writeItems (write (out.push ',') v) vs

/-- Appends the members behind the first. -/
def writeMembers (out : String) : List (String × Json) → String
  | [] => out
  | (k, v) :: ms => writeMembers (write ((writeString (out.push ',') k).push ':') v) ms

end

/-- The compact text. -/
def compact (v : Json) : String :=
  write "" v

/-- A new line, indented by two spaces for each level. -/
def newLine (out : String) (level : Nat) : String :=
  (List.replicate (2 * level) ' ').foldl String.push (out.push '\n')

mutual

/-- Appends the indented text of a value that stands at the given level. -/
def writeIndented (level : Nat) (out : String) : Json → String
  | .null => out ++ "null"
  | .bool b => out ++ (if b then "true" else "false")
  | .number n => out ++ n.write
  | .string s => writeString out s
  | .array [] => out ++ "[]"
  | .array (v :: vs) =>
    let out := writeIndented (level + 1) (newLine (out.push '[') (level + 1)) v
    (newLine (writeItemsIndented level out vs) level).push ']'
  | .object [] => out ++ "\x7b\x7d"
  | .object ((k, v) :: ms) =>
    let out := writeString (newLine (out.push '\x7b') (level + 1)) k ++ ": "
    let out := writeIndented (level + 1) out v
    (newLine (writeMembersIndented level out ms) level).push '\x7d'

def writeItemsIndented (level : Nat) (out : String) : List Json → String
  | [] => out
  | v :: vs =>
    writeItemsIndented level (writeIndented (level + 1) (newLine (out.push ',') (level + 1)) v) vs

def writeMembersIndented (level : Nat) (out : String) : List (String × Json) → String
  | [] => out
  | (k, v) :: ms =>
    let out := writeString (newLine (out.push ',') (level + 1)) k ++ ": "
    writeMembersIndented level (writeIndented (level + 1) out v) ms

end

/-- The text with one member or item to a line. -/
def pretty (v : Json) : String :=
  writeIndented 0 "" v

end Json

end DetectorControl
