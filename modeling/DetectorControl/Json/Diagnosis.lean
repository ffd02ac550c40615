import DetectorControl.Json.Fault
import DetectorControl.Json.Printer
import DetectorControl.Json.Token
import DetectorControl.Text.Escaped

/-!
# Finding the fault of a text

A text that was refused is read once more from the front, now with an eye on where it is no longer
what it should be. `Fault.find?` is the first such place. A fault is placed behind the byte that
shows it, or, where nothing is wrong with the bytes of a value but with its kind, behind the value.
-/

namespace DetectorControl.Json

/-- What a value has to be. -/
inductive Shape where
  | any
  /-- A string or `null`. -/
  | text
  /-- A name, as a string or as the key of an object that maps it to `null`. -/
  | choice
  deriving DecidableEq, Repr

/-- What a text is read for: an object with the given name, some of whose members have a shape and
come at most once. Without a name it may be anything. -/
structure Expectation where
  name : Option String := none
  parts : List (String × Shape) := []
  deriving Repr

/-- What is left of a text, and where it begins. -/
structure Cursor where
  rest : Bytes
  line : Nat := 1
  column : Nat := 0
  deriving Repr

namespace Cursor

/-- Steps over one byte, if there is one. -/
def next (c : Cursor) : Cursor :=
  match c.rest with
  | [] => c
  | b :: rest =>
    if b = 0x0A then { rest, line := c.line + 1, column := 0 }
    else { c with rest, column := c.column + 1 }

/-- A fault in front of the next byte. -/
def fault (c : Cursor) (flaw : Flaw) : Fault := ⟨flaw, some ⟨c.line, c.column⟩⟩

/-- A fault that the next byte shows, or the end of the text. -/
def faultAhead (c : Cursor) (flaw : Flaw) : Fault := c.next.fault flaw

def skipBlanks (c : Cursor) : Cursor := go c.line c.column c.rest
where
  go (line column : Nat) : Bytes → Cursor
    | [] => ⟨[], line, column⟩
    | b :: rest =>
      if b = 0x0A then go (line + 1) 0 rest
      else if Scanner.isBlank b then go line (column + 1) rest
      else ⟨b :: rest, line, column⟩

end Cursor

namespace Diagnosis

/-! ## Strings, numbers and words -/

/-- Four hexadecimal digits. -/
def unit (c : Cursor) : Except Fault (Nat × Cursor) :=
  let behind := c.next.next.next.next
  match c.rest with
  | b₁ :: b₂ :: b₃ :: b₄ :: _ =>
    match [b₁, b₂, b₃, b₄].mapM Scanner.hexDigit? with
    | some ds => .ok (ds.foldl (fun n d => n * 16 + d) 0, behind)
    | none => .error (behind.fault .wrongEscape)
  | _ => .error (behind.fault .endOfString)

/-- A given byte inside a string; another one has the given flaw. -/
def byte (expected : UInt8) (flaw : Flaw) (c : Cursor) : Except Fault Cursor :=
  match c.rest with
  | [] => .error (c.fault .endOfString)
  | b :: _ => if b = expected then .ok c.next else .error (c.faultAhead flaw)

/-- The contents of a string with a unit that was given by its number, which may be the first half of
a pair. -/
def character (s : Contents) (c : Cursor) : Except Fault (Contents × Cursor) := do
  let (n, c) ← unit c
  if Contents.isLow n then .error (c.fault .halfPair)
  else if Contents.isHigh n then
    let c ← byte 0x5C .openPair c
    let c ← byte 0x75 .openPair c
    let (m, c) ← unit c
    if Contents.isLow m then .ok ((s.addUnit n).addUnit m, c) else .error (c.fault .halfPair)
  else .ok (s.addUnit n, c)

/-- Behind a backslash. -/
def escape (s : Contents) (c : Cursor) : Except Fault (Contents × Cursor) :=
  match c.rest with
  | [] => .error (c.fault .endOfString)
  | b :: _ =>
    if b = 0x75 then character s c.next
    else
      match Scanner.step? (.escape s) b with
      | some (.string s, _) => .ok (s, c.next)
      | _ => .error (c.faultAhead .wrongEscape)

/-- The text of a string, behind its opening quote. -/
def string (s : Contents) : (fuel : Nat) → Cursor → Except Fault (String × Cursor)
  | 0, c => .error (c.fault .endOfString)
  | fuel + 1, c =>
    match c.rest with
    | [] => .error (c.fault .endOfString)
    | b :: _ =>
      if b = 0x22 then
        match s.toString? with
        | some text => .ok (text, c.next)
        | none => .error (c.faultAhead .wrongBytes)
      else if b = 0x5C then
        match escape s c.next with
        | .error f => .error f
        | .ok (s, c) => string s fuel c
      else if b < 0x20 then .error (c.faultAhead .controlCharacter)
      else string (s.addByte b) fuel c.next

/-- Whether an exponent makes a number too large however many zeros stand behind its point. -/
def isTooLarge (n : Numeral) (exponent : Nat) : Bool :=
  Numeral.exponentLimit < exponent && !n.exponentNegative && (n.whole ++ n.fraction).any (· != 0)

/-- The rest of a number, behind a part that ends at the given place. -/
def number (place : Place) (n : Numeral) (exponent : Nat) : (fuel : Nat) → Cursor → Except Fault (Number × Cursor)
  | 0, c => .error (c.fault .wrongNumber)
  | fuel + 1, c =>
    match c.rest.head?.bind (Scanner.extend place n) with
    | some (place, n) =>
      let exponent := if exponent ≤ Numeral.exponentLimit then
        exponent * 10 + n.exponent.headD 0 else exponent
      if isTooLarge n exponent then .error (c.faultAhead .largeNumber)
      else number place n exponent fuel c.next
    | none =>
      let zeroLeads := place = .zero && (c.rest.head?.bind Scanner.digit?).isSome
      match Scanner.finish? place n with
      | some (.number value) =>
        if zeroLeads then .error (c.faultAhead .wrongNumber)
        else match value with
          | some value => .ok (value, c)
          | none => .error (c.fault .largeNumber)
      | _ => .error (c.faultAhead (if c.rest.isEmpty then .endOfValue else .wrongNumber))

/-- The rest of a word. -/
def word (letters : Bytes) (c : Cursor) : Except Fault Cursor :=
  match letters, c.rest with
  | [], _ => .ok c
  | _ :: _, [] => .error (c.fault .endOfValue)
  | letter :: letters, b :: _ =>
    if b = letter then word letters c.next else .error (c.faultAhead .wrongWord)

/-- A value that is neither an array nor an object. -/
def scalar (fuel : Nat) (c : Cursor) : Except Fault (Json × Cursor) :=
  match c.rest.head?.bind Scanner.start? with
  | some (.name letters (.bool b), _) => (word letters c.next).map fun c => (.bool b, c)
  | some (.name letters _, _) => (word letters c.next).map fun c => (.null, c)
  | some (.string s, _) => (string s fuel c.next).map fun (s, c) => (.string s, c)
  | some (.number place n, _) => (number place n 0 fuel c.next).map fun (n, c) => (.number n, c)
  | _ => .error (c.faultAhead .noValue)

/-! ## Kinds of values -/

def describe : Json → String
  | .null => "null"
  | .bool b => "boolean `" ++ (if b then "true" else "false") ++ "`"
  | .number (.int i) => "integer `" ++ toString i ++ "`"
  | .number (.float x) => "floating point `" ++ (Number.float x).write ++ "`"
  | .string s => "string " ++ Text.escaped s
  | .array _ => "sequence"
  | .object _ => "map"

/-- The fault of a value that begins here and is of another kind than expected. -/
def mismatch (expected : String) (fuel : Nat) (c : Cursor) : Fault :=
  match c.rest with
  | [] => c.fault .endOfValue
  | b :: _ =>
    if b = 0x5B then c.fault (.mismatch (describe (.array [])) expected)
    else if b = 0x7B then c.fault (.mismatch (describe (.object [])) expected)
    else
      match scalar fuel c with
      | .ok (v, c) => c.fault (.mismatch (describe v) expected)
      | .error f => f

/-- A string. -/
def text (expected : String) (fuel : Nat) (c : Cursor) : Except Fault (String × Cursor) :=
  let c := c.skipBlanks
  if c.rest.head? = some 0x22 then string {} fuel c.next
  else .error (mismatch expected fuel c)

/-- `null`. -/
def null (expected : String) (fuel : Nat) (c : Cursor) : Except Fault Cursor :=
  let c := c.skipBlanks
  if c.rest.head? = some 0x6E then (scalar fuel c).map (·.2)
  else .error (mismatch expected fuel c)

/-- The colon behind a key. -/
def colon (c : Cursor) : Except Fault Cursor :=
  let c := c.skipBlanks
  match c.rest with
  | [] => .error (c.fault .endOfObject)
  | b :: _ => if b = 0x3A then .ok c.next else .error (c.faultAhead .noColon)

/-- A string or `null`. -/
def optionalText (fuel : Nat) (c : Cursor) : Except Fault Cursor :=
  let c := c.skipBlanks
  if c.rest.head? = some 0x6E then null "" fuel c else (text "a string" fuel c).map (·.2)

/-- A name, or an object that maps a name to `null`. -/
def choice (fuel : Nat) (c : Cursor) : Except Fault Cursor := do
  let c := c.skipBlanks
  match c.rest with
  | [] => .error (c.fault .endOfValue)
  | b :: _ =>
    if b = 0x22 then (text "" fuel c).map (·.2)
    else if b = 0x7B then
      let (_, c) ← text "variant identifier" fuel c.next
      let c ← null "unit" fuel (← colon c)
      let c := c.skipBlanks
      match c.rest with
      | [] => .error (c.fault .endOfObject)
      | b :: _ => if b = 0x7D then .ok c.next else .error (c.fault .noValue)
    else .error (c.faultAhead .noValue)

/-! ## Arrays and objects -/

/-- Where the next item or member begins. -/
inductive Entry where
  | last (behind : Cursor)
  | here (c : Cursor)

/-- What stands in front of an item: nothing for the first one, and a comma for the others. -/
def item (first : Bool) (c : Cursor) : Except Fault Entry :=
  let c := c.skipBlanks
  match c.rest with
  | [] => .error (c.fault .endOfArray)
  | b :: _ =>
    if b = 0x5D then .ok (.last c.next)
    else if first then .ok (.here c)
    else if b = 0x2C then
      let c := c.next.skipBlanks
      match c.rest with
      | [] => .error (c.fault .endOfValue)
      | b :: _ => if b = 0x5D then .error (c.faultAhead .trailingComma) else .ok (.here c)
    else .error (c.faultAhead .noItemEnd)

/-- What stands in front of a member. -/
def member (first : Bool) (c : Cursor) : Except Fault Entry :=
  let c := c.skipBlanks
  match c.rest with
  | [] => .error (c.fault .endOfObject)
  | b :: _ =>
    if b = 0x7D then .ok (.last c.next)
    else if first then
      if b = 0x22 then .ok (.here c) else .error (c.faultAhead .keyNotString)
    else if b = 0x2C then
      let c := c.next.skipBlanks
      match c.rest with
      | [] => .error (c.fault .endOfValue)
      | b :: _ =>
        if b = 0x22 then .ok (.here c)
        else if b = 0x7D then .error (c.faultAhead .trailingComma)
        else .error (c.faultAhead .keyNotString)
    else .error (c.faultAhead .noMemberEnd)

/-- The place behind a key that comes for the second time. -/
def behindKey (c : Cursor) : Cursor :=
  let c := c.skipBlanks
  if c.rest.head? = some 0x7D then c.next else c

mutual

/-- A value in which arrays and objects are nested at most `depth` deep. -/
def value (depth : Nat) : (fuel : Nat) → Cursor → Except Fault Cursor
  | 0, c => .error (c.fault .endOfValue)
  | fuel + 1, c =>
    let c := c.skipBlanks
    match c.rest with
    | [] => .error (c.fault .endOfValue)
    | b :: _ =>
      if b = 0x5B then
        match depth with
        | 0 => .error (c.faultAhead .tooDeep)
        | depth + 1 => items depth true fuel c.next
      else if b = 0x7B then
        match depth with
        | 0 => .error (c.faultAhead .tooDeep)
        | depth + 1 => members depth [] [] true fuel c.next
      else (scalar fuel c).map (·.2)

def items (depth : Nat) (first : Bool) : (fuel : Nat) → Cursor → Except Fault Cursor
  | 0, c => .error (c.fault .endOfArray)
  | fuel + 1, c =>
    match item first c with
    | .error f => .error f
    | .ok (.last behind) => .ok behind
    | .ok (.here c) =>
      match value depth fuel c with
      | .error f => .error f
      | .ok c => items depth false fuel c

/-- The members of an object. Those of `parts` have a shape, and those of `seen` have come. -/
def members (depth : Nat) (parts : List (String × Shape)) (seen : List String) (first : Bool) :
    (fuel : Nat) → Cursor → Except Fault Cursor
  | 0, c => .error (c.fault .endOfObject)
  | fuel + 1, c =>
    match member first c with
    | .error f => .error f
    | .ok (.last behind) => .ok behind
    | .ok (.here c) =>
      match text "" fuel c with
      | .error f => .error f
      | .ok (key, c) =>
        if seen.contains key then .error ((behindKey c).fault (.repeated key))
        else
          let shape := (parts.lookup key).getD .any
          let seen := if parts.any fun p => p.1 == key then key :: seen else seen
          let after : Except Fault Cursor :=
            match colon c, shape with
            | .error f, _ => .error f
            | .ok c, .any => value depth fuel c
            | .ok c, .text => optionalText fuel c
            | .ok c, .choice => choice fuel c
          match after with
          | .error f => .error f
          | .ok c => members depth parts seen false fuel c

end

/-- What a text is read for, nested at most `depth` deep. -/
def document (depth : Nat) (e : Expectation) (fuel : Nat) (c : Cursor) : Except Fault Cursor :=
  match e.name with
  | none => value depth fuel c
  | some name =>
    let c := c.skipBlanks
    if c.rest.head? = some 0x7B then
      match depth with
      | 0 => .error (c.faultAhead .tooDeep)
      | depth + 1 => members depth e.parts [] true fuel c.next
    else .error (mismatch name fuel c)

/-- Behind the value nothing but blanks may stand. -/
def whole (depth : Nat) (e : Expectation) (text : Bytes) : Except Fault Unit :=
  match document depth e (2 * text.length + 2) { rest := text } with
  | .error f => .error f
  | .ok c =>
    let c := c.skipBlanks
    if c.rest.isEmpty then .ok () else .error (c.faultAhead .trailingText)

end Diagnosis

/-- The fault of a text in which arrays and objects are nested at most `depth` deep. -/
def Fault.find? (depth : Nat) (e : Expectation) (text : Bytes) : Option Fault :=
  match Diagnosis.whole depth e text with
  | .error f => some f
  | .ok () => none

end DetectorControl.Json
