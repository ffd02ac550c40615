import DetectorControl.Toml.Quoted

/-!
# TOML documents

A document is read line by line into one table. Arrays and inline tables may be nested eighty deep,
and no key has more than eighty parts.
-/

namespace DetectorControl.Toml

/-- Arrays and inline tables may be nested this deep. -/
def nestingLimit : Nat := 80

/-- A key may have this many parts. -/
def partLimit : Nat := 80

namespace Document

def skipBlanks (cs : List Char) : List Char :=
  cs.dropWhile fun c => c == ' ' || c == '\t'

/-- Behind a number sign: up to the end of the line, which is left. -/
def comment? : List Char → Option (List Char)
  | [] => some []
  | '\n' :: rest => some ('\n' :: rest)
  | '\r' :: '\n' :: rest => some ('\r' :: '\n' :: rest)
  | c :: rest => if Quoted.isForbidden c then none else comment? rest

/-- Blanks and a comment, then the end of the line or of the text. -/
def endLine? (cs : List Char) : Option (List Char) := do
  let cs ← match skipBlanks cs with
    | '#' :: rest => comment? rest
    | cs => some cs
  match cs with
  | [] => some []
  | '\n' :: rest => some rest
  | '\r' :: '\n' :: rest => some rest
  | _ => none

/-- Blanks, comments and line ends inside an array or inline table. -/
def skipSpace? : (fuel : Nat) → List Char → Option (List Char)
  | 0, _ => none
  | fuel + 1, cs =>
    match skipBlanks cs with
    | '#' :: rest => (comment? rest).bind (skipSpace? fuel)
    | '\n' :: rest => skipSpace? fuel rest
    | '\r' :: '\n' :: rest => skipSpace? fuel rest
    | cs => some cs

def isBareChar (c : Char) : Bool := c.isAlphanum || c == '_' || c == '-'

/-- One part of a key. -/
def simpleKey? (fuel : Nat) (cs : List Char) : Option (String × List Char) :=
  match cs with
  | '"' :: rest => Quoted.basic? [] fuel rest
  | '\'' :: rest => Quoted.literal? [] rest
  | _ =>
    match cs.takeWhile isBareChar with
    | [] => none
    | key => some (String.ofList key, cs.dropWhile isBareChar)

/-- A key of at most `limit` parts with dots between them, and blanks around each part. -/
def key? (fuel : Nat) : (limit : Nat) → List Char → Option (List String × List Char)
  | 0, _ => none
  | limit + 1, cs => do
    let (part, cs) ← simpleKey? fuel (skipBlanks cs)
    match skipBlanks cs with
    | '.' :: rest => do
      let (path, rest) ← key? fuel limit rest
      return (part :: path, rest)
    | rest => return ([part], rest)

mutual

/-- A value in which arrays and inline tables are nested at most `depth` deep. -/
def value? (depth : Nat) : (fuel : Nat) → List Char → Option (Value × List Char)
  | 0, _ => none
  | fuel + 1, cs =>
    match cs with
    | '"' :: _ | '\'' :: _ => (Quoted.string? fuel cs).map fun (s, rest) => (.string s, rest)
    | '[' :: rest =>
      match depth with
      | 0 => none
      | depth + 1 => items? depth [] fuel rest
    | '\x7b' :: rest =>
      match depth with
      | 0 => none
      | depth + 1 => entries? depth [] fuel rest
    | _ =>
      let (word, rest) := Scalar.takeWord cs
      (Scalar.ofWord? word).map fun v => (v, rest)

/-- The items of an array behind those read so far, the last of which is first. -/
def items? (depth : Nat) (done : List Value) : (fuel : Nat) → List Char → Option (Value × List Char)
  | 0, _ => none
  | fuel + 1, cs => do
    match ← skipSpace? fuel cs with
    | ']' :: rest => return (.array done.reverse, rest)
    | cs =>
      let (v, cs) ← value? depth fuel cs
      match ← skipSpace? fuel cs with
      | ',' :: rest => items? depth (v :: done) fuel rest
      | ']' :: rest => return (.array (v :: done).reverse, rest)
      | _ => none

/-- The entries of an inline table behind those read so far. -/
def entries? (depth : Nat) (done : Table) : (fuel : Nat) → List Char → Option (Value × List Char)
  | 0, _ => none
  | fuel + 1, cs => do
    match ← skipSpace? fuel cs with
    | '\x7d' :: rest => return (.table .inline done, rest)
    | cs =>
      let (path, cs) ← key? fuel partLimit cs
      match ← skipSpace? fuel cs with
      | '=' :: cs =>
        let (v, cs) ← value? depth fuel (← skipSpace? fuel cs)
        let done ← done.assign? path v
        match ← skipSpace? fuel cs with
        | ',' :: rest => entries? depth done fuel rest
        | '\x7d' :: rest => return (.table .inline done, rest)
        | _ => none
      | _ => none

end

/-- The closing brackets of a header and the end of its line. -/
def closeHeader? (brackets : Nat) (cs : List Char) : Option (List Char) :=
  if (cs.take brackets) = List.replicate brackets ']' then endLine? (cs.drop brackets) else none

/-- Reads the lines that follow. `header` is the path of the header that was opened last. -/
def lines? (root : Table) (header : List String) : (fuel : Nat) → List Char → Option Table
  | 0, _ => none
  | fuel + 1, cs =>
    match skipBlanks cs with
    | [] => some root
    | '#' :: _ | '\n' :: _ | '\r' :: _ => (endLine? cs).bind (lines? root header fuel)
    | '[' :: '[' :: rest => do
      let (path, rest) ← key? fuel partLimit rest
      let rest ← closeHeader? 2 rest
      lines? (← root.openTables? path) path fuel rest
    | '[' :: rest => do
      let (path, rest) ← key? fuel partLimit rest
      let rest ← closeHeader? 1 rest
      lines? (← root.openTable? path) path fuel rest
    | cs => do
      let (path, rest) ← key? fuel partLimit cs
      match rest with
      | '=' :: rest =>
        let (v, rest) ← value? nestingLimit fuel (skipBlanks rest)
        let rest ← endLine? rest
        lines? (← root.assignUnder? header path v) header fuel rest
      | _ => none

/-- The byte order mark. -/
def mark : Char := '\uFEFF'

/-- The table of a text. -/
def parse? (text : String) : Option Table :=
  let cs := text.toList
  let cs := if cs.head? = some mark then cs.tail else cs
  lines? [] [] (2 * cs.length + 3) cs

end Document

namespace Value

/-! ## Records -/

/-- The items of an array, written in brackets or as tables under headers. -/
def items? : Value → Option (List Value)
  | .array items => some items
  | .tables items => some items.reverse
  | _ => none

/-- The parts of a record, by name out of a table or by position out of an array, of which items
past the last part are not looked at. The second component tells whether parts can be missing
because the record was a table. A `closed` record has no other names; a date has a name of its own. -/
def record? (closed : Bool) (names : List String) : Value → Option (Bool × List (Option Value))
  | .table _ entries =>
    if closed && entries.any fun e => !names.contains e.1 then none
    else some (true, names.map fun name => Table.find? entries name)
  | .datetime => if closed then none else some (true, names.map fun _ => none)
  | v => v.items?.map fun items =>
    (false, (items.take names.length).map some ++ List.replicate (names.length - items.length) none)

/-- A part that may be missing. -/
def orElse {α : Type} (part : Option Value) (default : α) (read? : Value → Option α) : Option α :=
  match part with
  | none => some default
  | some v => read? v

/-- A part that may be missing from a table, but not from an array. -/
def ifGiven {α : Type} (byName : Bool) (part : Option Value) (read? : Value → Option α) :
    Option (Option α) :=
  match part with
  | none => if byName then some none else none
  | some v => (read? v).map some

def string? : Value → Option String
  | .string s => some s
  | _ => none

/-- A float, or an integer of 64 bits. -/
def float? : Value → Option Float
  | .float x => some x
  | .int i =>
    if Bounds.least64 ≤ i ∧ i ≤ Bounds.natural64 then
      some (if i < 0 then -i.natAbs.toUInt64.toFloat else i.natAbs.toUInt64.toFloat)
    else none
  | _ => none

def nat? (high : Nat) : Value → Option Nat
  | .int i => if 0 ≤ i ∧ i ≤ high then some i.toNat else none
  | _ => none

def list? {α : Type} (read? : Value → Option α) (v : Value) : Option (List α) :=
  v.items?.bind fun items => items.mapM read?

def entries? {α : Type} (read? : Value → Option α) : Value → Option (List (String × α))
  | .table _ entries => entries.mapM fun e => (read? e.2).map fun a => (e.1, a)
  | _ => none

/-- The name chosen by a string, or by a table that maps it to something empty. -/
def choice? : Value → Option String
  | .string s => some s
  | .table _ [(name, .table _ [])] | .table _ [(name, .array [])] => some name
  | _ => none

end Value

end DetectorControl.Toml
