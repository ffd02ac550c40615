/-!
# Faults of JSON texts

Why a text is not what was expected, and where in the text that shows.
-/

namespace DetectorControl.Json

/-- A line of a text, the first being 1, and a number of bytes of that line. -/
structure Position where
  line : Nat
  column : Nat
  deriving DecidableEq, Repr

/-- What is wrong with a text. The `end` flaws are those of a text that stops too early, by what it
stops in. -/
inductive Flaw where
  | endOfArray
  | endOfObject
  | endOfString
  | endOfValue
  | noColon
  /-- Neither a comma nor the end stands behind an item. -/
  | noItemEnd
  /-- Neither a comma nor the end stands behind a member. -/
  | noMemberEnd
  /-- A word that begins like `null`, `true` or `false` goes on in another way. -/
  | wrongWord
  | noValue
  | wrongEscape
  | wrongNumber
  /-- No double is as large as a number. -/
  | largeNumber
  /-- The bytes of a string are no UTF-8. -/
  | wrongBytes
  | controlCharacter
  | keyNotString
  /-- Half a surrogate pair stands alone, or the halves are out of order. -/
  | halfPair
  /-- The second half of a surrogate pair does not follow the first. -/
  | openPair
  | trailingComma
  | trailingText
  | tooDeep
  | mismatch (found expected : String)
  /-- A part of a record is given twice. -/
  | repeated (key : String)
  /-- A value that is held in memory is not what was expected. -/
  | unfit
  deriving DecidableEq, Repr

def Flaw.message : Flaw → String
  | endOfArray => "EOF while parsing a list"
  | endOfObject => "EOF while parsing an object"
  | endOfString => "EOF while parsing a string"
  | endOfValue => "EOF while parsing a value"
  | noColon => "expected `:`"
  | noItemEnd => "expected `,` or `]`"
  | noMemberEnd => "expected `,` or `\x7d`"
  | wrongWord => "expected ident"
  | noValue => "expected value"
  | wrongEscape => "invalid escape"
  | wrongNumber => "invalid number"
  | largeNumber => "number out of range"
  | wrongBytes => "invalid unicode code point"
  | controlCharacter => "control character (\\u0000-\\u001F) found while parsing a string"
  | keyNotString => "key must be a string"
  | halfPair => "lone leading surrogate in hex escape"
  | openPair => "unexpected end of hex escape"
  | trailingComma => "trailing comma"
  | trailingText => "trailing characters"
  | tooDeep => "recursion limit exceeded"
  | mismatch found expected => "invalid type: " ++ found ++ ", expected " ++ expected
  | repeated key => "duplicate field `" ++ key ++ "`"
  | unfit => "unexpected value"

structure Fault where
  flaw : Flaw
  position : Option Position := none
  deriving DecidableEq, Repr

namespace Fault

def message (f : Fault) : String :=
  match f.position with
  | some p => f.flaw.message ++ " at line " ++ toString p.line ++ " column " ++ toString p.column
  | none => f.flaw.message

/-- The fault of a value that does not stand in a text. -/
def unfit : Fault := ⟨.unfit, none⟩

end Fault

end DetectorControl.Json
