import DetectorControl.Toml.Scalar

/-!
# TOML strings

The four forms of a quoted string: on one line or on several, with escapes or literally. Each reader
starts behind the opening quotes and returns the text and what follows the closing ones.
-/

namespace DetectorControl.Toml.Quoted

/-- Control characters that no string or comment may hold; line ends are dealt with before. -/
def isForbidden (c : Char) : Bool :=
  (c.toNat < 0x20 && c != '\t') || c.toNat == 0x7F

/-- The character of a code point; surrogates stand for none. -/
def char? (n : Nat) : Option Char :=
  if h : n.isValidChar then some (Char.ofNatAux n h) else none

/-- A character given by exactly `n` hexadecimal digits, and the rest. -/
def codePoint? (n : Nat) (cs : List Char) : Option (Char × List Char) := do
  let ds ← (cs.take n).mapM Text.hexDigit?
  if ds.length = n then
    let c ← char? (ds.foldl (fun a d => a * 16 + d) 0)
    return (c, cs.drop n)
  else none

/-- What follows a backslash: the character meant, and the rest. -/
def escape? : List Char → Option (Char × List Char)
  | 'b' :: cs => some (Char.ofNat 0x08, cs)
  | 't' :: cs => some ('\t', cs)
  | 'n' :: cs => some ('\n', cs)
  | 'f' :: cs => some (Char.ofNat 0x0C, cs)
  | 'r' :: cs => some ('\r', cs)
  | 'e' :: cs => some (Char.ofNat 0x1B, cs)
  | '"' :: cs => some ('"', cs)
  | '\\' :: cs => some ('\\', cs)
  | 'x' :: cs => codePoint? 2 cs
  | 'u' :: cs => codePoint? 4 cs
  | 'U' :: cs => codePoint? 8 cs
  | _ => none

/-- Blanks and line ends. -/
def isSpace (c : Char) : Bool := c == ' ' || c == '\t' || c == '\n' || c == '\r'

/-- Behind a backslash at the end of a line: blanks up to a line end, then all blanks and line ends
that follow. -/
def continuation? (cs : List Char) : Option (List Char) :=
  match cs.dropWhile fun c => c == ' ' || c == '\t' with
  | '\n' :: rest => some (rest.dropWhile isSpace)
  | '\r' :: '\n' :: rest => some (rest.dropWhile isSpace)
  | _ => none

/-- A string in double quotes. -/
def basic? (done : List Char) : (fuel : Nat) → List Char → Option (String × List Char)
  | 0, _ => none
  | fuel + 1, cs =>
    match cs with
    | [] => none
    | '"' :: rest => some (String.ofList done.reverse, rest)
    | '\\' :: rest =>
      match escape? rest with
      | none => none
      | some (c, rest) => basic? (c :: done) fuel rest
    | c :: rest => if isForbidden c then none else basic? (c :: done) fuel rest

/-- A string in single quotes. -/
def literal? (done : List Char) : List Char → Option (String × List Char)
  | [] => none
  | '\'' :: rest => some (String.ofList done.reverse, rest)
  | c :: rest => if isForbidden c then none else literal? (c :: done) rest

/-- The closing quotes of a string on several lines, of which up to two more belong to the text:
how many do, and the rest. -/
def closing? (quote : Char) : List Char → Option (Nat × List Char)
  | a :: b :: c :: rest =>
    if a = quote ∧ b = quote ∧ c = quote then
      match rest with
      | d :: e :: more =>
        if d = quote ∧ e = quote then some (2, more)
        else if d = quote then some (1, e :: more)
        else some (0, rest)
      | [d] => if d = quote then some (1, []) else some (0, rest)
      | [] => some (0, [])
    else none
  | _ => none

/-- A string on several lines; a line end in it is a line feed. -/
def lines? (quote : Char) (done : List Char) : (fuel : Nat) → List Char → Option (String × List Char)
  | 0, _ => none
  | fuel + 1, cs =>
    match closing? quote cs with
    | some (n, rest) => some (String.ofList (List.replicate n quote ++ done).reverse, rest)
    | none =>
      match cs with
      | [] => none
      | '\n' :: rest => lines? quote ('\n' :: done) fuel rest
      | '\r' :: '\n' :: rest => lines? quote ('\n' :: done) fuel rest
      | '\\' :: rest =>
        if quote = '"' then
          match continuation? rest with
          | some rest => lines? quote done fuel rest
          | none =>
            match escape? rest with
            | none => none
            | some (c, rest) => lines? quote (c :: done) fuel rest
        else lines? quote ('\\' :: done) fuel rest
      | c :: rest => if isForbidden c then none else lines? quote (c :: done) fuel rest

/-- A line end directly behind the opening quotes does not belong to the text. -/
def skipLineEnd : List Char → List Char
  | '\n' :: rest => rest
  | '\r' :: '\n' :: rest => rest
  | cs => cs

/-- A string of any form, from its first quote on. -/
def string? (fuel : Nat) : List Char → Option (String × List Char)
  | '"' :: '"' :: '"' :: rest => lines? '"' [] fuel (skipLineEnd rest)
  | '\'' :: '\'' :: '\'' :: rest => lines? '\'' [] fuel (skipLineEnd rest)
  | '"' :: rest => basic? [] fuel rest
  | '\'' :: rest => literal? [] rest
  | _ => none

end DetectorControl.Toml.Quoted
