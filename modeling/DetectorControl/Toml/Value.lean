/-!
# TOML values

A table remembers how it came about, because that decides how it may still grow: a table under its
own header is complete once the header is repeated, one that only a longer header or a dotted key
implied may get its own, and an inline table is closed.
-/

namespace DetectorControl.Toml

inductive Origin where
  /-- `[a]` -/
  | header
  /-- `a` of `[a.b]` -/
  | implied
  /-- `a` of `a.b = 1` -/
  | dotted
  /-- A table in braces. -/
  | inline
  deriving DecidableEq, Repr

inductive Value where
  | string (s : String)
  | int (i : Int)
  | float (x : Float)
  | bool (b : Bool)
  | datetime
  | array (items : List Value)
  /-- The tables under headers in double brackets, the last one first. -/
  | tables (items : List Value)
  | table (origin : Origin) (entries : List (String × Value))
  deriving Repr, Inhabited

abbrev Table := List (String × Value)

namespace Table

def find? (t : Table) (key : String) : Option Value :=
  (List.find? (·.1 == key) t).map (·.2)

/-- Replaces the value of a key, or adds it at the end. -/
def put (t : Table) (key : String) (v : Value) : Table :=
  match t with
  | [] => [(key, v)]
  | (k, v') :: rest => if k == key then (k, v) :: rest else (k, v') :: put rest key v

/-- Adds a key that must be new. -/
def add? (t : Table) (key : String) (v : Value) : Option Table :=
  if (t.find? key).isSome then none else some (t.put key v)

/-- Whether a path may lead through a table, or end at it. A dotted key must not reach into a table
that has its own header, nor end at one that a longer header implied; nothing reaches into an inline
table. -/
def isOpen (origin : Origin) (byDots atEnd : Bool) : Bool :=
  match origin with
  | .inline => false
  | .header => !byDots
  | .implied => !(byDots && atEnd)
  | .dotted => true

/-- Changes the table at the end of a path, and makes those on the way that are missing. A path
leads into the last of the tables under double brackets; a dotted key must not end there. -/
def change? (byDots : Bool) (f : Table → Option Table) : List String → Table → Option Table
  | [], t => f t
  | key :: path, t =>
    match t.find? key with
    | none => do
      let inner ← change? byDots f path []
      return t.put key (.table (if byDots then .dotted else .implied) inner)
    | some (.table origin inner) =>
      if isOpen origin byDots path.isEmpty then do
        let inner ← change? byDots f path inner
        return t.put key (.table origin inner)
      else none
    | some (.tables (.table origin inner :: earlier)) =>
      if byDots && path.isEmpty then none
      else do
        let inner ← change? byDots f path inner
        return t.put key (.tables (.table origin inner :: earlier))
    | some _ => none

/-- Adds a value under a dotted key. -/
def assign? (t : Table) (path : List String) (v : Value) : Option Table :=
  match path.getLast? with
  | none => none
  | some key => change? true (fun t => t.add? key v) path.dropLast t

/-- A header `[path]`. -/
def openTable? (t : Table) (path : List String) : Option Table :=
  match path.getLast? with
  | none => none
  | some key =>
    change? false (fun t =>
      match t.find? key with
      | none => some (t.put key (.table .header []))
      | some (.table .implied inner) => some (t.put key (.table .header inner))
      | some _ => none) path.dropLast t

/-- A header `[[path]]`. -/
def openTables? (t : Table) (path : List String) : Option Table :=
  match path.getLast? with
  | none => none
  | some key =>
    change? false (fun t =>
      match t.find? key with
      | none => some (t.put key (.tables [.table .header []]))
      | some (.tables items) => some (t.put key (.tables (.table .header [] :: items)))
      | some _ => none) path.dropLast t

/-- An assignment under the header that was opened last. -/
def assignUnder? (t : Table) (header path : List String) (v : Value) : Option Table :=
  change? false (fun t => t.assign? path v) header t

end Table

end DetectorControl.Toml
