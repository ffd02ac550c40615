import DetectorControl.Json.Token

/-!
# Trees of JSON texts

A text that follows the grammar has a tree. Objects keep all their members in order, and a string
or number that stands for no value is a leaf without one. A value is taken out of a tree afterwards,
so that what nobody asks for is only held to the grammar.
-/

namespace DetectorControl.Json

inductive Tree where
  | null
  | bool (b : Bool)
  | number (n : Option Number)
  | string (s : Option String)
  | array (items : List Tree)
  | object (members : List (Option String × Tree))
  deriving Repr, Inhabited

/-- An array or object that is still open, its latest part first. -/
inductive Enclosing where
  | items (done : List Tree)
  | members (done : List (Option String × Tree))
  | member (done : List (Option String × Tree)) (key : Option String)

/-- What may come next. -/
inductive Builder where
  | value (around : List Enclosing)
  | firstItem (around : List Enclosing)
  | firstKey (around : List Enclosing)
  | nextKey (done : List (Option String × Tree)) (around : List Enclosing)
  | colon (done : List (Option String × Tree)) (key : Option String) (around : List Enclosing)
  | separator (inner : Enclosing) (around : List Enclosing)
  | finished (t : Tree)

namespace Builder

/-- The state behind a whole value. -/
def complete (t : Tree) : List Enclosing → Builder
  | [] => .finished t
  | .items done :: around => .separator (.items (t :: done)) around
  | .member done key :: around => .separator (.members ((key, t) :: done)) around
  | .members done :: around => .separator (.members done) around

/-- A token where a value has to begin. -/
def begin? (around : List Enclosing) : Token → Option Builder
  | .open false => some (.firstItem around)
  | .open true => some (.firstKey around)
  | .null => some (complete .null around)
  | .bool b => some (complete (.bool b) around)
  | .number n => some (complete (.number n) around)
  | .string s => some (complete (.string s) around)
  | _ => none

def step? (s : Builder) (token : Token) : Option Builder :=
  match s, token with
  | .value around, token => begin? around token
  | .firstItem around, .close false => some (complete (.array []) around)
  | .firstItem around, token => begin? (.items [] :: around) token
  | .firstKey around, .close true => some (complete (.object []) around)
  | .firstKey around, .string key => some (.colon [] key around)
  | .nextKey done around, .string key => some (.colon done key around)
  | .colon done key around, .colon => some (.value (.member done key :: around))
  | .separator (.items done) around, .comma => some (.value (.items done :: around))
  | .separator (.items done) around, .close false => some (complete (.array done.reverse) around)
  | .separator (.members done) around, .comma => some (.nextKey done around)
  | .separator (.members done) around, .close true => some (complete (.object done.reverse) around)
  | _, _ => none

def run? (s : Builder) : List Token → Option Builder
  | [] => some s
  | token :: rest =>
    match s.step? token with
    | none => none
    | some s => run? s rest

end Builder

namespace Tree

/-- The tree of a text; `none` if it does not follow the grammar. -/
def parse? (text : Bytes) : Option Tree := do
  match ← (Builder.value []).run? (← tokens? text) with
  | .finished t => some t
  | _ => none

mutual

/-- The value of a tree in which arrays and objects are nested at most `depth` deep. Of members
with the same key the last one counts. -/
def value? (depth : Nat) : Tree → Option Json
  | .null => some .null
  | .bool b => some (.bool b)
  | .number n => n.map .number
  | .string s => s.map .string
  | .array items =>
    match depth with
    | 0 => none
    | depth + 1 => (values? depth [] items).map .array
  | .object members =>
    match depth with
    | 0 => none
    | depth + 1 => (fields? depth [] members).map .object

/-- The values of the items, behind those read so far, the last of which is first. -/
def values? (depth : Nat) (done : List Json) : List Tree → Option (List Json)
  | [] => some done.reverse
  | t :: ts =>
    match value? depth t with
    | none => none
    | some v => values? depth (v :: done) ts

def fields? (depth : Nat) (done : Fields) : List (Option String × Tree) → Option Fields
  | [] => some done
  | (key, t) :: ms =>
    match key, value? depth t with
    | some key, some v => fields? depth (done.insert key v) ms
    | _, _ => none

end

mutual

/-- The tree of a value. -/
def ofValue : Json → Tree
  | .null => .null
  | .bool b => .bool b
  | .number n => .number (some n)
  | .string s => .string (some s)
  | .array items => .array (ofValues [] items)
  | .object members => .object (ofMembers [] members)

/-- The trees of the items, behind those made so far, the last of which is first. -/
def ofValues (done : List Tree) : List Json → List Tree
  | [] => done.reverse
  | v :: vs => ofValues (ofValue v :: done) vs

def ofMembers (done : List (Option String × Tree)) :
    List (String × Json) → List (Option String × Tree)
  | [] => done.reverse
  | (k, v) :: ms => ofMembers ((some k, ofValue v) :: done) ms

end

end Tree

/-- Arrays and objects may be nested this deep in a text. -/
def depthLimit : Nat := 127

/-- The value of a text. -/
def parse? (text : Bytes) : Option Json := do
  (← Tree.parse? text).value? depthLimit

end DetectorControl.Json
