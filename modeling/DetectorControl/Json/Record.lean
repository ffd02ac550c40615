import DetectorControl.Json.Tree

/-!
# Records in JSON texts

How the parts of a record are taken out of a tree. A record is an object, whose members come in any
order and each at most once, or an array of its parts in their order; members that it does not know
are passed over. A choice between names is a string, or an object with that name and `null`.
-/

namespace DetectorControl.Json.Tree

/-- The parts with the given names; `none` for a part that is not there. -/
def record? (names : List String) : Tree → Option (List (Option Tree))
  | .array items =>
    if items.length ≤ names.length then
      some (items.map some ++ List.replicate (names.length - items.length) none)
    else none
  | .object members =>
    if members.all (·.1.isSome) then
      names.mapM fun name =>
        match members.filter (·.1 == some name) with
        | [] => some none
        | [(_, t)] => some (some t)
        | _ => none
    else none
  | _ => none

/-- The parts with the given names, of a record that has no other members. -/
def closedRecord? (names : List String) (t : Tree) : Option (List (Option Tree)) :=
  match t with
  | .object members =>
    if members.all fun m => names.any fun name => m.1 == some name then t.record? names else none
  | _ => t.record? names

/-- A part that may be missing. -/
def orElse {α : Type} (part : Option Tree) (default : α) (read? : Tree → Option α) : Option α :=
  match part with
  | none => some default
  | some t => read? t

def isNull : Tree → Bool
  | .null => true
  | _ => false

/-- `null`, or what is asked for. -/
def nullable? {α : Type} (read? : Tree → Option α) (t : Tree) : Option (Option α) :=
  if t.isNull then some none else (read? t).map some

def string? : Tree → Option String
  | .string s => s
  | _ => none

/-- The name chosen by a string, or by an object that maps it to `null`. -/
def choice? : Tree → Option String
  | .string s => s
  | .object [(key, .null)] => key
  | _ => none

/-- Any number, as the nearest double. -/
def float? : Tree → Option Float
  | .number n => n.map Number.toFloat
  | _ => none

/-- An integer of `low` to `high`; a float is none, whatever its value. -/
def int? (low high : Int) : Tree → Option Int
  | .number (some (.int i)) => if low ≤ i ∧ i ≤ high then some i else none
  | _ => none

def nat? (high : Nat) (t : Tree) : Option Nat :=
  (t.int? 0 high).map Int.toNat

/-- The items of an array. -/
def list? {α : Type} (read? : Tree → Option α) : Tree → Option (List α)
  | .array items => items.mapM read?
  | _ => none

/-- The members of an object by key, of those with the same key the last. -/
def members? {α : Type} (read? : Tree → Option α) : Tree → Option (Entries String α)
  | .object members => go [] members
  | _ => none
where
  go (done : Entries String α) : List (Option String × Tree) → Option (Entries String α)
    | [] => some done
    | (key, t) :: rest =>
      match key, read? t with
      | some key, some a => go (done.insert key a) rest
      | _, _ => none

end DetectorControl.Json.Tree
