import DetectorControl.Reply

/-!
# Modules

A module of the controller has a state of its own, serves a closed set of verbs, and may act on a
world that it shares with the other modules.
-/

namespace DetectorControl

/-- A closed set of verbs, each with its name on the wire. -/
class Verb (V : Type) where
  all : List V
  name : V → String

namespace Verb

variable {V : Type} [Verb V]

def names (V : Type) [Verb V] : List String := (all (V := V)).map name

def parse? (name : String) : Option V := all.find? fun v => Verb.name v == name

end Verb

/-- What came of invoking a verb. -/
inductive Outcome where
  | reply (r : Reply)
  /-- The module does not serve the verb. -/
  | unserved
  /-- The handler broke off. -/
  | crashed
  deriving Repr

structure Module (W : Type) where
  State : Type
  state : State
  /-- In the order of their declaration. -/
  verbs : List String
  invoke : (verb : String) → Options → State → StateM W (Outcome × State)

namespace Module

variable {W : Type}

/-- The module whose verbs are those of `V`, each answered by the handler. -/
def ofHandler {V S : Type} [Verb V] (handle : V → Options → S → StateM W (Reply × S)) (state : S) :
    Module W where
  State := S
  state := state
  verbs := Verb.names V
  invoke name options s := do
    match Verb.parse? (V := V) name with
    | none => return (.unserved, s)
    | some verb =>
      let (r, s) ← handle verb options s
      return (.reply r, s)

end Module

end DetectorControl
