import DetectorControl.Json.Diagnosis
import DetectorControl.Options
import DetectorControl.Wire.Fault

/-!
# Commands

A request names a command, `target.verb` or a bare verb of the controller itself, and carries
options. `Command.parse` and `Command.request` lead from one form to the other.
-/

namespace DetectorControl

/-- A request as it stands on the wire. -/
structure Request where
  command : String
  options : Option Options := none
  deriving BEq, Repr

namespace Request

def toJson (r : Request) : Json :=
  .object (("command", .string r.command) :: (r.options.map fun o => ("option", o.toJson)).toList)

/-- The JSON text. -/
def text (r : Request) : String := r.toJson.compact

def ofTree? (t : Json.Tree) : Option Request := do
  match ← t.record? ["command", "option"] with
  | [command, options] =>
    let command ← command.bind Json.Tree.string?
    let options ← Json.Tree.orElse options none
      (Json.Tree.nullable? (Options.ofTree? (Json.depthLimit - 1)))
    return ⟨command, options⟩
  | _ => none

def ofText? (text : Bytes) : Option Request :=
  (Json.Tree.parse? text).bind ofTree?

/-- The request in a text, or where the text goes wrong as JSON. -/
def read (text : Bytes) : Except Json.Fault Request :=
  match ofText? text with
  | some r => .ok r
  | none => .error ((Json.Fault.find? Json.depthLimit {} text).getD .unfit)

end Request

/-- Whom a command addresses. -/
inductive Target where
  | controller
  | subsystem (name : String)
  deriving DecidableEq, Repr

namespace Target

/-- The name that addresses the controller itself. -/
def controllerName : String := "controller"

def ofName (name : String) : Target :=
  if name = controllerName then .controller else .subsystem name

def name : Target → String
  | .controller => controllerName
  | .subsystem name => name

@[simp] theorem name_ofName (s : String) : (ofName s).name = s := by
  unfold ofName
  split
  · simp_all [name]
  · rfl

end Target

structure Command where
  target : Target
  verb : String
  options : Options
  deriving BEq, Repr

namespace Command

/-- The parts of a text before and behind its first dot. -/
def splitDot (s : String) : Option (String × String) :=
  match s.toList.dropWhile (· != '.') with
  | [] => none
  | _ :: verb => some (String.ofList (s.toList.takeWhile (· != '.')), String.ofList verb)

def parse (r : Request) : Except ProtocolError Command :=
  let command := Text.trim r.command
  if command.isEmpty then .error .emptyCommand
  else
    let options := r.options.getD .empty
    match splitDot command with
    | some (target, verb) => .ok ⟨.ofName target, verb, options⟩
    | none => .ok ⟨.controller, command, options⟩

def request (c : Command) : Request :=
  { command := c.target.name ++ "." ++ c.verb, options := some c.options }

end Command

end DetectorControl
