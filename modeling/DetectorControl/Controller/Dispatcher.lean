import DetectorControl.Controller.Registry

/-!
# Dispatch

One request leads to exactly one reply frame: a request that cannot be read is refused, the
controller answers its own commands, and all others go to the module that they name.
-/

namespace DetectorControl

structure Dispatcher (W : Type) where
  registry : Registry W
  /-- Whether the command to stop has come. -/
  stopping : Bool := false

namespace Dispatcher

variable {W : Type}

def stopVerb : String := "stop"

def commandNotFound (target verb : String) : Reply :=
  .error ("Command '" ++ target ++ "." ++ verb ++ "' not found")

def ofOutcome (name verb : String) : Outcome → Reply
  | .reply r => r
  | .unserved => commandNotFound name verb
  | .crashed => .error ("Subsystem '" ++ name ++ "' failed to execute '" ++ verb ++ "'")

/-- A command to the controller itself. -/
def controllerCommand (d : Dispatcher W) (verb : String) : Reply × Dispatcher W :=
  if verb = stopVerb then
    (Reply.done.withMessage "Controller has been stopped", { d with stopping := true })
  else (commandNotFound Target.controllerName verb, d)

/-- A command to a module. -/
def moduleCommand (d : Dispatcher W) (name verb : String) (options : Options) (w : W) :
    Reply × Dispatcher W × W :=
  if (d.registry.resolve name).isNone then (.error ("Subsystem '" ++ name ++ "' not found"), d, w)
  else if !d.registry.supports name verb then (commandNotFound name verb, d, w)
  else
    match d.registry.invoke name verb options w with
    | (outcome, registry, w) => (ofOutcome name verb outcome, { d with registry }, w)

/-- Executes a command. -/
def dispatch (d : Dispatcher W) (c : Command) (w : W) : ReplyFrame × Dispatcher W × W :=
  match c.target with
  | .controller =>
    match d.controllerCommand c.verb with
    | (r, d) => (r.frame c.target.name, d, w)
  | .subsystem name =>
    match d.moduleCommand name c.verb c.options w with
    | (r, d, w) => (r.frame c.target.name, d, w)

/-- The command in the body of a frame. -/
def decode (body : Bytes) : Except ProtocolError Command :=
  match Request.read body with
  | .error fault => .error (.json fault)
  | .ok r => Command.parse r

def malformed (e : ProtocolError) : ReplyFrame :=
  (Reply.error ("Invalid command message (" ++ e.message ++ ")")).frame Target.controllerName

/-- Answers the body of a frame. -/
def handle (d : Dispatcher W) (body : Bytes) (w : W) : ReplyFrame × Dispatcher W × W :=
  match decode body with
  | .error e => (malformed e, d, w)
  | .ok c => d.dispatch c w

end Dispatcher

end DetectorControl
