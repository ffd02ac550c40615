import DetectorControl.Client.Requester

/-!
# Remote modules

A module of the controller as it is seen from another program, and the detector as the collection of
such modules, each with a connection of its own.
-/

namespace DetectorControl

structure RemoteModule where
  name : String
  requester : Requester
  deriving Repr

namespace RemoteModule

variable {W : Type u}

def new (name endpoint : String) : RemoteModule := ⟨name, { endpoint }⟩

/-- Sends `name.verb`. -/
def send (net : Network W) (m : RemoteModule) (verb : String) (options : Options) (w : W) :
    Reply × RemoteModule × W :=
  match m.requester.call net (Command.request ⟨.ofName m.name, verb, options⟩) w with
  | (reply, requester, w) => (reply, { m with requester }, w)

end RemoteModule

structure RemoteDetector where
  endpoint : String
  /-- The modules that were addressed so far, by name. -/
  modules : Entries String RemoteModule := []
  deriving Repr

namespace RemoteDetector

variable {W : Type u}

/-- The module of a name, which is made when it is first addressed. -/
def module (d : RemoteDetector) (name : String) : RemoteModule :=
  (d.modules.get? name).getD (.new name d.endpoint)

def send (net : Network W) (d : RemoteDetector) (c : Command) (w : W) : Reply × RemoteDetector × W :=
  match (d.module c.target.name).send net c.verb c.options w with
  | (reply, m, w) => (reply, { d with modules := d.modules.insert m.name m }, w)

end RemoteDetector

end DetectorControl
