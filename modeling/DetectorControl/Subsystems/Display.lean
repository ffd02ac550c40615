import DetectorControl.Controller.Module
import DetectorControl.Peer.Link

/-!
# Display

The subsystem `disp`, which passes texts on to the display server.
-/

namespace DetectorControl

inductive DisplayVerb where
  | clear | display | ping | connected
  deriving DecidableEq, Repr

instance : Verb DisplayVerb where
  all := [.clear, .display, .ping, .connected]
  name
    | .clear => "clear"
    | .display => "display"
    | .ping => "ping"
    | .connected => "connected"

namespace Display

variable {W : Type}

/-- Shows a message. All options are passed on. -/
def display (sock : PeerSocket W) (o : Options) (l : PeerLink) : StateM W (Reply × PeerLink) :=
  match o.string "message" with
  | .ok _ => l.call sock { command := "display", options := some o }
  | .error (.missing _) => return (.error "disp.display command requires 'message' option", l)
  | .error e => return (.error ("disp.display command received " ++ e.message), l)

/-- Whether a socket is set up. It connects in the background, so this does not tell whether the
server listens. -/
def connected (sock : PeerSocket W) (l : PeerLink) : StateM W (Reply × PeerLink) := do
  let (r, l) ← l.connect sock
  let up := match r with
    | .ok () => true
    | .error _ => false
  return (Reply.done.withMessage (if up then "true" else "false") |>.withField "connected" (.bool up), l)

def handle (sock : PeerSocket W) (verb : DisplayVerb) (o : Options) (l : PeerLink) :
    StateM W (Reply × PeerLink) :=
  match verb with
  | .clear => l.call sock { command := "clear" }
  | .display => display sock o l
  | .ping => l.call sock { command := "ping" }
  | .connected => connected sock l

end Display

end DetectorControl
