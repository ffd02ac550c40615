import DetectorControl.Controller.Module
import DetectorControl.Peer.Link

/-!
# Data acquisition

The subsystem `daq`, which passes each verb on to the data acquisition program under the program's
own name for it, and passes the program's answer back.
-/

namespace DetectorControl

inductive AcquisitionVerb where
  | ping | stop | pause | resume | status | switchOutput
  deriving DecidableEq, Repr

instance : Verb AcquisitionVerb where
  all := [.ping, .stop, .pause, .resume, .status, .switchOutput]
  name
    | .ping => "ping"
    | .stop => "stop"
    | .pause => "pause"
    | .resume => "resume"
    | .status => "status"
    | .switchOutput => "switch_output"

/-- What the program calls a verb. -/
def AcquisitionVerb.programCommand : AcquisitionVerb → String
  | ping => "ping"
  | stop => "stop"
  | pause => "pause"
  | resume => "resume"
  | status => "getStatus"
  | switchOutput => "startNewOutputFile"

def Acquisition.handle {W : Type} (sock : PeerSocket W) (verb : AcquisitionVerb) (_ : Options)
    (l : PeerLink) : StateM W (Reply × PeerLink) :=
  l.call sock { command := verb.programCommand }

end DetectorControl
