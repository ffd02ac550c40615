import DetectorControl.Controller.Module
import DetectorControl.Heartbeat

/-!
# Heartbeat control

The subsystem `heartbeat`, which reports and tunes the heartbeat. The heartbeat itself belongs to the
world, because its task goes on between commands.
-/

namespace DetectorControl

inductive HeartbeatVerb where
  | value | interval | setInterval
  deriving DecidableEq, Repr

instance : Verb HeartbeatVerb where
  all := [.value, .interval, .setInterval]
  name
    | .value => "get_heartbeat_value"
    | .interval => "get_wait_duration_sec"
    | .setInterval => "set_wait_duration_sec"

namespace HeartbeatControl

/-- Sets the interval in seconds that the options name. -/
def setInterval (o : Options) (h : Heartbeat) : Reply × Heartbeat :=
  match o.number "wait_duration_sec" with
  | .error (.missing _) =>
    (.error "heartbeat.set_wait_duration_sec command requires 'wait_duration_sec' option", h)
  | .error e => (.error ("heartbeat.set_wait_duration_sec received " ++ e.message), h)
  | .ok seconds =>
    match h.setInterval seconds with
    | .ok h => (Reply.done.withField "wait_duration_sec" (.float seconds), h)
    | .error e => (.error e.message, h)

def answer (verb : HeartbeatVerb) (o : Options) : StateM Heartbeat Reply := fun h =>
  match verb with
  | .value => (Reply.done.withField "heartbeat_value" (.nat h.value), h)
  | .interval => (Reply.done.withField "wait_duration_sec" (.float (Heartbeat.secondsOf h.interval)), h)
  | .setInterval => setInterval o h

/-- Acts on the heartbeat of a world. -/
def handle {W : Type} (get : W → Heartbeat) (put : Heartbeat → W → W) (verb : HeartbeatVerb)
    (o : Options) (state : Unit) : StateM W (Reply × Unit) := do
  return (← zoom get put (answer verb o), state)

end HeartbeatControl

end DetectorControl
