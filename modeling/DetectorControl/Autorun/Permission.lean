import DetectorControl.Config.Settings
import DetectorControl.Reply
import DetectorControl.Telemetry

/-!
# Permission to run

The detector may run unattended while the slide switch is on and every temperature that is looked at
is within the limits. Whatever cannot be read is a reason not to run.
-/

namespace DetectorControl

namespace TemperatureLimits

/-- Whether the temperatures of a reading are known and inside. -/
def admits (l : TemperatureLimits) (r : Readout) : Bool :=
  match l.source with
  | .board =>
    !l.channels.isEmpty && l.channels.all fun channel =>
      match r.value? channel with
      | some t => l.contains t
      | none => false
  | .environment =>
    match r.environment with
    | some e => l.contains e.temperature.value
    | none => false

end TemperatureLimits

/-- Whether a reading permits a run. -/
def Readout.permits (r : Readout) (l : TemperatureLimits) : Bool :=
  r.slideSwitch == .on && l.admits r

/-- Whether the answer to a request for a reading permits a run. -/
def Reply.permits (r : Reply) (l : TemperatureLimits) : Bool :=
  match r.decode Snapshot.ofTree? with
  | .ok snapshot => snapshot.readout.permits l
  | .error _ => false

end DetectorControl
