import DetectorControl.Controller.Port
import DetectorControl.Proofs.Controller.Modules
import DetectorControl.Proofs.Wire.Frames

/-!
# What a command does over its text

A command that is sent through a port is read back from its text: its name is, and its options are but
for their numbers (`decode_shaped`). What a subsystem is asked then is one call of `serve`
(`port_subsystem`).
-/

namespace DetectorControl

theorem Command.parse_of_splitDot {r : Request} {target verb : String}
    (h : splitDot (Text.trim r.command) = some (target, verb)) :
    parse r = .ok ⟨.ofName target, verb, r.options.getD .empty⟩ := by
  have hne : (Text.trim r.command).isEmpty = false := by
    cases hempty : (Text.trim r.command).isEmpty with
    | false => rfl
    | true =>
      rw [String.isEmpty_iff.1 hempty] at h
      cases h
  unfold parse
  simp only [hne, h]
  rfl

namespace Dispatcher
variable {W : Type}

/-- The name of the command can be taken apart again. -/
def Named (target verb : String) : Prop :=
  Command.splitDot (Text.trim (target ++ "." ++ verb)) = some (target, verb)

instance (target verb : String) : Decidable (Named target verb) :=
  inferInstanceAs (Decidable (_ = _))

/-- A command that is read where it was written has its name. -/
theorem decode_eq_ok {target verb : String} (h : Named target verb) {o : Options} {c : Command}
    (hc : decode (Bytes.ofString (Command.request ⟨.ofName target, verb, o⟩).text) = .ok c) :
    c.target = .ofName target ∧ c.verb = verb := by
  unfold decode at hc
  split at hc
  · cases hc
  · rename_i q hq
    have hcommand : q.command = target ++ "." ++ verb := by
      rw [Request.command_of_read hq]
      show (Target.ofName target).name ++ "." ++ verb = _
      rw [Target.name_ofName]
    rw [Command.parse_of_splitDot (by rw [hcommand]; exact h)] at hc
    cases hc
    exact ⟨rfl, rfl⟩

/-- A command keeps its options, but for their numbers. -/
theorem decode_shaped {target verb : String} (h : Named target verb) {o : Options}
    (ho : Json.Shaped (Json.depthLimit - 1) o.toJson) :
    decode (Bytes.ofString (Command.request ⟨.ofName target, verb, o⟩).text) =
      .ok ⟨.ofName target, verb, o.again⟩ := by
  have hrequest : Command.request ⟨.ofName target, verb, o⟩ = ⟨target ++ "." ++ verb, some o⟩ := by
    rw [Command.request, Target.name_ofName]
  rw [hrequest, decode, Request.read_shaped _ ho]
  exact Command.parse_of_splitDot h

theorem decode_plain (target verb : String) (h : Named target verb) :
    decode (Bytes.ofString (Command.request ⟨.ofName target, verb, .empty⟩).text) =
      .ok ⟨.ofName target, verb, .empty⟩ :=
  decode_shaped h (.object .nil nofun)

variable {e : Equipment W} {s : Subsystems} {d : Dispatcher W}

/-- A command to a subsystem is one call of `serve`, and its reply is read from its text. -/
theorem port_subsystem (hd : d.registry = e.registry s) {c : Command} {name verb : String} {o : Options}
    (hdecode : decode (Bytes.ofString c.request.text) = .ok ⟨.subsystem name, verb, o⟩)
    (hname : name ∈ Equipment.names) (w : W) :
    ∃ d', d'.registry = e.registry (e.serve name verb o s w).1.2 ∧
      port c (d, w) =
        (received (Bytes.ofString
          ((ofOutcome name verb (e.serve name verb o s w).1.1).frame name).text),
          d', (e.serve name verb o s w).2) := by
  refine ⟨{ d with registry := e.registry (e.serve name verb o s w).1.2 }, rfl, ?_⟩
  unfold port
  rw [handle_subsystem hd hdecode hname]

theorem received_of_read {text : Bytes} {f : ReplyFrame} (h : ReplyFrame.read text = .ok f) :
    received text = f.reply := by
  unfold received
  rw [h]

theorem port_error {c : Command} {fault : ProtocolError}
    (hdecode : decode (Bytes.ofString c.request.text) = .error fault) (w : W) :
    (port c (d, w)).2 = (d, w) := by
  unfold port handle
  simp only [hdecode]

end Dispatcher

end DetectorControl
