import DetectorControl.Proofs.Controller.Port
import DetectorControl.Proofs.Supply.Levels
import DetectorControl.Proofs.Supply.Record
import DetectorControl.Proofs.Telemetry

/-!
# Reports that can be read

A level that is no number is written as `null`, and a report with such a level says nothing of its channel.
No controller records one, because a level is recorded only if it was admitted (`Writable`). What its report
says of a channel is then what is recorded (`field?_received`).
-/

namespace DetectorControl

open Json

namespace ChannelStatus
variable {c : ChannelStatus}

theorem shaped_toJson (h : c.level.isFinite = true) (depth : Nat) : Shaped (depth + 1) c.toJson := by
  have hlt : ("status" : String) < "value_in_mV" := by decide
  have hlevel : Json.float c.level = .number (.float c.level) := if_pos h
  unfold toJson
  rw [hlevel]
  refine .object (List.pairwise_pair.2 hlt) fun m hm => ?_
  simp only [List.mem_cons, List.not_mem_nil, or_false] at hm
  rcases hm with rfl | rfl
  · exact .string _
  · exact .number h

/-- The output of a channel is read as it was written. -/
theorem ofTree?_again (h : c.level.isFinite = true) :
    ofTree? (.ofValue c.toJson.again) = some ⟨c.output, reread c.level⟩ := by
  have hlevel : Json.float c.level = .number (.float c.level) := if_pos h
  unfold toJson
  rw [hlevel]
  cases c.output <;> rfl

end ChannelStatus

namespace Supply
variable {W : Type} {config : Config} {s : Supply} {ch : Fin 2}

/-- The recorded levels are numbers. -/
def Writable (s : Supply) : Prop := ∀ ch, (s.channels.get ch).level.isFinite = true

theorem Writable.withChannel (h : s.Writable) (ch : Fin 2) {c : ChannelStatus} (hc : c.level.isFinite = true) :
    (s.withChannel ch c).Writable := by
  intro ch'
  by_cases heq : ch = ch'
  · subst heq
    rw [get_withChannel_self]
    exact hc
  · rw [get_withChannel_of_ne s heq]
    exact h ch'

theorem Writable.switchOff (h : s.Writable) (d : SupplyDriver W) (ch : Fin 2) (w : W) :
    (switchOff d ch s w).1.Writable := by
  rw [switchOff_eq]
  exact h.withChannel ch rfl

theorem Writable.switchAllOff (h : s.Writable) (d : SupplyDriver W) (w : W) :
    (switchAllOff d s w).1.Writable := by
  rw [switchAllOff_eq]
  exact (h.switchOff d 0 w).switchOff d 1 _

theorem Writable.handle (h : s.Writable) (d : SupplyDriver W) (config : Config) (verb : SupplyVerb) (o : Options)
    (w : W) : (handle d config verb o s w).1.2.Writable := by
  obtain ⟨⟨⟨r, s'⟩, w'⟩, hafter⟩ : ∃ after, Supply.handle d config verb o s w = after := ⟨_, rfl⟩
  rw [hafter]
  cases handle_step hafter with
  | set hsetting _ => exact h.withChannel _ (setting_admits hsetting).finite
  | on => exact h.withChannel _ (h _)
  | off => exact h.switchOff d _ w
  | offAll => exact h.switchAllOff d w
  | _ => exact h

theorem writable_init (d : SupplyDriver W) (w : W) : (init d w).1.Writable :=
  Writable.switchAllOff (fun ch => by match ch with | 0 => rfl | 1 => rfl) d w

theorem status_eq (s : Supply) :
    s.status = .ok none [("0", (s.channels.get 0).toJson), ("1", (s.channels.get 1).toJson)] := rfl

theorem shaped_status (h : s.Writable) {message : Option String} {fields : Fields}
    (hstatus : s.status = .ok message fields) : (ReplyFrame.mk .ok message none fields).Shaped := by
  have hlt : ("0" : String) < "1" := by decide
  have hfree : "0" ∉ ReplyFrame.header ∧ "1" ∉ ReplyFrame.header := by decide
  rw [status_eq] at hstatus
  cases hstatus
  refine ⟨List.pairwise_pair.2 hlt, fun m hm => ?_, fun m hm => ?_⟩ <;>
    simp only [List.mem_cons, List.not_mem_nil, or_false] at hm
  · rcases hm with rfl | rfl
    · exact ChannelStatus.shaped_toJson (h 0) _
    · exact ChannelStatus.shaped_toJson (h 1) _
  · rcases hm with rfl | rfl
    · exact hfree.1
    · exact hfree.2

/-- The report of the supply as it is received says of each channel what is recorded. -/
theorem reports_received (h : s.Writable) (name : String) :
    ∃ message fields, Dispatcher.received (Bytes.ofString (s.status.frame name).text) = .ok message fields ∧
      ∀ ch : Fin 2, fields.get? (toString (ch : Nat)) = some (s.channels.get ch).toJson.again := by
  obtain ⟨f, hread, hreply⟩ := Reply.read_frame name fun _ _ hstatus => shaped_status h hstatus
  refine ⟨_, _, (Dispatcher.received_of_read hread).trans hreply, fun ch => ?_⟩
  rw [get?_membersAgain]
  exact congrArg (Option.map Json.again) (status_field s ch)

end Supply

/-! ## Controllers -/

namespace Equipment
variable {W : Type} {e : Equipment W} {s : Subsystems}

theorem writable_serve (h : s.supply.Writable) (name verb : String) (o : Options) (w : W) :
    (e.serve name verb o s w).1.2.supply.Writable := by
  by_cases hname : name = "hv"
  · subst hname
    exact serveBy_preserves (I := fun (s : Supply) (_ : W) => s.Writable) h
      (fun verb => h.handle e.supply e.config verb o w) verb
  · rw [serve_supply hname]
    exact h

end Equipment

namespace Dispatcher
variable {W : Type} {e : Equipment W}

/-- A controller as it comes to be: it is started, handles the bodies of frames, and all else in its world
may change in between. -/
inductive Reached (e : Equipment W) : Dispatcher W × W → Prop
  | start (w : W) : Reached e (e.controller w)
  | handle {x : Dispatcher W × W} (body : Bytes) (h : Reached e x) : Reached e (x.1.handle body x.2).2
  | change {d : Dispatcher W} {w : W} (w' : W) (h : Reached e (d, w)) : Reached e (d, w')

theorem Reached.writable {x : Dispatcher W × W} (h : Reached e x) :
    ∃ s : Subsystems, x.1.registry = e.registry s ∧ s.supply.Writable := by
  induction h with
  | start w => exact ⟨_, rfl, Supply.writable_init e.supply w⟩
  | @handle x body _ ih =>
    obtain ⟨s, hs, hwritable⟩ := ih
    obtain ⟨hd, -⟩ | ⟨name, verb, o, hd, -⟩ := handle_registry hs body x.2
    · exact ⟨s, hd, hwritable⟩
    · exact ⟨_, hd, Equipment.writable_serve hwritable name verb o x.2⟩
  | change _ _ ih => exact ih

end Dispatcher

end DetectorControl
