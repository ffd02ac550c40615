import DetectorControl.Proofs.Autorun.History
import DetectorControl.Proofs.Controller.Port
import DetectorControl.Proofs.Telemetry
import DetectorControl.Proofs.World.Plant

/-!
# What the supervisor's commands do to a plant

The supervisor sends its commands to the controller of a plant over their texts. A housekeeping
reading leaves the supply and the data acquisition alone, a command to `hv` leaves the data
acquisition alone, and a command to `daq` tells its program and leaves the supply alone. The report
on the data acquisition comes back with the state that its program is in (`port_status`).
-/

namespace DetectorControl

open Dispatcher

/-- Commands that are all of one kind. -/
inductive Dialogue.Asks (Q : Command → Prop) {α : Type} : Dialogue α → Prop
  | done (a : α) : Asks Q (.done a)
  | ask {c : Command} {next : Reply → Dialogue α} (hc : Q c) (h : ∀ r, Asks Q (next r)) : Asks Q (.ask c next)

namespace Dialogue.Asks
variable {Q : Command → Prop} {α β : Type}

theorem bind {d : Dialogue α} {f : α → Dialogue β} (hd : Asks Q d) (hf : ∀ a, Asks Q (f a)) :
    Asks Q (d >>= f) := by
  induction hd with
  | done a => exact hf a
  | ask hc _ ih => exact .ask hc ih

theorem send {target verb : String} {o : Options} (h : Q ⟨.ofName target, verb, o⟩) :
    Asks Q (Dialogue.send target verb o) :=
  .ask h fun r => .done r

/-- What each command of the kind keeps, the dialogue keeps; and nothing else is said. -/
theorem run {W : Type u} {port : Port W} {I : W → Prop} (hport : ∀ c w, Q c → I w → I (port c w).2)
    {d : Dialogue α} (hd : Asks Q d) {w : W} (hw : I w) :
    I (d.run port w).2.2 ∧ ∀ x ∈ (d.run port w).2.1, Q x.command := by
  induction hd generalizing w with
  | done a => exact ⟨hw, nofun⟩
  | ask hc _ ih =>
    obtain ⟨hI, hsaid⟩ := ih _ (hport _ w hc hw)
    refine ⟨hI, fun x hx => ?_⟩
    rcases List.mem_cons.1 hx with rfl | hx
    · exact hc
    · exact hsaid x hx

end Dialogue.Asks

namespace Supervisor

/-- A command to the supply, whose name can be taken apart. -/
def ToSupply (c : Command) : Prop := c.target = .ofName "hv" ∧ Named "hv" c.verb

theorem asks_powerOn (config : Config) (channels : List Nat) :
    Dialogue.Asks ToSupply (powerOn config channels) := by
  induction channels with
  | nil => exact .done ()
  | cons channel rest ih =>
    have hset : Named "hv" "set" := by decide
    have hon : Named "hv" "on" := by decide
    have hpower (level : Float) : Dialogue.Asks ToSupply (powerChannel channel level) :=
      .bind (.send ⟨rfl, hset⟩) fun _ => .bind (.send ⟨rfl, hon⟩) fun _ => .done ()
    unfold powerOn
    split
    · exact .bind (hpower _) fun _ => ih
    · exact .bind (.done ()) fun _ => ih

theorem asks_recover (config : Config) : Dialogue.Asks ToSupply (recover config) := by
  refine .bind (.send ⟨rfl, by decide⟩) fun r => ?_
  split
  · exact .done false
  · split
    · exact .done false
    · exact .bind (asks_powerOn config channels) fun _ => .done true

end Supervisor

namespace Plant
variable {P : Type} {a : Acquirer P} {config : Config} {host : Host} {endpoints : Rig.Endpoints}

/-- The plant's controller, whatever was asked of it. -/
def Governs (a : Acquirer P) (config : Config) (host : Host) (endpoints : Rig.Endpoints)
    (d : Dispatcher (Plant P)) : Prop :=
  ∃ s, d.registry = (equipment a config host endpoints).registry s

variable {d : Dispatcher (Plant P)}

theorem port_read (hd : Governs a config host endpoints d) (w : Plant P) :
    ∃ r d' w', port (.plain "hk" "read") (d, w) = (r, d', w') ∧ Governs a config host endpoints d' ∧
      w'.supplied = w.supplied ∧ w'.program = w.program := by
  obtain ⟨s, hd⟩ := hd
  obtain ⟨d', hd', hport⟩ := port_subsystem hd (c := .plain "hk" "read")
    (decode_plain "hk" "read" (by decide)) (by decide) w
  refine ⟨_, d', _, hport, ⟨_, hd'⟩, ?_, ?_⟩
  · exact Equipment.keeps_serve (keepsApart_supplied a config host endpoints) (by decide) _ _ s w
  · exact Equipment.keeps_serve_sensors (sensors_keep_program a config host endpoints)
      (fun _ => rfl) _ _ s w

/-- A command to the supply leaves the data acquisition alone, and the supply able to answer. -/
theorem port_supply (hd : Governs a config host endpoints d) {c : Command} (hc : Supervisor.ToSupply c)
    (w : Plant P) :
    ∃ r d' w', port c (d, w) = (r, d', w') ∧ Governs a config host endpoints d' ∧
      w'.companions = w.companions := by
  obtain ⟨s, hs⟩ := hd
  obtain ⟨target, verb, o⟩ := c
  obtain ⟨rfl, hname⟩ := hc
  cases hdecode : decode (Bytes.ofString (Command.request ⟨.ofName "hv", verb, o⟩).text) with
  | error fault => exact ⟨_, d, w, Prod.ext rfl (port_error hdecode w), ⟨s, hs⟩, rfl⟩
  | ok c =>
    obtain ⟨htarget, -⟩ := decode_eq_ok hname hdecode
    obtain ⟨target, verb, o⟩ := c
    cases htarget
    obtain ⟨d', hd', hport⟩ := port_subsystem hs hdecode (by decide) w
    exact ⟨_, d', _, hport, ⟨_, hd'⟩,
      Equipment.keeps_serve_supply (supply_keeps_companions a config host endpoints) _ _ s w⟩

theorem port_offAll (hd : Governs a config host endpoints d) {w : Plant P}
    (h : w.board.spiFault = false) :
    ∃ r d' w', port (.plain "hv" "off_all") (d, w) = (r, d', w') ∧
      Governs a config host endpoints d' ∧ w'.companions = w.companions ∧ w'.SwitchedOff := by
  obtain ⟨s, hd⟩ := hd
  obtain ⟨d', hd', hport⟩ := port_subsystem hd (c := .plain "hv" "off_all")
    (decode_plain "hv" "off_all" (by decide)) (by decide) w
  have hserve := serve_offAll a config host endpoints .empty s h
  refine ⟨_, d', _, hport, ⟨_, hd'⟩, ?_, ?_⟩
  · rw [hserve]
    rfl
  · rw [hserve]
    exact w.switchedOff_putBoard

theorem port_acquisition (hd : Governs a config host endpoints d) (verb : AcquisitionVerb)
    (hname : Named "daq" (Verb.name verb)) (w : Plant P) :
    ∃ r d', port (.plain "daq" (Verb.name verb)) (d, w) =
        (received (Bytes.ofString (r.frame "daq").text), d', w.after a (Acquirer.request verb)) ∧
      Governs a config host endpoints d' ∧
      ∀ f, ReplyFrame.read (a.answer (Acquirer.request verb) w.program).1 = .ok f → r = f.reply := by
  obtain ⟨s, hd⟩ := hd
  obtain ⟨d', hd', hport⟩ := port_subsystem hd (c := .plain "daq" (Verb.name verb))
    (decode_plain _ _ hname) (by decide) w
  obtain ⟨r, s', hserve, hr⟩ := serve_acquisition a config host endpoints verb .empty s w
  rw [hserve] at hport hd'
  exact ⟨r, d', hport, ⟨s', hd'⟩, hr⟩

/-- A status that is passed on is a status with the same state. -/
theorem decode_received {r : Reply} {f : ReplyFrame} {text : Bytes} {s : RunStatus}
    (hread : ReplyFrame.read text = .ok f) (hr : r = f.reply)
    (hs : f.reply.decode RunStatus.ofTree? = .ok s) (name : String) :
    ∃ elapsed, (received (Bytes.ofString (r.frame name).text)).decode RunStatus.ofTree? =
      .ok { s with elapsed } := by
  have hshaped := ReplyFrame.shaped_of_read hread
  obtain ⟨status, message, subsystem, fields⟩ := f
  cases status with
  | error => cases hs
  | ok =>
    have hrecord : RunStatus.ofTree? (.ofValue (.object fields)) = some s := by
      simp only [ReplyFrame.reply, Reply.decode] at hs
      split at hs
      · rename_i s' hs'
        cases hs
        exact hs'
      · cases hs
    obtain ⟨g, hg, hreply⟩ := Reply.read_frame (r := .ok message fields) name
      (fun _ _ heq => by cases heq; exact ⟨hshaped.sorted, hshaped.fields, hshaped.free⟩)
    obtain ⟨elapsed, helapsed⟩ := RunStatus.ofTree?_again hshaped.sorted hrecord
    refine ⟨elapsed, ?_⟩
    have hreceived : received (Bytes.ofString (r.frame name).text) =
        .ok message (Json.membersAgain fields) := by
      rw [hr]
      exact (received_of_read hg).trans hreply
    rw [hreceived]
    simp only [Reply.decode, helapsed]

/-- The report says whether the program records, and tells it nothing else. -/
theorem port_status (ha : a.Obeys) (hd : Governs a config host endpoints d) (w : Plant P) :
    ∃ r d' status, port (.plain "daq" "status") (d, w) = (r, d', w.after a (Acquirer.request .status)) ∧
      Governs a config host endpoints d' ∧ r.decode RunStatus.ofTree? = .ok status ∧
      status.state.isPaused = !a.recording w.program := by
  obtain ⟨r, d', hport, hd', hr⟩ := port_acquisition hd .status (by decide) w
  obtain ⟨f, s, hread, hs, hstate⟩ := ha.status w.program
  obtain ⟨elapsed, hdecode⟩ := decode_received hread (hr f hread) hs "daq"
  refine ⟨_, d', _, hport, hd', hdecode, ?_⟩
  show s.state.isPaused = _
  rw [hstate]
  cases a.recording w.program <;> rfl

end Plant

end DetectorControl
