import DetectorControl.Proofs.Basic
import DetectorControl.Proofs.Controller.Port
import DetectorControl.Proofs.Controller.Routing
import DetectorControl.Proofs.World.Plant

/-!
# Answers that are passed on

A command to the data acquisition or to the display goes out to a program beside the controller
(`Peer.Forwards`), and what comes back is passed on under the name of the subsystem (`Relayed`): a
success as it is, any other answer as an error without a payload. What the program puts into its answer
cannot make the frame unreadable or take the place of its header: where the frame is read again it is
the same, unless a float of the payload is read as another (`relay`).
-/

namespace DetectorControl
variable {W : Type}

/-! ## Calls that are answered -/

namespace PeerLink

/-- The program behind a link answers a request: a socket is held or can be opened, the request goes out
on it, and the answer comes in. -/
inductive Answers (sock : PeerSocket W) (l : PeerLink) (r : Request) (w : W) (answer : Bytes) : Prop
  | intro {l' : PeerLink} {w₁ w₂ w₃ : W} (hconnect : l.connect sock w = ((.ok (), l'), w₁))
    (hsend : sock.send (Bytes.ofString r.text) w₁ = (.ok (), w₂))
    (hreceive : sock.receive w₂ = (.ok answer, w₃))

/-- What is said of an answer that is no reply. -/
def unreadable (endpoint : String) (fault : Json.Fault) : String :=
  "communication with " ++ endpoint ++ " failed (" ++ (ProtocolError.json fault).message ++ ")"

variable {sock : PeerSocket W} {l : PeerLink} {r : Request} {w : W} {answer : Bytes}

theorem endpoint_connect (sock : PeerSocket W) (l : PeerLink) (w : W) :
    (l.connect sock w).1.2.endpoint = l.endpoint := by
  unfold connect
  split
  · rfl
  · simp only [bind, StateT.bind]
    rcases sock.connect l.endpoint w with ⟨⟨_ | _⟩, _⟩ <;> rfl

theorem exchange_of_receive {w₁ w₂ w₃ : W} (hsend : sock.send (Bytes.ofString r.text) w₁ = (.ok (), w₂))
    (hreceive : sock.receive w₂ = (.ok answer, w₃)) :
    exchange sock r w₁ = (match ReplyFrame.read answer with
      | .ok f => .ok f
      | .error fault => .error (.json fault), w₃) := by
  unfold exchange
  simp only [bind, StateT.bind, hsend, hreceive]
  cases ReplyFrame.read answer <;> rfl

/-- What a call comes back with depends on the answer alone. -/
theorem call_of_answers (h : l.Answers sock r w answer) :
    (l.call sock r w).1.1 = match ReplyFrame.read answer with
      | .ok f => f.reply
      | .error fault => .error (unreadable l.endpoint fault) := by
  obtain @⟨l', w₁, w₂, w₃, hconnect, hsend, hreceive⟩ := h
  have hendpoint : l'.endpoint = l.endpoint := by
    rw [← endpoint_connect sock l w, hconnect]
  have hexchange := exchange_of_receive hsend hreceive
  unfold call request
  cases hread : ReplyFrame.read answer with
  | ok f =>
    rw [hread] at hexchange
    simp only [bind, StateT.bind, hconnect, hexchange]
    rfl
  | error fault =>
    rw [hread] at hexchange
    simp only [bind, StateT.bind, hconnect, hexchange]
    rw [← hendpoint]
    rfl

end PeerLink

/-! ## Frames of answers -/

/-- The frame for the answer of a program: what the program says of a success, in the name of the
subsystem, and an error for anything else. -/
structure Relayed (subsystem endpoint : String) (answer : Bytes) (f : ReplyFrame) : Prop where
  ok : ∀ g, ReplyFrame.read answer = .ok g → g.status = .ok → f = { g with subsystem := some subsystem }
  refused : ∀ g, ReplyFrame.read answer = .ok g → g.status ≠ .ok →
    f = ⟨.error, some (g.message.getD ""), some subsystem, []⟩
  unreadable : ∀ fault, ReplyFrame.read answer = .error fault →
    f = ⟨.error, some (PeerLink.unreadable endpoint fault), some subsystem, []⟩

/-- A frame that was read is found again in the reply that it holds. -/
theorem relayed_frame (subsystem endpoint : String) (answer : Bytes) :
    Relayed subsystem endpoint answer
      ((match ReplyFrame.read answer with
        | .ok f => f.reply
        | .error fault => .error (PeerLink.unreadable endpoint fault) : Reply).frame subsystem) := by
  cases hread : ReplyFrame.read answer with
  | error fault =>
    refine ⟨fun g hg => ?_, fun g hg => ?_, fun fault' hg => ?_⟩ <;> rw [hread] at hg <;> cases hg
    rfl
  | ok g =>
    refine ⟨fun g' hg hok => ?_, fun g' hg hne => ?_, fun fault hg => ?_⟩ <;> rw [hread] at hg <;> cases hg
    · simp only [ReplyFrame.reply, hok, Reply.frame]
    · have herror : g.status = .error := by
        cases hstatus : g.status with
        | ok => exact absurd hstatus hne
        | error => rfl
      simp only [ReplyFrame.reply, herror, Reply.frame]

namespace Relayed
variable {subsystem endpoint : String} {answer : Bytes} {f : ReplyFrame}

theorem shaped (h : Relayed subsystem endpoint answer f) : f.Shaped := by
  have hempty (message : Option String) : (ReplyFrame.mk .error message (some subsystem) []).Shaped :=
    ⟨.nil, nofun, nofun⟩
  cases hread : ReplyFrame.read answer with
  | error fault =>
    rw [h.unreadable fault hread]
    exact hempty _
  | ok g =>
    cases hstatus : g.status with
    | ok =>
      rw [h.ok g hread hstatus]
      obtain ⟨hsorted, hfields, hfree⟩ := ReplyFrame.shaped_of_read hread
      exact ⟨hsorted, hfields, hfree⟩
    | error =>
      rw [h.refused g hread (by rw [hstatus]; exact Status.noConfusion)]
      exact hempty _

end Relayed

theorem ReplyFrame.again_eq_self_iff {f : ReplyFrame} (h : f.Shaped) :
    f.again = f ↔ ∀ m ∈ f.fields, m.2.Exact := by
  obtain ⟨status, message, subsystem, fields⟩ := f
  have hfields : Json.membersAgain fields = fields ↔ ∀ m ∈ fields, m.2.Exact :=
    Json.membersAgain_eq_self_iff.trans (forall₂_congr fun m hm => Json.again_eq_self_iff (h.fields m hm))
  rw [← hfields, again, ReplyFrame.mk.injEq]
  simp only [true_and]

/-! ## Programs beside the controller -/

/-- A program that commands are passed on to. -/
inductive Peer where
  | acquisition
  | display

namespace Peer

/-- The subsystem that passes commands on to the program. -/
def subsystem : Peer → String
  | acquisition => "daq"
  | display => "disp"

def socket (e : Equipment W) : Peer → PeerSocket W
  | acquisition => e.acquisition
  | display => e.display

def link (s : Subsystems) : Peer → PeerLink
  | acquisition => s.acquisition
  | display => s.display

/-- A command is passed on as a request: all of the data acquisition, and of the display those that the
display server has to act on. A text to be shown goes out with all its options. -/
inductive Forwards : Peer → (verb : String) → Options → Request → Prop
  | acquisition (verb : AcquisitionVerb) (o : Options) :
    Forwards .acquisition (Verb.name verb) o { command := verb.programCommand }
  | clear (o : Options) : Forwards .display "clear" o { command := "clear" }
  | display {o : Options} {text : String} (h : o.get? "message" = some (.string text)) :
    Forwards .display "display" o { command := "display", options := some o }
  | ping (o : Options) : Forwards .display "ping" o { command := "ping" }

variable {e : Equipment W} {s : Subsystems} {p : Peer} {verb : String} {o : Options} {r : Request}

theorem mem_names : ∀ p : Peer, p.subsystem ∈ Equipment.names
  | acquisition => by decide
  | display => by decide

theorem target_subsystem : ∀ p : Peer, Target.ofName p.subsystem = .subsystem p.subsystem
  | acquisition => rfl
  | display => rfl

theorem parse?_name (verb : DisplayVerb) : Verb.parse? (Verb.name verb) = some verb := by
  cases verb <;> rfl

/-- A command that is passed on is answered with what the call comes back with. -/
theorem serve_forwards (h : p.Forwards verb o r) (w : W) :
    (e.serve p.subsystem verb o s w).1.1 = .reply ((p.link s).call (p.socket e) r w).1.1 := by
  cases h with
  | acquisition verb o => exact serveBy_of_parse? (Acquisition.handle e.acquisition) (Plant.parse?_name verb) o s.acquisition w
  | clear o => exact serveBy_of_parse? (Display.handle e.display) (parse?_name .clear) o s.display w
  | ping o => exact serveBy_of_parse? (Display.handle e.display) (parse?_name .ping) o s.display w
  | @display o text h =>
    have hstring : o.string "message" = .ok text := by
      unfold Options.string
      rw [h]
    have hdisplay : Display.display e.display o s.display =
        s.display.call e.display { command := "display", options := some o } := by
      unfold Display.display
      rw [hstring]
    refine (serveBy_of_parse? (Display.handle e.display) (parse?_name .display) o s.display w).trans ?_
    show Outcome.reply (Display.display e.display o s.display w).1.1 = _
    rw [hdisplay]
    rfl

end Peer

namespace Dispatcher
variable {e : Equipment W} {s : Subsystems} {d : Dispatcher W} {p : Peer} {verb : String} {o : Options}
  {r : Request} {body answer : Bytes} {w : W}

theorem handle_forwards (hd : d.registry = e.registry s) (hforwards : p.Forwards verb o r)
    (hbody : Command.Addresses body p.subsystem verb o) :
    (d.handle body w).1 = ((p.link s).call (p.socket e) r w).1.1.frame p.subsystem := by
  have hdecode : decode body = .ok ⟨.subsystem p.subsystem, verb, o⟩ := by
    rw [decode_of_addresses hbody, p.target_subsystem]
  unfold handle
  simp only [hdecode, dispatch, moduleCommand_registry hd, if_pos p.mem_names, Peer.serve_forwards hforwards,
    ofOutcome, Target.name]

/-- Whatever a program answers, the frame for it has a header of its own and no member twice, and where its
text is read again it is the same frame, but for floats that are read as others. -/
theorem relay (hd : d.registry = e.registry s) (hforwards : p.Forwards verb o r)
    (hbody : Command.Addresses body p.subsystem verb o) (hanswer : (p.link s).Answers (p.socket e) r w answer) :
    ∃ f, (d.handle body w).1 = f ∧ Relayed p.subsystem (p.link s).endpoint answer f ∧
      ReplyFrame.read (Bytes.ofString f.text) = .ok f.again ∧
      (f.again = f ↔ ∀ m ∈ f.fields, m.2.Exact) ∧
      ∃ members, f.toJson = .object members ∧ (members.map (·.1)).Nodup := by
  have hrelayed := relayed_frame p.subsystem (p.link s).endpoint answer
  rw [← PeerLink.call_of_answers hanswer] at hrelayed
  exact ⟨_, handle_forwards hd hforwards hbody, hrelayed, ReplyFrame.read_text hrelayed.shaped,
    ReplyFrame.again_eq_self_iff hrelayed.shaped, _, rfl, ReplyFrame.nodup_members hrelayed.shaped⟩

end Dispatcher

/-! ## A gauge

A data acquisition program that answers everything with a value, which has a digit more than a float needs. -/

namespace Gauge

def answer : Bytes := Bytes.ofString "\x7b\"status\":\"ok\",\"x\":1.40000000000000013\x7d"

def program : Acquirer Unit := ⟨fun _ p => (answer, p), fun _ => false⟩

def equipment : Equipment (Plant Unit) :=
  Plant.equipment program .bench ⟨fun _ => none, .empty⟩ Rig.localEndpoints

def subsystems : Subsystems := ⟨.allOff, .new Rig.localEndpoints.display, .new Rig.localEndpoints.acquisition⟩

def dispatcher : Dispatcher (Plant Unit) := { registry := equipment.registry subsystems }

def plant : Plant Unit := { program := (), now := ⟨0, "", ""⟩ }

def ping : Bytes := Bytes.ofString (Command.request ⟨.ofName "daq", "ping", .empty⟩).text

theorem relay_gauge :
    dispatcher.registry = equipment.registry subsystems ∧
      Peer.acquisition.Forwards "ping" .empty { command := "ping" } ∧
      Command.Addresses ping "daq" "ping" .empty ∧
      (Peer.link subsystems .acquisition).Answers (Peer.socket equipment .acquisition) { command := "ping" } plant
        answer ∧
      ∃ f, (dispatcher.handle ping plant).1 = f ∧
        Relayed "daq" (Peer.link subsystems .acquisition).endpoint answer f ∧
        ReplyFrame.read (Bytes.ofString f.text) = .ok f.again ∧
        (f.again = f ↔ ∀ m ∈ f.fields, m.2.Exact) ∧
        ∃ members, f.toJson = .object members ∧ (members.map (·.1)).Nodup := by
  have hforwards : Peer.acquisition.Forwards "ping" .empty { command := "ping" } := .acquisition .ping .empty
  have hbody : Command.Addresses ping "daq" "ping" .empty := by
    obtain ⟨target, verb, o, hc, h⟩ := Dispatcher.addresses_of_decode (Dispatcher.decode_plain "daq" "ping" (by decide))
    obtain ⟨htarget, rfl, rfl⟩ := Command.mk.inj hc
    rwa [← Command.ofName_inj.1 htarget] at h
  have hanswer : (Peer.link subsystems .acquisition).Answers (Peer.socket equipment .acquisition)
      { command := "ping" } plant answer := .intro rfl rfl rfl
  exact ⟨rfl, hforwards, hbody, hanswer, Dispatcher.relay rfl hforwards hbody hanswer⟩

/-- The floats of the payload, bit by bit. -/
def payloadBits (f : ReplyFrame) : List (Option UInt64) :=
  f.fields.map fun m => match m.2 with
    | .number (.float x) => some x.toBits
    | _ => none

/-- The value of the gauge is written as it was read, but not read as it was written. -/
theorem relayed_inexactly :
    ∃ f g, (dispatcher.handle ping plant).1 = f ∧ ReplyFrame.read (Bytes.ofString f.text) = .ok g ∧ g ≠ f := by
  have hsent : payloadBits (dispatcher.handle ping plant).1 = [some 0x3FF6666666666667] := by decide +kernel
  have hreread : (ReplyFrame.read (Bytes.ofString (dispatcher.handle ping plant).1.text)).toOption.map payloadBits =
      some [some 0x3FF6666666666666] := by decide +kernel
  generalize (dispatcher.handle ping plant).1 = f at hsent hreread ⊢
  cases hread : ReplyFrame.read (Bytes.ofString f.text) with
  | error fault =>
    rw [hread] at hreread
    cases hreread
  | ok g =>
    refine ⟨f, g, rfl, hread, ?_⟩
    rintro rfl
    rw [hread] at hreread
    have hbits : payloadBits g = [some 0x3FF6666666666666] := Option.some.inj hreread
    exact absurd (hsent.symm.trans hbits) (by decide)

end Gauge

end DetectorControl
