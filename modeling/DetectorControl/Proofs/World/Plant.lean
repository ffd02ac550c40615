import DetectorControl.Controller.Rig
import DetectorControl.Proofs.Controller.Frames
import DetectorControl.Proofs.Hardware.Board
import DetectorControl.Proofs.Wire.Frames

/-!
# A controller and its data acquisition

A plant is a simulated board beside a data acquisition program that is given only by what it answers
to requests and by whether it records events (`Acquirer`). What the commands to `daq` and to `hv` do
to the plant is said here; all that is known of the program is that it obeys (`Acquirer.Obeys`).
-/

namespace DetectorControl

/-- A data acquisition program. -/
structure Acquirer (P : Type) where
  /-- The answer to a request, and the program after it. -/
  answer : Bytes → P → Bytes × P
  recording : P → Bool

namespace Acquirer
variable {P : Type}

/-- The text of the request that a verb becomes. -/
def request (verb : AcquisitionVerb) : Bytes :=
  Bytes.ofString (Request.text { command := verb.programCommand })

/-- The program is told by a verb. -/
def told (a : Acquirer P) (verb : AcquisitionVerb) (p : P) : P := (a.answer (request verb) p).2

/-- The program reports whether it records, and starts and stops recording when it is told to and at no
other time. -/
structure Obeys (a : Acquirer P) : Prop where
  status : ∀ p, ∃ f s, ReplyFrame.read (a.answer (request .status) p).1 = .ok f ∧
    f.reply.decode RunStatus.ofTree? = .ok s ∧
    s.state = if a.recording p then .running else .paused
  asked : ∀ p, a.recording (a.told .status p) = a.recording p
  pause : ∀ p, a.recording (a.told .pause p) = false
  resume : ∀ p, a.recording (a.told .resume p) = true
  switchOutput : ∀ p, a.recording (a.told .switchOutput p) = a.recording p

end Acquirer

/-- A board and the programs beside it. -/
structure Plant (P : Type) where
  board : Board := .fresh
  heartbeat : Heartbeat := {}
  display : PeerProgram := {}
  program : P
  /-- The answer that the program has sent last and nobody has received. -/
  waiting : Option Bytes := none
  now : Instant

namespace Plant
variable {P : Type}

def putBoard (board : Board) (w : Plant P) : Plant P := { w with board }

def putHeartbeat (heartbeat : Heartbeat) (w : Plant P) : Plant P := { w with heartbeat }

def putDisplay (display : PeerProgram) (w : Plant P) : Plant P := { w with display }

/-- The socket to the program, which always answers. -/
def socket (a : Acquirer P) : PeerSocket (Plant P) where
  connect _ := fun w => (.ok (), w)
  send body := fun w =>
    match a.answer body w.program with
    | (answer, program) => (.ok (), { w with program, waiting := some answer })
  receive := fun w =>
    match w.waiting with
    | some answer => (.ok answer, { w with waiting := none })
    | none => (.error "Resource temporarily unavailable", w)
  close := fun w => ((), { w with waiting := none })

def equipment (a : Acquirer P) (config : Config) (host : Host) (endpoints : Rig.Endpoints) :
    Equipment (Plant P) where
  config
  host
  now := fun w => (w.now, w)
  supply := Board.supply.zoom board putBoard
  sensors := Board.sensors.zoom board putBoard
  heartbeat := heartbeat
  putHeartbeat
  display := PeerProgram.socket.zoom display putDisplay
  displayEndpoint := endpoints.display
  acquisition := socket a
  acquisitionEndpoint := endpoints.acquisition

/-- A new controller of the plant. -/
def controller (a : Acquirer P) (config : Config) (host : Host) (endpoints : Rig.Endpoints)
    (w : Plant P) : Dispatcher (Plant P) × Plant P :=
  (equipment a config host endpoints).controller w

def SwitchedOff (w : Plant P) : Prop := ∀ ch, w.board.IsOff ch

/-! ## The data acquisition -/

def after (a : Acquirer P) (body : Bytes) (w : Plant P) : Plant P :=
  { w with program := (a.answer body w.program).2, waiting := none }

theorem exchange_socket (a : Acquirer P) (r : Request) (w : Plant P) :
    PeerLink.exchange (socket a) r w =
      (match ReplyFrame.read (a.answer (Bytes.ofString r.text) w.program).1 with
        | .ok f => .ok f
        | .error fault => .error (.json fault), w.after a (Bytes.ofString r.text)) := by
  unfold PeerLink.exchange
  cases h : ReplyFrame.read (a.answer (Bytes.ofString r.text) w.program).1 <;>
    simp only [bind, StateT.bind, socket, h] <;> rfl

theorem connect_socket (a : Acquirer P) (l : PeerLink) (w : Plant P) :
    ∃ l', l.connect (socket a) w = ((.ok (), l'), w) := by
  unfold PeerLink.connect
  split
  · exact ⟨l, rfl⟩
  · exact ⟨_, rfl⟩

/-- A call leaves a program that was told behind, and what it comes back with is the answer, if that
is one. -/
theorem call_socket (a : Acquirer P) (r : Request) (l : PeerLink) (w : Plant P) :
    ∃ reply l', l.call (socket a) r w = ((reply, l'), w.after a (Bytes.ofString r.text)) ∧
      ∀ f, ReplyFrame.read (a.answer (Bytes.ofString r.text) w.program).1 = .ok f → reply = f.reply := by
  obtain ⟨l', hconnect⟩ := connect_socket a l w
  have hexchange := exchange_socket a r w
  unfold PeerLink.call PeerLink.request
  cases hread : ReplyFrame.read (a.answer (Bytes.ofString r.text) w.program).1 with
  | ok f =>
    rw [hread] at hexchange
    refine ⟨f.reply, l', ?_, fun g hg => by cases hg; rfl⟩
    simp only [bind, StateT.bind, hconnect, hexchange]
    rfl
  | error fault =>
    rw [hread] at hexchange
    refine ⟨.error ("communication with " ++ l'.endpoint ++ " failed (" ++
      (PeerError.json fault).message ++ ")"), { l' with connected := false }, ?_, nofun⟩
    simp only [bind, StateT.bind, hconnect, hexchange]
    rfl

theorem parse?_name (verb : AcquisitionVerb) : Verb.parse? (Verb.name verb) = some verb := by
  cases verb <;> rfl

section
variable (a : Acquirer P) (config : Config) (host : Host) (endpoints : Rig.Endpoints)

/-- A command to the data acquisition tells its program, and does nothing else. -/
theorem serve_acquisition (verb : AcquisitionVerb) (o : Options) (s : Subsystems) (w : Plant P) :
    ∃ reply s', (equipment a config host endpoints).serve "daq" (Verb.name verb) o s w =
      ((.reply reply, s'), w.after a (Acquirer.request verb)) ∧
        ∀ f, ReplyFrame.read (a.answer (Acquirer.request verb) w.program).1 = .ok f → reply = f.reply := by
  obtain ⟨reply, l', hcall, hreply⟩ :=
    call_socket a { command := verb.programCommand } s.acquisition w
  have hserve : serveBy (Acquisition.handle (socket a)) (Verb.name verb) o s.acquisition w =
      ((.reply reply, l'), w.after a (Acquirer.request verb)) := by
    unfold serveBy
    simp only [parse?_name, Acquisition.handle, bind, StateT.bind, hcall]
    rfl
  refine ⟨reply, { s with acquisition := l' }, ?_, hreply⟩
  show (serveBy (Acquisition.handle (socket a)) (Verb.name verb) o s.acquisition >>= _) w = _
  simp only [bind, StateT.bind, hserve]
  rfl

/-! ## The supply -/

/-- What the supply is set to, and whether it can be set. -/
def supplied (w : Plant P) : Vector Float 2 × Vector Bool 2 × Bool :=
  (w.board.levels, w.board.outputs, w.board.spiFault)

theorem board_of_supplied_eq {w w' : Plant P} (h : w'.supplied = w.supplied) :
    w'.board.levels = w.board.levels ∧ w'.board.outputs = w.board.outputs ∧
      w'.board.spiFault = w.board.spiFault :=
  Prod.mk.inj h |>.imp_right Prod.mk.inj

theorem keepsApart_supplied : (equipment a config host endpoints).KeepsApart supplied where
  now := fun _ => rfl
  sensors := by
    have hboard {α : Type} {x : StateM Board α}
        (hx : Keeps (fun b : Board => (b.levels, b.outputs, b.spiFault)) x) :
        Keeps supplied (zoom board (putBoard (P := P)) x) :=
      .zoom_of hx (fun _ => rfl) (fun _ _ => rfl)
    refine ⟨hboard fun b => ?_, hboard fun b => ?_, hboard fun b => ?_⟩
    · show _ = _
      unfold Board.sensors Board.readAdc
      dsimp only
      split <;> rfl
    · unfold Board.sensors Board.readEnvironment
      dsimp only
      split
      · rfl
      · split <;> rfl
    · unfold Board.sensors Board.readSwitch
      dsimp only
      split <;> rfl
  heartbeat := fun _ _ => rfl
  display := by
    have hput (p : PeerProgram) (w : Plant P) : supplied (putDisplay p w) = supplied w := rfl
    exact PeerSocket.Keeps.zoom hput PeerProgram.socket
  acquisition := ⟨fun _ _ => rfl, fun _ _ => rfl, fun w => by
    show supplied ((socket a).receive w).2 = _
    unfold socket
    dsimp only
    split <;> rfl, fun _ => rfl⟩

theorem switchOff_board (ch : Fin 2) (s : Supply) {w : Plant P} (h : w.board.spiFault = false) :
    (Supply.switchOff (equipment a config host endpoints).supply ch s w).2 =
      w.putBoard (w.board.withOff ch) := by
  have hlevel : Board.setLevel ch 0 w.board = (.ok (), w.board.withLevel ch 0) := by
    rw [Board.setLevel_eq _ _ Board.zero_le_zero Board.zero_le_highest, h]
    rfl
  have houtput := Board.setOutput_eq (w.board.withLevel ch 0) ch false
  show w.putBoard (Board.setOutput ch false (Board.setLevel ch 0 w.board).2).2 = _
  rw [hlevel, houtput]
  rfl

theorem switchAllOff_board (s : Supply) {w : Plant P} (h : w.board.spiFault = false) :
    (Supply.switchAllOff (equipment a config host endpoints).supply s w).2 =
      w.putBoard ((w.board.withOff 0).withOff 1) := by
  rw [Supply.switchAllOff_eq, switchOff_board a config host endpoints 0 s h]
  exact switchOff_board a config host endpoints 1 _ (w := w.putBoard (w.board.withOff 0)) h

theorem switchedOff_putBoard (w : Plant P) : (w.putBoard ((w.board.withOff 0).withOff 1)).SwitchedOff
  | 0 => (w.board.withOff 0).isOff_withOff_of_isOff 1 (w.board.isOff_withOff 0)
  | 1 => (w.board.withOff 0).isOff_withOff 1

/-- Whether the supply answers, and the program. -/
def companions (w : Plant P) : Bool × P := (w.board.spiFault, w.program)

theorem supply_keeps_companions : (equipment a config host endpoints).supply.Keeps companions where
  level channel level w := by
    show ((Board.setLevel channel level w.board).2.spiFault, w.program) = _
    unfold Board.setLevel
    split
    · split <;> rfl
    · rfl
  output channel on w := by
    show ((Board.setOutput channel on w.board).2.spiFault, w.program) = _
    unfold Board.setOutput
    split <;> rfl

theorem sensors_keep_program : (equipment a config host endpoints).sensors.Keeps program :=
  have hput (b : Board) (w : Plant P) : (putBoard b w).program = w.program := rfl
  Sensors.Keeps.zoom hput Board.sensors

theorem serve_offAll (o : Options) (s : Subsystems) {w : Plant P} (h : w.board.spiFault = false) :
    ((equipment a config host endpoints).serve "hv" "off_all" o s w).2 =
      w.putBoard ((w.board.withOff 0).withOff 1) :=
  switchAllOff_board a config host endpoints s.supply h

theorem controller_board {w : Plant P} (h : w.board.spiFault = false) :
    (∃ s, (controller a config host endpoints w).1.registry =
      (equipment a config host endpoints).registry s) ∧
      (controller a config host endpoints w).2 = w.putBoard ((w.board.withOff 0).withOff 1) :=
  ⟨⟨_, rfl⟩, switchAllOff_board a config host endpoints Supply.allOff h⟩

end

end Plant

end DetectorControl
