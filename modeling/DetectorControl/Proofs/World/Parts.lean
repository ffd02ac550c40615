import DetectorControl.Controller.Rig
import DetectorControl.Proofs.World.Sight

/-!
# The parts of a rig

The subsystems that need no other program share the board of a rig: the supply writes levels and outputs, a
reading of the sensors counts down their failures and counts itself, and the heartbeat stands beside the board.
`Rig.part` is what some of them see of the rig; all else they only read. A command to one of them goes by what
it sees (`serve_sees`), and nobody sees what a command to another one has done (`serve_keeps`).
-/

namespace DetectorControl

/-- The subsystems that work on the board itself, and need no other program. -/
def Equipment.onBoard : List String := ["det", "hv", "hk", "heartbeat"]

theorem ite_mem_of_subset {names names' : List String} (hsub : names' ⊆ names) {α : Type} (name : String) (x y : α) :
    (if name ∈ names' then if name ∈ names then x else y else y) = if name ∈ names' then x else y := by
  by_cases hname : name ∈ names'
  · rw [if_pos hname, if_pos (hsub hname), if_pos hname]
  · rw [if_neg hname, if_neg hname]

namespace Board

/-- The board as the subsystems of the given names see it, without what only others of it work on. -/
def part (names : List String) (b : Board) : Board :=
  { b with
    levels := if "hv" ∈ names then b.levels else .replicate 2 0
    outputs := if "hv" ∈ names then b.outputs else .replicate 2 false
    environmentFailures := if "hk" ∈ names then b.environmentFailures else 0
    environmentReads := if "hk" ∈ names then b.environmentReads else 0 }

variable {names names' : List String} {b b' : Board}

theorem part_part (hsub : names' ⊆ names) (b : Board) : (b.part names).part names' = b.part names' := by
  simp only [part, ite_mem_of_subset hsub]

section
variable (hb : b.part names = b'.part names)
include hb

theorem part_levels (levels : Vector Float 2) : part names { b with levels } = part names { b' with levels } :=
  congrArg (fun c => { c with levels := if "hv" ∈ names then levels else .replicate 2 0 }) hb

theorem part_outputs (outputs : Vector Bool 2) : part names { b with outputs } = part names { b' with outputs } :=
  congrArg (fun c => { c with outputs := if "hv" ∈ names then outputs else .replicate 2 false }) hb

theorem part_environment (environmentFailures environmentReads : Nat) :
    part names { b with environmentFailures, environmentReads } =
      part names { b' with environmentFailures, environmentReads } :=
  congrArg (fun c => { c with
    environmentFailures := if "hk" ∈ names then environmentFailures else 0
    environmentReads := if "hk" ∈ names then environmentReads else 0 }) hb

theorem levels_of_part (h : "hv" ∈ names) : b.levels = b'.levels := by
  have hlevels := congrArg levels hb
  simpa only [part, if_pos h] using hlevels

theorem outputs_of_part (h : "hv" ∈ names) : b.outputs = b'.outputs := by
  have houtputs := congrArg outputs hb
  simpa only [part, if_pos h] using houtputs

theorem environment_of_part (h : "hk" ∈ names) :
    b.environmentFailures = b'.environmentFailures ∧ b.environmentReads = b'.environmentReads := by
  have hfailures := congrArg environmentFailures hb
  have hreads := congrArg environmentReads hb
  simp only [part, if_pos h] at hfailures hreads
  exact ⟨hfailures, hreads⟩

/-- What is only read is seen by all. -/
theorem faults_of_part :
    b.spiFault = b'.spiFault ∧ b.adcFault = b'.adcFault := by
  have hspi := congrArg spiFault hb
  have hadc := congrArg adcFault hb
  exact ⟨hspi, hadc⟩

theorem sensors_of_part :
    b.channels = b'.channels ∧ b.environment = b'.environment ∧ b.slideSwitch = b'.slideSwitch := by
  have hchannels := congrArg channels hb
  have henvironment := congrArg environment hb
  have hswitch := congrArg slideSwitch hb
  exact ⟨hchannels, henvironment, hswitch⟩

end

theorem sees_supply (h : "hv" ∈ names) : supply.Sees (part names) where
  level channel level := by
    intro b b' hb
    show (setLevel channel level b).1 = (setLevel channel level b').1 ∧
      part names (setLevel channel level b).2 = part names (setLevel channel level b').2
    unfold setLevel
    by_cases hch : channel < 2
    · rw [dif_pos hch, dif_pos hch]
      by_cases hfault : b.spiFault = true
      · rw [if_pos hfault, if_pos ((faults_of_part hb).1 ▸ hfault)]
        exact ⟨rfl, hb⟩
      · rw [if_neg hfault, if_neg ((faults_of_part hb).1 ▸ hfault)]
        exact ⟨rfl, by rw [levels_of_part hb h]; exact part_levels hb _⟩
    · rw [dif_neg hch, dif_neg hch]
      exact ⟨rfl, hb⟩
  output channel on := by
    intro b b' hb
    show (setOutput channel on b).1 = (setOutput channel on b').1 ∧
      part names (setOutput channel on b).2 = part names (setOutput channel on b').2
    unfold setOutput
    by_cases hch : channel < 2
    · rw [dif_pos hch, dif_pos hch]
      exact ⟨rfl, by rw [outputs_of_part hb h]; exact part_outputs hb _⟩
    · rw [dif_neg hch, dif_neg hch]
      exact ⟨rfl, hb⟩

theorem keeps_supply (h : "hv" ∉ names) : supply.Keeps (part names) where
  level channel level b := by
    show part names (setLevel channel level b).2 = _
    unfold setLevel
    split
    · split
      · rfl
      · simp only [part, if_neg h]
    · rfl
  output channel on b := by
    show part names (setOutput channel on b).2 = _
    unfold setOutput
    split
    · simp only [part, if_neg h]
    · rfl

/-- What the environmental sensor answers, and how many of its next readings fail then. -/
def sensed (environment : Option Environment) : (failures : Nat) → Except HardwareError Environment × Nat
  | n + 1 => (.error (.communication "BME280 I2C read failed"), n)
  | 0 =>
    match environment with
    | some e => (.ok e, 0)
    | none => (.error (.notAvailable "BME280"), 0)

theorem readEnvironment_sensed (b : Board) :
    readEnvironment b = ((sensed b.environment b.environmentFailures).1,
      { b with
        environmentFailures := (sensed b.environment b.environmentFailures).2
        environmentReads := b.environmentReads + 1 }) := by
  obtain ⟨levels, outputs, beat, writes, temperatures, currents, environment, failures, reads, switch, fault, spi⟩ := b
  cases failures with
  | succ n => rfl
  | zero => cases environment <;> rfl

theorem sees_sensors (h : "hk" ∈ names) : sensors.Sees (part names) where
  adc := by
    intro b b' hb
    show (readAdc b).1 = (readAdc b').1 ∧ part names (readAdc b).2 = part names (readAdc b').2
    unfold readAdc
    by_cases hfault : b.adcFault = true
    · rw [if_pos hfault, if_pos ((faults_of_part hb).2 ▸ hfault)]
      exact ⟨rfl, hb⟩
    · rw [if_neg hfault, if_neg ((faults_of_part hb).2 ▸ hfault), (sensors_of_part hb).1]
      exact ⟨rfl, hb⟩
  environment := by
    intro b b' hb
    obtain ⟨hfailures, hreads⟩ := environment_of_part hb h
    have hsensed : sensed b.environment b.environmentFailures = sensed b'.environment b'.environmentFailures := by
      rw [(sensors_of_part hb).2.1, hfailures]
    show (readEnvironment b).1 = (readEnvironment b').1 ∧
      part names (readEnvironment b).2 = part names (readEnvironment b').2
    rw [readEnvironment_sensed b, readEnvironment_sensed b', hsensed, hreads]
    exact ⟨rfl, part_environment hb _ _⟩
  switch := by
    intro b b' hb
    show (readSwitch b).1 = (readSwitch b').1 ∧ part names (readSwitch b).2 = part names (readSwitch b').2
    unfold readSwitch
    rw [(sensors_of_part hb).2.2]
    split <;> exact ⟨rfl, hb⟩

theorem keeps_sensors (h : "hk" ∉ names) : sensors.Keeps (part names) where
  adc b := by
    show part names (readAdc b).2 = _
    unfold readAdc
    split <;> rfl
  environment b := by
    show part names (readEnvironment b).2 = _
    rw [readEnvironment_sensed]
    simp only [part, if_neg h]
  switch b := by
    show part names (readSwitch b).2 = _
    unfold readSwitch
    split <;> rfl

end Board

namespace Rig
variable {names names' : List String} {w w' : Rig}

/-- The rig as the subsystems of the given names see it: without what only others of the board work on, and
without the clock. -/
def part (names : List String) (w : Rig) : Rig :=
  { w with
    board := w.board.part names
    heartbeat := if "heartbeat" ∈ names then w.heartbeat else {}
    now := ⟨0, "", ""⟩ }

theorem part_part (hsub : names' ⊆ names) (w : Rig) : (w.part names).part names' = w.part names' := by
  simp only [part, Board.part_part hsub, ite_mem_of_subset hsub]

theorem board_of_part (hw : w.part names = w'.part names) : w.board.part names = w'.board.part names := by
  have hboard := congrArg board hw
  exact hboard

theorem part_board {b b' : Board} (hb : b.part names = b'.part names) (hw : w.part names = w'.part names) :
    (putBoard b w).part names = (putBoard b' w').part names := by
  show { w.part names with board := b.part names } = { w'.part names with board := b'.part names }
  rw [hb, hw]

theorem part_heartbeat (h : Heartbeat) (hw : w.part names = w'.part names) :
    (putHeartbeat h w).part names = (putHeartbeat h w').part names :=
  congrArg (fun c => { c with heartbeat := if "heartbeat" ∈ names then h else {} }) hw

theorem heartbeat_of_part (h : "heartbeat" ∈ names) (hw : w.part names = w'.part names) :
    w.heartbeat = w'.heartbeat := by
  have hheartbeat := congrArg heartbeat hw
  simpa only [part, if_pos h] using hheartbeat

theorem fault_of_part (hw : w.part names = w'.part names) : w.outputFault = w'.outputFault := by
  have hfault := congrArg outputFault hw
  exact hfault

theorem setOutput_of_fault (h : w.outputFault = true) (channel : Nat) (on : Bool) :
    supply.setOutput channel on w = (.error (.notAvailable "GPIO"), w) := if_pos h

theorem setOutput_of_not_fault (h : ¬ w.outputFault = true) (channel : Nat) (on : Bool) :
    supply.setOutput channel on w = zoom board putBoard (Board.supply.setOutput channel on) w := if_neg h

theorem sees_supply (h : "hv" ∈ names) : supply.Sees (part names) where
  level channel level :=
    .zoom ((Board.sees_supply h).level channel level) (fun _ _ => board_of_part) fun _ _ _ _ => part_board
  output channel on := by
    intro w w' hw
    by_cases hfault : w.outputFault = true
    · rw [setOutput_of_fault hfault, setOutput_of_fault (fault_of_part hw ▸ hfault)]
      exact ⟨rfl, hw⟩
    · rw [setOutput_of_not_fault hfault, setOutput_of_not_fault (fault_of_part hw ▸ hfault)]
      exact Sees.zoom ((Board.sees_supply h).output channel on) (fun _ _ => board_of_part)
        (fun _ _ _ _ => part_board) w w' hw

theorem keeps_board {α : Type} {x : StateM Board α} (hx : Keeps (Board.part names) x) :
    Keeps (part names) (zoom board putBoard x) :=
  fun w => (part_board (hx w.board) rfl : _ = (putBoard w.board w).part names)

theorem keeps_supply (h : "hv" ∉ names) : supply.Keeps (part names) where
  level channel level := keeps_board ((Board.keeps_supply h).level channel level)
  output channel on := by
    intro w
    by_cases hfault : w.outputFault = true
    · rw [setOutput_of_fault hfault]
    · rw [setOutput_of_not_fault hfault]
      exact keeps_board ((Board.keeps_supply h).output channel on) w

theorem sees_sensors (h : "hk" ∈ names) : sensors.Sees (part names) :=
  have hboard := Board.sees_sensors h
  ⟨.zoom hboard.adc (fun _ _ => board_of_part) fun _ _ _ _ => part_board,
    .zoom hboard.environment (fun _ _ => board_of_part) fun _ _ _ _ => part_board,
    .zoom hboard.switch (fun _ _ => board_of_part) fun _ _ _ _ => part_board⟩

theorem keeps_sensors (h : "hk" ∉ names) : sensors.Keeps (part names) :=
  have hboard := Board.keeps_sensors h
  ⟨keeps_board hboard.adc, keeps_board hboard.environment, keeps_board hboard.switch⟩

/-- What is seen of a rig by one or another is all but the clock. -/
theorem eq_of_part (h : ∀ name ∈ Equipment.onBoard, w.part [name] = w'.part [name]) (now : Instant) :
    { w with now } = { w' with now } := by
  have hsupply := h "hv" (by decide)
  have hsensors := h "hk" (by decide)
  have hheartbeat := heartbeat_of_part (by decide) (h "heartbeat" (by decide))
  have hboard : w.board = w'.board := by
    obtain ⟨hfailures, hreads⟩ := Board.environment_of_part (board_of_part hsensors) (by decide)
    have hfull (b : Board) : b = { b.part ["hv"] with
      levels := b.levels
      outputs := b.outputs
      environmentFailures := b.environmentFailures
      environmentReads := b.environmentReads } := rfl
    rw [hfull w.board, hfull w'.board, board_of_part hsupply,
      Board.levels_of_part (board_of_part hsupply) (by decide),
      Board.outputs_of_part (board_of_part hsupply) (by decide), hfailures, hreads]
  have hfull (w : Rig) : { w with now } = { w.part ["hv"] with board := w.board, heartbeat := w.heartbeat, now } := rfl
  rw [hfull w, hfull w', hsupply, hboard, hheartbeat]

end Rig

/-! ## Commands -/

/-- The states of the subsystems as those of the given names see them. -/
def Subsystems.part (names : List String) (s : Subsystems) : Subsystems :=
  { s with supply := if "hv" ∈ names then s.supply else .allOff }

theorem Subsystems.part_part {names names' : List String} (hsub : names' ⊆ names) (s : Subsystems) :
    (s.part names).part names' = s.part names' := by
  simp only [part, ite_mem_of_subset hsub]

theorem Subsystems.supply_of_part {names : List String} {s s' : Subsystems} (h : "hv" ∈ names)
    (hs : s.part names = s'.part names) : s.supply = s'.supply := by
  have hsupply := congrArg supply hs
  simpa only [part, if_pos h] using hsupply

theorem Subsystems.eq_of_part {s s' : Subsystems} (hs : s.part ["hv"] = s'.part ["hv"]) : s = s' := hs

theorem Subsystems.part_supply {names : List String} {s s' : Subsystems} {supply supply' : Supply}
    (heq : supply = supply') (hs : s.part names = s'.part names) :
    part names { s with supply } = part names { s' with supply := supply' } := by
  rw [heq]
  exact congrArg (fun c => { c with supply := if "hv" ∈ names then supply' else .allOff }) hs

namespace Rig
variable (config : Config) (host : Host) (endpoints : Endpoints) {names : List String} {name : String}
  {s s' : Subsystems} {w w' : Rig}

/-- A command to a subsystem is answered, but for the clock, and carried out according to what is seen by some
that include it. -/
theorem serve_sees (hboard : name ∈ Equipment.onBoard) (hname : name ∈ names) (verb : String) (o : Options)
    (hs : s.part names = s'.part names) (hw : w.part names = w'.part names) :
    ((equipment config host endpoints).serve name verb o s w).1.1.undated =
        ((equipment config host endpoints).serve name verb o s' w').1.1.undated ∧
      ((equipment config host endpoints).serve name verb o s w).1.2.part names =
        ((equipment config host endpoints).serve name verb o s' w').1.2.part names ∧
      ((equipment config host endpoints).serve name verb o s w).2.part names =
        ((equipment config host endpoints).serve name verb o s' w').2.part names := by
  have hnow : Keeps (part names) (equipment config host endpoints).now := fun _ => rfl
  have hdone {V : Type} [Verb V] {handle : V → Options → Unit → StateM Rig (Reply × Unit)}
      (h : ∀ v o state, Sees (part names) (fun r : Reply × Unit => r.1.undated) (handle v o state)) :
      (serveBy handle verb o () w).1.1.undated = (serveBy handle verb o () w').1.1.undated ∧
        s.part names = s'.part names ∧
        (serveBy handle verb o () w).2.part names = (serveBy handle verb o () w').2.part names := by
    have hsees := sees_serveBy fun v o state =>
      (h v o state).mono (fun r => (r.1.undated, r.2)) fun r r' heq => Prod.ext heq rfl
    obtain ⟨hanswer, hpart⟩ := hsees verb o () w w' hw
    exact ⟨(Prod.mk.inj hanswer).1, hs, hpart⟩
  simp only [Equipment.onBoard, List.mem_cons, List.not_mem_nil, or_false] at hboard
  rcases hboard with rfl | rfl | rfl | rfl
  · exact hdone (Detector.sees_handle hnow host config)
  · have hsees := sees_serveBy fun v o state => (Supply.sees_handle (sees_supply hname) config v o state).mono
      (fun r => (r.1.undated, r.2)) fun r r' heq => by rw [show r = r' from heq]
    obtain ⟨hanswer, hpart⟩ := hsees verb o s.supply w w' hw
    obtain ⟨hreply, hsupply⟩ := Prod.mk.inj hanswer
    rw [Subsystems.supply_of_part hname hs] at hreply hsupply hpart
    show (serveBy (Supply.handle supply config) verb o s.supply w).1.1.undated = _ ∧
      Subsystems.part names { s with supply := (serveBy (Supply.handle supply config) verb o s.supply w).1.2 } = _ ∧
      (serveBy (Supply.handle supply config) verb o s.supply w).2.part names = _
    rw [Subsystems.supply_of_part hname hs]
    exact ⟨hreply, Subsystems.part_supply hsupply hs, hpart⟩
  · exact hdone (Housekeeping.sees_handle (sees_sensors hname) hnow)
  · have hget (w w' : Rig) : w.part names = w'.part names → w.heartbeat = w'.heartbeat := heartbeat_of_part hname
    have hput (h : Heartbeat) (w w' : Rig) :
        w.part names = w'.part names → (putHeartbeat h w).part names = (putHeartbeat h w').part names :=
      part_heartbeat h
    exact hdone fun v o state => (HeartbeatControl.sees_handle hget hput v o state).mono _ fun r r' heq => by
      rw [show r = r' from heq]

/-- Nobody else sees what a command to a subsystem has done. -/
theorem serve_keeps (hboard : name ∈ Equipment.onBoard) (hname : name ∉ names) (verb : String) (o : Options)
    (s : Subsystems) (w : Rig) :
    ((equipment config host endpoints).serve name verb o s w).1.2.part names = s.part names ∧
      ((equipment config host endpoints).serve name verb o s w).2.part names = w.part names := by
  have hnow : Keeps (part names) (equipment config host endpoints).now := fun _ => rfl
  simp only [Equipment.onBoard, List.mem_cons, List.not_mem_nil, or_false] at hboard
  rcases hboard with rfl | rfl | rfl | rfl
  · exact ⟨rfl, keeps_serveBy (Detector.keeps_handle hnow host config) verb o () w⟩
  · refine ⟨?_, Equipment.keeps_serve_supply (keeps_supply hname) verb o s w⟩
    show { s with supply := if "hv" ∈ names then _ else .allOff } = s.part names
    unfold Subsystems.part
    rw [if_neg hname, if_neg hname]
  · exact ⟨rfl, Equipment.keeps_serve_sensors (keeps_sensors hname) hnow verb o s w⟩
  · have hput (h : Heartbeat) (w : Rig) : (putHeartbeat h w).part names = w.part names := by
      unfold part putHeartbeat
      dsimp only
      rw [if_neg hname, if_neg hname]
    exact ⟨rfl, keeps_serveBy (HeartbeatControl.keeps_handle hput) verb o () w⟩

end Rig

end DetectorControl
