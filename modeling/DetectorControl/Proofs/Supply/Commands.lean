import DetectorControl.Proofs.Basic
import DetectorControl.Subsystems.HighVoltage

/-!
# What a command to the supply can do

`Supply.Step` lists every way in which a command can end, with the reply, the record and the world
that it leaves behind; `handle_step` says that there is no other. The proofs about the supply go by
cases on it and do not open the handlers.
-/

namespace DetectorControl.Supply
variable {W : Type}

def setReply (ch : Fin 2) (level v : Float) : Reply :=
  Reply.done.withMessage "hv.set executed" |>.withField "ch" (.nat ch)
    |>.withField "value_in_mV" (.float level) |>.withField "value_in_HV_V" (.float v)

def onReply (ch : Fin 2) (level : Float) : Reply :=
  Reply.done.withMessage "hv.on executed" |>.withField "ch" (.nat ch)
    |>.withField "value_in_mV" (.float level)

def withChannel (s : Supply) (ch : Fin 2) (c : ChannelStatus) : Supply := ⟨putAt s.channels ch c⟩

theorem get_withChannel_self (s : Supply) (ch : Fin 2) (c : ChannelStatus) :
    (s.withChannel ch c).channels.get ch = c :=
  get_putAt_self ..

theorem get_withChannel_of_ne (s : Supply) {ch ch' : Fin 2} (h : ch ≠ ch') (c : ChannelStatus) :
    (s.withChannel ch c).channels.get ch' = s.channels.get ch' :=
  get_putAt_of_ne _ h c

/-- Whatever the writes of switching off come to, the channel is recorded as off. -/
theorem switchOff_eq (d : SupplyDriver W) (ch : Fin 2) (s : Supply) (w : W) :
    switchOff d ch s w =
      (s.withChannel ch channelOff, (d.setOutput ch false (d.setLevel ch 0 w).2).2) := rfl

theorem switchAllOff_eq (d : SupplyDriver W) (s : Supply) (w : W) :
    switchAllOff d s w =
      switchOff d 1 (switchOff d 0 s w).1 (switchOff d 0 s w).2 := rfl

/-- The ways in which a command can end. -/
inductive Step (d : SupplyDriver W) (config : Config) (o : Options) (s : Supply) (w : W) :
    SupplyVerb → Reply → Supply → W → Prop
  | status : Step d config o s w .status s.status s w
  | setRefused {message : String} (h : setting config o = .error message) :
    Step d config o s w .set (.error message) s w
  | setFailed {ch : Fin 2} {level v : Float} {e : HardwareError} {w' : W}
    (h : setting config o = .ok (ch, level, v)) (hw : d.setLevel ch level w = (.error e, w')) :
    Step d config o s w .set
      (.error ("hv.set command failed to set DAC output voltage (" ++ e.message ++ ")")) s w'
  | set {ch : Fin 2} {level v : Float} {w' : W} (h : setting config o = .ok (ch, level, v))
    (hw : d.setLevel ch level w = (.ok (), w')) :
    Step d config o s w .set (setReply ch level v)
      (s.withChannel ch { s.channels.get ch with level }) w'
  | onRefused {message : String} (h : channelOption "hv.on" o = .error message) :
    Step d config o s w .on (.error message) s w
  | onFailed {ch : Fin 2} {e : HardwareError} {w' : W} (h : channelOption "hv.on" o = .ok ch)
    (hw : d.setOutput ch true w = (.error e, w')) :
    Step d config o s w .on (.error ("hv.on command failed (" ++ e.message ++ ")")) s w'
  | on {ch : Fin 2} {w' : W} (h : channelOption "hv.on" o = .ok ch)
    (hw : d.setOutput ch true w = (.ok (), w')) :
    Step d config o s w .on (onReply ch (s.channels.get ch).level)
      (s.withChannel ch { s.channels.get ch with output := .on }) w'
  | offRefused {message : String} (h : channelOption "hv.off" o = .error message) :
    Step d config o s w .off (.error message) s w
  | off {ch : Fin 2} (h : channelOption "hv.off" o = .ok ch) :
    Step d config o s w .off (Reply.done.withMessage "hv.off executed" |>.withField "ch" (.nat ch))
      (switchOff d ch s w).1 (switchOff d ch s w).2
  | offAll :
    Step d config o s w .offAll (Reply.done.withMessage "hv.off_all executed")
      (switchAllOff d s w).1 (switchAllOff d s w).2

variable {d : SupplyDriver W} {config : Config}

theorem set_step (o : Options) (s : Supply) (w : W) :
    Step d config o s w .set (set d config o s w).1.1 (set d config o s w).1.2 (set d config o s w).2 := by
  cases h : setting config o with
  | error message =>
    simp only [set, h]
    exact .setRefused h
  | ok asked =>
    obtain ⟨ch, level, v⟩ := asked
    cases hw : d.setLevel ch level w with
    | mk r w' =>
      cases r with
      | error e =>
        simp only [set, h, bind, StateT.bind, hw]
        exact .setFailed h hw
      | ok _ =>
        simp only [set, h, bind, StateT.bind, hw]
        exact .set h hw

theorem switchOn_step (o : Options) (s : Supply) (w : W) :
    Step d config o s w .on (switchOn d o s w).1.1 (switchOn d o s w).1.2 (switchOn d o s w).2 := by
  cases h : channelOption "hv.on" o with
  | error message =>
    simp only [switchOn, h]
    exact .onRefused h
  | ok ch =>
    cases hw : d.setOutput ch true w with
    | mk r w' =>
      cases r with
      | error e =>
        simp only [switchOn, h, bind, StateT.bind, hw]
        exact .onFailed h hw
      | ok _ =>
        simp only [switchOn, h, bind, StateT.bind, hw]
        exact .on h hw

theorem off_step (o : Options) (s : Supply) (w : W) :
    Step d config o s w .off (off d o s w).1.1 (off d o s w).1.2 (off d o s w).2 := by
  cases h : channelOption "hv.off" o with
  | error message =>
    simp only [off, h]
    exact .offRefused h
  | ok ch =>
    simp only [off, h]
    exact .off h

theorem handle_step {verb : SupplyVerb} {o : Options} {s s' : Supply} {w w' : W} {r : Reply}
    (h : handle d config verb o s w = ((r, s'), w')) : Step d config o s w verb r s' w' := by
  have hstep : Step d config o s w verb (handle d config verb o s w).1.1
      (handle d config verb o s w).1.2 (handle d config verb o s w).2 := by
    cases verb with
    | status => exact .status
    | set => exact set_step o s w
    | on => exact switchOn_step o s w
    | off => exact off_step o s w
    | offAll => exact .offAll
  rwa [h] at hstep

end DetectorControl.Supply
