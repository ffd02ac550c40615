import DetectorControl.Config.Validated
import DetectorControl.Controller.Module
import DetectorControl.Hardware.Drivers

/-!
# High voltage

The subsystem `hv`. Each channel has a DAC level and an output; the record of both is what the
supply was last told, except that switching off is recorded even if the supply did not obey. If the
configuration has limits and conversions, no level is set whose voltage is not within the limit.
-/

namespace DetectorControl

inductive SupplyVerb where
  | status | set | on | off | offAll
  deriving DecidableEq, Repr

instance : Verb SupplyVerb where
  all := [.status, .set, .on, .off, .offAll]
  name
    | .status => "status"
    | .set => "set"
    | .on => "on"
    | .off => "off"
    | .offAll => "off_all"

/-- The record of the channels. -/
structure Supply where
  channels : Vector ChannelStatus 2
  deriving Repr

namespace Supply

variable {W : Type}

def channelOff : ChannelStatus := ⟨.off, 0⟩

/-- Both channels off. -/
def allOff : Supply := ⟨#v[channelOff, channelOff]⟩

def channel? (s : Supply) (n : Nat) : Option ChannelStatus := s.channels[n]?

/-- Sets the level to zero and switches the output off, whatever the supply answers. -/
def switchOff (d : SupplyDriver W) (ch : Fin 2) (s : Supply) : StateM W Supply := do
  let _ ← d.setLevel ch 0
  let _ ← d.setOutput ch false
  return ⟨s.channels.set ch channelOff⟩

def switchAllOff (d : SupplyDriver W) (s : Supply) : StateM W Supply := do
  let s ← switchOff d 0 s
  switchOff d 1 s

/-- The supply as the controller begins: all channels are switched off. -/
def init (d : SupplyDriver W) : StateM W Supply := switchAllOff d allOff

/-- The channel that a command is about. -/
def channelOption (command : String) (o : Options) : Except String (Fin 2) :=
  match o.integer "ch" with
  | .error (.missing _) => .error (command ++ " command requires channel option")
  | .error e => .error (command ++ " command received " ++ e.message)
  | .ok 0 => .ok 0
  | .ok 1 => .ok 1
  | .ok i => .error ("Invalid channel index " ++ toString i)

/-- The level that a command is about. -/
def levelOption (o : Options) : Except String Float :=
  match o.number "value_in_mV" with
  | .error (.missing _) => .error "hv.set command requires DAC output voltage in mV"
  | .error e => .error ("hv.set command received " ++ e.message)
  | .ok level =>
    if levelInRange level then .ok level
    else .error ("hv.set command received invalid 'voltage in mV' of " ++ Decimal.text level)

/-- The voltage to report for a level, which is zero unless voltages are limited. -/
def voltage (config : Config) (ch : Fin 2) (level : Float) : Except String Float :=
  if config.limited then
    let limit := config.limit ch
    match config.voltage? ch level with
    | some v =>
      if v ≤ limit then .ok v
      else .error ("hv.set command failed exceeding the limit (" ++ Decimal.text limit ++ ")")
    | none => .error ("hv.set command failed exceeding the limit (" ++ Decimal.text limit ++ ")")
  else .ok 0

/-- What a command to set a level asks for: channel, level and voltage. -/
def setting (config : Config) (o : Options) : Except String (Fin 2 × Float × Float) := do
  let ch ← channelOption "hv.set" o
  let level ← levelOption o
  let v ← voltage config ch level
  return (ch, level, v)

def set (d : SupplyDriver W) (config : Config) (o : Options) (s : Supply) : StateM W (Reply × Supply) :=
  match setting config o with
  | .error message => return (.error message, s)
  | .ok (ch, level, v) => do
    match ← d.setLevel ch level with
    | .error e =>
      return (.error ("hv.set command failed to set DAC output voltage (" ++ e.message ++ ")"), s)
    | .ok () =>
      let r := Reply.done.withMessage "hv.set executed" |>.withField "ch" (.nat ch)
        |>.withField "value_in_mV" (.float level) |>.withField "value_in_HV_V" (.float v)
      return (r, ⟨s.channels.set ch { s.channels[ch] with level }⟩)

def switchOn (d : SupplyDriver W) (o : Options) (s : Supply) : StateM W (Reply × Supply) :=
  match channelOption "hv.on" o with
  | .error message => return (.error message, s)
  | .ok ch => do
    match ← d.setOutput ch true with
    | .error e => return (.error ("hv.on command failed (" ++ e.message ++ ")"), s)
    | .ok () =>
      let r := Reply.done.withMessage "hv.on executed" |>.withField "ch" (.nat ch)
        |>.withField "value_in_mV" (.float s.channels[ch].level)
      return (r, ⟨s.channels.set ch { s.channels[ch] with output := .on }⟩)

def off (d : SupplyDriver W) (o : Options) (s : Supply) : StateM W (Reply × Supply) :=
  match channelOption "hv.off" o with
  | .error message => return (.error message, s)
  | .ok ch => do
    let s ← switchOff d ch s
    return (Reply.done.withMessage "hv.off executed" |>.withField "ch" (.nat ch), s)

def offAll (d : SupplyDriver W) (s : Supply) : StateM W (Reply × Supply) := do
  let s ← switchAllOff d s
  return (Reply.done.withMessage "hv.off_all executed", s)

/-- Both channels, by their numbers. -/
def status (s : Supply) : Reply :=
  Reply.done.withField "0" (s.channels.get 0).toJson |>.withField "1" (s.channels.get 1).toJson

def handle (d : SupplyDriver W) (config : Config) (verb : SupplyVerb) (o : Options) (s : Supply) :
    StateM W (Reply × Supply) :=
  match verb with
  | .status => return (s.status, s)
  | .set => set d config o s
  | .on => switchOn d o s
  | .off => off d o s
  | .offAll => offAll d s

end Supply

end DetectorControl
