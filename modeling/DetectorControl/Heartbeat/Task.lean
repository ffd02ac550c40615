import DetectorControl.Heartbeat

/-!
# The task of a heartbeat

The task waits until the interval has passed or a message arrives, does what it was woken for and waits
again. Whoever controls the heartbeat works on the same value and interval and puts messages into the
task's inbox: that the interval was changed, and at the end that it is to stop. Both sides take turns in
any order; a step of each is a function on the state.
-/

namespace DetectorControl

inductive HeartbeatMessage where
  /-- The interval was changed. -/
  | reload
  | stop
  deriving DecidableEq, Repr

/-- What ends a wait of the task. -/
inductive Wake where
  /-- The interval has passed. -/
  | timeout
  | message (m : HeartbeatMessage)
  /-- Nobody is left who could send a message. -/
  | deserted
  deriving DecidableEq, Repr

structure HeartbeatTask (W : Type) where
  heartbeat : Heartbeat := {}
  /-- The messages that the task has not received yet, the oldest first. -/
  inbox : List HeartbeatMessage := []
  /-- Whether there is anyone who could send a message. -/
  attended : Bool := true
  world : W

namespace HeartbeatTask

variable {W : Type} (lines : HeartbeatLines W)

/-- The task of a new heartbeat, which is still to be started. -/
def init (w : W) : HeartbeatTask W :=
  let (heartbeat, world) := Heartbeat.init lines w
  { heartbeat, world }

/-- Sets the interval of a heartbeat that is being made; nobody has to be told. -/
def withInterval (nanos : Nat) (t : HeartbeatTask W) : Except IntervalOutOfRange (HeartbeatTask W) := do
  return { t with heartbeat := ← t.heartbeat.withInterval nanos }

/-! ## Control -/

/-- A message waits for a task that is still to be started, and is lost once the task has ended. -/
def send (m : HeartbeatMessage) (t : HeartbeatTask W) : HeartbeatTask W :=
  if t.heartbeat.pending || t.heartbeat.looping then { t with inbox := t.inbox ++ [m] } else t

/-- Changes the interval and wakes the task, which may be waiting for the old one to pass. -/
def setInterval (seconds : Float) (t : HeartbeatTask W) : Except IntervalOutOfRange (HeartbeatTask W) := do
  return send .reload { t with heartbeat := ← t.heartbeat.setInterval seconds }

def start (t : HeartbeatTask W) : HeartbeatTask W :=
  { t with heartbeat := t.heartbeat.start }

/-- Gives up the task and tells it to stop, if there is one. -/
def tellToStop (t : HeartbeatTask W) : HeartbeatTask W :=
  if t.heartbeat.handle then send .stop { t with heartbeat.handle := false } else t

/-! ## The task -/

/-- What the next wait ends with. Messages come before anything else. -/
def wake (t : HeartbeatTask W) : Wake :=
  match t.inbox with
  | m :: _ => .message m
  | [] => if t.attended then .timeout else .deserted

/-- The task waits, and does what it is woken for. With its end the messages that are left are lost. -/
def turn (t : HeartbeatTask W) : HeartbeatTask W :=
  if t.heartbeat.looping then
    match t.wake with
    | .timeout =>
      let (heartbeat, world) := t.heartbeat.advance lines t.world
      { t with heartbeat, world }
    | .message .reload => { t with inbox := t.inbox.tail }
    | .message .stop | .deserted => { t with heartbeat.looping := false, inbox := [] }
  else t

/-- The task takes so many turns. -/
def turns : (k : Nat) → HeartbeatTask W → HeartbeatTask W
  | 0, t => t
  | k + 1, t => turns k (t.turn lines)

/-- Tells the task to stop and waits for its end, until which it takes one turn for each message. -/
def stop (t : HeartbeatTask W) : HeartbeatTask W :=
  if t.heartbeat.handle then t.tellToStop.turns lines t.tellToStop.inbox.length else t

/-! ## Schedules -/

inductive Step where
  | setInterval (seconds : Float)
  | start
  | tellToStop
  /-- The last one who could send a message is gone. -/
  | desert
  | turn
  deriving Repr

def step (t : HeartbeatTask W) : Step → HeartbeatTask W
  | .setInterval seconds =>
    match t.setInterval seconds with
    | .ok t => t
    | .error _ => t
  | .start => t.start
  | .tellToStop => t.tellToStop
  | .desert => { t with attended := false }
  | .turn => t.turn lines

def run (t : HeartbeatTask W) (steps : List Step) : HeartbeatTask W :=
  steps.foldl (step lines) t

end HeartbeatTask

end DetectorControl
