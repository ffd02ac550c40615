import DetectorControl.Decimal.Layout
import DetectorControl.Hardware.Drivers

/-!
# The heartbeat

A counter of two bits that an external watchdog looks at. It is presented as zero at the start and
advanced by one whenever the interval has passed; the interval can be changed at any time. The task
that advances it runs from the first start to the stop that follows and is never begun again.
-/

namespace DetectorControl

/-- A requested interval was not within `(0, 1800]` seconds. -/
structure IntervalOutOfRange where
  seconds : Float
  deriving Repr

def IntervalOutOfRange.message (e : IntervalOutOfRange) : String :=
  "Invalid wait duration (" ++ Decimal.text e.seconds ++ " sec; should be 0 < duration_sec <= 1800)"

/-- A heartbeat with what its owner keeps of the task. -/
structure Heartbeat where
  /-- The value presented last. -/
  value : Nat := 0
  /-- In nanoseconds. -/
  interval : Nat := 10000000000
  /-- The lines, and the end at which messages are received, are still to be handed over to the task. -/
  pending : Bool := true
  /-- There is a task whose end the owner would wait for. -/
  handle : Bool := false
  /-- The task goes round its loop: it was started, and neither ended nor broke off while it presented a
  value. -/
  looping : Bool := false
  deriving Repr

namespace Heartbeat

/-- The number of values. -/
def modulus : Nat := 4

/-- The longest interval in seconds. -/
def longest : Float := 1800

def nanosPerSecond : Nat := 1000000000

/-- A time in whole nanoseconds, of two equally near ones the even one. -/
def nanosOf (seconds : Float) : Nat :=
  match Decimal.Reading.ofFloat seconds with
  | .finite b => Decimal.roundHalfEven (b.num * nanosPerSecond) b.den
  | _ => 0

/-- A time of whole nanoseconds in seconds: whole seconds and the fraction are added as floats. -/
def secondsOf (nanos : Nat) : Float :=
  (nanos / nanosPerSecond).toUInt64.toFloat
    + (nanos % nanosPerSecond).toUInt64.toFloat / nanosPerSecond.toUInt64.toFloat

/-- The interval of so many seconds. -/
def checkInterval (seconds : Float) : Except IntervalOutOfRange Nat :=
  if seconds.isFinite && 0 < seconds && seconds ≤ longest then .ok (nanosOf seconds)
  else .error ⟨seconds⟩

def setInterval (seconds : Float) (h : Heartbeat) : Except IntervalOutOfRange Heartbeat := do
  return { h with interval := ← checkInterval seconds }

/-- Sets the interval of a heartbeat that is being made; the range is checked in seconds. -/
def withInterval (nanos : Nat) (h : Heartbeat) : Except IntervalOutOfRange Heartbeat :=
  h.setInterval (secondsOf nanos)

variable {W : Type}

/-- A new heartbeat, which presents zero at once. -/
def init (lines : HeartbeatLines W) : StateM W Heartbeat := do
  let _ ← lines.present 0
  return {}

/-- The interval has passed: if the task is in its loop, it presents the next value. A value that could not be
presented is not presented again. -/
def advance (lines : HeartbeatLines W) (h : Heartbeat) : StateM W Heartbeat := do
  if h.looping then
    let h := { h with value := (h.value + 1) % modulus }
    match ← lines.present h.value with
    | .crashed => return { h with looping := false }
    | _ => return h
  else return h

/-- Hands the lines over to a task, if that was not done before. -/
def start (h : Heartbeat) : Heartbeat :=
  if h.pending then { h with pending := false, handle := true, looping := true } else h

/-- Gives up the task and waits for its end. -/
def stop (h : Heartbeat) : Heartbeat :=
  if h.handle then { h with handle := false, looping := false } else h

/-- Whether there is a task to be stopped. -/
def isRunning (h : Heartbeat) : Bool := h.handle

end Heartbeat

end DetectorControl
