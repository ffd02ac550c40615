import DetectorControl.Hardware.Drivers

/-!
# Recorded heartbeat lines

Lines that keep every value they are to present, and that can be told to fail.
-/

namespace DetectorControl

structure HeartbeatRecord where
  /-- Presenting fails, though the value is kept. -/
  failing : Bool := false
  /-- The number of the value, counted from one, at which the presenting task breaks off. -/
  breaksAt : Option Nat := none
  /-- The values so far, the last one first. -/
  kept : List Nat := []
  deriving Repr

namespace HeartbeatRecord

def values (r : HeartbeatRecord) : List Nat := r.kept.reverse

def present (value : Nat) : StateM HeartbeatRecord Presented := fun r =>
  let r := { r with kept := value :: r.kept }
  if r.breaksAt = some r.kept.length then (.crashed, r)
  else if r.failing then (.failed, r)
  else (.done, r)

def lines : HeartbeatLines HeartbeatRecord := ⟨present⟩

end HeartbeatRecord

end DetectorControl
