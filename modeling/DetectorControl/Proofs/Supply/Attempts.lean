import DetectorControl.Proofs.Controller.Modules
import DetectorControl.Proofs.World.Frame

/-!
# What is asked of a supply

A watched driver keeps every write that is asked of it, and whether it succeeded, and fails whenever
a pattern of faults says so. The pattern may depend on all that was asked before, so that a statement
about every pattern is one about writes that fail at any time.
-/

namespace DetectorControl

inductive SupplyWrite where
  | level (channel : Nat) (level : Float)
  | output (channel : Nat) (on : Bool)
  deriving DecidableEq, Repr

/-- A write that was asked for, and whether it succeeded. -/
structure Attempt where
  write : SupplyWrite
  done : Bool
  deriving DecidableEq, Repr

namespace SupplyDriver
variable {W : Type}

/-- What the driver answers to the next write if it is to fail; the attempts so far, the last one
first, decide. -/
abbrev Faults := List Attempt → Option HardwareError

/-- A write of a watched driver. -/
def attempt (faults : Faults) (write : SupplyWrite) (x : StateM W (Except HardwareError Unit)) :
    StateM (W × List Attempt) (Except HardwareError Unit) := fun (w, log) =>
  match faults log with
  | some e => (.error e, w, ⟨write, false⟩ :: log)
  | none =>
    match x w with
    | (r, w) => (r, w, ⟨write, r.isOk⟩ :: log)

/-- The driver, watched: the attempts stand beside the world, the last one first. -/
def watched (faults : Faults) (d : SupplyDriver W) : SupplyDriver (W × List Attempt) where
  setLevel channel level := attempt faults (.level channel level) (d.setLevel channel level)
  setOutput channel on := attempt faults (.output channel on) (d.setOutput channel on)

/-- Whatever comes of a write, it is kept. -/
theorem attempt_log (faults : Faults) (write : SupplyWrite)
    (x : StateM W (Except HardwareError Unit)) (w : W × List Attempt) :
    (attempt faults write x w).2.2 = ⟨write, (attempt faults write x w).1.isOk⟩ :: w.2 := by
  obtain ⟨w, log⟩ := w
  cases h : faults log <;> simp only [attempt, h] <;> rfl

end SupplyDriver

/-- The equipment with a watched supply. All else acts on the world as before. -/
def Equipment.watched {W : Type} (faults : SupplyDriver.Faults) (e : Equipment W) :
    Equipment (W × List Attempt) where
  config := e.config
  host := e.host
  now := zoom Prod.fst (fun w p => (w, p.2)) e.now
  supply := e.supply.watched faults
  sensors := e.sensors.zoom Prod.fst fun w p => (w, p.2)
  heartbeat p := e.heartbeat p.1
  putHeartbeat h p := (e.putHeartbeat h p.1, p.2)
  display := e.display.zoom Prod.fst fun w p => (w, p.2)
  displayEndpoint := e.displayEndpoint
  acquisition := e.acquisition.zoom Prod.fst fun w p => (w, p.2)
  acquisitionEndpoint := e.acquisitionEndpoint

end DetectorControl
