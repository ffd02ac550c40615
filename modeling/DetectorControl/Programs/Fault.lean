import DetectorControl.CommandLine.Arguments
import DetectorControl.Controller.Registry
import DetectorControl.Hardware.Board

/-!
# How programs end

The faults that keep a controller from starting, and the exit codes of the programs.
-/

namespace DetectorControl

/-- Why a controller cannot start. -/
inductive StartupError where
  | bind (address cause : String)
  | config (e : ConfigError)
  | registry (e : RegistryError)
  | unknownBoard (name : String)
  | board (e : HardwareError)
  | thread (name cause : String)
  deriving DecidableEq, Repr

def StartupError.message : StartupError → String
  | bind address cause => "Failed to bind " ++ address ++ ": " ++ cause
  | config e => e.message
  | registry e => e.message
  | unknownBoard name => "Driver not found: " ++ name
  | board e => "Driver initialization failed: " ++ e.message
  | thread name cause => "Failed to spawn " ++ name ++ " thread: " ++ cause

/-- The board of a name. -/
def Board.open? (name : String) : Except StartupError Board :=
  if Board.names.contains name then .ok .fresh else .error (.unknownBoard name)

/-- How a program has ended. -/
structure Exit where
  code : Nat
  stdout : String := ""
  deriving DecidableEq, Repr

namespace Exit

def success : Exit := ⟨0, ""⟩

def failure : Exit := ⟨1, ""⟩

def programVersion : String := "0.1.0"

/-- The end of a program whose command line does not lead to a run. -/
def ofHalt (program usage : String) : CommandLine.Halt → Exit
  | .usage => ⟨2, ""⟩
  | .help => ⟨0, usage ++ "\n"⟩
  | .version => ⟨0, program ++ " " ++ programVersion ++ "\n"⟩

end Exit

end DetectorControl
