import DetectorControl.Config.Validated
import DetectorControl.Files.Tree

/-!
# Finding the configuration

Where the programs look for their configuration, and loading it from there.
-/

namespace DetectorControl

/-- What the surroundings of a program say about its configuration. -/
structure Surroundings where
  files : FileTree := .empty
  /-- The home directory. -/
  home : Option String := none
  /-- `GROWTH_CONFIG_FILE`. -/
  configFile : Option String := none
  /-- `GROWTH_REPOSITORY`. -/
  repository : Option String := none

namespace Config

def fileName : String := "growth_config.toml"

def systemPath : String := "/etc/growth/growth_config.toml"

/-- The first of the usual places that is a file. -/
def discover? (s : Surroundings) : Option String :=
  (s.configFile.toList ++ (s.home.map fun h => Path.join h fileName).toList ++ [systemPath]).find?
    s.files.isFile

def loadFrom (s : Surroundings) (path : String) : Except ConfigError Config :=
  match s.files.readText path with
  | .ok text => ofText s.repository text
  | .error .notFound => .error .fileNotFound
  | .error fault => .error (.parse fault.message)

/-- Loads the file at the given path, or else the one that is found. -/
def load (s : Surroundings) (explicit : Option String) : Except ConfigError Config :=
  match explicit.or (discover? s) with
  | some path => loadFrom s path
  | none => .error .fileNotFound

end Config

end DetectorControl
