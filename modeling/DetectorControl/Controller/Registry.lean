import DetectorControl.Controller.Module

/-!
# The registry of modules

A map from names to modules, and beside it the list of the names in the order in which they were
registered. It is filled before the first command and keeps its names from then on; commands change
the states of modules only.
-/

namespace DetectorControl

inductive RegistryError where
  | duplicate (name : String)
  | reserved (name : String)
  deriving DecidableEq, Repr

namespace RegistryError

def kind : RegistryError → String
  | duplicate _ => "Duplicate"
  | reserved _ => "Reserved"

def message : RegistryError → String
  | duplicate name => "Module '" ++ name ++ "' is already registered"
  | reserved name => "Module name '" ++ name ++ "' is reserved"

end RegistryError

namespace Registry

/-- A module and the set of verbs that it was registered with, increasing. -/
structure Entry (W : Type) where
  verbs : List String
  module : Module W

/-- Adds a text to an increasing list. -/
def insertName (s : String) : List String → List String
  | [] => [s]
  | t :: rest => if s < t then s :: t :: rest else if s = t then t :: rest else t :: insertName s rest

/-- The increasing list of the texts of a list. -/
def nameSet (names : List String) : List String :=
  names.foldr insertName []

end Registry

structure Registry (W : Type) where
  entries : Entries String (Registry.Entry W)
  /-- The names in the order of registration. -/
  order : List String

namespace Registry

variable {W : Type}

def empty : Registry W := ⟨[], []⟩

def find? (r : Registry W) (name : String) : Option (Entry W) := r.entries.get? name

/-- The entry of a module, with the verbs that it declares. -/
def Entry.ofModule (m : Module W) : Entry W := ⟨nameSet m.verbs, m⟩

/-- The registry with a module under a name that is free. -/
def add (r : Registry W) (name : String) (m : Module W) : Registry W :=
  ⟨r.entries.insert name (.ofModule m), r.order ++ [name]⟩

/-- Adds a module under a name that is neither taken nor the controller's own. -/
def register (r : Registry W) (name : String) (m : Module W) : Except RegistryError Unit × Registry W :=
  if name = Target.controllerName then (.error (.reserved name), r)
  else if (r.find? name).isSome then (.error (.duplicate name), r)
  else (.ok (), r.add name m)

/-- Registers modules one after the other. -/
@[irreducible] def registerAll (r : Registry W) (modules : List (String × Module W)) : Registry W :=
  modules.foldl (fun r m => (r.register m.1 m.2).2) r

def names (r : Registry W) : List String := r.order

/-- The module of a name. -/
def resolve (r : Registry W) (name : String) : Option (Module W) :=
  (r.find? name).map (·.module)

/-- The verbs of a module, increasing. -/
def verbs (r : Registry W) (name : String) : Option (List String) :=
  (r.find? name).map (·.verbs)

def supports (r : Registry W) (name verb : String) : Bool :=
  match r.find? name with
  | some e => e.verbs.contains verb
  | none => false

/-- Invokes a verb of an entry's module. -/
def Entry.invoke (e : Entry W) (verb : String) (options : Options) (w : W) : Outcome × Entry W × W :=
  match e.module.invoke verb options e.module.state w with
  | ((outcome, s), w) => (outcome, { e with module := { e.module with state := s } }, w)

/-- The registry with another entry for a name that is taken. -/
def put (r : Registry W) (name : String) (e : Entry W) : Registry W :=
  { r with entries := r.entries.insert name e }

/-- Invokes `name.verb`. -/
def invoke (r : Registry W) (name verb : String) (options : Options) (w : W) :
    Outcome × Registry W × W :=
  match r.find? name with
  | none => (.unserved, r, w)
  | some e =>
    if e.verbs.contains verb then
      match e.invoke verb options w with
      | (outcome, e, w) => (outcome, r.put name e, w)
    else (.unserved, r, w)

end Registry

end DetectorControl
