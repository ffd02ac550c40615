import DetectorControl.Decimal.Literal

/-!
# Command-line arguments

A command line is read from left to right: `--name value`, `--name=value`, `-n value`, `-nvalue` and
`-n=value` give an option its value, short flags may be written together, and behind `--` nothing is
an option. An option is given at most once. The first thing that is wrong, or that asks for help or
for the version, decides.
-/

namespace DetectorControl.CommandLine

/-- What values an option takes. -/
inductive Kind where
  /-- None: the option is given or not. -/
  | flag
  | text
  /-- A text that is not empty. -/
  | path
  /-- A number up to a bound; `signed` says whether a minus sign may stand before a zero. -/
  | number (bound : Nat) (signed : Bool)
  deriving DecidableEq, Repr

structure OptionSpec where
  name : String
  short : Option Char
  kind : Kind
  deriving DecidableEq, Repr

/-- Why a command line does not lead to a run. -/
inductive Halt where
  | usage
  | help
  | version
  deriving DecidableEq, Repr

/-- A command line that is in order so far. -/
structure Given where
  /-- The options with their values, that of a flag being empty. -/
  options : List (String × String) := []
  /-- The other arguments. -/
  operands : List String := []
  deriving Repr

namespace Given

def value? (g : Given) (name : String) : Option String :=
  (g.options.find? fun o => o.1 == name).map (·.2)

def isGiven (g : Given) (name : String) : Bool := (g.value? name).isSome

end Given

/-- The value of a text of digits, or something above the bound. -/
def digits? (bound : Nat) (cs : List Char) : Option Nat :=
  if cs.isEmpty || cs.any fun c => !c.isDigit then none
  else some (Decimal.ofDigitsUpTo 10 bound (cs.map fun c => c.toNat - '0'.toNat))

/-- A number up to a bound. -/
def number? (bound : Nat) (signed : Bool) (s : String) : Option Nat :=
  let n? := match s.toList with
    | '+' :: cs => digits? bound cs
    | '-' :: cs => if signed then (digits? bound cs).filter (· == 0) else none
    | cs => digits? bound cs
  n?.filter (· ≤ bound)

def Kind.accepts (k : Kind) (value : String) : Bool :=
  match k with
  | flag => false
  | text => true
  | path => !value.isEmpty
  | number bound signed => (number? bound signed value).isSome

def addOption (o : OptionSpec) (value : String) (g : Given) : Except Halt Given :=
  if g.isGiven o.name then .error .usage
  else .ok { g with options := g.options ++ [(o.name, value)] }

def addValue (o : OptionSpec) (value : String) (g : Given) : Except Halt Given :=
  if o.kind.accepts value then addOption o value g else .error .usage

/-- Adds an argument that is no option; at most `limit` of these are allowed. -/
def addOperand (limit : Nat) (value : String) (g : Given) : Except Halt Given :=
  if g.operands.length < limit then .ok { g with operands := g.operands ++ [value] }
  else .error .usage

/-- The options that every program has. -/
def standardHalt? (name : String) : Option Halt :=
  if name = "help" then some .help else if name = "version" then some .version else none

def standardShortHalt? (c : Char) : Option Halt :=
  if c = 'h' then some .help else if c = 'V' then some .version else none

/-- The parts of a text before and behind the first equals sign. -/
def splitEquals (cs : List Char) : String × Option String :=
  match cs.dropWhile (· != '=') with
  | [] => (String.ofList cs, none)
  | _ :: value => (String.ofList (cs.takeWhile (· != '=')), some (String.ofList value))

/-- Reads what stands behind two dashes. The second part of the answer is an option that waits for
its value. -/
def long (specs : List OptionSpec) (cs : List Char) (g : Given) :
    Except Halt (Given × Option OptionSpec) :=
  match splitEquals cs with
  | (name, value) =>
    match specs.find? fun o => o.name == name with
    | some o =>
      match o.kind, value with
      | .flag, none => (addOption o "" g).map (·, none)
      | .flag, some _ => .error .usage
      | _, some value => (addValue o value g).map (·, none)
      | _, none => .ok (g, some o)
    | none =>
      match standardHalt? name, value with
      | some halt, none => .error halt
      | _, _ => .error .usage

/-- Reads what stands behind one dash: flags, and then perhaps an option with its value. -/
def short (specs : List OptionSpec) : List Char → Given → Except Halt (Given × Option OptionSpec)
  | [], g => .ok (g, none)
  | c :: cs, g =>
    match specs.find? fun o => o.short == some c with
    | some o =>
      if o.kind = .flag then do short specs cs (← addOption o "" g)
      else
        match cs with
        | [] => .ok (g, some o)
        | '=' :: value => (addValue o (String.ofList value) g).map (·, none)
        | value => (addValue o (String.ofList value) g).map (·, none)
    | none => .error ((standardShortHalt? c).getD .usage)

/-- Reads arguments behind `--`. -/
def readOperands (limit : Nat) : List String → Given → Except Halt Given
  | [], g => .ok g
  | a :: rest, g => do readOperands limit rest (← addOperand limit a g)

/-- Reads arguments; `waiting` is an option whose value comes next. -/
def read (specs : List OptionSpec) (limit : Nat) : (waiting : Option OptionSpec) → List String →
    Given → Except Halt Given
  | none, [], g => .ok g
  | some _, [], _ => .error .usage
  | waiting, a :: rest, g =>
    match waiting, a.toList with
    | some _, '-' :: _ :: _ => .error .usage
    | some o, _ => do read specs limit none rest (← addValue o a g)
    | none, ['-', '-'] => readOperands limit rest g
    | none, '-' :: '-' :: cs => do
      let (g, waiting) ← long specs cs g
      read specs limit waiting rest g
    | none, '-' :: c :: cs => do
      let (g, waiting) ← short specs (c :: cs) g
      read specs limit waiting rest g
    | none, _ => do read specs limit none rest (← addOperand limit a g)

/-- Reads a command line with at most `limit` arguments that are no options. -/
def parse (specs : List OptionSpec) (limit : Nat) (args : List String) : Except Halt Given :=
  read specs limit none args {}

end DetectorControl.CommandLine
