import DetectorControl.Programs.Autorun
import DetectorControl.Programs.Daemon
import Std.Internal.UV.Signal
import Std.Internal.UV.TCP
import Std.Net.Addr
import Std.Time

/-!
# Command line

The three programs on real sockets, files and clocks: the first argument is `controller`, `autorun`
or `console`, and the others are those of the program. All decisions are made by the pure
definitions; what stands here moves bytes.
-/

namespace DetectorControl.Outer

open Std.Internal.UV

/-! ## Sockets -/

/-- The result of a promise, unless it fails or takes longer than so many milliseconds. -/
partial def await {α : Type} (p : IO.Promise (Except IO.Error α)) (milliseconds : Nat) :
    IO (Option α) := do
  if ← p.isResolved then
    match p.result?.get with
    | some (.ok a) => return some a
    | _ => return none
  else if milliseconds = 0 then return none
  else
    IO.sleep 5
    await p (milliseconds - 5)

def socketAddress? (endpoint : String) : Option Std.Net.SocketAddress := do
  let (host, port) ← Daemon.splitEndpoint? endpoint
  let address ← Ipv4.ofHost? host
  let byte (place : Nat) : UInt8 := UInt8.ofNat (address / Nat.pow 256 place)
  return .v4 { addr := .ofParts (byte 3) (byte 2) (byte 1) (byte 0), port := port.toUInt16 }

def sendBytes (socket : TCP.Socket) (bytes : Bytes) (milliseconds : Nat) : IO Bool := do
  return (← await (← socket.send #[⟨bytes.toArray⟩]) milliseconds).isSome

/-- Receives until a frame is there. -/
partial def receiveFrame (socket : TCP.Socket) (unread : Bytes) (milliseconds : Nat) :
    IO (Option ReplyFrame) := do
  let source := [Wire.Arrival.bytes unread]
  if Wire.yieldsFrame source then return (Wire.readMessage ReplyFrame.read source).1.toOption
  else
    match ← await (← socket.recv? 65536) milliseconds with
    | some (some chunk) => receiveFrame socket (unread ++ chunk.toList) milliseconds
    | _ => return none

/-- Sends a request on a connection of its own and waits for the reply. -/
def exchange (endpoint : String) (q : Request) (milliseconds : Nat) : IO (Option ReplyFrame) := do
  match socketAddress? endpoint with
  | none => return none
  | some address =>
    try
      let socket ← TCP.Socket.new
      if (← await (← socket.connect address) milliseconds).isNone then return none
      if !(← sendBytes socket (Wire.frame (Bytes.ofString q.text)) milliseconds) then return none
      let f ← receiveFrame socket [] milliseconds
      let _ ← socket.shutdown
      return f
    catch _ => return none

/-! ## Surroundings -/

def readFile? (path : String) : IO (Option Bytes) := do
  try return some (← IO.FS.readBinFile path).toList
  catch _ => return none

/-- The path from the root. -/
def absolute (path : String) : IO String := do
  return Path.join (← IO.currentDir).toString path

/-- Adds files to a tree, as far as they can be read. -/
def addFiles (t : FileTree) : List String → IO FileTree
  | [] => return t
  | path :: rest => do
    match ← readFile? path with
    | some content => addFiles (t.put ((Path.parts path).filter (· != "")) (.file content)) rest
    | none => addFiles t rest

def surroundings (config : Option String) : IO Surroundings := do
  let home ← IO.getEnv "HOME"
  let configFile ← IO.getEnv "GROWTH_CONFIG_FILE"
  let paths := config.toList ++ configFile.toList
    ++ (home.map fun h => Path.join h Config.fileName).toList ++ [Config.systemPath]
  return {
    files := ← addFiles .empty paths
    home
    configFile
    repository := ← IO.getEnv "GROWTH_REPOSITORY" }

/-- The files of a git directory that tell where HEAD stands. -/
def addGitDirectory (t : FileTree) (directory : String) : IO FileTree := do
  let t ← addFiles t (["HEAD", "commondir", "packed-refs"].map (Path.join directory))
  match t.readText (Path.join directory "HEAD") with
  | .ok head =>
    match Repository.behind? "ref:" (Text.trim head) with
    | some name =>
      addFiles t [Path.join directory name, Path.join (Repository.commonDirectory t directory) name]
    | none => return t
  | .error _ => return t

def addRepository (t : FileTree) (repository : String) : IO FileTree := do
  let dotGit := Path.join repository ".git"
  let t ← addFiles t [dotGit]
  let t ← if t.isPresent dotGit then pure t else addGitDirectory t dotGit
  match Repository.gitDirectory t repository with
  | .ok directory =>
    let t ← addGitDirectory t directory
    addGitDirectory t (Repository.commonDirectory t directory)
  | .error _ => return t

def addresses : IO (List (String × String)) := do
  return (← Std.Net.interfaceAddresses).toList.filterMap fun i =>
    match i.address with
    | .v4 a => some (i.name, a.toString)
    | .v6 _ => none

def clock : IO Instant := do
  let now ← Std.Time.DateTime.now
  return {
    unixTime := (← Std.Time.Timestamp.now).toSecondsSinceUnixEpoch.val
    time := now.format "uuuu-MM-dd'T'HH-mm-ss"
    stamp := now.format "uuuu-MM-dd'T'HH:mm:ssXXX" }

/-! ## The controller -/

/-- A connection, and what is to arrive on it next. -/
structure Visitor where
  socket : TCP.Socket
  arrival : IO.Promise (Except IO.Error (Option ByteArray))

def visit (socket : TCP.Socket) : IO Visitor := do
  return { socket, arrival := ← socket.recv? 65536 }

/-- Takes on a connection if one has come. -/
def welcome (listener : TCP.Socket) : IO (Option Visitor) := do
  match ← listener.tryAccept with
  | .ok (some socket) => return some (← visit socket)
  | _ => return none

/-- What has arrived, if anything has, and the visitor after that. -/
def hear (v : Visitor) : IO (Option Bytes × Visitor) := do
  if ← v.arrival.isResolved then
    match v.arrival.result?.get with
    | some (.ok (some chunk)) => return (some chunk.toList, ← visit v.socket)
    | _ => return (none, v)
  else return (none, v)

/-- Sends what was written to a client. -/
def deliver (v : Visitor) (bytes : Bytes) (isOpen : Bool) : IO Unit := do
  if !bytes.isEmpty then
    let _ ← sendBytes v.socket bytes Console.defaultTimeout
  if !isOpen then
    let _ ← v.socket.shutdown

/-- Looks after the visitors in turn, and between two rounds after new ones and the heartbeat. -/
partial def loop (listener : TCP.Socket) (signal : IO.Promise Int) (visitors : List Visitor)
    (turn lastBeat : Nat) (s : Server Rig) : IO Unit := do
  if !s.running || (← signal.isResolved) then return
  match visitors[turn]? with
  | some v =>
    let (arrived, v) ← hear v
    let visitors := visitors.set turn v
    match arrived with
    | none => loop listener signal visitors (turn + 1) lastBeat s
    | some bytes =>
      let now ← clock
      let s := { s with world := { s.world with now } }.arrive turn bytes
      deliver v (s.written turn) (s.running && (s.clients[turn]?).all (·.isOpen))
      loop listener signal visitors (turn + 1) lastBeat (s.leaveTo turn [])
  | none =>
    let now ← IO.monoNanosNow
    let due := lastBeat + s.world.heartbeat.interval ≤ now
    let s := if due then { s with world := s.world.beat } else s
    let lastBeat := if due then now else lastBeat
    match ← welcome listener with
    | some v => loop listener signal (visitors ++ [v]) 0 lastBeat (s.accept Server.visitor)
    | none =>
      IO.sleep 5
      loop listener signal visitors 0 lastBeat s

def failed (program message : String) : IO UInt32 := do
  IO.eprintln (program ++ ": " ++ message)
  return 1

def controller (args : List String) : IO UInt32 := do
  match Daemon.parse args with
  | .error halt => finish (.ofHalt Daemon.programName Daemon.usage halt)
  | .ok a =>
    let path ← a.config.mapM absolute
    let s ← surroundings path
    match Config.load s path, socketAddress? (a.bind ++ ":" ++ toString a.port) with
    | .error e, _ => failed Daemon.programName (StartupError.config e).message
    | _, none => failed Daemon.programName (StartupError.bind a.bind "not an address").message
    | .ok config, some address =>
      let files ← match config.repository with
        | some r => addRepository .empty r
        | none => pure .empty
      let known ← addresses
      let host : Host := ⟨fun name => (known.find? fun i => i.1 == name).map (·.2), files⟩
      let world : Rig := { now := ← clock }
      match Board.open? a.board with
      | .error e => failed Daemon.programName e.message
      | .ok board =>
        try
          let listener ← TCP.Socket.new
          listener.bind address
          listener.listen (UInt32.ofNat 128)
          let signal ← (← Signal.mk 15 false).next
          loop listener signal [] 0 (← IO.monoNanosNow)
            (Daemon.serverOn config host a.endpoints { world with board })
          return 0
        catch e =>
          let address := a.bind ++ ":" ++ toString a.port
          failed Daemon.programName (StartupError.bind address (toString e)).message
where
  finish (e : Exit) : IO UInt32 := do
    IO.print e.stdout
    return e.code.toUInt32

/-! ## Clients -/

def console (args : List String) : IO UInt32 := do
  let e ← match Console.launch args with
    | .error e => pure e
    | .ok errand =>
      match ← exchange errand.endpoint errand.request errand.timeout with
      | some f => pure (Console.exitOf f)
      | none => pure Exit.failure
  IO.print e.stdout
  return e.code.toUInt32

/-- Holds a dialogue with the controller at an endpoint. -/
def converse {α : Type} (endpoint : String) : Dialogue α → IO α
  | .done a => return a
  | .ask c next => do
    match ← exchange endpoint c.request Console.defaultTimeout with
    | some f => converse endpoint (next f.reply)
    | none => converse endpoint (next (.error ("communication with " ++ endpoint ++ " failed")))

partial def supervise (endpoint : String) (signal : IO.Promise Int) (s : Supervisor) : IO Unit := do
  if ← signal.isResolved then return
  let (_, s) ← converse endpoint s.tick
  pause (s.config.autorun.period * 10)
  supervise endpoint signal s
where
  /-- Sleeps for so many tenths of a second, unless a signal comes. -/
  pause : Nat → IO Unit
    | 0 => return
    | n + 1 => do
      if ← signal.isResolved then return
      IO.sleep 100
      pause n

def autorun (args : List String) : IO UInt32 := do
  match Autorun.parse args with
  | .error halt =>
    let e := Exit.ofHalt Autorun.programName Autorun.usage halt
    IO.print e.stdout
    return e.code.toUInt32
  | .ok a =>
    let a := { a with config := ← a.config.mapM absolute }
    match Autorun.start (← surroundings a.config) a with
    | .error e => failed Autorun.programName e.message
    | .ok (s, _) =>
      let signal ← (← Signal.mk 15 false).next
      supervise a.endpoint signal s
      return 0

end DetectorControl.Outer

def main (args : List String) : IO UInt32 := do
  match args with
  | "controller" :: args => DetectorControl.Outer.controller args
  | "autorun" :: args => DetectorControl.Outer.autorun args
  | "console" :: args => DetectorControl.Outer.console args
  | _ =>
    IO.eprintln "Usage: controller|autorun|console [ARGUMENTS]"
    return 2
