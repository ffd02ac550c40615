import DetectorControl.Bytes
import DetectorControl.Text.Split

/-!
# File trees

A tree of directories and files, and the files that paths lead to in it. Paths are absolute, their
parts separated by slashes; the parent of the root is the root.
-/

namespace DetectorControl

/-- Why a path does not lead to a text. -/
inductive FileFault where
  | notFound
  | isADirectory
  | notADirectory
  /-- The file is not UTF-8. -/
  | invalidData
  /-- The path holds a zero byte. -/
  | invalidInput
  | invalidName
  deriving DecidableEq, Repr

namespace FileFault

def kind : FileFault → String
  | notFound => "NotFound"
  | isADirectory => "IsADirectory"
  | notADirectory => "NotADirectory"
  | invalidData => "InvalidData"
  | invalidInput => "InvalidInput"
  | invalidName => "InvalidFilename"

def message : FileFault → String
  | notFound => "No such file or directory (os error 2)"
  | isADirectory => "Is a directory (os error 21)"
  | notADirectory => "Not a directory (os error 20)"
  | invalidData => "stream did not contain valid UTF-8"
  | invalidInput => "file name contained an unexpected NUL byte"
  | invalidName => "File name too long (os error 36)"

end FileFault

inductive FileTree where
  | file (content : Bytes)
  | directory (entries : List (String × FileTree))
  deriving Repr, Inhabited

namespace Path

/-- The parts between slashes, from left to right. -/
def parts (path : String) : List String := Text.split '/' path

def isAbsolute (path : String) : Bool :=
  path.toList.head? == some '/'

/-- The path that `path` stands for when it is looked up from the directory `base`. -/
def join (base path : String) : String :=
  if isAbsolute path || base.isEmpty then path
  else if base.toList.getLast? == some '/' then base ++ path
  else base ++ "/" ++ path

/-- The longest name of a file in bytes, and the longest path. -/
def nameLimit : Nat := 255

def limit : Nat := 4095

end Path

namespace FileTree

def empty : FileTree := .directory []

def child? (name : String) : List (String × FileTree) → Option FileTree
  | [] => none
  | (n, t) :: rest => if n == name then some t else child? name rest

def putChild (name : String) (t : FileTree) : List (String × FileTree) → List (String × FileTree)
  | [] => [(name, t)]
  | (n, t') :: rest => if n == name then (n, t) :: rest else (n, t') :: putChild name t rest

/-- Puts a tree at the end of a way of names, and makes the directories that are missing. -/
def put (t : FileTree) (way : List String) (new : FileTree) : FileTree :=
  match way with
  | [] => new
  | name :: way =>
    let entries := match t with
      | .directory entries => entries
      | .file _ => []
    .directory (putChild name (put ((child? name entries).getD empty) way new) entries)

/-- Follows the parts of a path from `here`, whose parents are given from the nearest on. Every part
but the last has to be a directory, and so has what stands before an empty part. -/
def walk (parents : List FileTree) (here : FileTree) : List String → Except FileFault FileTree
  | [] => .ok here
  | part :: rest =>
    match here with
    | .file _ => .error .notADirectory
    | .directory entries =>
      if part == "" || part == "." then walk parents here rest
      else if part == ".." then
        match parents with
        | [] => walk [] here rest
        | parent :: parents => walk parents parent rest
      else if Path.nameLimit < part.utf8ByteSize then .error .invalidName
      else
        match child? part entries with
        | none => .error .notFound
        | some t => walk (here :: parents) t rest

/-- What a path leads to. -/
def find (t : FileTree) (path : String) : Except FileFault FileTree :=
  if path.toList.any fun c => c.toNat == 0 then .error .invalidInput
  else if Path.limit < path.utf8ByteSize then .error .invalidName
  else if !Path.isAbsolute path then .error .notFound
  else walk [] t (Path.parts path)

/-- Makes the directory at the end of a way of names, unless something is there. -/
def makeDirectory (t : FileTree) (way : List String) : FileTree :=
  match walk [] t way with
  | .ok _ => t
  | .error _ => t.put way empty

/-- The tree that has the given directories and files at the ends of ways of names. -/
def ofWays (directories : List (List String)) (files : List (List String × Bytes)) : FileTree :=
  files.foldl (fun t f => t.put f.1 (.file f.2)) (directories.foldl makeDirectory empty)

def isPresent (t : FileTree) (path : String) : Bool :=
  match t.find path with
  | .ok _ => true
  | .error _ => false

def isDirectory (t : FileTree) (path : String) : Bool :=
  match t.find path with
  | .ok (.directory _) => true
  | _ => false

def isFile (t : FileTree) (path : String) : Bool :=
  match t.find path with
  | .ok (.file _) => true
  | _ => false

/-- The text of a file. -/
def readText (t : FileTree) (path : String) : Except FileFault String :=
  match t.find path with
  | .error e => .error e
  | .ok (.directory _) => .error .isADirectory
  | .ok (.file content) =>
    match Bytes.toString? content with
    | some s => .ok s
    | none => .error .invalidData

end FileTree

end DetectorControl
