import DetectorControl.Files.Tree
import DetectorControl.Text.Blank

/-!
# The commit at HEAD

How the commit that a git working tree stands at is found: the tree's `.git` is the git directory or
a link to it, `HEAD` there names a commit or a reference, and a reference is looked up in the git
directory, in the directory that it shares with other working trees, and in that directory's list of
packed references.
-/

namespace DetectorControl.Repository

/-- Why no commit was found. -/
inductive HeadError where
  | file (fault : FileFault)
  /-- `.git` is neither a directory nor a link. -/
  | noLink (path : String)
  | unknownReference (name : String)
  deriving DecidableEq, Repr

namespace HeadError

def kind : HeadError → String
  | file fault => fault.kind
  | noLink _ => "InvalidData"
  | unknownReference _ => "NotFound"

def message : HeadError → String
  | file fault => fault.message
  | noLink path => path ++ " is neither a directory nor a gitdir link"
  | unknownReference name => name ++ " not found"

end HeadError

/-- What stands behind a label, without the blanks around it. -/
def behind? (label : String) (text : String) : Option String :=
  if label.toList.isPrefixOf text.toList then
    some (Text.trim (String.ofList (text.toList.drop label.toList.length)))
  else none

def read (t : FileTree) (path : String) : Except HeadError String :=
  (t.readText path).mapError .file

/-- The git directory of a working tree. A relative link starts from the working tree. -/
def gitDirectory (t : FileTree) (repository : String) : Except HeadError String := do
  let dotGit := Path.join repository ".git"
  if t.isDirectory dotGit then return dotGit
  let link ← read t dotGit
  match behind? "gitdir:" (Text.trim link) with
  | some target => return Path.join repository target
  | none => throw (.noLink dotGit)

/-- The directory of what several working trees share. -/
def commonDirectory (t : FileTree) (gitDirectory : String) : String :=
  match t.readText (Path.join gitDirectory "commondir") with
  | .ok common => Path.join gitDirectory (Text.trim common)
  | .error _ => gitDirectory

/-- The first of the directories in which the reference has a file of its own. -/
def looseReference? (t : FileTree) (name : String) : List String → Except HeadError (Option String)
  | [] => .ok none
  | directory :: rest =>
    match t.readText (Path.join directory name) with
    | .ok hash => .ok (some (Text.trim hash))
    | .error .notFound => looseReference? t name rest
    | .error fault => .error (.file fault)

/-- The hash on a line of packed references, if the line is about the given one. -/
def packedHash? (name : String) (line : String) : Option String :=
  match line.toList with
  | '#' :: _ | '^' :: _ => none
  | cs =>
    match cs.dropWhile (· != ' ') with
    | [] => none
    | _ :: rest =>
      if Text.trim (String.ofList rest) == name then some (String.ofList (cs.takeWhile (· != ' ')))
      else none

/-- The lines of a text, without their ends. -/
def lines (text : String) : List String :=
  let all := Text.split '\n' text
  if all.getLast? == some "" then all.dropLast else all

def packedReference? (name : String) (text : String) : Option String :=
  (lines text).findSome? (packedHash? name)

/-- The commit of a reference. -/
def resolve (t : FileTree) (directory common name : String) : Except HeadError String := do
  match ← looseReference? t name [directory, common] with
  | some hash => return hash
  | none =>
    let packed ← read t (Path.join common "packed-refs")
    match packedReference? name packed with
    | some hash => return hash
    | none => throw (.unknownReference name)

/-- The commit at HEAD. -/
def head (t : FileTree) (repository : String) : Except HeadError String := do
  let directory ← gitDirectory t repository
  let head := Text.trim (← read t (Path.join directory "HEAD"))
  match behind? "ref:" head with
  | none => return head
  | some name => resolve t directory (commonDirectory t directory) name

end DetectorControl.Repository
