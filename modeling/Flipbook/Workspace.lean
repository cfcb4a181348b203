import Flipbook.Fault

/-!
Files and directories by their components below the root, seen from a working directory.
-/

namespace Flipbook

/-- Every file lies in a directory, and so does the working directory. -/
structure Workspace where
  location : Path
  files : List (List String × List UInt8) := []
  directories : List (List String) := []

namespace Workspace

inductive Entry
  | missing
  | directory
  | file (octets : List UInt8)
  | nameTooLong

def maxNameLength : Nat := 255

def maxPathLength : Nat := 4095

inductive Position
  | inDirectory (components : List String)
  | inFile (octets : List UInt8)
  | nowhere
  | tooLong

def isDirectory (workspace : Workspace) (components : List String) : Bool :=
  components.isPrefixOf workspace.location.parts ||
    (workspace.directories.any fun other => components.isPrefixOf other) ||
    (workspace.files.any fun file => components.isPrefixOf file.1 && components != file.1)

def lookup (workspace : Workspace) (components : List String) : Position :=
  match workspace.files.find? (·.1 == components) with
  | some (_, octets) => .inFile octets
  | none => if workspace.isDirectory components then .inDirectory components else .nowhere

def walk (workspace : Workspace) (position : Position) (component : String) : Position :=
  match position with
  | .inDirectory components =>
    if component = ".." then .inDirectory components.dropLast
    else if maxNameLength < component.utf8ByteSize then .tooLong
    else workspace.lookup (components ++ [component])
  | .inFile _ | .nowhere => .nowhere
  | .tooLong => .tooLong

def origin (workspace : Workspace) (path : Path) : List String :=
  if path.slashes = 0 then workspace.location.parts else []

def entry (workspace : Workspace) (path : Path) : Entry :=
  if '\x00' ∈ path.text.toList then .missing
  else if maxPathLength < path.text.utf8ByteSize then .nameTooLong
  else
    match path.parts.foldl workspace.walk (.inDirectory (workspace.origin path)) with
    | .inDirectory _ => .directory
    | .inFile octets => .file octets
    | .nowhere => .missing
    | .tooLong => .nameTooLong

def readFile (workspace : Workspace) (path : Path) (missing : Fault) :
    Except Fault (List UInt8) :=
  match workspace.entry path with
  | .file octets => .ok octets
  | .directory => .error (.isDirectory path)
  | .missing => .error missing
  | .nameTooLong => .error (.nameTooLong path)

def writeFile (workspace : Workspace) (path : Path) (octets : List UInt8) : Workspace :=
  let components := workspace.origin path ++ path.parts
  { workspace with
    files := workspace.files.filter (·.1 != components) ++ [(components, octets)] }

end Workspace

end Flipbook
