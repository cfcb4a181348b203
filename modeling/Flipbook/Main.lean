import Flipbook.CommandLine.Run
import Flipbook.CommandLine.SettingsFile
import Std.Time.DateTime.Timestamp

/-!
The program: it looks at the files that its arguments name, runs on what it saw, and puts out what
the run gives.
-/

namespace Flipbook.Program

open CommandLine

def look (workspace : Workspace) (components : List String) : IO Workspace := do
  try
    let octets ← IO.FS.readBinFile (Path.text { slashes := 1, parts := components })
    return { workspace with files := workspace.files ++ [(components, octets.toList)] }
  catch
    | .inappropriateType .. =>
      return { workspace with directories := workspace.directories ++ [components] }
    | _ => return workspace

def observe (workspace : Workspace) (path : Path) : IO Workspace := do
  let mut components := workspace.origin path
  let mut seen := workspace
  for part in path.parts do
    components := if part = ".." then components.dropLast else components ++ [part]
    seen ← look seen components
  return seen

def pathOfSource? : Value → Option Path
  | .text source =>
    if Url.hasScheme source then Url.localPath? source else some (Path.ofText source)
  | _ => none

def pathsOf (arguments : Arguments) : List Path :=
  Session.logFile :: arguments.sources.filterMap pathOfSource?

def workspaceFor (argv : List String) : IO Workspace := do
  let location := Path.ofText (toString (← IO.currentDir))
  let empty : Workspace := { location }
  match Arguments.read argv with
  | .ok arguments => (pathsOf arguments).foldlM observe empty
  | .error _ => return empty

def storeFor (argv : List String) : IO Store := do
  match Arguments.read argv with
  | .ok { settingsFile := some file, .. } =>
    try return SettingsFile.read (← IO.FS.readFile file)
    catch _ => return []
  | _ => return []

def stampNow : IO Log.Stamp := do
  let moment : Log.Moment :=
    { seconds := (← Std.Time.Timestamp.now).toSecondsSinceUnixEpoch.val }
  return {
    consoleTime := (moment.renderBy Log.consoleTimePattern).toOption.getD ""
    fileTime := (moment.renderBy Log.fileTimePattern).toOption.getD ""
    duration := "0 ms"
    line := "1" }

def publish (session : Session) : IO Unit := do
  IO.print session.output
  IO.eprint session.errors
  if session.sinks.file then
    IO.FS.createDirAll Session.logDirectory.text
    IO.FS.writeBinFile Session.logFile.text (ByteArray.mk session.logOctets.toArray)

def finish (completion : Completion) : IO UInt32 := do
  publish completion.session
  match completion.outcome with
  | .ok code => return UInt32.ofNat code
  | .error fault =>
    IO.eprintln fault.message
    return 1

end Flipbook.Program

def main (argv : List String) : IO UInt32 := do
  let session : Flipbook.CommandLine.Session :=
    { workspace := ← Flipbook.Program.workspaceFor argv, stamp := ← Flipbook.Program.stampNow }
  Flipbook.Program.finish
    (Flipbook.CommandLine.run session (← Flipbook.Program.storeFor argv) argv)
