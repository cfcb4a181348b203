import Flipbook.Log.Sinks
import Flipbook.Workspace

/-!
Everything that a run of the program puts out, and the files as it leaves them.
-/

namespace Flipbook.CommandLine

structure Session where
  workspace : Workspace
  stamp : Log.Stamp
  sinks : Log.Sinks := {}
  output : String := ""
  errors : String := ""

namespace Session

def logFile : Path := Path.ofText Settings.logFilePath

def logDirectory : Path := { logFile with parts := logFile.parts.dropLast }

def absoluteLogFile (session : Session) : String :=
  session.workspace.location.text ++ "/" ++ logFile.text

def print (session : Session) (line : String) : Session :=
  { session with output := session.output ++ line ++ "\n" }

def printError (session : Session) (line : String) : Session :=
  { session with errors := session.errors ++ line ++ "\n" }

def logOctets (session : Session) : List UInt8 :=
  match session.workspace.entry logFile with
  | .file octets => octets
  | _ => []

def appendToLog (session : Session) (line : String) : Session :=
  { session with
    workspace :=
      session.workspace.writeFile logFile (session.logOctets ++ (line ++ "\n").toUTF8.toList) }

def log (session : Session) (record : Log.Record) : Session :=
  let shown :=
    match session.sinks.consoleLine? record session.stamp with
    | some line => session.printError line
    | none => session
  match shown.sinks.fileLine? record shown.stamp with
  | some line => shown.appendToLog line
  | none => shown

def logAll (session : Session) (notices : List Notice) : Session :=
  notices.foldl (fun session notice => session.log notice.logged) session

def openLog (session : Session) : Except String Session :=
  match session.workspace.entry logDirectory, session.workspace.entry logFile with
  | .file _, _ => .error ("[Errno 17] File exists: " ++ Text.quoted logDirectory.text)
  | _, .directory => .error ("[Errno 21] Is a directory: " ++ Text.quoted session.absoluteLogFile)
  | _, _ =>
    .ok
      { session with
        workspace := session.workspace.writeFile logFile session.logOctets
        sinks := { session.sinks with file := true } }

def setupLogger : String := "sprite_atlas.utils.logging_config"

def setUpConsole (session : Session) (settings : Settings) (levelName : String) :
    Except Fault Session :=
  if settings.consoleLogging then do
    let level ← Log.Console.levelOf (Text.uppercase levelName)
    let console : Log.Console := { level, colored := settings.consoleUseColors }
    pure { session with sinks := { session.sinks with console := some console } }
  else .ok session

def setUpFile (session : Session) (settings : Settings) : Session :=
  if settings.fileLogging then
    match session.openLog with
    | .ok opened => opened
    | .error reason =>
      session.log ⟨"root", .warning, "Could not setup file logging: " ++ reason⟩
  else session

def setupRecords (session : Session) (settings : Settings) (levelName : String) :
    List Log.Record :=
  [⟨setupLogger, .info, "Logging initialized"⟩] ++
    (if settings.consoleLogging then
      [⟨setupLogger, .debug, "Console logging: " ++ levelName ++ " (colors: " ++
        Value.boolText settings.consoleUseColors ++ ")"⟩]
    else []) ++
    (if settings.fileLogging then
      [⟨setupLogger, .debug, "File logging: DEBUG at " ++ session.absoluteLogFile⟩]
    else [])

variable [Limits]

def setUpLog (session : Session) (settings : Settings) : Except Fault Session := do
  let levelName ← settings.consoleLogLevel
  let opened := (← session.setUpConsole settings levelName).setUpFile settings
  pure ((opened.setupRecords settings levelName).foldl log opened)

end Session

end Flipbook.CommandLine
