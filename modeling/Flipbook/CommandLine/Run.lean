import Flipbook.AtlasService
import Flipbook.CommandLine.Arguments
import Flipbook.CommandLine.Session
import Flipbook.Loading

/-!
A run of the program: it loads one page, applies definitions and prints the frames of selectors.
-/

namespace Flipbook.CommandLine

/-- The end of a run, with the service as the run leaves it if it came to have one. -/
structure Completion where
  session : Session
  outcome : Except Fault Nat
  service : Option AtlasService := none

def programName : String := "sprite_atlas"

def programVersion : String := "0.1.0"

def mainLogger : String := "sprite_atlas.__main__.main"

def fileLoaders (workspace : Workspace) : Loaders :=
  { metadata := fun source => some (Loading.metadata workspace source)
    image := fun source => some (Loading.image workspace source) }

def definitionPairs (index : Nat) :
    List (Option (String × String)) → Except Fault (List (String × String))
  | [] => .ok []
  | some pair :: rest => do pure (pair :: (← definitionPairs (index + 1) rest))
  | none :: _ => .error (.entryLength index 0)

def identityOf : Value → PageIdentity
  | .text source => .named source
  | _ => .nameless

def requestOf (arguments : Arguments) (definitions : Page.Definitions) : PageRequest :=
  let metadata := arguments.sources.getD 0 .none
  let image := arguments.sources.getD 1 .none
  { identity := identityOf image, metadata, image, definitions }

def selectorsOf (arguments : Arguments) (page : Page) : List (Option Selector) :=
  if arguments.selectors.isEmpty then page.groups.keys.map fun name => some (.group name)
  else arguments.selectors

def selectionLine (selector : Selector) (members : List Placed) : String :=
  selector.text ++ ": " ++ String.intercalate " " (members.map fun placed => placed.frame.name)

variable [Limits]

def printSelections (page : Page) : List (Option Selector) → Session → Completion
  | [], session => { session, outcome := .ok 0 }
  | none :: _, session => { session, outcome := .error (.tooFewParts 0) }
  | some selector :: rest, session =>
    let report := selector.select page
    let logged := session.logAll report.notices
    match report.outcome with
    | .ok members => printSelections page rest (logged.print (selectionLine selector members))
    | .error fault => { session := logged, outcome := .error fault }

section

variable (loaders : Workspace → Loaders)

def usePage (session : Session) (service : AtlasService) (arguments : Arguments)
    (definitions : Page.Definitions) : AtlasService × Completion :=
  let (used, report) := service.awaitPage arguments.atlasId (requestOf arguments definitions)
    service.defaultPatience (loaders session.workspace)
  let logged := session.logAll report.notices
  match report.outcome with
  | .error fault => (used, { session := logged, outcome := .error fault })
  | .ok page => (used, printSelections page (selectorsOf arguments page) logged)

def withService (session : Session) (settings : Settings) (arguments : Arguments)
    (definitions : Page.Definitions) : Completion :=
  let made := AtlasService.ofSettings settings
  let logged := session.logAll made.notices
  match made.outcome with
  | .error fault => { session := logged, outcome := .error fault }
  | .ok service =>
    let (used, completion) := usePage loaders logged service arguments definitions
    let (left, closed) := used.close
    { completion with session := completion.session.logAll closed.notices, service := some left }

def isHandled : Fault → Bool
  | .pageBuild .. | .unknownAnimation .. | .configuration _ => true
  | _ => false

def handle (completion : Completion) : Completion :=
  match completion.outcome with
  | .ok _ => completion
  | .error fault =>
    if isHandled fault then
      let logged := completion.session.log ⟨mainLogger, .error, fault.message⟩
      { completion with
        session := logged.printError ("error: " ++ fault.message)
        outcome := .ok 1 }
    else completion

def proceed (session : Session) (settings : Settings) (arguments : Arguments) : Completion :=
  match definitionPairs 0 arguments.definitions with
  | .error fault => { session, outcome := .error fault }
  | .ok pairs => handle (withService loaders session settings arguments (Keyed.ofPairs pairs))

def prepare (session : Session) (store : Store) (arguments : Arguments) :
    Except Fault (Settings × Session) := do
  let defaults : Settings := { store }
  let settings ← Settings.openProfile store defaults.profile
    (arguments.settingsFile.getD defaults.file)
  pure (settings, ← session.setUpLog settings)

def execute (session : Session) (store : Store) (arguments : Arguments) : Completion :=
  match prepare session store arguments with
  | .error fault => { session, outcome := .error fault }
  | .ok (settings, ready) => proceed loaders ready settings arguments

def runWith (session : Session) (store : Store) (argv : List String) : Completion :=
  match Arguments.read argv with
  | .ok arguments => execute loaders session store arguments
  | .error .help => { session, outcome := .ok 0 }
  | .error .version =>
    { session := session.print (programName ++ " " ++ programVersion), outcome := .ok 0 }
  | .error (.refused message) =>
    { session := session.printError (programName ++ ": error: " ++ message), outcome := .ok 2 }

end

def run (session : Session) (store : Store) (argv : List String) : Completion :=
  runWith fileLoaders session store argv

end Flipbook.CommandLine
