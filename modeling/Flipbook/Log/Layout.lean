import Flipbook.Log.Record
import Flipbook.Log.TimePattern
import Flipbook.Text.Split

/-!
Lines of a log by a layout of fields and literal text, with the level name coloured on request.
-/

namespace Flipbook.Log

inductive Piece
  | literal (c : Char)
  | time
  | levelName
  | paddedLevelName
  | message
  | logger
deriving DecidableEq

abbrev Layout := List Piece

def consoleFormat : String := "%(asctime)s : %(levelname)-8s : %(message)s"

def consoleLayout : Layout :=
  [.time, .literal ' ', .literal ':', .literal ' ', .paddedLevelName, .literal ' ', .literal ':',
    .literal ' ', .message]

def consoleTimePattern : String := "%H:%M:%S"

namespace Layout

def fields : List (List Char × Piece) :=
  [("%(asctime)s".toList, .time), ("%(levelname)s".toList, .levelName),
    ("%(levelname)-8s".toList, .paddedLevelName), ("%(message)s".toList, .message),
    ("%(name)s".toList, .logger)]

def spellings : List (List Char × Piece) := fields ++ [("%%".toList, .literal '%')]

/-- Reads a layout from left to right. The first `skip` characters belong to a field that is read
already. -/
def read : (skip : Nat) → List Char → Layout
  | _, [] => []
  | skip + 1, _ :: rest => read skip rest
  | 0, c :: rest =>
    match spellings.find? fun spelling => spelling.1.isPrefixOf (c :: rest) with
    | some (spelling, piece) => piece :: read (spelling.length - 1) rest
    | none => .literal c :: read 0 rest

/-- The layout of a text. The spelling of a field has to stand somewhere in it, if only behind a
percent sign that takes its meaning. An empty text stands for the message alone. -/
def ofText (text : String) : Except Fault Layout :=
  if text = "" then .ok [.message]
  else if fields.any fun field => Text.holds field.1 text.toList then .ok (read 0 text.toList)
  else .error (.malformedLayout text)

def mentionsTime (text : String) : Bool := Text.holds "%(asctime)".toList text.toList

def renderPiece (record : Record) (time : String) : Piece → List Char
  | .literal c => [c]
  | .time => time.toList
  | .levelName => record.level.name.toList
  | .paddedLevelName => record.level.paddedName.toList
  | .message => record.message.toList
  | .logger => record.logger.toList

def render (layout : Layout) (record : Record) (time : String) : List Char :=
  layout.flatMap (renderPiece record time)

end Layout

def attach (written : List Char) (text : String) : List Char :=
  if text = "" then written
  else written ++ (if written.getLast? = some '\n' then [] else ['\n']) ++ text.toList

def plainLine (event : Event) (layoutText : String) (pattern : Option String) :
    Except Fault String := do
  let layout ← Layout.ofText layoutText
  let time ← if Layout.mentionsTime layoutText then event.moment.render pattern else pure ""
  pure (String.ofList (event.attachments.foldl attach (layout.render event.record time)))

def resetCode : List Char := "\x1b[0m".toList

def colorCode (level : Level) : List Char :=
  if level = .debug then "\x1b[36m".toList
  else if level = .info then "\x1b[32m".toList
  else if level = .warning then "\x1b[33m".toList
  else if level = .error then "\x1b[31m".toList
  else if level = .critical then "\x1b[35m".toList
  else resetCode

def replaceFirst (text replacement : List Char) : List Char → List Char
  | [] => if text.isEmpty then replacement else []
  | c :: rest =>
    if text.isPrefixOf (c :: rest) then replacement ++ (c :: rest).drop text.length
    else c :: replaceFirst text replacement rest

def colorLine (level : Level) (line : List Char) : List Char :=
  let name := level.name.toList
  replaceFirst name (colorCode level ++ name ++ resetCode) line

def coloredLine (event : Event) (layoutText : String) (pattern : Option String) :
    Except Fault String := do
  let line ← plainLine event layoutText pattern
  pure (String.ofList (colorLine event.record.level line.toList))

end Flipbook.Log
