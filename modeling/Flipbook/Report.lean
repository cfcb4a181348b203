import Flipbook.Capacity
import Flipbook.Diagnostic
import Flipbook.Log.Record

/-!
Outcome of an operation together with all that it reported on the way, in order. What was reported
before a failure stays reported. A sink takes every report and returns, so that reporting itself
ends no operation.
-/

namespace Flipbook

inductive Notice
  | diagnostic (diagnostic : Diagnostic)
  | record (record : Log.Record)

def Diagnostic.record (diagnostic : Diagnostic) : Log.Record :=
  { logger := "sprite_atlas.diagnostics"
    level := if diagnostic.isFatal then .critical else .error
    message := diagnostic.logLine }

variable [Limits]

def Diagnostic.checkLength (diagnostic : Diagnostic) : Except Fault Unit :=
  match diagnostic.source, diagnostic.offset with
  | some _, some offset => Capacity.check .overlongRepetition offset
  | _, _ => .ok ()

def Diagnostic.rendered (diagnostic : Diagnostic) : Except Fault String := do
  diagnostic.checkLength
  pure diagnostic.render

def Diagnostic.records (diagnostics : List Diagnostic) : Except Fault (List Log.Record) := do
  diagnostics.forM checkLength
  pure (diagnostics.map record)

def Notice.logged : Notice → Log.Record
  | diagnostic problem => problem.record
  | record entry => entry

def Notice.diagnostics (notices : List Notice) : List Diagnostic :=
  notices.filterMap fun
    | diagnostic problem => some problem
    | record _ => none

def Notice.records (notices : List Notice) : List Log.Record :=
  notices.filterMap fun
    | diagnostic _ => none
    | record entry => some entry

structure Report (α : Type) where
  notices : List Notice := []
  outcome : Except Fault α

namespace Report

def ok {α : Type} (value : α) : Report α := { outcome := .ok value }

def fail {α : Type} (fault : Fault) : Report α := { outcome := .error fault }

def ofExcept {α : Type} (outcome : Except Fault α) : Report α := { outcome }

def diagnose (diagnostic : Diagnostic) : Report Unit :=
  { notices := [.diagnostic diagnostic], outcome := .ok () }

def diagnoseAll (diagnostics : List Diagnostic) : Report Unit :=
  { notices := diagnostics.map .diagnostic, outcome := .ok () }

def log (logger : String) (level : Log.Level) (message : String) : Report Unit :=
  { notices := [.record ⟨logger, level, message⟩], outcome := .ok () }

def bind {α β : Type} (report : Report α) (next : α → Report β) : Report β :=
  match report.outcome with
  | .ok value =>
    let following := next value
    { notices := report.notices ++ following.notices, outcome := following.outcome }
  | .error fault => { notices := report.notices, outcome := .error fault }

instance : Monad Report where
  pure := ok
  bind := bind

end Report

end Flipbook
