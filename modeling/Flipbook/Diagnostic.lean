/-!
Problems reported while definitions and queries are processed. A report does not stop the work;
only a fatal one accompanies a failure.
-/

namespace Flipbook

inductive Severity
  | error
  | fatal
deriving DecidableEq

inductive Diagnostic.Code
  | badCharacter
  | syntaxError
  | frameOutOfRange
  | unknownName
  | unknownAnimation
deriving DecidableEq

def Diagnostic.Code.text : Diagnostic.Code → String
  | .badCharacter => "bad-character"
  | .syntaxError => "syntax-error"
  | .frameOutOfRange => "frame-out-of-range"
  | .unknownName => "unknown-name"
  | .unknownAnimation => "unknown-animation"

structure Diagnostic where
  severity : Severity := .error
  code : Diagnostic.Code
  message : String
  source : Option String := none
  offset : Option Int := none
deriving DecidableEq

namespace Diagnostic

def isFatal (diagnostic : Diagnostic) : Bool := diagnostic.severity = .fatal

def render (diagnostic : Diagnostic) : String :=
  match diagnostic.source, diagnostic.offset with
  | some source, some offset =>
      diagnostic.message ++ "\n" ++ source ++ "\n" ++
        String.ofList (List.replicate offset.toNat ' ') ++ "^"
  | _, _ => diagnostic.message

def logLine (diagnostic : Diagnostic) : String :=
  "[" ++ diagnostic.code.text ++ "] " ++ diagnostic.render

end Diagnostic

structure Collector where
  diagnostics : List Diagnostic := []

namespace Collector

def emit (collector : Collector) (diagnostic : Diagnostic) : Collector :=
  { diagnostics := collector.diagnostics ++ [diagnostic] }

def clear (_ : Collector) : Collector := {}

def size (collector : Collector) : Nat := collector.diagnostics.length

def codes (collector : Collector) : List Diagnostic.Code := collector.diagnostics.map (·.code)

end Collector

end Flipbook
