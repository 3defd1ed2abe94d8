import RecordCoding.Generation
import RecordCoding.Reporting.LogLevel

/-!
# Log events

The event that a diagnostic leaves in the log.
-/

namespace RecordCoding

/-- A diagnostic as it is logged. -/
structure LogEvent where
  level : LogLevel
  typeName : String
  code : String
  node : String
  message : String
  deriving Repr, DecidableEq

/-- The level at which a severity is logged. -/
def Severity.logLevel : Severity → LogLevel
  | .warning => .warn
  | .error => .error

/-- The event for a diagnostic of a type. -/
def LogEvent.ofDiagnostic (typeName : String) (d : Diagnostic) : LogEvent where
  level := d.severity.logLevel
  typeName := typeName
  code := d.code
  node := d.target.text
  message := d.message

/-- The sink that logs. -/
def LogEvent.sink : Sink (StateM (List LogEvent)) :=
  fun typeName d => modify (· ++ [.ofDiagnostic typeName d])

end RecordCoding
