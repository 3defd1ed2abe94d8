import RecordCoding.Generation

/-!
# Collected diagnostics

A buffer that is shared between generation runs: reports are appended, and draining hands out
everything that was reported since the last drain.
-/

namespace RecordCoding

/-- A diagnostic with the name of the type it belongs to. -/
abbrev Report := String × Diagnostic

/-- Buffered reports in the order of their arrival. -/
structure Collector where
  entries : List Report
  deriving Repr, DecidableEq

namespace Collector

/-- A collector without reports. -/
def empty : Collector := ⟨[]⟩

/-- Appends a report. -/
def report (collector : Collector) (entry : Report) : Collector := ⟨collector.entries ++ [entry]⟩

/-- Takes everything out. -/
def drain (collector : Collector) : List Report × Collector := (collector.entries, empty)

/-- The number of buffered reports. -/
def size (collector : Collector) : Nat := collector.entries.length

/-- Whether nothing is buffered. -/
def isEmpty (collector : Collector) : Bool := collector.entries.isEmpty

/-- Whether a buffered report is an error. -/
def hasErrors (collector : Collector) : Bool := collector.entries.any (·.2.isError)

/-- The sink that reports to a collector. -/
def sink : Sink (StateM Collector) := fun typeName d => modify (·.report (typeName, d))

end Collector

end RecordCoding
