import DocumentQuery.Json.Printer

/-!
The counters of an executor. They are 64-bit words and wrap around.
-/

namespace DocumentQuery

/-- What happened, as far as it is counted. -/
inductive Counter where
  | submitted
  | completed
  | failed
  | cancelled
  | rejected
  | duplicate
  | rows (n : UInt64)
  deriving DecidableEq

structure Metrics where
  submitted : UInt64 := 0
  completed : UInt64 := 0
  failed : UInt64 := 0
  cancelled : UInt64 := 0
  rejected : UInt64 := 0
  rowsReceived : UInt64 := 0
  duplicateSignals : UInt64 := 0
  deriving DecidableEq

namespace Metrics

def count (m : Metrics) : Counter → Metrics
  | .submitted => { m with submitted := m.submitted + 1 }
  | .completed => { m with completed := m.completed + 1 }
  | .failed => { m with failed := m.failed + 1 }
  | .cancelled => { m with cancelled := m.cancelled + 1 }
  | .rejected => { m with rejected := m.rejected + 1 }
  | .duplicate => { m with duplicateSignals := m.duplicateSignals + 1 }
  | .rows n => { m with rowsReceived := m.rowsReceived + n }

def countAll (m : Metrics) (counters : List Counter) : Metrics := counters.foldl count m

/-- The values in the order of the fields. -/
def values (m : Metrics) : List UInt64 :=
  [m.submitted, m.completed, m.failed, m.cancelled, m.rejected, m.rowsReceived,
    m.duplicateSignals]

/-- The counters by name. -/
def toDocument (m : Metrics) : Json :=
  let word (n : UInt64) := Json.ofNat n.toNat
  .object [("cancelled", word m.cancelled), ("completed", word m.completed),
    ("duplicate_signals", word m.duplicateSignals), ("failed", word m.failed),
    ("rejected", word m.rejected), ("rows_received", word m.rowsReceived),
    ("submitted", word m.submitted)]

end Metrics

end DocumentQuery
