import DocumentQuery.Json.Basic
import DocumentQuery.Text.Quoted

/-!
The log: events with a severity and text fields, one line of JSON each. A logger drops what is less
severe than its minimum and writes the rest to memory or to the console, where errors go to a
stream of their own.
-/

namespace DocumentQuery

inductive Severity where
  | trace
  | info
  | warn
  | error
  | fatal
  deriving DecidableEq, Repr

namespace Severity

def name : Severity → String
  | .trace => "TRACE"
  | .info => "INFO"
  | .warn => "WARN"
  | .error => "ERROR"
  | .fatal => "FATAL"

def all : List Severity := [.trace, .info, .warn, .error, .fatal]

/-- How severe a severity is. -/
def rank : Severity → Nat
  | .trace => 0
  | .info => 1
  | .warn => 2
  | .error => 3
  | .fatal => 4

def ofName? (name : String) : Option Severity := all.find? (·.name = name)

def toDocument (s : Severity) : Json := .string s.name

/-- The severity of a name, bare or as the only member of an object, with null. -/
def ofDocument? : Json → Option Severity
  | .string name => ofName? name
  | .object [(name, .null)] => ofName? name
  | _ => none

end Severity

inductive Event where
  | submitted
  | request
  | firstResponse
  | completed
  | failed
  | cancelled
  | rejected
  | duplicateIgnored
  deriving DecidableEq, Repr

namespace Event

def name : Event → String
  | .submitted => "PIPELINE_SUBMITTED"
  | .request => "PIPELINE_REQUEST"
  | .firstResponse => "PIPELINE_FIRST_RESPONSE"
  | .completed => "PIPELINE_COMPLETED"
  | .failed => "PIPELINE_FAILED"
  | .cancelled => "PIPELINE_CANCELLED"
  | .rejected => "PIPELINE_REJECTED"
  | .duplicateIgnored => "DUPLICATE_SIGNAL_IGNORED"

/-- Whether the event ends an execution. -/
def isTerminal : Event → Bool
  | .completed | .failed | .cancelled | .rejected => true
  | _ => false

end Event

structure LogEntry where
  severity : Severity
  event : Event
  fields : List (String × String)
  deriving DecidableEq

namespace LogEntry

def isControl (c : Char) : Bool := c.toNat < 0x20 || (0x7F ≤ c.toNat && c.toNat < 0xA0)

/-- How log lines write one character of a text: no control character is left. -/
def escapeChar (c : Char) : List Char :=
  match c with
  | '"' => ['\\', '"']
  | '\\' => ['\\', '\\']
  | '\n' => ['\\', 'n']
  | '\r' => ['\\', 'r']
  | '\t' => ['\\', 't']
  | c => if isControl c then Quoted.unicodeEscape c.toNat else [c]

def writeText (s : String) (rest : List Char) : List Char :=
  Quoted.writeWith escapeChar s.toList rest

/-- The fields in the order of their keys; fields with one key keep their order. -/
def sortedFields (fields : List (String × String)) : List (String × String) :=
  fields.mergeSort fun a b => a.1 ≤ b.1

def writeFields (fields : List (String × String)) (rest : List Char) : List Char :=
  fields.foldr (fun (key, value) rest => ',' :: writeText key (':' :: writeText value rest)) rest

/-- The line of an entry: an object with the event, the severity and the fields. -/
def line (entry : LogEntry) : String :=
  let members := ("event", entry.event.name) :: ("severity", entry.severity.name) ::
    sortedFields entry.fields
  -- Every member is written after a comma, the first one after the brace instead.
  String.ofList ('\x7b' :: (writeFields members ['\x7d']).drop 1)

end LogEntry

/-- Where a logger writes to. -/
inductive LogSink where
  | memory
  | console
  deriving DecidableEq, Repr

structure Logger where
  minimum : Severity
  sink : LogSink
  deriving DecidableEq

/-- The lines that came out at each place. -/
structure LogOutput where
  captured : List String := []
  standard : List String := []
  errors : List String := []
  deriving DecidableEq

namespace Logger

def enabled (logger : Logger) (severity : Severity) : Bool := logger.minimum.rank ≤ severity.rank

/-- The entries that are not dropped. -/
def kept (logger : Logger) (entries : List LogEntry) : List LogEntry :=
  entries.filter fun entry => logger.enabled entry.severity

/-- What a logger writes for a sequence of entries. -/
def write (logger : Logger) (entries : List LogEntry) : LogOutput :=
  let kept := logger.kept entries
  let lines (entries : List LogEntry) := entries.map LogEntry.line
  match logger.sink with
  | .memory => { captured := lines kept }
  | .console =>
    let isError (entry : LogEntry) : Bool := Severity.error.rank ≤ entry.severity.rank
    { standard := lines (kept.filter (!isError ·)), errors := lines (kept.filter isError) }

/-- The logger of an executor that was given none. -/
def ofLevel (minimum : Severity) : Logger := ⟨minimum, .console⟩

instance : Inhabited Logger := ⟨ofLevel .info⟩

end Logger

end DocumentQuery
