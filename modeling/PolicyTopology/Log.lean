import PolicyTopology.Document.Basic

/-!
# Log records

What a component reports: an event of some severity with named values.
-/

namespace PolicyTopology

inductive LogLevel where
  | notSet
  | debug
  | info
  | warning
  | error
  | critical
deriving DecidableEq, Repr

namespace LogLevel

def severity : LogLevel → Nat
  | .notSet => 0
  | .debug => 10
  | .info => 20
  | .warning => 30
  | .error => 40
  | .critical => 50

def name : LogLevel → String
  | .notSet => "notset"
  | .debug => "debug"
  | .info => "info"
  | .warning => "warning"
  | .error => "error"
  | .critical => "critical"

end LogLevel

/-- How records are written. -/
inductive LogFormat where
  /-- One object to a line, for collectors. -/
  | json
  /-- For a person at a terminal. -/
  | console
deriving DecidableEq, Repr

namespace LogFormat

def name : LogFormat → String
  | .json => "json"
  | .console => "console"

/-- The format of a given name; every name but that of the console stands for objects. -/
def ofName (name : String) : LogFormat := if name = "console" then .console else .json

end LogFormat

/-- One record: an event that a component reports at a level, with named values. -/
structure LogRecord where
  component : String
  level : LogLevel
  event : String
  fields : Fields

namespace LogRecord

def qualified (component : String) : String := "gwpolicy." ++ component

def toFields (record : LogRecord) : Fields :=
  ("component", .string record.component) :: ("event", .string record.event) ::
    ("log_level", .string record.level.name) :: record.fields

end LogRecord

end PolicyTopology
