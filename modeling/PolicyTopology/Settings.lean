import PolicyTopology.Environment
import PolicyTopology.Log
import PolicyTopology.Topology.Effective

/-!
# Settings

The resolution mode, the log level and the log format, as the environment sets them. A variable that
is not set has a default; one that is set must be one of the known words in small or capital
letters. The mode is checked before the level, and the level before the format.
-/

namespace PolicyTopology

/-- A setting whose value is not one of its words. -/
inductive SettingsError where
  | resolutionMode (value : String)
  | logLevel (value : String)
  | logFormat (value : String)
deriving DecidableEq, Repr

namespace SettingsError

def message : SettingsError → String
  | .resolutionMode value => "Invalid resolution mode: " ++ value
  | .logLevel value => "Invalid log level: " ++ value
  | .logFormat value => "Invalid log format: " ++ value

end SettingsError

/-- The settings. -/
structure Settings where
  mode : ResolutionMode
  level : LogLevel
  format : LogFormat
deriving DecidableEq, Repr

namespace ResolutionMode

def name : ResolutionMode → String
  | .failFast => "fail_fast"
  | .bestEffort => "best_effort"

def ofName? (name : String) : Option ResolutionMode :=
  [failFast, bestEffort].find? fun mode => mode.name == name

end ResolutionMode

namespace Settings

def choose? {α : Type} (name : α → String) (values : List α) (word : String) : Option α :=
  values.find? fun value => isWord (name value) word

/-- The value of a variable, which must be the name of one of `values`. -/
def read {α : Type} (environment : Environment) (setting : String) (default : α)
    (name : α → String) (values : List α) (error : String → SettingsError) :
    Except SettingsError α :=
  match environment.get? setting with
  | none => .ok default
  | some word =>
    match choose? name values word with
    | some value => .ok value
    | none => .error (error word)

def load (environment : Environment) : Except SettingsError Settings := do
  let mode ← read environment "GWPOLICY_RESOLUTION_MODE" .failFast ResolutionMode.name
    [.failFast, .bestEffort] .resolutionMode
  let level ← read environment "GWPOLICY_LOG_LEVEL" .info LogLevel.name
    [.debug, .info, .warning, .error] .logLevel
  let format ← read environment "GWPOLICY_LOG_FORMAT" .json LogFormat.name
    [.json, .console] .logFormat
  return { mode, level, format }

/-- The settings of an environment that sets nothing. -/
def standard : Settings := ⟨.failFast, .info, .json⟩

end Settings

end PolicyTopology
