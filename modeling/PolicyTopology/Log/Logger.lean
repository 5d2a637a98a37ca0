import PolicyTopology.Log

/-!
# Loggers

A logger takes calls by the name of a method. Most methods report the argument of a call as an event
at a level of their own, `log` takes the level as its argument, and the others ask or change
something about the logger and report nothing. What a call reports, unless it stays below the
logger's level, is a list of fields: values of the surrounding activity, the logger's own component,
the call's values, and at last the event with its level and the time.

Nothing is known of a call before it is made, so a name, an argument or a value that a method cannot
use is an error of that call. The level of a logger is looked up among names of which two stand for
no level.
-/

namespace PolicyTopology

/-- Why a logger cannot be set up or used as asked. -/
inductive LogError where
  /-- The name asked for as a level is that of the pattern of a line. -/
  | patternAsLevel
  /-- The name asked for as a level is that of the table of patterns. -/
  | patternsAsLevel
  /-- There is no method of the name. -/
  | unknownMethod
  /-- The argument and the values do not fit the parameters of the method. -/
  | signature
  /-- The argument is of a kind that the method cannot use. -/
  | argumentKind
  /-- No level has the rank. -/
  | unknownRank
  /-- The logger has no value of the name. -/
  | unboundValue
  /-- A stack or a trace, shown on lines of its own, is no text. -/
  | traceNotText
  /-- An event that is looked for in a line is no text. -/
  | eventNotText
deriving DecidableEq, Repr

namespace LogLevel

/-- The capital form of a character. Besides the letters of ASCII four characters have a capital
form that occurs in a known name: the dotless `i`, the long `s`, and two ligatures of `s`, `t`. -/
def capitals (c : Char) : List Char :=
  if c = 'ı' then ['I']
  else if c = 'ſ' then ['S']
  else if c = 'ﬅ' ∨ c = 'ﬆ' then ['S', 'T']
  else [c.toUpper]

/-- The level of a given name, in capital or small letters; an unknown name stands for `info`. -/
def ofName (name : String) : Except LogError LogLevel :=
  match String.ofList (name.toList.flatMap capitals) with
  | "NOTSET" => .ok .notSet
  | "DEBUG" => .ok .debug
  | "INFO" => .ok .info
  | "WARNING" | "WARN" => .ok .warning
  | "ERROR" => .ok .error
  | "CRITICAL" | "FATAL" => .ok .critical
  | "BASIC_FORMAT" => .error .patternAsLevel
  | "_STYLES" => .error .patternsAsLevel
  | _ => .ok .info

/-- The level of a given rank. Nothing is reported at `notSet`, so its rank is that of no level. -/
def ofRank? (rank : NumericValue) : Option LogLevel :=
  [debug, info, warning, error, critical].find? fun level =>
    (Scalar.int level.severity).value == .number rank

end LogLevel

/-- What a method of a logger does with the argument of a call. -/
inductive LogMethod where
  /-- Report it as an event at a level, with values that the method adds. -/
  | report (level : LogLevel) (added : Fields)
  /-- Take it as the rank of a level and report the value named `event` there. -/
  | reportAt
  /-- Take it as the rank of a level and tell whether records of that level are passed on. -/
  | isEnabled
  /-- Take it as the name of a value and give a logger without that value, which the logger at hand
  has to have if the method is `strict`. -/
  | unbind (strict : Bool)
  /-- Take values alone. -/
  | withoutArgument

/-- The method of a given name. An exception is an error that asks for its cause. -/
def LogMethod.ofName (name : String) : Except LogError LogMethod :=
  match name with
  | "debug" => .ok (.report .debug [])
  | "info" | "msg" => .ok (.report .info [])
  | "warning" | "warn" => .ok (.report .warning [])
  | "error" => .ok (.report .error [])
  | "exception" => .ok (.report .error [("exc_info", .bool true)])
  | "critical" | "fatal" => .ok (.report .critical [])
  | "log" => .ok .reportAt
  | "is_enabled_for" => .ok .isEnabled
  | "unbind" => .ok (.unbind true)
  | "try_unbind" => .ok (.unbind false)
  | "bind" | "new" | "get_effective_level" => .ok .withoutArgument
  | _ => .error .unknownMethod

/-- A call of a logger: a method with an argument, nearly always the name of an event, and named
values. -/
structure LogCall where
  method : String
  argument : Document
  values : Fields

namespace LogCall

/-- The values must not have the given names, which are those of parameters. -/
def keepClear (call : LogCall) (names : List String) : Except LogError Unit :=
  if names.any fun name => Entries.contains call.values name then .error .signature else .ok ()

def refuseValues (call : LogCall) : Except LogError Unit :=
  if call.values.isEmpty then .ok () else .error .signature

def rank (call : LogCall) : Except LogError NumericValue :=
  match call.argument with
  | .scalar scalar =>
    match scalar.value with
    | .number rank => .ok rank
    | _ => .error .argumentKind
  | _ => .error .argumentKind

end LogCall

/-- Where the records of a component go. -/
structure Logger where
  component : String
  level : LogLevel
  format : LogFormat
  /-- Values that the surrounding activity adds to every record. -/
  context : Fields

namespace Logger

def passes (logger : Logger) (level : LogLevel) : Bool :=
  logger.level.severity ≤ level.severity

/-- The fields of an event at a time. The context comes first, then the component, then the event's
own values, then the event unless it is null, its level and the time; each replaces a value of the
same name before it. The name of the request for a stack is not for values. -/
def compose (logger : Logger) (time : String) (level : LogLevel) (event : Document)
    (values : Fields) : Fields :=
  let component : Fields := [("component", .string logger.component)]
  let named : Fields := match event with
    | .null => []
    | event => [("event", event)]
  let stamp : Fields := [("level", .string level.name), ("ts", .string time)]
  let all := (component ++ values ++ named ++ stamp).foldl
    (fun all field => Entries.set all field.1 field.2) logger.context
  Entries.erase all "stack_info"

/-- The fields of a record that is written for a call. Writing has a parameter of its own. -/
def write (logger : Logger) (time : String) (level : LogLevel) (event : Document)
    (call : LogCall) (values : Fields) : Except LogError (Option Fields) := do
  call.keepClear ["method_name"]
  return some (logger.compose time level event values)

def record? (logger : Logger) (time : String) (call : LogCall) :
    Except LogError (Option Fields) := do
  match ← LogMethod.ofName call.method with
  | .report level added =>
    call.keepClear ["self", "event"]
    if !logger.passes level then return none
    logger.write time level call.argument call
      (call.values ++ Entries.newTo added call.values)
  | .reportAt =>
    call.keepClear ["self", "level"]
    match Entries.get? call.values "event" with
    | none => throw .signature
    | some event =>
      let rank ← call.rank
      if rank.isBelow logger.level.severity then return none
      match LogLevel.ofRank? rank with
      | none => throw .unknownRank
      | some level => logger.write time level event call (Entries.erase call.values "event")
  | .isEnabled =>
    call.refuseValues
    let _ ← call.rank
    return none
  | .unbind strict =>
    call.refuseValues
    match call.argument with
    | .scalar name =>
      if strict && !(name == ("component" : Scalar)) then throw .unboundValue
      return none
    | _ => throw .argumentKind
  | .withoutArgument => throw .signature

def records (logger : Logger) (time : String) (calls : List LogCall) :
    Except LogError (List Fields) :=
  (List.filterMap id) <$> calls.mapM (logger.record? time)

end Logger

end PolicyTopology
