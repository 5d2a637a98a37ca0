import PolicyTopology.Document.Literal
import PolicyTopology.Log.Logger
import PolicyTopology.Text.Lines

/-!
# Records on a console

The text of a record for a person at a terminal. Its main columns are the level and the event in
fixed widths, then the other fields by name as `key=value`. A stack and a trace, if the record has
them, follow on lines of their own. A reader looks for events by name, so `mentioned` says which of
them a line shows, be it as its event or inside a value.
-/

namespace PolicyTopology

namespace Console

def levelWidth : Nat := 9

def eventWidth : Nat := 30

/-- The line between a stack and a trace. -/
def rule : String := String.ofList (List.replicate 79 '=')

/-- A text followed by as many blanks as it lacks to a width. -/
def padded (width : Nat) (text : String) : String :=
  text ++ String.ofList (List.replicate (width - (Text.codePoints text).length) ' ')

/-- Whether a character keeps a text from standing without quotes as a value. -/
def needsQuotes (c : Char) : Bool := [' ', '\t', '=', '\r', '\n', '"', '\''].contains c

/-- A value as it stands after its key: a text without quotes if it can, anything else in its
literal form. -/
def value : Document → String
  | .string text => if text.toList.any needsQuotes then Text.quoted text else text
  | document => document.literal

/-- The columns that come first, each with what it shows of the field that it is for. A field
without a name stands before all others. -/
def leading : List (String × (Document → String)) :=
  [("", fun item => "=" ++ value item),
    ("timestamp", Document.text),
    ("level", fun level => "[" ++ padded levelWidth level.text ++ "]"),
    ("event", fun event => padded eventWidth event.text),
    ("logger", fun name => "[" ++ name.text ++ "]"),
    ("logger_name", fun name => "[" ++ name.text ++ "]")]

/-- The fields that follow the columns on lines of their own. -/
def trailing : List String := ["stack", "exception", "exc_info"]

/-- The fields that stand as `key=value`, by name. -/
def others (fields : Fields) : Fields :=
  let set := leading.map (·.1) ++ trailing
  (fields.filter fun field => !set.contains field.1.text).mergeSort fun first second =>
    ¬ Text.codePoints second.1.text < Text.codePoints first.1.text

/-- The columns of a record, with one blank between two of them. -/
def columns (fields : Fields) : String :=
  let shown := (leading.filterMap fun (name, column) => (Entries.get? fields name).map column) ++
    (others fields).map fun field => field.1.text ++ "=" ++ value field.2
  let line := " ".intercalate (shown.filter (· != ""))
  String.ofList (line.toList.reverse.dropWhile (· == ' ')).reverse

def trace? (fields : Fields) (name : String) : Except LogError (Option String) :=
  match Entries.get? fields name with
  | none | some .null => .ok none
  | some (.string text) => .ok (some text)
  | some _ => .error .traceNotText

def text (fields : Fields) : Except LogError String := do
  let cause := ((Entries.get? fields "exc_info").map Document.isPresent).getD false
  let below (text : Option String) : String := (text.map ("\n" ++ ·)).getD ""
  let stack ← trace? fields "stack"
  let trace ← trace? fields "exception"
  let gap := if stack.isSome && (cause || trace.isSome) then "\n\n" ++ rule ++ "\n" else ""
  return columns fields ++ below stack ++ gap ++ below trace

end Console

namespace Logger

def consoleLines (logger : Logger) (time : String) (calls : List LogCall) :
    Except LogError (List String) := do
  let written ← calls.mapM fun call => do
    match ← logger.record? time call with
    | none => return []
    | some fields => return Text.lines ((← Console.text fields) ++ "\n")
  return written.flatten

end Logger

/-- The events of some calls that a line shows, one for each call. Only texts can be looked for. -/
def LogCall.mentioned (calls : List LogCall) (line : String) : Except LogError (List String) := do
  let events ← calls.mapM fun call =>
    match call.argument with
    | .string event => .ok event
    | _ => .error .eventNotText
  return events.filter (Text.occursIn · line)

end PolicyTopology
