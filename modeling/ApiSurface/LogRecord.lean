import ApiSurface.LogEntry
import ApiSurface.Redaction
import ApiSurface.Text.Case
import ApiSurface.Text.Template
import ApiSurface.Timestamp
import ApiSurface.Value.Writer

/-!
# Log records, one line each

A record is written as one JSON object on one line, with a fixed order of keys. The
message and the text of a failure are redacted before they are written, and the
line holds printable ASCII characters only, so nothing in a message can break the
line or add a key.
-/

namespace ApiSurface

/-- One log record: its time in the zone of the log, what stands for its level, where it comes
from, its message filled in, and the text of a failure. -/
structure LogRecord where
  seconds : Int
  milliseconds : Int
  level : Value
  logger : Text
  thread : Text
  message : Text
  error : Option Text

namespace LogRecord

/-- The name of the level that a number stands for, if it has one. -/
def levelName? (level : Value) : Option String :=
  if level.same (.int 0) then some "NOTSET"
  else
    ([Severity.debug, .info, .warning, .error, .critical].find? fun severity =>
      level.same (.int severity.level)).map Severity.name

/-- What stands for a level: the name of a number, the number of a name, and its own text
where it has neither. A level cannot be looked up if it is a list, a record or a model. -/
def levelLabel? (level : Value) : Option Value :=
  if level.isLookupKey then
    match levelName? level, level.asText?.bind fun name => Level.named.lookup name with
    | some name, _ => some (.text name)
    | none, some number => some (.int number)
    | none, none => some (.text ("Level " ++ level.toText))
  else none

/-- The message of a template with arguments; without arguments a template stands for
itself, and a single record of arguments is taken by name. -/
def fillMessage (template : Text) : List Value → Except Text.TemplateFault Text
  | [] => .ok template
  | [.record (entry :: entries)] =>
    Text.fillTemplate template (.named (entry :: entries) (some (.record (entry :: entries))))
  | values => Text.fillTemplate template (.inTurn values)

/-- The text of a failure: its kind and, if it has one, its message. -/
def errorText (kind message : Text) : Text :=
  if message.isEmpty then kind else kind ++ ": " ++ message

/-- The time of a record. -/
def time (record : LogRecord) : String :=
  Timestamp.text record.seconds ++ "," ++ Timestamp.milliseconds record.milliseconds

/-- The keys that every record has, with their values in the order written. -/
def mainFields (record : LogRecord) : List (Text × Value) :=
  [("ts", .text record.time), ("level", record.level), ("logger", .text record.logger),
    ("thread", .text record.thread), ("msg", .text (Redaction.redact record.message))]

/-- The key of a failure with its text, for a record that has one. -/
def errorFields (record : LogRecord) : List (Text × Value) :=
  match record.error with
  | some error => [("error", .text (Redaction.redact error))]
  | none => []

/-- All keys of a record with their values, in the order written. -/
def fields (record : LogRecord) : List (Text × Value) := record.mainFields ++ record.errorFields

/-- The line of a record. -/
def line (record : LogRecord) : String := (Value.record record.fields).json

/-- Why a log record cannot be made. -/
inductive Fault where
  /-- Something that is no level. -/
  | level
  | time (why : Timestamp.TimeFault)
  | template (why : Text.TemplateFault)
deriving DecidableEq, Repr

/-- A log record as it is reported, before anything is known about its parts. -/
structure Draft where
  zone : Timestamp.Zone
  created : Value
  milliseconds : Value
  level : Value
  logger : Text
  thread : Text
  template : Text
  arguments : List Value
  error : Option Text

/-- The record of a draft. Its level is looked at first, then its time, then its message. -/
def ofDraft (draft : Draft) : Except Fault LogRecord := do
  let some level := levelLabel? draft.level | .error .level
  let seconds ← (Timestamp.ofValue draft.zone draft.created).mapError .time
  let milliseconds ← (Text.Directive.integerOf draft.milliseconds).mapError .template
  let message ← (fillMessage draft.template draft.arguments).mapError .template
  .ok { level, seconds, milliseconds, message
        logger := draft.logger
        thread := draft.thread
        error := draft.error }

end LogRecord

end ApiSurface
