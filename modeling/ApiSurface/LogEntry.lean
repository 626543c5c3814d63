import ApiSurface.Text.Case

/-!
# Log entries

What an operation reports while it runs: a severity and a finished message. Entries
below a level are left out of the log; the level is asked for by name.
-/

namespace ApiSurface

/-- How serious a log entry is. -/
inductive Severity where
  | debug
  | info
  | warning
  | error
  | critical
deriving DecidableEq, Repr

namespace Severity

/-- The name of a severity. -/
def name : Severity → String
  | debug => "DEBUG"
  | info => "INFO"
  | warning => "WARNING"
  | error => "ERROR"
  | critical => "CRITICAL"

/-- The number by which severities are ordered. -/
def level : Severity → Int
  | debug => 10
  | info => 20
  | warning => 30
  | error => 40
  | critical => 50

end Severity

/-- One message with its severity. -/
structure LogEntry where
  severity : Severity
  message : Text
deriving DecidableEq, Repr

/-- Why a level cannot be set. -/
inductive LevelFault where
  /-- A text that names no level. -/
  | unknown (text : Text)
  /-- Something that is neither a number nor a text. -/
  | wrongType
deriving DecidableEq, Repr

namespace Level

/-- The level where none is set. -/
def default : Int := Severity.warning.level

/-- The levels by their names. -/
def named : List (Text × Int) :=
  [("NOTSET", 0), ("DEBUG", 10), ("INFO", 20), ("WARN", 30), ("WARNING", 30), ("ERROR", 40),
    ("FATAL", 50), ("CRITICAL", 50)]

/-- The names that stand for things which are no levels: the layout of a line, and a
table of layouts. -/
def misnamed : List (Text × LevelFault) :=
  [("BASIC_FORMAT", .unknown "%(levelname)s:%(name)s:%(message)s"), ("_STYLES", .wrongType)]

/-- The level of a given name. A name that stands for nothing means `info`. -/
def ofName (name : Text) : Except LevelFault Int :=
  match named.lookup name with
  | some level => .ok level
  | none =>
    match misnamed.lookup name with
    | some fault => .error fault
    | none => .ok Severity.info.level

/-- The level asked for by a setting, in any case of its letters. -/
def ofSetting (setting : Option Text) : Except LevelFault Int :=
  ofName (Text.upper (setting.getD "INFO"))

end Level

/-- A log entry on one line. -/
def LogEntry.line (entry : LogEntry) : Text := entry.severity.name ++ " " ++ entry.message

end ApiSurface
