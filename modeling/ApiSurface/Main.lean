import ApiSurface.Config
import ApiSurface.Fault
import ApiSurface.Redaction
import ApiSurface.Service.Startup

/-!
# Command line

Checks the log level and the configuration that the environment asks for, as the
service would at its start, and reports on one line: the settings in effect, or why
they are refused. The line is redacted like everything else that is written.
-/

namespace ApiSurface.Main

/-- The variables that are looked at. -/
def variableNames : List Text :=
  [Service.levelSettingName, Config.rateLimit.name, Config.collectionInterval.name,
    Config.fullRescanInterval.name, Config.workers.name, Config.watchTimeout.name,
    Config.port.name, Config.crdWaitTimeout.name, Config.awaitedCrdsName]

/-- One setting with its value, as the report lists it. -/
def settingText (name value : Text) : Text := name ++ "=" ++ value

/-- The settings of a configuration, as the report lists them. -/
def settingsText (config : Config) : Text :=
  List.intercalate ", "
    (config.integers.map (fun setting => settingText setting.1.name (toString setting.2)) ++
    [settingText Config.awaitedCrdsName
      (List.intercalate "," (config.awaitedCrds.map Crd.GroupVersionKind.definitionName))])

/-- Checks the log level and the configuration of an environment. -/
def checked (env : Environment) : Except Fault (Int × Config) := do
  let level ← (Level.ofSetting (env Service.levelSettingName)).mapError Fault.ofLevel
  let config ← (Config.load env).mapError .badConfig
  .ok (level, config)

/-- The report on an environment, unless its level leaves it out. -/
def report (env : Environment) : Option LogEntry :=
  match checked env with
  | .ok (level, config) =>
    if level ≤ Severity.info.level then some ⟨.info, settingsText config⟩ else none
  | .error fault => some ⟨.error, fault.message⟩

/-- Whether an environment is refused. -/
def isRefused (env : Environment) : Bool := !(checked env).isOk

/-- A variable of this process with its value, if it is set. -/
def readVariable (name : Text) : IO (Option (Text × Text)) := do
  let some key := Text.toString? name | return none
  let value ← IO.getEnv key
  return value.map fun value => (name, value)

end ApiSurface.Main

open ApiSurface in
/-- Reports on the environment of this process; a refused one is a failure. -/
def main : IO UInt32 := do
  let found ← Main.variableNames.filterMapM Main.readVariable
  let env : Environment := fun name => found.lookup name
  let line := (Main.report env).bind fun entry => Text.toString? (Redaction.redact entry.line)
  if let some line := line then IO.println line
  return if Main.isRefused env then 1 else 0
