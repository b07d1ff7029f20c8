import SmbBrowser.Command.Arguments

/-! The program: reads the files that its arguments name, runs the command, and writes what it says. -/

open SmbBrowser

/-- What is found at a path. -/
def readContent (path : String) : IO FileContent := do
  try
    return .bytes (← IO.FS.readBinFile path)
  catch
    | .noFileOrDirectory .. => return .missing
    | .inappropriateType .. => return .directory
    | cause => return .unreadable (toString cause)

/-- Where settings are looked for unless the arguments or the environment tell otherwise. -/
def defaultSettingsPath : IO (Option String) := do
  let inner (folder : String) : String := folder ++ "/smbwalk/config.toml"
  match ← IO.getEnv "XDG_CONFIG_HOME" with
  | some folder => return some (inner folder)
  | none => return (← IO.getEnv "HOME").map fun home => inner (home ++ "/.config")

/-- Where settings are looked for. -/
def settingsPath (arguments : Arguments) : IO (Option String) := do
  match arguments.settingsPath.or (← IO.getEnv "SMBWALK_CONFIG") with
  | some path => return some path
  | none => defaultSettingsPath

/-- The command that the arguments name, with its files read. -/
def command? (arguments : Arguments) : IO (Option Command) := do
  match arguments.command, arguments.transcriptPath with
  | some "config", none => return some .settings
  | some "replay", some path =>
    return some (.replay { arguments.replay with transcript := ← readContent path })
  | _, _ => return none

/-- Writes what a run leaves behind. -/
def deliver (result : RunResult) : IO UInt32 := do
  IO.print result.output
  result.messages.forM fun message => IO.eprintln message
  return result.code

/-- Reads the files, runs the command and writes what it leaves behind. -/
def runArguments (arguments : Arguments) : IO UInt32 := do
  let path ← settingsPath arguments
  let settings ← match path with
    | some path => readContent path
    | none => pure .missing
  match ← command? arguments with
  | none =>
    IO.eprintln "usage: smbwalk [--config PATH] [--log FILTER] config | replay TRANSCRIPT"
    return 2
  | some command =>
    let logFilter := (arguments.logFilter.or (← IO.getEnv "SMBWALK_LOG")).getD "warn"
    deliver (Invocation.run { settingsPath := path.getD "", settings, logFilter, command })

/-- Runs the program. -/
def main (words : List String) : IO UInt32 :=
  match Arguments.parse words with
  | .error word => do
    IO.eprintln ("error: unexpected argument " ++ word)
    return 2
  | .ok arguments => runArguments arguments
