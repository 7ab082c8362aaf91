import RootedHeap.Config.Reader
import RootedHeap.Console.Arguments
import RootedHeap.Console.Printer
import RootedHeap.Script.Parser

/-!
# The command

`command` runs the program for given arguments: it answers a request for help or the version, sets
the log filter, reads the configuration and then the script, and runs the script. The first of these
that fails decides the report. Files are read through a function given by the caller, so the same
command works on a disk and on a `Folder`.
-/

namespace RootedHeap.Console

/-- What the program leaves behind. -/
structure Report where
  exitCode : UInt32
  stdout : String
  stderr : String
deriving DecidableEq, Repr

namespace Report

/-- The report of a run that fails before a script is run. -/
def failure (exitCode : UInt32) (stderr : String) : Report := ⟨exitCode, "", stderr⟩

/-- The report of a run without a log filter, which is broken off before anything is read. -/
def brokenOff : Report := .failure 101 ""

/-- The report of a session. -/
def ofSession (filter : LogFilter) (session : Session) : Report :=
  let stdout := sessionText filter session
  match session.failure with
  | none => ⟨0, stdout, ""⟩
  | some (op, e) => ⟨1, stdout, failureText op e⟩

end Report

section
variable {m : Type → Type} [Monad m] (readFile : String → m (Except ReadFault String))

/-- The configuration in the file that is given, or the default, before options. -/
def readConfig (arguments : Arguments) : m (Except ConfigError Config) :=
  match arguments.config with
  | none => pure (.ok {})
  | some path => return Config.ofFile path (← readFile path)

/-- The configuration with the options that are given in place of its own. -/
def Arguments.override (arguments : Arguments) (config : Config) : Config :=
  { stackMax := arguments.stackMax.getD config.stackMax
    initialThreshold := arguments.threshold.getD config.initialThreshold
    maxObjects := arguments.maxObjects <|> config.maxObjects }

/-- The configuration to run in, if no field is zero once the options are in place. -/
def Arguments.configure (arguments : Arguments) (config : Config) : Except ConfigError Config := do
  let config := arguments.override config
  config.validate
  return config

/-- The script to run: the one on the command line or else the one in the file. -/
def readSource (arguments : Arguments) : m (Except Report String) :=
  match arguments.eval, arguments.file with
  | some source, _ => pure (.ok source)
  | none, some path =>
    return (← readFile path).mapError fun fault => .failure 1 (unreadableText path fault)
  | none, none =>
    pure (.error (.failure 2 (refusalText "pass a script file or --eval \"ops\"")))

/-- Runs a script in a configuration that is valid. -/
def runScript (filter : LogFilter) (config : Config) (source : String) : Report :=
  match Script.parse source with
  | .error e => .failure 1 (scriptErrorText e)
  | .ok ops => .ofSession filter (.ofOps (.empty config) ops)

/-- Does what the arguments ask for other than help. -/
def proceed (setting : Option String) (arguments : Arguments) : m Report := do
  if arguments.version then return ⟨0, versionText, ""⟩
  match LogFilter.ofSetting? setting with
  | none => return .brokenOff
  | some filter =>
    match (← readConfig readFile arguments).bind arguments.configure with
    | .error e => return .failure 1 (errorText e.message)
    | .ok config =>
      match ← readSource readFile arguments with
      | .error report => return report
      | .ok source => return runScript filter config source

/-- Runs the program, given the setting of the log filter and the arguments. -/
def command (setting : Option String) (arguments : List String) : m Report :=
  match Arguments.read arguments with
  | .help => pure ⟨0, helpText, ""⟩
  | .refuse fault => pure (.failure 2 (refusalText fault.text))
  | .proceed arguments => proceed readFile setting arguments

end

end RootedHeap.Console
