import RootedHeap.Console.LogFilter
import RootedHeap.Console.Session
import RootedHeap.Console.Style

/-!
# What the console prints

Each outcome is a line, and so is each event that the filter lets through; errors have a heading.
-/

namespace RootedHeap.Console

/-- A handle and its object. -/
def bindingText (h : Handle) (object : Object) : String :=
  bold (cyan h.text) ++ " " ++ grey "=" ++ " " ++ brightWhite object.text

/-- A number under its name. -/
def countText (name : String) (n : Nat) : String := grey name ++ " " ++ toString n

/-- The line for an outcome. -/
def outcomeText : Script.Outcome → String
  | .allocated h object | .shown h object | .updated h object => bindingText h object
  | .popped h => grey "popped" ++ " " ++ cyan h.text
  | .rooted h => grey "rooted" ++ " " ++ cyan h.text
  | .collected cycle => grey "next collection at" ++ " " ++ yellow (toString cycle.threshold)
  | .stats snapshot =>
    "  ".intercalate [countText "live" snapshot.live, countText "threshold" snapshot.threshold,
      countText "roots" snapshot.roots, countText "cycles" snapshot.collections]
  | .roots handles => "[" ++ cyan (", ".intercalate (handles.map Handle.text)) ++ "]"

/-- The name of a level, in its colour and five characters wide. -/
def levelText : Level → String
  | .trace => between 35 0 "TRACE"
  | .debug => between 34 0 "DEBUG"
  | .info => between 32 0 " INFO"
  | .warn => between 33 0 " WARN"
  | .error => between 31 0 "ERROR"

/-- A field of an event. -/
def fieldText (name : String) (value : Event.Value) : String :=
  " " ++ italic name ++ dimmed "=" ++ value.render

/-- The line for an event. -/
def eventText (e : Event) : String :=
  levelText e.level ++ " " ++ e.message ++
    String.join (e.fields.map fun (name, value) => fieldText name value)

/-- The line for an entry, if it is printed. -/
def entryText? (filter : LogFilter) : Entry → Option String
  | .event e => if filter.admits e then some (eventText e) else none
  | .outcome o => some (outcomeText o)

/-- What a session prints. -/
def sessionText (filter : LogFilter) (session : Session) : String :=
  String.join ((session.entries.filterMap (entryText? filter)).map (· ++ "\n"))

/-- The heading of an error. -/
def heading (s : String) : String := bold (red (s ++ ":")) ++ " "

/-- The report of an error that prevents a script from running. -/
def errorText (message : String) : String := heading "error" ++ message ++ "\n"

/-- The report of a script that could not be read. -/
def unreadableText (path : String) (fault : ReadFault) : String :=
  errorText ("could not read '" ++ yellow path ++ "': " ++ fault.text)

/-- The report of an operation that failed. -/
def failureText (op : Script.Op) (e : Error) : String :=
  heading "fatal" ++ yellow ("`" ++ op.text ++ "`") ++ " " ++ e.message ++ "\n"

/-- The report of a fault in a script, with the place in bytes and advice. -/
def scriptErrorText (e : ScriptError) : String :=
  errorText e.message ++ "  at byte " ++ toString e.offset ++ "\n  help: " ++ ScriptError.help ++
    "\n"

/-- The name and the version of the program. -/
def versionText : String := bold (brightCyan "marksweep") ++ " " ++ grey "0.1.0" ++ "\n"

/-- How the arguments are to be given. -/
def usageText : String :=
  "\n\nUsage: marksweep [OPTIONS] [FILE]\n\nFor more information, try '--help'.\n"

/-- The report of arguments that are refused. -/
def refusalText (message : String) : String := "error: " ++ message ++ usageText

/-- What the program is for and what it can be given. -/
def helpText : String :=
  "Drive a mark-and-sweep heap with a tiny operation script

Usage: cli [OPTIONS] [FILE]

Arguments:
  [FILE]  Path to a script of heap operations

Options:
      --eval <EVAL>                Run inline operations, e.g. \"int 1; int 2; pair; pop; collect\"
      --config <CONFIG>            JSON file with `stack_max`, `initial_threshold` and `max_objects`
      --stack-max <STACK_MAX>      Maximum number of roots
      --threshold <THRESHOLD>      Live-object count that triggers the first collection
      --max-objects <MAX_OBJECTS>  Hard cap on live objects
      --version                    Print version and exit
  -h, --help                       Print help
"

end RootedHeap.Console
