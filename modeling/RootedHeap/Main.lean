import RootedHeap.Console.Command
import RootedHeap.Folder

/-!
# The program

The outer layer: arguments, the environment, files and the two outputs. All else is `command`.
-/

namespace RootedHeap

/-- A system's error number, which may be given as it is or negated. -/
def errorNumber (code : UInt32) : UInt32 := if code < 2147483648 then code else 0 - code

/-- Why the system could not read a file. -/
def readFaultOf (e : IO.Error) : ReadFault :=
  match e with
  | .noFileOrDirectory .. => .notFound
  | .permissionDenied .. => .other "Permission denied (os error 13)"
  | .inappropriateType _ code _ | .otherError code _ =>
    match errorNumber code with
    | 20 => .notADirectory
    | 21 => .isADirectory
    | _ => .other (toString e)
  | _ => .other (toString e)

/-- Reads a text file from the disk. -/
def readDisk (path : String) : IO (Except ReadFault String) := do
  try
    return Folder.decode (← IO.FS.readBinFile path)
  catch e =>
    return .error (readFaultOf e)

end RootedHeap

/-- Runs the program for its arguments and prints what it leaves behind. -/
def main (arguments : List String) : IO UInt32 := do
  let report ← RootedHeap.Console.command RootedHeap.readDisk (← IO.getEnv "RUST_LOG") arguments
  IO.print report.stdout
  IO.eprint report.stderr
  return report.exitCode
