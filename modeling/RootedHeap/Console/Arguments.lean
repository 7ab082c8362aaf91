/-!
# Command line arguments

Arguments are read from left to right. An option takes its value after an equals sign or from the
next argument, which must not look like an option itself; each option is given at most once, and so
is the script file, the one argument that is no option. The first argument that is at fault decides,
unless help is asked for before it (`Arguments.read`).
-/

namespace RootedHeap.Console

/-- What can be given on the command line. -/
structure Arguments where
  file : Option String := none
  eval : Option String := none
  config : Option String := none
  stackMax : Option UInt64 := none
  threshold : Option UInt64 := none
  maxObjects : Option UInt64 := none
  version : Bool := false
deriving DecidableEq, Repr

namespace Arguments

/-- The options that take a value. -/
inductive Key where
  | eval
  | config
  | stackMax
  | threshold
  | maxObjects
deriving DecidableEq, Repr

/-- Why arguments are refused. -/
inductive Fault where
  | unknown (argument : String)
  | missingValue (key : Key)
  | invalidValue (key : Key) (value : String)
  | repeated (name : String)
  | unneededValue (name : String)
deriving DecidableEq, Repr

/-- What the arguments ask for. -/
inductive Request where
  | help
  | refuse (fault : Fault)
  | proceed (arguments : Arguments)
deriving DecidableEq, Repr

/-- The name of an option after its two dashes. -/
def Key.name : Key → String
  | eval => "eval"
  | config => "config"
  | stackMax => "stack-max"
  | threshold => "threshold"
  | maxObjects => "max-objects"

/-- The options that take a value. -/
def Key.all : List Key := [.eval, .config, .stackMax, .threshold, .maxObjects]

/-- The option of a name. -/
def Key.ofName? (name : String) : Option Key := Key.all.find? (·.name == name)

/-- How the fault is reported. -/
def Fault.text : Fault → String
  | unknown argument => "unexpected argument '" ++ argument ++ "' found"
  | missingValue key => "a value is required for '--" ++ key.name ++ "' but none was supplied"
  | invalidValue key value => "invalid value '" ++ value ++ "' for '--" ++ key.name ++ "'"
  | repeated name => "the argument '--" ++ name ++ "' cannot be used multiple times"
  | unneededValue name => "unexpected value for '--" ++ name ++ "' found; no more were expected"

/-- A word in decimal, with or without a plus sign. -/
def word? (s : String) : Option UInt64 :=
  let digits := match s.toList with
    | '+' :: rest => rest
    | cs => cs
  let value := digits.foldl (fun n d => 10 * n + (d.toNat - 48)) 0
  if !digits.isEmpty && digits.all Char.isDigit && value < UInt64.size then
    some (UInt64.ofNat value)
  else
    none

/-- The arguments with the value of an option added. -/
def set (a : Arguments) (key : Key) (value : String) : Except Fault Arguments :=
  let put (given : Bool) (changed : Option Arguments) : Except Fault Arguments :=
    if given then .error (.repeated key.name)
    else match changed with
      | some changed => .ok changed
      | none => .error (.invalidValue key value)
  match key with
  | .eval => put a.eval.isSome (some { a with eval := some value })
  | .config =>
    put a.config.isSome (if value = "" then none else some { a with config := some value })
  | .stackMax => put a.stackMax.isSome ((word? value).map fun n => { a with stackMax := some n })
  | .threshold => put a.threshold.isSome ((word? value).map fun n => { a with threshold := some n })
  | .maxObjects =>
    put a.maxObjects.isSome ((word? value).map fun n => { a with maxObjects := some n })

/-- The arguments with the script file added. -/
def setFile (a : Arguments) (argument : String) : Except Fault Arguments :=
  if a.file.isSome then .error (.unknown argument) else .ok { a with file := some argument }

/-- The arguments after the separator, none of which is an option. -/
def readFiles (a : Arguments) : List String → Request
  | [] => .proceed a
  | argument :: rest =>
    match a.setFile argument with
    | .error fault => .refuse fault
    | .ok a => a.readFiles rest

/-- Whether an argument can be the value of an option before it. -/
def isPlain (argument : String) : Bool :=
  argument = "-" || argument.toList.head? != some '-'

/-- Reads the rest of the arguments, the first of which is the value of `pending` if that is set. -/
def readFrom (a : Arguments) (pending : Option Key) : List String → Request
  | [] =>
    match pending with
    | some key => .refuse (.missingValue key)
    | none => .proceed a
  | argument :: rest =>
    match pending, isPlain argument with
    | some key, true =>
      match a.set key argument with
      | .error fault => .refuse fault
      | .ok a => a.readFrom none rest
    | some key, false => .refuse (.missingValue key)
    | none, true =>
      match a.setFile argument with
      | .error fault => .refuse fault
      | .ok a => a.readFrom none rest
    | none, false =>
      match argument.toList with
      | '-' :: '-' :: [] => a.readFiles rest
      | '-' :: '-' :: option =>
        let name := String.ofList (option.takeWhile (· != '='))
        let value? := match option.dropWhile (· != '=') with
          | _ :: value => some (String.ofList value)
          | [] => none
        match Key.ofName? name, value? with
        | some key, some value =>
          match a.set key value with
          | .error fault => .refuse fault
          | .ok a => a.readFrom none rest
        | some key, none => a.readFrom (some key) rest
        | none, value? =>
          if name = "help" then
            if value?.isSome then .refuse (.unneededValue name) else .help
          else if name = "version" then
            if value?.isSome then .refuse (.unneededValue name)
            else if a.version then .refuse (.repeated name)
            else readFrom { a with version := true } none rest
          else .refuse (.unknown argument)
      | '-' :: 'h' :: _ => .help
      | _ => .refuse (.unknown argument)

/-- What a command line asks for. -/
def read (arguments : List String) : Request := readFrom {} none arguments

end Arguments

end RootedHeap.Console
