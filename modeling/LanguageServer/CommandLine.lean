/-! The command line of the replay program. Every option may be given once. An option with a value takes it
    behind an equals sign, or as the next argument unless that starts with a minus sign; paths are not
    empty. There are no positional arguments, and a double minus sign at the end changes nothing. -/

namespace LanguageServer.CommandLine

/-- What the arguments ask for. -/
structure Options where
  /-- The recording; without one it comes from the standard input. -/
  input : Option String := none
  pretty : Bool := false
  logLevel : Option String := none
  logFile : Option String := none
deriving DecidableEq

/-- The options that take a value. -/
inductive Valued where
  | input
  | logLevel
  | logFile
deriving DecidableEq

/-- The option with a name. -/
def Valued.ofName? : String → Option Valued
  | "--input" => some .input
  | "--log-level" => some .logLevel
  | "--log-file" => some .logFile
  | _ => none

/-- Sets an option that is not set yet. -/
def Options.set? (o : Options) (value : String) : Valued → Option Options
  | .input => if o.input.isNone && !value.isEmpty then some { o with input := some value } else none
  | .logLevel => if o.logLevel.isNone then some { o with logLevel := some value } else none
  | .logFile =>
    if o.logFile.isNone && !value.isEmpty then some { o with logFile := some value } else none

/-- An argument that cannot be the value of the option before it. -/
def isFlag (argument : String) : Bool :=
  argument.toList.head? == some '-' && argument != "-"

/-- An argument before its first equals sign, and what is behind it. -/
def splitValue (argument : String) : String × Option String :=
  match argument.toList.dropWhile (· ≠ '=') with
  | [] => (argument, none)
  | _ :: value =>
    (String.ofList (argument.toList.takeWhile (· ≠ '=')), some (String.ofList value))

/-- Reads arguments; none if they are wrong. -/
def parseFrom (o : Options) : List String → Option Options
  | [] => some o
  | "--" :: rest => if rest.isEmpty then some o else none
  | "--pretty" :: rest => if o.pretty then none else parseFrom { o with pretty := true } rest
  | argument :: rest =>
    match splitValue argument with
    | (name, some value) => do
      let option ← Valued.ofName? name
      parseFrom (← o.set? value option) rest
    | (name, none) =>
      match Valued.ofName? name, rest with
      | some option, value :: rest =>
        if isFlag value then none else (o.set? value option).bind (parseFrom · rest)
      | _, _ => none

/-- Reads the arguments of the program. -/
def parse (arguments : List String) : Option Options := parseFrom {} arguments

example : parse ["--input=a=b", "--pretty", "--log-level", "-"] =
    some { input := some "a=b", pretty := true, logLevel := some "-" } := by decide +kernel
example : parse ["--log-level", "-x"] = none := by decide +kernel
example : parse ["--pretty", "--pretty"] = none := by decide +kernel
example : parse ["--"] = some {} := by decide +kernel

end LanguageServer.CommandLine
