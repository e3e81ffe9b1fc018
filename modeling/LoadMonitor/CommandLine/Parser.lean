import LoadMonitor.CommandLine.Settings

/-!
# Reading the command line

Arguments are read from left to right and the first problem wins. A value that stands in an
argument of its own is looked at only when the next option comes up or the line ends; if an
unknown argument comes first, that is the problem.
-/

namespace LoadMonitor

/-- What is wrong with a command line. -/
inductive UsageError where
  | unknownArgument
  | missingValue
  | repeatedOption
  /-- A flag was given a value. -/
  | valueForFlag
  | invalidValue
  deriving DecidableEq, Repr

/-- Why reading a command line stops before its end. -/
inductive CliStop where
  | help
  | usage (error : UsageError)
  deriving DecidableEq, Repr

/-- An option whose value is looked for or has not been looked at. -/
inductive PendingOption where
  | none
  /-- The option waits for its value. -/
  | waiting (option : CliOption)
  /-- The option has its value. -/
  | given (option : CliOption) (value : String)
  deriving DecidableEq, Repr

/-- What has been read of a command line. -/
structure CliReading where
  settings : CliSettings
  pending : PendingOption
  deriving DecidableEq, Repr

namespace CliReading

def start : CliReading := ⟨.empty, .none⟩

/-- Set an option that has its value. -/
def assign (settings : CliSettings) (option : CliOption) (value : String) :
    Except CliStop CliSettings :=
  if settings.isSet option then .error (.usage .repeatedOption)
  else match settings.set option value with
    | some settings => .ok settings
    | none => .error (.usage .invalidValue)

/-- Look at the option that is pending. -/
def settle (r : CliReading) : Except CliStop CliSettings :=
  match r.pending with
  | .none => .ok r.settings
  | .waiting _ => .error (.usage .missingValue)
  | .given option value => assign r.settings option value

/-- The parts of an argument that begins with two dashes: the name, and the value after an
equals sign if there is one. -/
def splitLong (body : List Char) : String × Option String :=
  match body.dropWhile (· != '=') with
  | [] => (String.ofList body, none)
  | _ :: value => (String.ofList (body.takeWhile (· != '=')), some (String.ofList value))

/-- Read an argument that begins with two dashes and is longer than that. -/
def readLong (r : CliReading) (body : List Char) : Except CliStop CliReading := do
  let (name, value) := splitLong body
  if name == "help" then
    if value.isSome then throw (.usage .valueForFlag)
    else
      let _ ← r.settle
      throw .help
  else if name == "no-summary" then
    if value.isSome then throw (.usage .valueForFlag)
    else
      let settings ← r.settle
      if settings.noSummary then throw (.usage .repeatedOption)
      else return ⟨{ settings with noSummary := true }, .none⟩
  else match CliOption.ofName? name with
    | none => throw (.usage .unknownArgument)
    | some option =>
      let settings ← r.settle
      match value with
      | some value => return ⟨← assign settings option value, .none⟩
      | none => return ⟨settings, .waiting option⟩

/-- Read an argument that begins with one dash and is longer than that. -/
def readShort (r : CliReading) (body : List Char) : Except CliStop CliReading :=
  if body.head? == some 'h' then do
    let _ ← r.settle
    throw .help
  else throw (.usage .unknownArgument)

/-- Read an argument without a dash before it: a value, if an option waits for one. -/
def readPlain (r : CliReading) (argument : String) : Except CliStop CliReading :=
  match r.pending with
  | .waiting option => .ok { r with pending := .given option argument }
  | _ => .error (.usage .unknownArgument)

/-- Read the arguments that are left. Nothing may follow two dashes that stand alone. -/
def readAll (r : CliReading) : List String → Except CliStop CliSettings
  | [] => r.settle
  | argument :: rest =>
    match argument.toList with
    | ['-', '-'] => if rest.isEmpty then r.settle else .error (.usage .unknownArgument)
    | '-' :: '-' :: body =>
      match r.readLong body with
      | .ok r => r.readAll rest
      | .error stop => .error stop
    | '-' :: c :: body =>
      match r.readShort (c :: body) with
      | .ok r => r.readAll rest
      | .error stop => .error stop
    | _ =>
      match r.readPlain argument with
      | .ok r => r.readAll rest
      | .error stop => .error stop

end CliReading

/-- Read a command line, without the name of the program. -/
def CliSettings.read (arguments : List String) : Except CliStop CliSettings :=
  CliReading.start.readAll arguments

end LoadMonitor
