/-
The command line.

* `CommandLine.parse` — what a list of arguments asks for.  Arguments are read
  from left to right, and the first one that asks for help or for the version,
  or that is wrong, decides;
* `CommandLine.respond` — the lines that the program prints, and its exit code.

An option may be written `--name value`, `--name=value`, `-nvalue`, `-n=value`
or `-n value`, and flags may share one dash.  No option may be given twice.  A
value behind a space must not begin with a dash, unless it is just a dash.
-/
import BranchPool.CommandLine.Help
import BranchPool.Workload.Recovery

namespace BranchPool.CommandLine

/-- How a report is printed. -/
inductive Format where
  | text
  | json
  deriving DecidableEq

/-- The format that a word stands for: any word but `json` stands for text. -/
def Format.ofWord (word : String) : Format := if word = "json" then .json else .text

/-- What the program is to do. -/
inductive Command where
  | simulate (options : Simulation.Options) (format : Format)
  | recover (options : Recovery.Options) (format : Format)
  | version
  deriving DecidableEq

/-- How a command line is wrong. -/
inductive UsageError where
  | missingCommand
  | unknownCommand (word : String)
  | unexpected (argument : String)
  | missingValue (option : String)
  | unwantedValue (option : String)
  | invalidValue (option value : String)
  | repeated (option : String)
  deriving DecidableEq

/-- The wording of an error. -/
def UsageError.message : UsageError → String
  | .missingCommand => "a command is required"
  | .unknownCommand word => "unrecognized command '" ++ word ++ "'"
  | .unexpected argument => "unexpected argument '" ++ argument ++ "' found"
  | .missingValue option => "a value is required for '--" ++ option ++ "'"
  | .unwantedValue option => "'--" ++ option ++ "' takes no value"
  | .invalidValue option value => "invalid value '" ++ value ++ "' for '--" ++ option ++ "'"
  | .repeated option => "'--" ++ option ++ "' cannot be used multiple times"

/-- What a command line asks for. -/
inductive Request where
  | run (command : Command)
  | help (topic : Topic)
  | programVersion
  | wrong (error : UsageError)
  deriving DecidableEq

/-! ### Values -/

/-- A number of 32 bits, behind an optional sign. -/
def number32? (s : String) : Option UInt32 := do
  let i ← Decimal.int? s.toList
  if 0 ≤ i ∧ i < UInt32.size then some (UInt32.ofNat i.toNat) else none

/-- A number of 64 bits, behind an optional plus sign. -/
def number64? (s : String) : Option UInt64 := do
  let n ← match s.toList with
    | '+' :: digits => Decimal.nat? digits
    | digits => Decimal.nat? digits
  if n < UInt64.size then some (UInt64.ofNat n) else none

/-- Whether an option can take a value. -/
def Kind.admits (k : Kind) (value : String) : Bool :=
  match k with
  | .flag => true
  | .number32 => (number32? value).isSome
  | .number64 => (number64? value).isSome
  | .text => true

/-! ### Arguments -/

/-- The options given so far, with their values. -/
abbrev Given := List (String × String)

/-- The value given to an option. -/
def Given.value? (given : Given) (name : String) : Option String := given.lookup name

/-- Whether a flag was given. -/
def Given.has (given : Given) (name : String) : Bool := (given.value? name).isSome

/-- Takes note of an option and its value.  Asking for help or for the version
ends the reading. -/
def note (topic : Topic) (o : Opt) (value : String) (given : Given) : Except Request Given :=
  if o = Topic.helpOption then .error (.help topic)
  else if o = Topic.versionOption then .error .programVersion
  else if given.has o.name then .error (.wrong (.repeated o.name))
  else if o.kind.admits value then .ok ((o.name, value) :: given)
  else .error (.wrong (.invalidValue o.name value))

/-- Reads the characters behind a single dash.  The result names the option
that still waits for its value, if there is one. -/
def readShorts (topic : Topic) (argument : String) :
    List Char → Given → Except Request (Given × Option Opt)
  | [], given => .ok (given, none)
  | c :: cs, given =>
    match topic.options.find? fun o => o.short = some c with
    | none => .error (.wrong (.unexpected argument))
    | some o =>
      if o.kind = .flag then do
        let given ← note topic o "" given
        readShorts topic argument cs given
      else
        match cs with
        | [] => .ok (given, some o)
        | '=' :: value => do return (← note topic o (String.ofList value) given, none)
        | value => do return (← note topic o (String.ofList value) given, none)

/-- Reads the characters behind two dashes: a name and perhaps a value behind
an equals sign. -/
def readLong (topic : Topic) (argument : String) (cs : List Char) (given : Given) :
    Except Request (Given × Option Opt) :=
  let name := String.ofList (cs.takeWhile (· ≠ '='))
  match topic.options.find? fun o => o.name = name, cs.dropWhile (· ≠ '=') with
  | none, _ => .error (.wrong (.unexpected argument))
  | some o, [] =>
    if o.kind = .flag then do return (← note topic o "" given, none)
    else .ok (given, some o)
  | some o, _ :: value =>
    if o.kind = .flag then .error (.wrong (.unwantedValue o.name))
    else do return (← note topic o (String.ofList value) given, none)

/-- Whether an argument is read as options rather than as a word. -/
def isOption (argument : String) : Bool :=
  match argument.toList with
  | '-' :: _ :: _ => true
  | _ => false

/-- Reads options up to the first word.  Nothing may follow two dashes. -/
def readOptions (topic : Topic) : List String → Given → Except Request (Given × List String)
  | [], given => .ok (given, [])
  | argument :: rest, given =>
    match argument.toList with
    | ['-', '-'] =>
      match rest with
      | [] => .ok (given, [])
      | word :: _ => .error (.wrong (.unexpected word))
    | '-' :: c :: cs => do
      let (given, waiting) ←
        if c = '-' then readLong topic argument cs given
        else readShorts topic argument (c :: cs) given
      match waiting, rest with
      | none, rest => readOptions topic rest given
      | some o, [] => .error (.wrong (.missingValue o.name))
      | some o, value :: rest =>
        if isOption value then .error (.wrong (.missingValue o.name))
        else do
          let given ← note topic o value given
          readOptions topic rest given
    | _ => .ok (given, argument :: rest)

/-! ### Commands -/

/-- The options of the simulation; what was not given is as standard. -/
def simulationOptions (given : Given) : Simulation.Options :=
  let standard : Simulation.Options := {}
  { branches := ((given.value? "branches").bind number32?).getD standard.branches
    inFlight := ((given.value? "in-flight").bind number64?).getD standard.inFlight
    failEvery := (given.value? "fail-every").bind number32? }

/-- The options of the recovery; what was not given is as standard. -/
def recoveryOptions (given : Given) : Recovery.Options :=
  let standard : Recovery.Options := {}
  { prepared := ((given.value? "prepared").bind number32?).getD standard.prepared
    commit := given.has "commit" }

/-- The form of the report; text if none was given. -/
def reportFormat (given : Given) : Format :=
  Format.ofWord ((given.value? "format").getD "text")

/-- The help that the words behind the help command ask for. -/
def helpRequest : List String → Request
  | [] => .help .program
  | [word] =>
    match Topic.ofWord? word with
    | some topic => .help topic
    | none => .wrong (.unknownCommand word)
  | word :: next :: _ =>
    match Topic.ofWord? word with
    | some _ => .wrong (.unknownCommand next)
    | none => .wrong (.unknownCommand word)

/-- What a command and its arguments ask for. -/
def commandRequest (topic : Topic) (arguments : List String) : Request :=
  match readOptions topic arguments [] with
  | .error request => request
  | .ok (_, word :: _) => .wrong (.unexpected word)
  | .ok (given, []) =>
    match topic with
    | .simulate => .run (.simulate (simulationOptions given) (reportFormat given))
    | .recover => .run (.recover (recoveryOptions given) (reportFormat given))
    | .version => .run .version
    | .program => .wrong .missingCommand
    | .help => .help .program

/-- What a list of arguments asks for. -/
def parse (arguments : List String) : Request :=
  match readOptions .program arguments [] with
  | .error request => request
  | .ok (_, []) => .wrong .missingCommand
  | .ok (_, word :: rest) =>
    match Topic.ofWord? word with
    | none => .wrong (.unknownCommand word)
    | some .help => helpRequest rest
    | some topic => commandRequest topic rest

/-! ### Answers -/

/-- What the program leaves behind: its exit code, and the lines of its output
and of its error output. -/
structure Output where
  exit : UInt32 := 0
  lines : List String := []
  errors : List String := []
  deriving DecidableEq

/-- A report in the format asked for. -/
def report (format : Format) (json : Json) (text : List String) : Output :=
  match format with
  | .json => { lines := json.lines }
  | .text => { lines := text }

/-- The answer to a request, the transactions of the workloads identified by
`uuid`. -/
def respond (uuid : Nat → Uuid) : Request → Output
  | .run (.simulate options format) =>
    match Simulation.run options uuid with
    | .ok r => report format r.json r.lines
    | .error e => { exit := 1, errors := [e.message] }
  | .run (.recover options format) =>
    match Recovery.run options uuid with
    | .ok r => report format r.json r.lines
    | .error (.provider e) => { exit := 1, errors := [e.message] }
    | .error (.snapshot _) => { exit := 1, errors := ["unreadable snapshot"] }
  | .run .version => { lines := ["xapool CLI v0.3.0"] }
  | .programVersion => { lines := ["xapool 0.3.0"] }
  | .help topic => { lines := topic.helpText }
  | .wrong error => { exit := 2, errors := ["error: " ++ error.message, "", "Usage: " ++ Topic.program.usage] }

/-- How many transactions the answer to a request has to identify. -/
def transactions : Request → Nat
  | .run (.simulate options _) => options.branches.toNat
  | .run (.recover options _) => options.prepared.toNat
  | _ => 0

end BranchPool.CommandLine
