/-
What the command line says about itself.

* `CommandLine.Topic` — what help can be asked for: the program, or one of its
  commands;
* `Topic.options` — the options of each, which is also what the reader of the
  command line goes by;
* `Topic.helpText` — the help text, as lines.

The option descriptions stand in one column, two spaces behind the longest
option.  Each description takes one line, however long it is.
-/

namespace BranchPool.CommandLine

/-- What an option takes. -/
inductive Kind where
  /-- Nothing. -/
  | flag
  /-- A number of 32 bits. -/
  | number32
  /-- A number of 64 bits. -/
  | number64
  /-- Any text. -/
  | text
  deriving DecidableEq

/-- An option of a command. -/
structure Opt where
  name : String
  short : Option Char
  kind : Kind
  about : String
  /-- What the option is taken to be if it is left out. -/
  standard : Option String := none
  deriving DecidableEq

/-- What help can be asked for. -/
inductive Topic where
  | program
  | simulate
  | recover
  | version
  | help
  deriving DecidableEq

namespace Topic

/-- The commands, in the order in which they are listed. -/
def commands : List Topic := [.simulate, .recover, .version, .help]

/-- The word for a command. -/
def name : Topic → String
  | .program => "xapool"
  | .simulate => "simulate"
  | .recover => "recover"
  | .version => "version"
  | .help => "help"

/-- The command that a word stands for. -/
def ofWord? (word : String) : Option Topic := commands.find? fun t => t.name = word

/-- What a command does. -/
def about : Topic → String
  | .program => "CLI tools for xapool"
  | .simulate => "Run a two-phase-commit workload and report pool usage"
  | .recover => "Prepare branches, restart from a snapshot and resolve them"
  | .version => "Show version information"
  | .help => "Print this message or the help of the given subcommand(s)"

/-- The option for more output, which every command takes. -/
def verbose : Opt := ⟨"verbose", some 'v', .flag, "Enable verbose output", none⟩

/-- The option that asks for help. -/
def helpOption : Opt := ⟨"help", some 'h', .flag, "Print help", none⟩

/-- The option that asks for the version. -/
def versionOption : Opt := ⟨"version", some 'V', .flag, "Print version", none⟩

/-- The option that chooses the form of a report. -/
def format : Opt :=
  ⟨"format", some 'f', .text, "Output format (text, json)", some "text"⟩

/-- The options of a command, in the order in which they are listed: the
option for more output, which is the first of the program's own, stands behind
the first of the command's, and help and version come last. -/
def options : Topic → List Opt
  | .program => [verbose, helpOption, versionOption]
  | .simulate =>
    [⟨"branches", some 'b', .number32, "Number of branches to run", some "10"⟩,
      verbose,
      ⟨"in-flight", some 'i', .number64,
        "Prepared branches kept waiting before the oldest is committed", some "3"⟩,
      ⟨"fail-every", none, .number32, "Abort every Nth branch with fail-and-rollback", none⟩,
      format, helpOption]
  | .recover =>
    [⟨"prepared", some 'p', .number32,
        "Number of branches left prepared by the first process", some "3"⟩,
      verbose,
      ⟨"commit", some 'c', .flag,
        "Commit recovered branches instead of rolling them back", none⟩,
      format, helpOption]
  | .version => [verbose, helpOption]
  | .help => []

/-- How a command is called. -/
def usage : Topic → String
  | .program => "xapool [OPTIONS] <COMMAND>"
  | .help => "xapool help [COMMAND]..."
  | t => "xapool " ++ t.name ++ " [OPTIONS]"

end Topic

/-! ### Layout -/

/-- As many spaces as asked for. -/
def spaces (n : Nat) : String := String.ofList (List.replicate n ' ')

/-- Rows of two columns, the second one two spaces behind the longest entry of
the first. -/
def table (rows : List (String × String)) : List String :=
  let width := (rows.map fun row => row.1.length).foldl max 0
  rows.map fun row => "  " ++ row.1 ++ spaces (width + 2 - row.1.length) ++ row.2

/-- An option as it is listed: its short form, its name, and what it takes. -/
def Opt.usage (o : Opt) : String :=
  let short := match o.short with
    | some c => "-" ++ String.singleton c ++ ", "
    | none => "    "
  let value := match o.kind with
    | .flag => ""
    | _ => " <" ++ String.map (fun c => if c = '-' then '_' else c.toUpper) o.name ++ ">"
  short ++ "--" ++ o.name ++ value

/-- What an option does, and what it is taken to be if it is left out. -/
def Opt.description (o : Opt) : String :=
  match o.standard with
  | some value => o.about ++ " [default: " ++ value ++ "]"
  | none => o.about

/-- The help text for the program or a command. -/
def Topic.helpText (t : Topic) : List String :=
  [t.about, "", "Usage: " ++ t.usage, ""] ++
    match t with
    | .program =>
      ["Commands:"] ++ table (commands.map fun c => (c.name, c.about)) ++ ["", "Options:"] ++
        table (t.options.map fun o => (o.usage, o.description))
    | .help => ["Arguments:", "  [COMMAND]...  Print help for the subcommand(s)"]
    | _ => ["Options:"] ++ table (t.options.map fun o => (o.usage, o.description))

end BranchPool.CommandLine
