import Blueprint.Text.Case
import Blueprint.Text.Quoted
import Blueprint.Text.Replace
import Blueprint.Validation

/-!
The arguments of the command line. A command takes one argument and options; options may stand
anywhere, a double dash ends them, and short ones can be written together. The first thing that is
wrong is reported with the usage of the command. The texts that explain the commands, their usage,
options and the list of commands, are laid out in lines of at most eighty characters.
-/

namespace Blueprint.Cli

/-- What an option takes. -/
inductive OptionKind where
  | text
  | integer
  /-- One of some values, whatever the case. -/
  | choice (values : List String)
  | flag
  deriving DecidableEq, Repr

/-- An option of a command. -/
structure OptionSpec where
  long : String
  short : Option Char := none
  kind : OptionKind := .text
  help : String

/-- A command: its name, what it does, its argument and its options. -/
structure CommandSpec where
  name : String
  summary : String
  argument : String := "DESIGN_PATH"
  required : Bool := true
  options : List OptionSpec := []

/-- The option that every command has. -/
def helpOption : OptionSpec where
  long := "--help"
  kind := .flag
  help := "Show this message and exit."

/-- The options of a command with the one for help. -/
def CommandSpec.allOptions (command : CommandSpec) : List OptionSpec :=
  command.options ++ [helpOption]

/-- The arguments of a command: plain ones and options with their values, in order. -/
structure Arguments where
  plain : List String := []
  options : List (String × String) := []
  deriving DecidableEq, Repr

namespace Arguments

/-- All values of an option. -/
def all (arguments : Arguments) (option : String) : List String :=
  (arguments.options.filter (·.1 == option)).map (·.2)

/-- The last value of an option. -/
def last? (arguments : Arguments) (option : String) : Option String :=
  (arguments.all option).getLast?

/-- The option was given. -/
def has (arguments : Arguments) (option : String) : Bool := !(arguments.all option).isEmpty

/-- Adds a plain argument. -/
def addPlain (arguments : Arguments) (text : String) : Arguments :=
  { arguments with plain := arguments.plain ++ [text] }

/-- Adds an option with its value. -/
def addOption (arguments : Arguments) (option value : String) : Arguments :=
  { arguments with options := arguments.options ++ [(option, value)] }

end Arguments

/-- Where two texts have their longest common part: the places where it starts and its length. Of
several the first is taken. -/
def commonPart (a b : List Char) : Nat × Nat × Nat :=
  let starts := (List.range a.length).flatMap fun i => (List.range b.length).map fun j => (i, j)
  starts.foldl (fun best (i, j) =>
    let size := ((a.drop i).zip (b.drop j)).takeWhile (fun pair => pair.1 == pair.2) |>.length
    if best.2.2 < size then (i, j, size) else best) (0, 0, 0)

/-- How many characters two texts have in common: those of the longest common part, and so on before
and after it. The size bounds the steps. -/
def commonSize : Nat → List Char → List Char → Nat
  | 0, _, _ => 0
  | size + 1, a, b =>
    match commonPart a b with
    | (_, _, 0) => 0
    | (i, j, length) =>
      length + commonSize size (a.take i) (b.take j) +
        commonSize size (a.drop (i + length)) (b.drop (j + length))

/-- Two texts are close: at least six in ten characters are common. -/
def areClose (a b : String) : Bool :=
  let common := commonSize (a.length + 1) a.toList b.toList
  decide (6 * (a.length + b.length) ≤ 20 * common)

/-- What could have been meant instead of a name, at most three. -/
def suggestions (name : String) (known : List String) : List String :=
  let score (other : String) : Nat :=
    1000 * commonSize (name.length + 1) other.toList name.toList / (other.length + name.length)
  ((known.filter (areClose · name)).mergeSort fun a b => decide (score b ≤ score a)).take 3

/-- The report of an option that there is not. -/
def noSuchOption (name : String) (known : List String) : String :=
  let lead := "No such option: " ++ name
  match suggestions name known with
  | [] => lead
  | [only] => lead ++ " Did you mean " ++ only ++ "?"
  | several =>
    lead ++ " (Possible options: " ++
      ", ".intercalate (several.mergeSort fun a b => decide (a ≤ b)) ++ ")"

/-- Reads short options that are written together. An option that takes a value takes what follows
it, or else the next argument. -/
def readShort (command : CommandSpec) (arguments : Arguments) (rest : List String) :
    List Char → Except String (Arguments × List String)
  | [] => .ok (arguments, rest)
  | c :: more =>
    match command.allOptions.find? (·.short == some c) with
    | none => .error ("No such option: -" ++ c.toString)
    | some option =>
      if option.kind == .flag then readShort command (arguments.addOption option.long "") rest more
      else match more, rest with
        | [], [] => .error ("Option '-" ++ c.toString ++ "' requires an argument.")
        | [], value :: rest => .ok (arguments.addOption option.long value, rest)
        | more, rest => .ok (arguments.addOption option.long (String.ofList more), rest)

/-- Reads a long option, whose value may be attached. -/
def readLong (command : CommandSpec) (arguments : Arguments) (text : String) (rest : List String) :
    Except String (Arguments × List String) :=
  let name := String.ofList (text.toList.takeWhile (· != '='))
  let attached := if text.length == name.length then none
    else some (String.ofList (text.toList.drop (name.length + 1)))
  match command.allOptions.find? (·.long == name) with
  | none => .error (noSuchOption name (command.allOptions.map (·.long)))
  | some option =>
    match option.kind == .flag, attached, rest with
    | true, none, rest => .ok (arguments.addOption name "", rest)
    | true, some _, _ => .error ("Option '" ++ name ++ "' does not take a value.")
    | false, some value, rest => .ok (arguments.addOption name value, rest)
    | false, none, value :: rest => .ok (arguments.addOption name value, rest)
    | false, none, [] => .error ("Option '" ++ name ++ "' requires an argument.")

/-- Reads arguments one after another. Every step takes at least one, so their number bounds the
steps. -/
def readFrom (command : CommandSpec) : Nat → Arguments → List String → Except String Arguments
  | 0, arguments, _ | _, arguments, [] => .ok arguments
  | size + 1, arguments, text :: rest =>
    if text == "--" then .ok { arguments with plain := arguments.plain ++ rest }
    else if text.startsWith "--" then do
      let (arguments, rest) ← readLong command arguments text rest
      readFrom command size arguments rest
    else if text.startsWith "-" && text.length > 1 then do
      let (arguments, rest) ← readShort command arguments rest (text.toList.drop 1)
      readFrom command size arguments rest
    else readFrom command size (arguments.addPlain text) rest

/-- The whole number that a text spells. -/
def wholeNumber? (text : String) : Option Int :=
  match Text.trim text.toList with
  | '-' :: rest => (Validation.groupedDigits? none 0 rest).map fun n => -(n : Int)
  | '+' :: rest => (Validation.groupedDigits? none 0 rest).map Int.ofNat
  | digits => (Validation.groupedDigits? none 0 digits).map Int.ofNat

/-- What is wrong with a value of an option. -/
def valueFault? (option : OptionSpec) (value : String) : Option String :=
  let lead := "Invalid value for '" ++ option.long ++ "': " ++ Text.quoted value
  match option.kind with
  | .integer =>
    if (wholeNumber? value).isSome then none else some (lead ++ " is not a valid integer.")
  | .choice values =>
    if values.any fun known => Text.lower known == Text.lower value then none
    else some (lead ++ " is not one of " ++ ", ".intercalate (values.map Text.quoted) ++ ".")
  | _ => none

/-- Checks what was read: the last values of options in the order of their first use, then the
argument. -/
def check (command : CommandSpec) (arguments : Arguments) : Except String Arguments :=
  let used := (arguments.options.map (·.1)).eraseDups
  let faults := used.filterMap fun name =>
    match command.allOptions.find? (·.long == name), arguments.last? name with
    | some option, some value => valueFault? option value
    | _, _ => none
  match faults, arguments.plain with
  | fault :: _, _ => .error fault
  | [], [] =>
    if command.required then .error ("Missing argument '" ++ command.argument ++ "'.")
    else .ok arguments
  | [], [_] => .ok arguments
  | [], [_, extra] => .error ("Got unexpected extra argument (" ++ extra ++ ")")
  | [], _ :: extra =>
    .error ("Got unexpected extra arguments (" ++ " ".intercalate extra ++ ")")

/-- Reads the arguments of a command. Asking for help is answered before anything is checked. -/
def read (command : CommandSpec) (texts : List String) : Except String Arguments := do
  let arguments ← readFrom command texts.length {} texts
  if arguments.has helpOption.long then return arguments else check command arguments

/-- The name of the program. -/
def program : String := "ddsl"

/-- An option for libraries. -/
def libraryOption : OptionSpec where
  long := "--lib"
  help := "Library design directory (repeatable)."

/-- An option for what to generate. -/
def targetOption (help : String) : OptionSpec where
  long := "--target"
  kind := .choice ["all", "server", "client"]
  help := help

def validateCommand : CommandSpec where
  name := "validate"
  summary := "Parse and validate a design directory (and its libraries)."
  options := [libraryOption]

def inspectCommand : CommandSpec where
  name := "inspect"
  summary := "Print the units of a design and their resolved relationships."
  options := [libraryOption]

def generateCommand : CommandSpec where
  name := "generate"
  summary := "Emit the server and/or client of a design."
  required := false
  options :=
    [libraryOption,
      { long := "--out", help := "Output directory (default: ./generated)" },
      targetOption "What to generate (default: all).",
      { long := "--config", help := "Settings file (default: ./ddsl.yaml when present)" },
      { long := "--workers", kind := .integer, help := "Number of units generated in parallel." },
      { long := "--verbose", short := some 'v', kind := .flag
        help := "Show resolver and synthesis detail." },
      { long := "--quiet", short := some 'q', kind := .flag
        help := "Only show warnings and failures." }]

def outputsCommand : CommandSpec where
  name := "outputs"
  summary := "List the files a design would produce, per generator and unit."
  options := [libraryOption, targetOption "Which target to list (default: all)."]

def transpileCommand : CommandSpec where
  name := "transpile"
  summary := "Convert an authoring template to Angular control-flow syntax."
  argument := "TEMPLATE_PATH"

def visualizeCommand : CommandSpec where
  name := "visualize-model"
  summary := "Visualize the unit graph of a design."
  options :=
    [libraryOption,
      { long := "--output", short := some 'o'
        help := "Output directory for PNG/DOT files (default: docs)" }]

/-- The commands of the program, by name. -/
def commands : List CommandSpec :=
  [generateCommand, inspectCommand, outputsCommand, transpileCommand, validateCommand,
    visualizeCommand]

/-- How wide a line may be. -/
def lineWidth : Nat := 78

/-- Breaks words into lines of a width, given the line that is being filled. -/
def wrapFrom (width : Nat) (line : String) : List String → List String
  | [] => [line]
  | word :: rest =>
    if line.isEmpty then wrapFrom width word rest
    else if line.length + 1 + word.length ≤ width then wrapFrom width (line ++ " " ++ word) rest
    else line :: wrapFrom width word rest

/-- A text in lines of a width. -/
def wrap (width : Nat) (text : String) : List String := wrapFrom width "" (Text.fields text)

/-- A list of two columns; the second is wrapped. -/
def columns (rows : List (String × String)) : List String :=
  let first := (rows.map (·.1.length)).foldl max 0 + 2
  rows.flatMap fun row =>
    match wrap (lineWidth - first - 2) row.2 with
    | [] => ["  " ++ row.1]
    | line :: rest =>
      ("  " ++ row.1.pushn ' ' (first - row.1.length) ++ line) ::
        rest.map fun line => "".pushn ' ' (first + 2) ++ line

/-- How an option is written. -/
def OptionSpec.form (option : OptionSpec) : String :=
  let short := match option.short with
    | some c => "-" ++ c.toString ++ ", "
    | none => ""
  let value := match option.kind with
    | .text => " TEXT"
    | .integer => " INTEGER"
    | .choice values => " [" ++ "|".intercalate values ++ "]"
    | .flag => ""
  short ++ option.long ++ value

/-- How a command is used. -/
def CommandSpec.usage (command : CommandSpec) : String :=
  let argument := if command.required then command.argument else "[" ++ command.argument ++ "]"
  " ".intercalate ["Usage:", program, command.name, "[OPTIONS]", argument]

/-- How the program is used. -/
def programUsage : String := "Usage: " ++ program ++ " [OPTIONS] COMMAND [ARGS]..."

/-- The options in a help text. -/
def optionLines (options : List OptionSpec) : List String :=
  "Options:" :: columns (options.map fun option => (option.form, option.help))

/-- The help text of a command. -/
def CommandSpec.helpText (command : CommandSpec) : String :=
  "\n".intercalate ([command.usage, ""] ++
    ((wrap (lineWidth - 2) command.summary).map ("  " ++ ·)) ++
    [""] ++ optionLines command.allOptions) ++ "\n"

/-- The words at the start of a text that fit into a width together with dots. -/
def fitting (width : Nat) (line : String) : List String → String
  | [] => line
  | word :: rest =>
    let longer := if line.isEmpty then word else line ++ " " ++ word
    if longer.length + 3 ≤ width then fitting width longer rest else line

/-- A summary in one line of a width. -/
def shortSummary (width : Nat) (summary : String) : String :=
  if summary.length ≤ width then summary else fitting width "" (Text.fields summary) ++ "..."

/-- The help text of the program. -/
def programHelp : String :=
  let widest := (commands.map (·.name.length)).foldl max 0
  "\n".intercalate ([programUsage, ""] ++ optionLines [helpOption] ++ ["", "Commands:"] ++
    columns (commands.map fun command =>
      (command.name, shortSummary (lineWidth - 6 - widest) command.summary))) ++ "\n"

/-- The report of a wrong use, with the usage and where to find help. -/
def usageReport (usage path message : String) : String :=
  usage ++ "\nTry '" ++ path ++ " --help' for help.\n\nError: " ++ message ++ "\n"

end Blueprint.Cli
