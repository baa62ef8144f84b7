import Blueprint.Cli.Arguments
import Blueprint.Config.Settings
import Blueprint.Generators
import Blueprint.Host
import Blueprint.Markup.Blocks
import Blueprint.Registry
import Blueprint.UnitGraph.Basic

/-!
The commands of the program. Designs are loaded from the files of a host: libraries first, then the
main design, each from a single file or from all design files of a folder in order. A command gives
what it prints, the files that it writes and its exit code; it writes nothing itself.
-/

namespace Blueprint.Cli

open Generation

/-- Why designs cannot be loaded from files. -/
inductive DesignFault where
  | missing (path : Path)
  /-- A file does not hold a design. -/
  | unreadable (file : Path) (error : Design.ParseError)
  | registry (failure : Failure)

/-- The wording of what is wrong with a file. -/
def parseMessage (file : Path) (error : Design.ParseError) : String :=
  let (position, text) := match error with
    | .unreadable position => (position, "<syntax error>")
    | .invalid fault position => (position, fault.message)
  ":".intercalate [file.text, toString position.line, toString position.column, " " ++ text]

/-- The wording of a fault. -/
def DesignFault.message : DesignFault → String
  | missing path => "Design directory not found: " ++ path.text
  | unreadable file error => parseMessage file error
  | registry failure => failure.message

/-- The ending of design files. -/
def designEnding : String := ".ddsl"

variable {m : Type → Type} [Monad m]

/-- The design files of a path, in order. -/
def designFiles (host : Host m) (root : Path) : m (Except DesignFault (List Path)) := do
  if ← host.isFile root then return .ok [root]
  else if ← host.isFolder root then
    let files ← host.filesBelow root
    return .ok ((files.filter (·.name.endsWith designEnding)).mergeSort Path.le)
  else return .error (.missing root)

/-- Reads design files one after another. -/
def readDesigns (host : Host m) (inLibrary : Bool) :
    List Path → m (Except DesignFault (List Registry.Source))
  | [] => return .ok []
  | file :: rest => do
    let text ← host.read file
    match Design.parseChars (Text.oneLineEnd text.toList) with
    | .error error => return .error (.unreadable (host.current.absolute file) error)
    | .ok units =>
      match ← readDesigns host inLibrary rest with
      | .error fault => return .error fault
      | .ok others => return .ok ({ path := some file.text, inLibrary, units } :: others)

/-- Reads all design files of a path. -/
def readFolder (host : Host m) (inLibrary : Bool) (root : Path) :
    m (Except DesignFault (List Registry.Source)) := do
  match ← designFiles host root with
  | .error fault => return .error fault
  | .ok files => readDesigns host inLibrary files

/-- A record of the registry's log. -/
def registryRecord (level : Level) (text : String) : LogRecord :=
  ⟨loggerName (some "registry"), level, text⟩

/-- Reads folders one after another, with what the log says about each. -/
def readFolders (host : Host m) :
    List (Bool × Path) → m (List LogRecord × Except DesignFault (List Registry.Source))
  | [] => return ([], .ok [])
  | (inLibrary, root) :: rest => do
    let word := if inLibrary then "library" else "design"
    let record := registryRecord .debug ("  [LOAD] " ++ word ++ " " ++ root.text)
    match ← readFolder host inLibrary root with
    | .error fault => return ([record], .error fault)
    | .ok sources =>
      let (records, others) ← readFolders host rest
      return (record :: records, others.map (sources ++ ·))

/-- The registry of a main design and its libraries, with what the log says. -/
def loadRegistry (host : Host m) (design : Path) (libraries : List Path) :
    m (List LogRecord × Except DesignFault Registry) := do
  let (records, sources) ← readFolders host (libraries.map (true, ·) ++ [(false, design)])
  match sources.bind fun sources => (Registry.ofSources sources).mapError .registry with
  | .error fault => return (records, .error fault)
  | .ok registry =>
    let loaded := registryRecord .info ("[REGISTRY] " ++ toString registry.size ++ " units loaded")
    return (records ++ [loaded], .ok registry)

/-- Something printed for the reader: a line in a style, or a table. -/
inductive Printed where
  | line (text style : String)
  | table (title : String) (columns : List String) (rows : List (List String))
  deriving DecidableEq, Repr

/-- What a command did. -/
structure Outcome where
  exit : Nat := 0
  printed : List Printed := []
  output : String := ""
  errors : String := ""
  /-- The files to write, by absolute paths. -/
  written : List (Path × String) := []

/-- A line under the date. -/
def dated (host : Host m) (text style : String) : Printed :=
  .line ("[" ++ host.today ++ "] " ++ text) style

/-- The outcome of a command that failed. -/
def failed (printed : List Printed) : Outcome := { exit := 1, printed }

/-- The libraries among arguments. -/
def librariesOf (arguments : Arguments) : List Path := (arguments.all "--lib").map Path.ofText

/-- The argument of a command. -/
def designOf (arguments : Arguments) : Path := Path.ofText (arguments.plain.headD "")

/-- The targets that a word stands for. -/
def targetsOf (word : String) : List String :=
  if Text.lower word == "all" then Config.targetNames else [Text.lower word]

/-- Checks a design: every reference resolves. Cycles are shown. -/
def validate (host : Host m) (arguments : Arguments) : m Outcome := do
  let fail (text : String) : Outcome :=
    failed [dated host ("Validation failed with error(s): " ++ text) "red"]
  match (← loadRegistry host (designOf arguments) (librariesOf arguments)).2 with
  | .error fault => return fail fault.message
  | .ok registry =>
    let graph := UnitGraph.ofRegistry registry
    if graph.problems.isEmpty then
      let cycles := (graph.mixinCycles ++ graph.viewCycles).map fun cycle =>
        dated host ("Cycle: " ++ " -> ".intercalate cycle) "yellow"
      let success := "Design validation success! (" ++ toString registry.size ++ " units)"
      return { printed := cycles ++ [dated host success "green"] }
    else return fail ("; ".intercalate graph.problems)

/-- The rows of an entity in the table of relationships. -/
def relationshipRows (registry : Registry) (entity : Design.Entity) : List (List String) :=
  let identity := Identity.of entity
  let lead := [entity.name, identity.name ++ ": " ++ identity.type.name]
  match (Relationship.resolveOwn registry entity).outcome with
  | .error failure => [lead ++ ["[red]error[/red]", "", "", failure.message]]
  | .ok relationships => relationships.map fun r =>
    lead ++ [r.kind.name, r.name, r.target, r.foreignKey ++ ": " ++ r.foreignKeyType.name]

/-- Shows the units of a design and their relationships. -/
def inspect (host : Host m) (arguments : Arguments) : m Outcome := do
  match (← loadRegistry host (designOf arguments) (librariesOf arguments)).2 with
  | .error fault =>
    return failed [dated host ("Inspect failed with error(s): " ++ fault.message) "red"]
  | .ok registry =>
    let units := registry.units.map fun unit =>
      [unit.kind.name, unit.name, if unit.isLibrary then "yes" else "", unit.source.getD ""]
    return { printed :=
      [dated host "Design validation success!" "green",
        .table "Units" ["Kind", "Name", "Library", "Source"] units,
        .table "Relationships" ["Entity", "Identity", "Kind", "Property", "Target", "Foreign key"]
          (registry.entities.flatMap fun entity => relationshipRows registry entity.unit)] }

/-- The settings of a generation with what the arguments say instead. -/
def overridden (settings : Config.Settings) (arguments : Arguments) : Config.Settings :=
  let given (option : String) : Option String := (arguments.last? option).filter (!·.isEmpty)
  let libraries := librariesOf arguments
  { settings with
    designDir := ((arguments.plain.head?.filter (!·.isEmpty)).map Path.ofText).or settings.designDir
    libraries := if libraries.isEmpty then settings.libraries else libraries
    outDir := ((given "--out").map Path.ofText).getD settings.outDir
    targets := ((given "--target").map targetsOf).getD settings.targets
    workers := (((given "--workers").bind wholeNumber?).filter (· != 0)).getD settings.workers }

/-- The lines of a log. -/
def logText (level : Nat) (records : List LogRecord) : String :=
  String.join ((printedLines (some level)
    (records.map fun record => (record.level.number, record.text))).map (· ++ "\n"))

/-- The files of a run below a folder, sorted by their paths. -/
def filesOf (folder : Path) (run : RunResult) : List (Path × String) :=
  (run.files.mergeSort fun a b => decide (a.1 ≤ b.1)).map fun file =>
    (folder.join (Path.ofText file.1), file.2)

/-- A record about files that were written. -/
def writeRecord (count : Nat) (folder : Path) : LogRecord :=
  ⟨loggerName (some "generator"), .info,
    "[WRITE] " ++ toString count ++ " file(s) to " ++ folder.text⟩

/-- What is printed after a run. -/
def summary (host : Host m) (folder : Path) (count : Nat) (run : RunResult) : List Printed :=
  let number (state : UnitState) : String := toString (run.inState state).length
  let failures := (run.inState .failed).map fun result =>
    dated host (result.label ++ " failed: " ++ result.reason.getD "") "red"
  failures ++ [dated host (toString count ++ " file(s) emitted to: " ++ folder.text ++
    " (generated " ++ number .generated ++ ", skipped " ++ number .skipped ++ ", failed " ++
    number .failed ++ ")") (if run.ok then "green" else "yellow")]

/-- Generates the files of a design. -/
def generate (host : Host m) (arguments : Arguments) : m Outcome := do
  let verbose := arguments.has "--verbose"
  let fail (errors text : String) : Outcome :=
    { exit := 1, errors
      printed := dated host ("Generate failed with error(s): " ++ text) "red" ::
        (if verbose then [.line "<traceback>" "red"] else []) }
  match ← Config.Settings.load host (arguments.last? "--config") with
  | .error fault => return fail "" fault.message
  | .ok settings =>
    let settings := overridden settings arguments
    match settings.designDir with
    | none => return fail "" "No design directory given (argument or design_dir setting)."
    | some design =>
      let level := resolveLevel verbose (arguments.has "--quiet") (some settings.logLevel)
      let (loading, loaded) ← loadRegistry host design settings.libraries
      match loaded with
      | .error fault => return fail (logText level loading) fault.message
      | .ok registry =>
        match Generation.run registry allGenerators settings.targets settings.workers
            (fun _ => 0) with
        | .error failure => return fail (logText level loading) failure.message
        | .ok run =>
          let folder := host.current.absolute settings.outDir
          let files := filesOf folder run.outcome
          let records := loading ++ run.records
          match ← host.isFile folder, files.head? with
          | true, some file =>
            return fail (logText level records)
              ("[Errno 20] Not a directory: " ++ Text.quoted file.1.parent.text)
          | _, _ =>
            return { exit := if run.outcome.ok then 0 else 1
                     printed := summary host folder files.length run.outcome
                     errors := logText level (records ++ [writeRecord files.length folder])
                     written := files }

/-- Lists the files that a design would produce. -/
def outputs (host : Host m) (arguments : Arguments) : m Outcome := do
  let fail (text : String) : Outcome :=
    failed [dated host ("Outputs failed with error(s): " ++ text) "red"]
  match (← loadRegistry host (designOf arguments) (librariesOf arguments)).2 with
  | .error fault => return fail fault.message
  | .ok registry =>
    let targets := targetsOf ((arguments.last? "--target").getD "all")
    match planAll registry (select targets allGenerators) >>= announced with
    | .error failure => return fail failure.message
    | .ok announced =>
      let rows := announced.map fun (generator, unit, paths) =>
        [generator, unit.getD "*", Text.unlines paths]
      return { printed := [.table "Outputs" ["Generator", "Unit", "Paths"] rows] }

/-- Converts the blocks of a template. -/
def transpile (host : Host m) (arguments : Arguments) : m Outcome := do
  let path := designOf arguments
  let fail (text : String) : Outcome :=
    failed [dated host ("Transpile failed with error(s): " ++ text) "red"]
  if ← host.isFile path then
    let text := String.ofList (Text.oneLineEnd (← host.read path).toList)
    return { output := Markup.convertTemplate text }
  else if ← host.isFolder path then return fail (Config.Fault.folder path.text).message
  else return fail (Config.Fault.missingFile path.text).message

/-- A path with something added to its last name. -/
def withEnding (path : Path) (ending : String) : Path :=
  path.parent.join ⟨"", [path.name ++ ending]⟩

/-- Draws the units of a design. The drawing program is not called; its input is kept. -/
def visualize (host : Host m) (arguments : Arguments) : m Outcome := do
  let fail (text : String) : Outcome :=
    failed [.line ("visualize-model failed: " ++ text) "red"]
  match (← loadRegistry host (designOf arguments) (librariesOf arguments)).2 with
  | .error fault => return fail fault.message
  | .ok registry =>
    let source := (UnitGraph.ofRegistry registry).toDot ("DDSL Design " ++ registry.projectName)
    let folder := host.current.absolute (Path.ofText ((arguments.last? "--output").getD "docs"))
    if ← host.isFile folder then
      return fail ("[Errno 17] File exists: " ++ Text.quoted folder.text)
    else
      let base := folder.join ⟨"", [(designOf arguments).stem ++ "_diagram"]⟩
      let dot := withEnding base ".dot"
      let picture := (withEnding base ".png").text
      return { printed :=
                [dated host ("GraphViz 'dot' executable not found. Saved DOT file to: " ++ dot.text)
                    "yellow",
                  .line ("To generate PNG: Install GraphViz " ++
                    "(https://graphviz.org/download/) and run: dot -Tpng " ++ dot.text ++
                    " -o " ++ picture) "yellow"]
               written := [(base, source), (dot, source)] }

/-- What a command does. -/
def perform (host : Host m) (command : CommandSpec) (arguments : Arguments) : m Outcome :=
  match command.name with
  | "validate" => validate host arguments
  | "inspect" => inspect host arguments
  | "generate" => generate host arguments
  | "outputs" => outputs host arguments
  | "transpile" => transpile host arguments
  | _ => visualize host arguments

/-- The outcome of a wrong use. -/
def misused (errors : String) : Outcome := { exit := 2, errors }

/-- Runs the command that arguments name. -/
def run (host : Host m) (arguments : List String) : m Outcome := do
  let report (message : String) : Outcome := misused (usageReport programUsage program message)
  match arguments with
  | [] => return misused programHelp
  | name :: rest =>
    if name == helpOption.long then return { output := programHelp }
    else if name.startsWith "--" && name != "--" then
      return report (noSuchOption (String.ofList (name.toList.takeWhile (· != '=')))
        [helpOption.long])
    else if name.startsWith "-" && name.length > 1 && name != "--" then
      return report ("No such option: " ++ String.ofList (name.toList.take 2))
    else match commands.find? (·.name == name) with
      | none => return report ("No such command " ++ Text.quoted name ++ ".")
      | some command =>
        match read command rest with
        | .error message =>
          return misused (usageReport command.usage (program ++ " " ++ command.name) message)
        | .ok arguments =>
          if arguments.has helpOption.long then return { output := command.helpText }
          else perform host command arguments

end Blueprint.Cli
