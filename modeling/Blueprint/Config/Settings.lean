import Blueprint.Config.Yaml
import Blueprint.Host
import Blueprint.OrderedMap
import Blueprint.Text.Quoted

/-!
Settings of a generation: where the designs are, where the files go and how the run is done. They
come from a settings file, whose paths are seen from the file's folder, and from the environment,
which wins. A host loads them.
-/

namespace Blueprint.Config

open Validation

/-- What can be generated. -/
def targetNames : List String := ["server", "client"]

/-- The settings file that is read when none is named. -/
def defaultFile : Path := Path.ofText "ddsl.yaml"

/-- Settings of a generation. -/
structure Settings where
  designDir : Option Path := none
  libraries : List Path := []
  outDir : Path := Path.ofText "generated"
  workers : Int := 1
  targets : List String := targetNames
  logLevel : String := "INFO"
  deriving Repr

/-- Why settings cannot be loaded. -/
inductive Fault where
  | missingFile (path : String)
  | folder (path : String)
  /-- The settings file cannot be read. -/
  | unreadable
  | notMap (path : String)
  /-- A value of the wrong kind, with the report. -/
  | wrongKind (text : String)
  | values (fault : SettingsFault)

namespace Fault

/-- The name under which a fault is reported. -/
def kindName : Fault → String
  | missingFile _ => "FileNotFoundError"
  | folder _ => "IsADirectoryError"
  | unreadable => "YAMLError"
  | notMap _ => "ValueError"
  | wrongKind _ => "TypeError"
  | values (.unreadable _) => "SettingsError"
  | values (.invalid _) => "ValidationError"

/-- The wording of a fault. -/
def message : Fault → String
  | missingFile path => "[Errno 2] No such file or directory: " ++ Text.quoted path
  | folder path => "[Errno 21] Is a directory: " ++ Text.quoted path
  | unreadable => "YAMLError"
  | notMap path => path ++ ": expected a mapping at the top level"
  | wrongKind text => text
  | values (.unreadable field) => unreadableMessage field
  | values (.invalid issues) =>
    let count := issues.length
    toString count ++ " validation error" ++ (if count == 1 then "" else "s") ++
      " for GeneratorSettings"

end Fault

/-- A value for a setting: plain, or a path that is known to be one. -/
inductive Given where
  | plain (value : Json)
  | path (path : Path)
  | paths (paths : List Path)

mutual

/-- A value of a settings file as a plain value. -/
def plainValue : Yaml → Json
  | .scalar value => value
  | .date text => .obj [("date", .str text)]
  | .list items => .arr (plainValues items)
  | .map entries => .obj (plainEntries entries)

def plainValues : List Yaml → List Json
  | [] => []
  | item :: items => plainValue item :: plainValues items

def plainEntries : List (Yaml × Yaml) → List (String × Json)
  | [] => []
  | (key, value) :: entries =>
    ((plainValue key).text?.getD "", plainValue value) :: plainEntries entries

end

/-- What a value is called in a report. -/
def kindWord : Yaml → String
  | .scalar .null => "NoneType"
  | .scalar (.bool _) => "bool"
  | .scalar (.int _) => "int"
  | .scalar (.float _) => "float"
  | .scalar _ => "str"
  | .date _ => "datetime.date"
  | .list _ => "list"
  | .map _ => "dict"

/-- The parts of a value that can be gone through. -/
def partsOf : Yaml → Except Fault (List Yaml)
  | .list items => .ok items
  | .map entries => .ok (entries.map (·.1))
  | .scalar (.str text) => .ok (text.toList.map fun c => .scalar (.str c.toString))
  | value => .error (.wrongKind s!"'{kindWord value}' object is not iterable")

/-- A path of a settings file, seen from a folder. -/
def pathFrom (folder : Path) : Yaml → Except Fault Path
  | .scalar (.str text) => .ok (folder.join (Path.ofText text))
  | value =>
    .error (.wrongKind s!"unsupported operand type(s) for /: 'PosixPath' and '{kindWord value}'")

/-- The value of a setting in a file in the given folder. Empty values are left alone; the fields
that hold paths are seen from the folder. -/
def givenFrom (folder : Path) (key : String) (value : Yaml) : Except Fault Given :=
  if !(plainValue value).isTruthy then .ok (.plain (plainValue value))
  else match key with
    | "design_dir" | "out_dir" => return .path (← pathFrom folder value)
    | "libraries" => return .paths (← (← partsOf value).mapM (pathFrom folder))
    | _ => .ok (.plain (plainValue value))

/-- The fields in which a settings file may hold paths, in the order in which they are looked at. -/
def pathFields : List String := ["design_dir", "out_dir", "libraries"]

/-- The settings that a file gives. -/
def readFile (path : Path) (text : String) : Except Fault (List (String × Given)) :=
  match Yaml.parse? text with
  | none => .error .unreadable
  | some (.map entries) => do
    let named := entries.filterMap fun entry => match entry.1 with
      | .scalar (.str key) => some (key, entry.2)
      | _ => none
    let named := OrderedMap.ofList named
    let ordered := pathFields.filterMap (fun key => (named.lookup key).map (key, ·)) ++
      named.filter fun entry => !pathFields.contains entry.1
    let given ← ordered.mapM fun entry =>
      return (entry.1, ← givenFrom path.parent entry.1 entry.2)
    if named.length < entries.length && entries.any (fun entry => match entry.1 with
        | .scalar (.str _) => false
        | _ => true) then .error (.wrongKind "keywords must be strings")
    else return given
  | some value =>
    if (plainValue value).isTruthy then .error (.notMap path.text) else .ok []

/-- The value of a setting from the environment. -/
def fromEnvironment (environment : Environment) (field : String) (isList : Bool) :
    Except SettingsFault (Option Given) :=
  let name := "DDSL_" ++ field
  if isList then return (← environment.json? name field).map .plain
  else .ok ((environment.value? name).map fun text => .plain (.str text))

/-- Checks a path. -/
def checkPath (place : List String) : Given → Checked Path
  | .path path => .ok path
  | .plain value => checkAt place (fun value => match value with
    | .str text => .ok (Path.ofText text)
    | _ => .error .notPath) value
  | .paths _ => .error [⟨place, .notPath, .null⟩]

/-- Checks a path that may be absent. -/
def checkOptionalPath (place : List String) : Given → Checked (Option Path)
  | .plain .null => .ok none
  | given => (checkPath place given).map some

/-- Checks a list of paths. -/
def checkPaths (field : String) : Given → Checked (List Path)
  | .paths paths => .ok paths
  | .plain (.arr items) =>
    each (fun n item => checkPath [field, toString n] (.plain item)) 0 items
  | .plain value => .error [⟨[field], .notList, value⟩]
  | .path _ => .error [⟨[field], .notList, .null⟩]

/-- The plain value that was given. -/
def Given.plainly : Given → Json
  | .plain value => value
  | .path found => .str found.text
  | .paths _ => .arr []

/-- Checks the number of workers: there is at least one. -/
def checkWorkers (given : Given) : Checked Int := do
  let count ← checkAt ["workers"] integer given.plainly
  if count < 1 then .error [⟨["workers"], .rule "workers must be at least 1", given.plainly⟩]
  else return count

/-- Checks the targets: all of them are known. -/
def checkTargets (given : Given) : Checked (List String) := do
  match given.plainly with
  | .arr items =>
    let targets ← each (fun n item => checkAt ["targets", toString n] text item) 0 items
    match targets.filter (!targetNames.contains ·) with
    | [] => return targets
    | unknown =>
      let list := ", ".intercalate unknown
      .error [⟨["targets"], .rule s!"unknown target(s): {list}", given.plainly⟩]
  | value => .error [⟨["targets"], .notList, value⟩]

/-- Checks a setting that was given, or takes its default. -/
def orDefault {α : Type} (given : Option Given) (default : α) (check : Given → Checked α) :
    Checked α :=
  match given with
  | some given => check given
  | none => .ok default

/-- The settings of given values; what is not given has its default, and all issues are reported. -/
def Settings.ofGiven (given : String → Option Given) : Checked Settings :=
  let base : Settings := {}
  let designDir := orDefault (given "design_dir") base.designDir (checkOptionalPath ["design_dir"])
  let libraries := orDefault (given "libraries") base.libraries (checkPaths "libraries")
  let outDir := orDefault (given "out_dir") base.outDir (checkPath ["out_dir"])
  let workers := orDefault (given "workers") base.workers checkWorkers
  let targets := orDefault (given "targets") base.targets checkTargets
  let logLevel := orDefault (given "log_level") base.logLevel
    fun given => checkAt ["log_level"] text given.plainly
  match designDir, libraries, outDir, workers, targets, logLevel with
  | .ok designDir, .ok libraries, .ok outDir, .ok workers, .ok targets, .ok logLevel =>
    .ok { designDir, libraries, outDir, workers, targets, logLevel }
  | designDir, libraries, outDir, workers, targets, logLevel =>
    .error (issuesOf designDir ++ issuesOf libraries ++ issuesOf outDir ++ issuesOf workers ++
      issuesOf targets ++ issuesOf logLevel)

/-- The settings of what a file gives and of the environment, which wins. -/
def Settings.resolve (environment : Environment) (fromFile : List (String × Given)) :
    Except Fault Settings := do
  let field (name : String) (isList : Bool) : Except Fault (String × Option Given) :=
    match fromEnvironment environment name isList with
    | .ok given => .ok (name, given)
    | .error fault => .error (.values fault)
  let fields ← [("design_dir", false), ("libraries", true), ("out_dir", false), ("workers", false),
    ("targets", true), ("log_level", false)].mapM fun entry => field entry.1 entry.2
  match Settings.ofGiven fun name => ((fields.lookup name).join).or (fromFile.lookup name) with
  | .ok settings => return settings
  | .error issues => .error (.values (.invalid issues))

section Loading

variable {m : Type → Type} [Monad m]

/-- Loads the settings from a file, or from the usual one if it is there and none is named. -/
def Settings.load (host : Host m) (named : Option String) : m (Except Fault Settings) := do
  let file ← match named with
    | some text => pure (some (Path.ofText text))
    | none => do
      if ← host.isFile defaultFile then pure (some defaultFile) else pure none
  match file with
  | none => return Settings.resolve host.environment []
  | some path =>
    if ← host.isFile path then
      match readFile path (← host.read path) with
      | .ok given => return Settings.resolve host.environment given
      | .error fault => return .error fault
    else if ← host.isFolder path then return .error (.folder path.text)
    else return .error (.missingFile path.text)

end Loading

end Blueprint.Config
