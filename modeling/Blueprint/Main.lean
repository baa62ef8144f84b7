import Blueprint.Cli.Run
import Blueprint.Service.Log
import Std.Time.Format

namespace Blueprint.Cli

/-- The variables that settings are read from. -/
def settingVariables : List String :=
  ["DDSL_DESIGN_DIR", "DDSL_LIBRARIES", "DDSL_OUT_DIR", "DDSL_WORKERS", "DDSL_TARGETS",
    "DDSL_LOG_LEVEL"]

/-- The settings variables that are set. -/
def readEnvironment : IO Environment :=
  settingVariables.filterMapM fun name => do return (← IO.getEnv name).map (name, ·)

/-- The date of a time stamp. -/
def dateOf (stamp : String) : String := String.ofList (stamp.toList.take 10)

/-- The surroundings of the program. -/
def realHost : IO (Host IO) := do
  let folder ← IO.currentDir
  let current := Path.ofText folder.toString
  let now ← Std.Time.Timestamp.now
  return {
    current
    today := dateOf (Service.Moment.ofSeconds now.toSecondsSinceUnixEpoch.val).stamp
    environment := ← readEnvironment
    isFile := fun path => do
      let file := folder / path.text
      return (← file.pathExists) && !(← file.isDir)
    isFolder := fun path => (folder / path.text).isDir
    read := fun path => IO.FS.readFile (folder / path.text)
    filesBelow := fun path => do
      let root := current.absolute path
      let found ← (folder / path.text).walkDir
      return found.toList.filterMap fun file =>
        match Host.namesAfter? root.names (current.absolute (Path.ofText file.toString)).names with
        | some (name :: names) => some (path.join ⟨"", name :: names⟩)
        | _ => none }

/-- A printed part as lines. -/
def Printed.lines : Printed → List String
  | line text _ => [text]
  | table title columns rows => title :: (columns :: rows).map (" | ".intercalate ·)

/-- Writes a file and makes the folder that it lies in. -/
def writeFile (path : Path) (text : String) : IO PUnit := do
  IO.FS.createDirAll path.parent.text
  IO.FS.writeFile path.text text

end Blueprint.Cli

open Blueprint in
/-- Runs the command that the arguments name. -/
def main (arguments : List String) : IO UInt32 := do
  let outcome ← Cli.run (← Cli.realHost) arguments
  for file in outcome.written do
    Cli.writeFile file.1 file.2
  IO.eprint outcome.errors
  for part in outcome.printed do
    for line in part.lines do
      IO.println line
  IO.print outcome.output
  return outcome.exit.toUInt32
