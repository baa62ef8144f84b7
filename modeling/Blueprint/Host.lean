import Blueprint.Validation

/-!
Paths of files, and where a command runs. A path has the slashes that it starts with and the names
between slashes; empty names and single dots say nothing and are left out, names of two dots stay,
since what they lead to depends on the files. A host knows the working folder, the date, the
environment and the files that can be read. It answers within some monad, so that the same commands
run over files in memory and over real ones.
-/

namespace Blueprint

/-- A path. -/
structure Path where
  /-- What the path starts with: nothing, or the slashes of the root. -/
  root : String := ""
  names : List String := []
  deriving DecidableEq, Repr

namespace Path

/-- Reads a path. Two slashes at its start are kept apart from one; more than two count as one. -/
def ofText (text : String) : Path :=
  let chars := text.toList
  let slashes := (chars.takeWhile (· == '/')).length
  let root := if slashes == 0 then "" else if slashes == 2 then "//" else "/"
  let names := (chars.splitOn '/').filter fun name => !name.isEmpty && name != ['.']
  ⟨root, names.map String.ofList⟩

/-- The text of a path; an empty one is a dot. -/
def text (path : Path) : String :=
  if path.root.isEmpty && path.names.isEmpty then "."
  else path.root ++ "/".intercalate path.names

/-- The path starts at the root. -/
def isAbsolute (path : Path) : Bool := !path.root.isEmpty

/-- A path seen from another; an absolute one stays as it is. -/
def join (base path : Path) : Path :=
  if path.isAbsolute then path else ⟨base.root, base.names ++ path.names⟩

/-- The folder that a path lies in. -/
def parent (path : Path) : Path := { path with names := path.names.dropLast }

/-- The last name of a path. -/
def name (path : Path) : String := path.names.getLast?.getD ""

/-- Takes the steps of names from a folder, where two dots lead back. -/
def follow : List String → List String → List String
  | folder, [] => folder
  | folder, name :: rest =>
    follow (if name == ".." then folder.dropLast else folder ++ [name]) rest

/-- The absolute path from a folder, without names of two dots. -/
def absolute (folder path : Path) : Path :=
  let whole := folder.join path
  { whole with names := follow [] whole.names }

/-- The last name without its ending. A dot at the start or the end of a name begins no ending. -/
def stem (path : Path) : String :=
  let name := path.name.toList
  let ending := name.reverse.takeWhile (· != '.')
  let front := name.take (name.length - ending.length - 1)
  if ending.isEmpty || ending.length == name.length || front.isEmpty then path.name
  else String.ofList front

/-- Lists of names in order. -/
def namesLe : List String → List String → Bool
  | [], _ => true
  | _ :: _, [] => false
  | a :: as, b :: bs => if a == b then namesLe as bs else decide (a < b)

/-- The order of paths: name by name. -/
def le (a b : Path) : Bool := namesLe (a.root :: a.names) (b.root :: b.names)

end Path

/-- What a command can ask about its surroundings. -/
structure Host (m : Type → Type) where
  /-- The working folder. -/
  current : Path
  today : String
  environment : Environment
  isFile : Path → m Bool
  isFolder : Path → m Bool
  /-- The text of a file. -/
  read : Path → m String
  /-- The files in a folder and in the folders below it; their paths start with the folder's. -/
  filesBelow : Path → m (List Path)

namespace Host

/-- The names of a path after those of a folder. -/
def namesAfter? : List String → List String → Option (List String)
  | [], names => some names
  | _ :: _, [] => none
  | a :: folder, b :: names => if a == b then namesAfter? folder names else none

/-- A host over files in memory, given by absolute paths. -/
def ofFiles (current : Path) (today : String) (environment : Environment)
    (files : List (Path × String)) : Host Id where
  current := current
  today := today
  environment := environment
  isFile := fun path => files.any fun file => file.1 == current.absolute path
  isFolder := fun path =>
    let folder := current.absolute path
    folder == current || files.any fun file =>
      ((namesAfter? folder.names file.1.names).getD []).isEmpty.not && file.1 != folder
  read := fun path => (files.lookup (current.absolute path)).getD ""
  filesBelow := fun path => files.filterMap fun file =>
    match namesAfter? (current.absolute path).names file.1.names with
    | some (name :: names) => some (path.join ⟨"", name :: names⟩)
    | _ => none

end Host

end Blueprint
