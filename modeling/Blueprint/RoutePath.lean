import Blueprint.Text.CharTables
import Blueprint.Naming

namespace Blueprint.RoutePath

open Blueprint.Text

/-- May start the name of a parameter: an ASCII letter or an underscore. -/
def startsName (c : Char) : Bool := c.isAlpha || c == '_'

/-- The parameter name in front of a text: a name, and the field after a dot if there is one. -/
def paramAt? : List Char → Option (List Char)
  | [] => none
  | c :: rest =>
    if startsName c then
      let name := c :: rest.takeWhile isWord
      match rest.dropWhile isWord with
      | '.' :: d :: more =>
        if startsName d then some (name ++ '.' :: d :: more.takeWhile isWord) else some name
      | _ => some name
    else none

/-- The named parameters of a path, in order. `skip` characters belong to the parameter found
last. -/
def paramsFrom (skip : Nat) : List Char → List (List Char)
  | [] => []
  | c :: rest =>
    if skip > 0 then paramsFrom (skip - 1) rest
    else if c == ':' then
      match paramAt? rest with
      | some name => name :: paramsFrom name.length rest
      | none => paramsFrom 0 rest
    else paramsFrom 0 rest

/-- The named parameters of a path, in order. -/
def params (path : List Char) : List (List Char) := paramsFrom 0 path

/-- Splits `supplier.id` into the property and the field at the first dot. -/
def splitParam (param : List Char) : List Char × Option (List Char) :=
  match param.dropWhile (· != '.') with
  | '.' :: field => (param.takeWhile (· != '.'), some field)
  | _ => (param, none)

/-- The dotted name in front of a text, in two parts. -/
def dottedAt? (text : List Char) : Option (List Char × List Char) :=
  match text.takeWhile isWord, text.dropWhile isWord with
  | property@(_ :: _), '.' :: more =>
    match more.takeWhile isWord with
    | [] => none
    | field => some (property, field)
  | _, _ => none

/-- Folds the dotted parameters of a path. `skip` characters belong to the parameter folded
last. -/
def foldFrom (skip : Nat) : List Char → List Char
  | [] => []
  | c :: rest =>
    if skip > 0 then foldFrom (skip - 1) rest
    else if c == ':' then
      match dottedAt? rest with
      | some (property, field) =>
        ':' :: property ++ Naming.upperHead field ++
          foldFrom (property.length + 1 + field.length) rest
      | none => c :: foldFrom 0 rest
    else c :: foldFrom 0 rest

/-- The key under which a page reads a parameter: `supplier.id` is read as `supplierId`. -/
def paramKey (param : List Char) : List Char := (foldFrom 0 (':' :: param)).drop 1

/-- The path of the emitted route: no slash in front, dotted parameters folded. -/
def normalize (path : List Char) : List Char :=
  match path with
  | '/' :: rest => foldFrom 0 rest
  | _ => foldFrom 0 path

/-- The segments between slashes, the empty ones left out. -/
def segments (path : List Char) : List (List Char) :=
  (path.splitOn '/').filter (!·.isEmpty)

end Blueprint.RoutePath

namespace Blueprint

/-- The named parameters of a page path, in order. -/
def routeParams (path : String) : List String := (RoutePath.params path.toList).map String.ofList

/-- A parameter as the property and, after a dot, the field of it that it names. -/
def routeParamProperty (param : String) : String × Option String :=
  let parts := RoutePath.splitParam param.toList
  (String.ofList parts.1, parts.2.map String.ofList)

/-- The key under which a page reads a parameter. -/
def routeParamKey (param : String) : String := String.ofList (RoutePath.paramKey param.toList)

/-- The path of the emitted route. -/
def normalizeRoutePath (path : String) : String := String.ofList (RoutePath.normalize path.toList)

/-- The number of non-empty segments of a path. -/
def segmentCount (path : String) : Nat := (RoutePath.segments path.toList).length

end Blueprint
