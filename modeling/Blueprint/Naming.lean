import Blueprint.Text.Case
import Blueprint.Text.Lines

/-!
Names in the case styles of generated code. A name in any style is split into words; the styles
join the words again. Word boundaries come from two rules applied one after the other: a capital
after a small letter or a digit, and the last capital of a run that a small letter follows. Class
names and file stems of pages and components end in a fixed word; a name that already carries it is
not given a second one.
-/

namespace Blueprint.Naming

open Blueprint.Text

/-- A small ASCII letter. -/
def isSmall (c : Char) : Bool := 'a' ≤ c && c ≤ 'z'

/-- An ASCII capital. -/
def isCapital (c : Char) : Bool := 'A' ≤ c && c ≤ 'Z'

/-- A small ASCII letter or an ASCII digit. -/
def isSmallOrDigit (c : Char) : Bool := isSmall c || ('0' ≤ c && c ≤ '9')

/-- Separates words: a blank, an underscore, a hyphen or a dot. -/
def isSeparator (c : Char) : Bool := isBlank c || c == '_' || c == '-' || c == '.'

/-- Puts a space between a small letter or digit and the capital after it. -/
def spaceCapitals : List Char → List Char
  | c :: d :: rest =>
    if isSmallOrDigit c && isCapital d then c :: ' ' :: d :: spaceCapitals rest
    else c :: spaceCapitals (d :: rest)
  | text => text

/-- Puts a space before the last capital of a run that a small letter follows. `run` holds the
capitals read so far, in reverse. -/
def spaceAcronymsFrom (run : List Char) : List Char → List Char
  | [] => run.reverse
  | c :: rest =>
    if isCapital c then spaceAcronymsFrom (c :: run) rest
    else match run with
      | final :: earlier :: more =>
        if isSmall c then
          (earlier :: more).reverse ++ ' ' :: final :: c :: spaceAcronymsFrom [] rest
        else run.reverse ++ c :: spaceAcronymsFrom [] rest
      | _ => run.reverse ++ c :: spaceAcronymsFrom [] rest

/-- Separates an acronym from the word after it. -/
def spaceAcronyms (text : List Char) : List Char := spaceAcronymsFrom [] text

/-- The runs of characters between separators, the empty ones left out. `word` holds the
characters of the current run, in reverse. -/
def fieldsFrom (word : List Char) : List Char → List (List Char)
  | [] => if word.isEmpty then [] else [word.reverse]
  | c :: rest =>
    if isSeparator c then
      if word.isEmpty then fieldsFrom [] rest else word.reverse :: fieldsFrom [] rest
    else fieldsFrom (c :: word) rest

/-- The words of a name in any case style. -/
def words (name : List Char) : List (List Char) :=
  fieldsFrom [] (spaceAcronyms (spaceCapitals name))

/-- The words in lower case. -/
def lowerWords (name : List Char) : List (List Char) := (words name).map lowerText

/-- `supplier-contact` -/
def kebab (name : List Char) : List Char := ['-'].intercalate (lowerWords name)

/-- `supplier_contact` -/
def snake (name : List Char) : List Char := ['_'].intercalate (lowerWords name)

/-- A word with a capital in front and small letters after it. -/
def capitalized : List Char → List Char
  | [] => []
  | c :: rest => upperChar c ++ lowerText rest

/-- `SupplierContact` -/
def pascal (name : List Char) : List Char := (words name).flatMap capitalized

/-- Lower-cases the first character only. -/
def lowerHead : List Char → List Char
  | [] => []
  | c :: rest => lowerText [c] ++ rest

/-- Upper-cases the first character only. -/
def upperHead : List Char → List Char
  | [] => []
  | c :: rest => upperChar c ++ rest

/-- `supplierContact` -/
def camel (name : List Char) : List Char := lowerHead (pascal name)

private def isVowel (c : Char) : Bool := "aeiouAEIOU".toList.contains c

/-- The text whose ending decides the plural, in reverse: one line feed at the end is looked
through. -/
private def endingOf (word : List Char) : List Char :=
  match word.reverse with
  | '\n' :: rest => rest
  | rest => rest

/-- The English plural of the last word of a name. -/
def plural (word : List Char) : List Char :=
  if word.isEmpty then word
  else match endingOf word with
    | 'y' :: c :: _ => if isVowel c then word ++ ['s'] else word.dropLast ++ "ies".toList
    | 's' :: _ | 'x' :: _ | 'z' :: _ | 'h' :: 'c' :: _ | 'h' :: 's' :: _ => word ++ "es".toList
    | _ => word ++ ['s']

end Blueprint.Naming

namespace Blueprint

open Naming

/-- The words of a name. -/
def wordsOf (name : String) : List String := (words name.toList).map String.ofList

/-- `supplier-contact` -/
def kebabCase (name : String) : String := String.ofList (kebab name.toList)

/-- `supplier_contact` -/
def snakeCase (name : String) : String := String.ofList (snake name.toList)

/-- `SupplierContact` -/
def pascalCase (name : String) : String := String.ofList (pascal name.toList)

/-- `supplierContact` -/
def camelCase (name : String) : String := String.ofList (camel name.toList)

/-- Lower-cases the first character: `SupplierContact` gives `supplierContact`. -/
def lowerFirst (name : String) : String := String.ofList (lowerHead name.toList)

/-- Upper-cases the first character. -/
def upperFirst (name : String) : String := String.ofList (upperHead name.toList)

/-- The English plural of a name. -/
def pluralize (name : String) : String := String.ofList (plural name.toList)

/-- The address segment of an entity's records: `SupplierContact` gives `supplier-contacts`. -/
def collectionPath (entity : String) : String := kebabCase (pluralize entity)

end Blueprint

namespace Blueprint.ViewName

/-- Drops an ending from a name that is longer than it. -/
def withoutEnding (ending name : String) : String :=
  let cs := name.toList
  let tail := ending.toList
  if cs != tail && tail.isSuffixOf cs then String.ofList (cs.take (cs.length - tail.length))
  else name

/-- The name of a component without its ending. -/
def componentBase (name : String) : String := withoutEnding "Component" name

/-- `SupplierCard` gives `SupplierCardComponent`. -/
def componentClass (name : String) : String := componentBase name ++ "Component"

/-- The file and directory stem of a component: `SupplierCard` gives `supplier-card`. -/
def componentStem (name : String) : String := kebabCase (componentBase name)

/-- The name of a page without its ending. -/
def pageBase (name : String) : String := withoutEnding "Page" name

/-- `Suppliers` gives `SuppliersPage`. -/
def pageClass (name : String) : String := pageBase name ++ "Page"

/-- The file and directory stem of a page. -/
def pageStem (name : String) : String := kebabCase (pageBase name)

/-- The root component of the application. -/
def isAppComponent (name : String) : Bool := componentBase name == "App"

end Blueprint.ViewName
