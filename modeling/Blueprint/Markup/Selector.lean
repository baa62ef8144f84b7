import Blueprint.Text.Lines
import Blueprint.Text.Replace
import Blueprint.Text.CharTables

/-!
Selectors of directives. A selector is a list of parts between commas; a part names an attribute,
or a tag and an attribute, or several attributes that have to occur together.
-/

namespace Blueprint.Markup

open Blueprint.Text

/-- A clause `:not(…)` with something between its brackets. -/
def notClause? (text : List Char) : Option (Found (List Char)) :=
  (after? ":not(".toList text).bind fun rest =>
    match rest.takeWhile (· != ')'), rest.dropWhile (· != ')') with
    | inner@(_ :: _), ')' :: _ => some ⟨[], inner.length + 6⟩
    | _, _ => none

/-- Removes clauses until none is left. Removing one may join its surroundings into another. -/
def dropNotClauses (text : List Char) : List Char :=
  let shorter := replace notClause? text
  if shorter.length < text.length then dropNotClauses shorter else text
termination_by text.length

/-- A selector without its `:not(…)` clauses and the blanks around it. -/
def stripNotClauses (selector : List Char) : List Char := trim (dropNotClauses selector)

/-- A character of a tag or attribute name. -/
def isNameChar (c : Char) : Bool := isWord c || c == '-'

/-- A text between brackets that holds no closing one. -/
def bracketed? : List Char → Option (Found (List Char))
  | '[' :: rest =>
    match rest.takeWhile (· != ']'), rest.dropWhile (· != ']') with
    | inner@(_ :: _), ']' :: _ => some ⟨inner, inner.length + 2⟩
    | _, _ => none
  | _ => none

/-- A name: one name character or more, and nothing else. -/
def isNameText (text : List Char) : Bool := !text.isEmpty && text.all isNameChar

/-- The attribute of a part that names nothing else, bare or between brackets. -/
def simpleAttribute? (part : List Char) : Option (List Char) :=
  if isNameText part then some part
  else match bracketed? part with
    | some found =>
      if found.size == part.length && found.value.all isNameChar then some found.value else none
    | none => none

/-- The tag and the attribute of a part made of both. -/
def tagAttribute? (part : List Char) : Option (List Char × List Char) :=
  let tag := part.takeWhile isNameChar
  let rest := part.dropWhile isNameChar
  match bracketed? rest with
  | some found =>
    if !tag.isEmpty && found.size == rest.length then some (tag, found.value) else none
  | none => none

/-- The text stands somewhere in another. -/
def occurs (needle : List Char) : List Char → Bool
  | [] => needle.isEmpty
  | c :: rest => needle.isPrefixOf (c :: rest) || occurs needle rest

/-- A part of a selector matches an attribute of a template with these elements and attributes. -/
def matchesSelector (part wanted : List Char) (elements attributes : List (List Char)) : Bool :=
  let part := stripNotClauses part
  match simpleAttribute? part with
  | some name => name == wanted
  | none => match tagAttribute? part with
    | some (tag, name) => name == wanted && elements.contains tag
    | none =>
      occurs "][".toList part &&
        let required := findAll bracketed? part
        required.contains wanted && required.all attributes.contains

/-- The parts of a selector between commas, without blanks around them and without empty ones. -/
def selectorParts (selector : List Char) : List (List Char) :=
  ((selector.splitOn ',').map trim).filter (!·.isEmpty)

end Blueprint.Markup
