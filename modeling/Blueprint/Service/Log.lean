import Blueprint.Generation.Generator
import Blueprint.Text.Replace

/-!
The log of a generated server. A line shows the time, the level, the logger with the start of the
request's identity, and the message, whose tags are coloured on a terminal. Dates are those of the
proleptic Gregorian calendar from seconds since the start of 1970 in universal time.
-/

namespace Blueprint.Service

/-- A moment by its date and time of day. -/
structure Moment where
  year : Int
  month : Nat
  day : Nat
  hour : Nat
  minute : Nat
  second : Nat
  deriving DecidableEq, Repr

/-- The year, month and day of a day counted from the start of 1970. Years are taken to start in
March, so that the day added in a leap year is the last one; four hundred years have 146097 days. -/
def civilDate (days : Int) : Int × Nat × Nat :=
  let shifted := days + 719468
  let era := shifted.fdiv 146097
  let dayOfEra := (shifted.fmod 146097).toNat
  let yearOfEra := (dayOfEra - dayOfEra / 1460 + dayOfEra / 36524 - dayOfEra / 146096) / 365
  let dayOfYear := dayOfEra - (365 * yearOfEra + yearOfEra / 4 - yearOfEra / 100)
  let monthFromMarch := (5 * dayOfYear + 2) / 153
  let day := dayOfYear - (153 * monthFromMarch + 2) / 5 + 1
  let month := if monthFromMarch < 10 then monthFromMarch + 3 else monthFromMarch - 9
  (yearOfEra + era * 400 + (if month ≤ 2 then 1 else 0), month, day)

/-- The moment that is some seconds after the start of 1970. -/
def Moment.ofSeconds (seconds : Int) : Moment :=
  let date := civilDate (seconds.fdiv 86400)
  let time := (seconds.fmod 86400).toNat
  ⟨date.1, date.2.1, date.2.2, time / 3600, time / 60 % 60, time % 60⟩

/-- A number of at least two digits. -/
def twoDigits (n : Nat) : String := (if n < 10 then "0" else "") ++ toString n

/-- A moment as a time stamp. -/
def Moment.stamp (m : Moment) : String :=
  let date := "-".intercalate [toString m.year, twoDigits m.month, twoDigits m.day]
  let time := ":".intercalate [twoDigits m.hour, twoDigits m.minute, twoDigits m.second]
  date ++ " " ++ time

/-- Ends a colour. -/
def colorReset : String := "\x1b[0m"

/-- The colours of the tags that have one. -/
def tagColors : List (String × String) :=
  [("ERROR", "\x1b[31m"), ("NOT_FOUND", "\x1b[33m"), ("INVALID", "\x1b[33m"),
    ("BEHAVIOR", "\x1b[36m"), ("PERSIST", "\x1b[36m"), ("STARTUP", "\x1b[32m")]

/-- A character of a tag's name. -/
def isTagChar (c : Char) : Bool := c.isUpper || c == '_'

/-- A tag at the start of a text, coloured. -/
def tag? (text : List Char) : Option (Text.Found (List Char)) :=
  match text with
  | '[' :: rest =>
    let name := rest.takeWhile isTagChar
    if name.isEmpty || (rest.drop name.length).head? != some ']' then none
    else
      let color := (tagColors.lookup (String.ofList name)).getD colorReset
      some ⟨color.toList ++ '[' :: name ++ ']' :: colorReset.toList, name.length + 2⟩
  | _ => none

/-- A message with its tags coloured. -/
def colored (message : String) : String := String.ofList (Text.replace tag? message.toList)

/-- The name of a level by its number. -/
def levelLabel (level : Nat) : String :=
  match [(50, "CRITICAL"), (40, "ERROR"), (30, "WARNING"), (20, "INFO"), (10, "DEBUG"),
      (0, "NOTSET")].lookup level with
  | some name => name
  | none => s!"Level {level}"

/-- A level filled up to five characters. -/
def levelColumn (level : Nat) : String :=
  let name := levelLabel level
  name.pushn ' ' (5 - name.length)

/-- A record of a server's log. -/
structure Entry where
  logger : String
  level : Nat
  message : String
  /-- The request that is being answered. -/
  request : Option String := none
  /-- The text of an error that goes with the record. -/
  error : Option String := none

/-- The line of a record without its time. -/
def Entry.body (entry : Entry) (color : Bool) : String :=
  let request := entry.request.getD ""
  let place := if request.isEmpty then entry.logger
    else entry.logger ++ " [" ++ String.ofList (request.toList.take 8) ++ "]"
  let message := if color then colored entry.message else entry.message
  let error := match entry.error with
    | none => ""
    | some "" => "\nValueError"
    | some text => "\nValueError: " ++ text
  " : " ++ levelColumn entry.level ++ " : " ++ place ++ " : " ++ message ++ error

/-- The line of a record that was made at a time. -/
def Entry.line (entry : Entry) (seconds : Int) (color : Bool) : String :=
  (Moment.ofSeconds seconds).stamp ++ entry.body color

/-- A log as it was set up. -/
structure LogSetup where
  level : Nat
  color : Bool
  deriving DecidableEq, Repr

/-- Sets up a log by the name of its level; colours have to be forced and can be forbidden. -/
def LogSetup.of (level : String) (environment : List (String × String)) : LogSetup where
  level := (Generation.levelNumber? level).getD 20
  color := ((environment.lookup "NO_COLOR").getD "").isEmpty &&
    environment.lookup "FORCE_COLOR" == some "1"

/-- The levels of the web server's own loggers: quiet unless everything is shown. -/
def LogSetup.serverLevels (setup : LogSetup) : List Nat :=
  let level := if setup.level == 10 then 10 else 30
  [level, level, 30]

/-- What the log says once it is set up. -/
def LogSetup.greeting (setup : LogSetup) : List String :=
  if 20 < setup.level then []
  else [({ logger := "ddsl.core", level := 20
           message := "[STARTUP] logging at " ++ levelLabel setup.level : Entry }).body setup.color]

end Blueprint.Service
