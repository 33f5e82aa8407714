import LinkDriver.Text.Field

/-!
# Log records

A record has a level, the name of its source and a message. It is written as one line, in colour
on a console.
-/

namespace LinkDriver

/-- How much a record matters. -/
inductive Level where
  | unset
  | debug
  | info
  | warning
  | error
  | critical
  deriving DecidableEq, Repr

namespace Level

/-- The number by which levels are compared. -/
def number : Level → Nat
  | unset => 0
  | debug => 10
  | info => 20
  | warning => 30
  | error => 40
  | critical => 50

/-- The name that stands in a log line. -/
def name : Level → String
  | unset => "NOTSET"
  | debug => "DEBUG"
  | info => "INFO"
  | warning => "WARNING"
  | error => "ERROR"
  | critical => "CRITICAL"

/-- All names by which a level can be asked for. Two of the levels have a second name. -/
def names : List (String × Level) :=
  [("CRITICAL", critical), ("FATAL", critical), ("ERROR", error), ("WARNING", warning),
   ("WARN", warning), ("INFO", info), ("DEBUG", debug), ("NOTSET", unset)]

/-- The level of a name written in capitals. -/
def ofName? (name : String) : Option Level :=
  names.lookup name

/-- A letter in capitals. The dotless i and the long s are no letters of ASCII, but their capitals
are. -/
def capital (c : Char) : Char :=
  if c = '\u0131' then 'I' else if c = '\u017f' then 'S' else c.toUpper

/-- The level that a text names in any mixture of small letters and capitals. -/
def read? (text : String) : Option Level :=
  ofName? (String.ofList (text.toList.map capital))

/-- The number of the colour in which a line of this level is shown: errors are red, warnings are
yellow, information is white, and all other lines keep the colour of the console. -/
def colour? : Level → Option Nat
  | info => some 37
  | warning => some 33
  | error => some 31
  | _ => none

end Level

/-- A log record. -/
structure Record where
  level : Level
  source : String
  message : String
  deriving DecidableEq, Repr

namespace Record

/-- A record as a plain line: the time, the level, the source cut to ten characters, and the
message. The clock is not part of the record and shows as a fixed word. -/
def line (record : Record) : String :=
  " | ".intercalate
    ["TIME", Text.alignRight 8 record.level.name, Text.alignRight 10 (Text.cut 10 record.source),
     record.message]

/-- A record as a line for the console. -/
def colouredLine (record : Record) : String :=
  match record.level.colour? with
  | none => record.line
  | some colour => "\x1b[1;" ++ toString colour ++ "m" ++ record.line ++ "\x1b[0m"

end Record

end LinkDriver
