import LinkDriver.Error
import LinkDriver.Configuration
import LinkDriver.Text.Field
import LinkDriver.Version

/-!
# The text report

A report is a list of entries, each written as whole lines. A link writes its header, the
configuration, the inputs in the order in which they are linked, and the error, if there is one.
-/

namespace LinkDriver

/-- The classes of errors that a report can name. Errors of no class of the driver have a bare
name. -/
inductive ReportedClass where
  | driver (errorClass : ErrorClass)
  | engine
  | other (name : String)
  deriving DecidableEq, Repr

/-- The name of a class in a report, with the module in which it lives. -/
def ReportedClass.qualifiedName : ReportedClass → String
  | driver errorClass => "ppld.common." ++ errorClass.name
  | engine => "ppld.engine.base.EngineError"
  | other name => name

/-- The class of a name. -/
def ReportedClass.ofName (name : String) : ReportedClass :=
  match ErrorClass.ofName? name with
  | some errorClass => driver errorClass
  | none => if name = "EngineError" then engine else other name

/-- An entry of a report. `words` are written with spaces between them and an ending of their
own. -/
inductive ReportEntry where
  | header
  | footer
  | heading (level : Int) (title : String)
  | text (content : String)
  | words (parts : List String) (ending : String)
  | configuration (settled : Configuration)
  | inputs (items : List Item)
  | driverError (message : String)
  | exception (reportedClass : ReportedClass) (message : String)
  deriving DecidableEq

namespace ReportEntry

/-- The character that underlines a title. -/
def underline (level : Int) : Char :=
  if level = 1 then '=' else if level = 2 then '-' else '~'

/-- A title between empty lines, underlined in its full length. -/
def headingText (level : Int) (title : String) : String :=
  "\n" ++ title ++ "\n" ++ String.ofList (List.replicate title.length (underline level)) ++ "\n\n"

/-- The line of one field of a configuration. -/
def fieldLine (field : String × FieldValue) : String :=
  Text.alignRight 16 field.1 ++ ": " ++ field.2.display ++ "\n"

/-- The line of one input. -/
def itemLine (item : Item) : String :=
  Text.alignRight 4 (toString item.position) ++ " " ++ item.literal ++ "\n"

/-- What an entry writes. -/
def render : ReportEntry → String
  | header => "Report of " ++ programName ++ " " ++ version ++ "\n"
  | footer => ""
  | heading level title => headingText level title
  | text content => content ++ "\n"
  | words parts ending => " ".intercalate parts ++ ending
  | configuration settled =>
    headingText 2 "Configuration" ++ String.join (settled.fields.map fieldLine)
  | inputs items => headingText 2 "Inputs" ++ String.join (items.map itemLine)
  | driverError message => headingText 3 "Error" ++ message ++ "\n"
  | exception reportedClass message =>
    if message = "" then reportedClass.qualifiedName ++ "\n\n"
    else reportedClass.qualifiedName ++ ": " ++ message ++ "\n\n"

end ReportEntry

end LinkDriver
