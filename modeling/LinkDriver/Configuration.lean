import LinkDriver.Value

/-!
# The link configuration

The configuration is what a link engine is told before it sees any input: the target, the names
and directories, and the kind of file to produce. Its fields are listed once, with their names, in
`Configuration.fields`; the literal and the report both show that list.
-/

namespace LinkDriver

/-- What a link produces. -/
inductive OutputKind where
  | executable
  | sharedLibrary
  deriving DecidableEq, Repr

namespace OutputKind

/-- The word for the kind. -/
def word : OutputKind → String
  | executable => "executable"
  | sharedLibrary => "shared-library"

/-- The name of the kind among the kinds. -/
def name : OutputKind → String
  | executable => "OutputKind.EXECUTABLE"
  | sharedLibrary => "OutputKind.SHARED_LIBRARY"

/-- The literal of the kind, which shows its name and its word. -/
def literal (kind : OutputKind) : String :=
  "<" ++ kind.name ++ ": " ++ Literal.ofText kind.word ++ ">"

end OutputKind

/-- The configuration of a link. -/
structure Configuration where
  targetTriple : Option Value
  soname : String
  sysroot : Option String
  dynamicLinker : Option String
  wraps : List Value
  portables : List Value
  searchDirs : List Value
  outputKind : OutputKind
  symbolic : Bool
  deriving DecidableEq, Repr

/-- The value of one field of a configuration. -/
inductive FieldValue where
  | text (content : String)
  | optional (content : Option Value)
  | tuple (members : List Value)
  | kind (outputKind : OutputKind)
  | truth (value : Bool)

namespace FieldValue

/-- The literal of a field's value. -/
def literal : FieldValue → String
  | text content => Literal.ofText content
  | optional content => Literal.ofOption Value.literal content
  | tuple members => Literal.ofTuple Value.literal members
  | kind outputKind => outputKind.literal
  | truth value => Literal.ofBool value

/-- A field's value as it reads in a report: texts stand without quotes, and a kind shows its name
alone. -/
def display : FieldValue → String
  | text content => content
  | optional content => Literal.ofOption Value.display content
  | tuple members => Literal.ofTuple Value.literal members
  | kind outputKind => outputKind.name
  | truth value => Literal.ofBool value

end FieldValue

namespace Configuration

/-- The directories that are searched after all others. -/
def systemSearchDirs : List Value :=
  [.text "/lib", .text "/usr/lib"]

/-- The names and values of the fields, in their order. -/
def fields (configuration : Configuration) : List (String × FieldValue) :=
  [("target_triple", .optional configuration.targetTriple),
   ("soname", .text configuration.soname),
   ("sysroot", .optional (configuration.sysroot.map .text)),
   ("dynamic_linker", .optional (configuration.dynamicLinker.map .text)),
   ("wraps", .tuple configuration.wraps),
   ("portables", .tuple configuration.portables),
   ("search_dirs", .tuple configuration.searchDirs),
   ("output_kind", .kind configuration.outputKind),
   ("symbolic", .truth configuration.symbolic)]

/-- The literal of a configuration. -/
def literal (configuration : Configuration) : String :=
  "LinkConfiguration(" ++
    ", ".intercalate (configuration.fields.map fun field => field.1 ++ "=" ++ field.2.literal) ++ ")"

/-- Whether some value of the configuration is blank. -/
def hasBlank (configuration : Configuration) : Bool :=
  configuration.targetTriple == some .blank || configuration.wraps.contains .blank ||
    configuration.portables.contains .blank || configuration.searchDirs.contains .blank

end Configuration

end LinkDriver
