import LinkDriver.Value

/-!
# Link inputs

An input is an object file or a library named by a namespec. Each carries the position of its
token on the command line, so that their common order can be restored.
-/

namespace LinkDriver

/-- An object file and its position. -/
structure ObjectFile where
  position : Int
  path : String
  deriving DecidableEq, Repr

/-- The name of a library and its position. -/
structure NameSpec where
  position : Int
  name : Value
  deriving DecidableEq, Repr

/-- The literal of an object file. -/
def ObjectFile.literal (object : ObjectFile) : String :=
  "ObjectFile(position=" ++ toString object.position ++ ", path=" ++ Literal.ofText object.path ++
    ")"

/-- The literal of a namespec. -/
def NameSpec.literal (namespec : NameSpec) : String :=
  "NameSpec(position=" ++ toString namespec.position ++ ", name=" ++ namespec.name.literal ++ ")"

/-- A link input. -/
inductive Item where
  | object (file : ObjectFile)
  | namespec (spec : NameSpec)
  deriving DecidableEq, Repr

namespace Item

/-- The position of an input's token on the command line. -/
def position : Item → Int
  | object file => file.position
  | namespec spec => spec.position

/-- The literal of an input. -/
def literal : Item → String
  | object file => file.literal
  | namespec spec => spec.literal

/-- The object file that an input is. -/
def object? : Item → Option ObjectFile
  | object file => some file
  | namespec _ => none

/-- The namespec that an input is. -/
def namespec? : Item → Option NameSpec
  | object _ => none
  | namespec spec => some spec

end Item

end LinkDriver
