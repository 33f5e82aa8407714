import LinkDriver.Input

/-!
# Errors and faults

A driver error says why a link cannot be made; it has a class and a message for the user. A fault is
a situation for which the driver has no answer: it ends the link attempt without a driver error.
-/

namespace LinkDriver

/-- The classes of driver errors. `general` is the class that holds all others. -/
inductive ErrorClass where
  | general
  | usage
  | configuration
  | outputResolution
  | fileOpen
  | inputResolution
  | linkEngine
  deriving DecidableEq, Repr

namespace ErrorClass

/-- The name of a class. -/
def name : ErrorClass → String
  | general => "LinkDriverError"
  | usage => "UsageError"
  | configuration => "ConfigurationError"
  | outputResolution => "OutputResolutionError"
  | fileOpen => "FileOpenError"
  | inputResolution => "InputResolutionError"
  | linkEngine => "LinkEngineError"

/-- All classes. -/
def all : List ErrorClass :=
  [general, usage, configuration, outputResolution, fileOpen, inputResolution, linkEngine]

/-- The class of a name. -/
def ofName? (name : String) : Option ErrorClass :=
  all.find? fun errorClass => errorClass.name == name

end ErrorClass

/-- Why a link cannot be made. `detail` is what the engine or the system has to say. -/
inductive DriverError where
  | noObjects
  | objectPositions (paths : List String)
  | namespecPositions (names : List String)
  | listWithdrawn
  | outputUnresolved (input : String)
  | configurationRefused (detail : String)
  | outputRefused (path detail : String)
  | inputRefused (item : Item) (detail : String)
  | linkFailed (detail : String)
  deriving DecidableEq, Repr

/-- What the system says of a directory that was removed. -/
def directoryGone : String := "[Errno 2] No such file or directory"

namespace DriverError

/-- The class of an error. -/
def errorClass : DriverError → ErrorClass
  | noObjects => .usage
  | objectPositions _ => .usage
  | namespecPositions _ => .usage
  | listWithdrawn => .configuration
  | outputUnresolved _ => .outputResolution
  | configurationRefused _ => .configuration
  | outputRefused _ _ => .fileOpen
  | inputRefused _ _ => .inputResolution
  | linkFailed _ => .linkEngine

/-- A complaint with its detail. -/
def detailed (complaint detail : String) : String :=
  complaint ++ " (detail: " ++ detail ++ ")"

/-- The message of an error. -/
def message : DriverError → String
  | noObjects => "No input files"
  | objectPositions paths =>
    "Cannot determine positions of input files " ++ ", ".intercalate paths
  | namespecPositions names =>
    "Cannot determine positions of namespecs " ++ ", ".intercalate names
  | listWithdrawn =>
    detailed "Failed to create the linker configuration!" "\x27NoneType\x27 object is not iterable"
  | outputUnresolved input =>
    detailed ("Failed to determine the absolute path of \x60" ++ input ++ "\x60!") directoryGone
  | configurationRefused detail => detailed "Failed to configure the linker!" detail
  | outputRefused path detail =>
    detailed "Failed to open the output file!" (path ++ ": " ++ detail)
  | inputRefused (.object file) detail =>
    detailed "Failed to open the input file!" (file.path ++ ": " ++ detail)
  | inputRefused (.namespec spec) detail =>
    detailed "Failed to open the namespec!" (spec.name.display ++ ": " ++ detail)
  | linkFailed detail => detailed "Failed to linking!" detail

/-- The path that an error is about. -/
def filename? : DriverError → Option String
  | outputRefused path _ => some path
  | _ => none

/-- The input that an error is about. -/
def item? : DriverError → Option Item
  | inputRefused item _ => some item
  | _ => none

end DriverError

/-- The literal of a driver error: its message between double quotes, as it is. -/
def errorLiteral (message : String) : String :=
  "\x22" ++ message ++ "\x22"

/-- The places at which a blank value stands where a text is needed. `joined` is a blank among the
names of a message, at an index. -/
inductive BlankUse where
  | level
  | joined (index : Nat)
  | appended
  | compared
  | inspected
  deriving DecidableEq, Repr

/-- Why the system does not take a command: its program is blank, or a word of it holds the null
character, with which words end there. -/
inductive Rejection where
  | blankProgram
  | nullCharacter
  deriving DecidableEq, Repr

/-- A situation for which the driver has no answer. `undecodable` tells of bytes that are no text. -/
inductive Fault where
  | directoryGone
  | foreignItem (text : String)
  | noInputPath
  | namespecsWithdrawn
  | notConfigured
  | blank (use : BlankUse)
  | rejected (rejection : Rejection)
  | undecodable (detail : String)
  deriving DecidableEq, Repr

namespace Fault

/-- The name of the class under which a fault is reported. -/
def name : Fault → String
  | directoryGone => "FileNotFoundError"
  | foreignItem _ => "NotImplementedError"
  | noInputPath => "IndexError"
  | namespecsWithdrawn => "TypeError"
  | notConfigured => "AttributeError"
  | blank .inspected => "AttributeError"
  | blank _ => "TypeError"
  | rejected .blankProgram => "TypeError"
  | rejected .nullCharacter => "ValueError"
  | undecodable _ => "UnicodeDecodeError"

/-- The message of a fault. -/
def message : Fault → String
  | directoryGone => LinkDriver.directoryGone
  | foreignItem text => text
  | noInputPath => "list index out of range"
  | namespecsWithdrawn => "object of type \x27NoneType\x27 has no len()"
  | notConfigured => "\x27NoneType\x27 object has no attribute \x27sysroot\x27"
  | blank .level => "Level not an integer or a valid string: []"
  | blank (.joined index) =>
    "sequence item " ++ toString index ++ ": expected str instance, list found"
  | blank .appended => "can only concatenate str (not \x22list\x22) to str"
  | blank .compared => "unhashable type: \x27list\x27"
  | blank .inspected => "\x27list\x27 object has no attribute \x27startswith\x27"
  | rejected .blankProgram => "expected str, bytes or os.PathLike object, not list"
  | rejected .nullCharacter => "embedded null byte"
  | undecodable detail => detail

end Fault

/-- How a link attempt fails: by a driver error or by a fault. -/
inductive Failure where
  | driver (error : DriverError)
  | fault (fault : Fault)
  deriving DecidableEq, Repr

end LinkDriver
