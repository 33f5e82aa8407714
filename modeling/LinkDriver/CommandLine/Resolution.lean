import LinkDriver.CommandLine.Arguments
import LinkDriver.CommandLine.Positions

/-!
# The link options of a command line

The objects and namespecs of the parsed arguments get the positions that the scan of the command
line finds for them. If the two count different inputs, the positions are unknown and the command
line is refused.
-/

namespace LinkDriver.CommandLine

/-- The source of the log records of this module. -/
def optionsSource : String := "options"

/-- The object files at the given positions. -/
def objectsAt (positions : List Nat) (paths : List String) : List ObjectFile :=
  positions.zipWith (fun (position : Nat) path => ⟨position, path⟩) paths

/-- The namespecs at the given positions. -/
def namespecsAt (positions : List Nat) (names : List Value) : List NameSpec :=
  positions.zipWith (fun (position : Nat) name => ⟨position, name⟩) names

/-- The failure for namespecs without positions. Its message needs every name to be a text. -/
def namespecPositionsUnknown (names : List Value) : Failure :=
  match texts? names with
  | some contents => .driver (.namespecPositions contents)
  | none => .fault (.blank (.joined (names.findIdx (· == .blank))))

/-- The options of a link with the given inputs. -/
def linkOptions (arguments : Arguments) (objects : List ObjectFile) (namespecs : List NameSpec) :
    LinkOptions where
  objects := some objects
  namespecs := some namespecs
  output := some ((arguments.output.map Value.textOrEmpty).getD "")
  soname := some ((arguments.soname.map Value.textOrEmpty).getD "")
  sysroot := some ((arguments.sysroot.map Value.textOrEmpty).getD "")
  dynamicLinker := some ((arguments.dynamicLinker.map Value.textOrEmpty).getD "")
  wraps := some arguments.wraps
  portables := some arguments.portables
  searchDirs := some arguments.searchDirs
  shared := arguments.shared
  symbolic := arguments.symbolic
  targetTriple := some arguments.target

/-- The inputs of the parsed arguments with their positions on the scanned command line. -/
def placedInputs (arguments : Arguments) (scanned : List String) :
    Except Failure (List ObjectFile × List NameSpec) :=
  let objectPositions := positions .object ownValueFlags scanned
  let libraryPositions := positions .library ownValueFlags scanned
  if objectPositions.length ≠ arguments.objects.length then
    .error (.driver (.objectPositions arguments.objects))
  else if libraryPositions.length ≠ arguments.libraries.length then
    .error (namespecPositionsUnknown arguments.libraries)
  else
    .ok (objectsAt objectPositions arguments.objects,
      namespecsAt libraryPositions arguments.libraries)

/-- Turns the parsed arguments of a command line into link options. -/
def resolve {σ : Type} (arguments : Arguments) (scanned : List String) :
    Action σ Failure LinkOptions := do
  let (objects, namespecs) ← .ofExcept (placedInputs arguments scanned)
  .log .debug optionsSource ("Objects: " ++ Literal.ofList ObjectFile.literal objects)
  .log .debug optionsSource ("Namespecs: " ++ Literal.ofList NameSpec.literal namespecs)
  return linkOptions arguments objects namespecs

end LinkDriver.CommandLine
