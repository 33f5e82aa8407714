import LinkDriver.Configuration
import LinkDriver.Input

/-!
# Link options

The options of a link are all that the command line says about it. A list or a text may be
withdrawn: an absent text counts as empty, but an absent list cannot be configured.
-/

namespace LinkDriver

/-- The target for which links are made unless another one is given. -/
def defaultTarget : String := "x86_64-unknown-linux"

/-- The options of a link. -/
structure LinkOptions where
  objects : Option (List ObjectFile)
  namespecs : Option (List NameSpec)
  output : Option String
  soname : Option String
  sysroot : Option String
  dynamicLinker : Option String
  wraps : Option (List Value)
  portables : Option (List Value)
  searchDirs : Option (List Value)
  shared : Bool
  symbolic : Bool
  targetTriple : Option Value
  deriving DecidableEq, Repr

/-- A text that was given and is not empty. -/
def given? (text : Option String) : Option String :=
  text.filter (· ≠ "")

namespace LinkOptions

/-- The configuration that the options ask for, if all their lists are there. The path of the
output stands in for a missing soname, and the system's directories follow the user's. -/
def configuration? (options : LinkOptions) (outputPath : String) : Option Configuration := do
  let wraps ← options.wraps
  let portables ← options.portables
  let searchDirs ← options.searchDirs
  return {
    targetTriple := options.targetTriple
    soname := (given? options.soname).getD outputPath
    sysroot := given? options.sysroot
    dynamicLinker := given? options.dynamicLinker
    wraps := wraps
    portables := portables
    searchDirs := searchDirs ++ Configuration.systemSearchDirs
    outputKind := if options.shared then .sharedLibrary else .executable
    symbolic := options.symbolic }

/-- The literal of the options, which only counts the inputs. -/
def literal (options : LinkOptions) : String :=
  "LinkOptions(" ++ toString (options.objects.getD []).length ++ " objects, " ++
    toString (options.namespecs.getD []).length ++ " namespecs)"

end LinkOptions

end LinkDriver
