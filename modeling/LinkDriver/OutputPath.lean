import LinkDriver.Action
import LinkDriver.Host
import LinkDriver.Options

/-!
# The output path

The path of the output is the one that was asked for. Otherwise a single input puts `a.out` next
to itself, and several inputs put it into the working directory.
-/

namespace LinkDriver.OutputPath

/-- The name of an output for which no name was given. -/
def defaultName : String := "a.out"

/-- The default output of a single input: `a.out` in the directory of its absolute path. -/
def beside? (host : HostView) (input : String) : Option String :=
  (host.absolute? input).map fun path => Path.join (Path.directory path) defaultName

/-- Determines the path of the output from the one asked for and the paths of the inputs. -/
def determine {σ : Type} (host : HostView) (asked : Option String) (inputs : List String) :
    Action σ Failure String :=
  match given? asked with
  | some path => pure path
  | none =>
    match inputs with
    | [] => .fail (.fault .noInputPath)
    | [input] =>
      match beside? host input with
      | some path => pure path
      | none => .fail (.driver (.outputUnresolved input))
    | _ => do
      .log .warning "output" ("Use " ++ defaultName ++ " for output file!")
      return defaultName

end LinkDriver.OutputPath
