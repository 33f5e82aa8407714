import LinkDriver.Invocation
import LinkDriver.OutputPath
import LinkDriver.Plan

/-!
# Link attempts

An attempt turns link options into one invocation of an engine: it determines the output path,
builds the configuration, plans the order of the inputs, reports both, and invokes the engine. The
engine is not called before all of that is settled.
-/

namespace LinkDriver

/-- The source of the log records of an attempt. -/
def attemptSource : String := "driver"

/-- Builds the configuration of a link, and logs what is configured. -/
def configure {σ : Type} (options : LinkOptions) (output : String) :
    Action σ Failure Configuration :=
  match options.configuration? output with
  | none => .fail (.driver .listWithdrawn)
  | some configuration => do
    .log .debug "config"
      ("Configured " ++ configuration.outputKind.word ++ " link for " ++
        Literal.ofOption Value.display configuration.targetTriple)
    return configuration

/-- Attempts a link, and returns the path of its output. -/
def attempt {σ : Type} (host : HostView) (engine : Engine σ) (options : LinkOptions) :
    Action σ Failure String := do
  let objects := options.objects.getD []
  if objects = [] then
    .fail (.driver .noObjects)
  let output ← OutputPath.determine host options.output (objects.map ObjectFile.path)
  .log .debug attemptSource ("Output file is " ++ output)
  let configuration ← configure options output
  .log .debug attemptSource ("Configuration: " ++ configuration.literal)
  match options.namespecs with
  | none => .fail (.fault .namespecsWithdrawn)
  | some namespecs =>
    let planned := plan objects namespecs
    .log .debug attemptSource ("Planned " ++ toString planned.length ++ " inputs")
    .emit (.report (.configuration configuration))
    .emit (.report (.inputs planned))
    invoke engine configuration output (planned.map .item)
    return output

end LinkDriver
