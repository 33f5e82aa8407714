import LinkDriver.Attempt
import LinkDriver.CommandLine.Help
import LinkDriver.CommandLine.Resolution
import LinkDriver.Engine.Recording

/-!
# Sessions

A session is one run of the linking command: the command line is parsed, the logs are attached,
the link is attempted, and the error, if there is one, is told. Everything the session lets others
see is one list of events. `Transcript` sorts the events out into what the console, the standard
output and the files of the reports received.
-/

namespace LinkDriver

open CommandLine

/-- How a session ended: the call returned, the program left with a status, or a failure left
it. -/
inductive Ending where
  | returned
  | exited (status : Nat)
  | failed (failure : Failure)
  deriving DecidableEq, Repr

/-- What a session left behind: its ending, the texts on the standard output and on the console,
the newest text of every file that was opened, and the commands that were started. -/
structure Transcript where
  ending : Ending
  output : String
  console : String
  files : List (List String × String)
  commands : List Command
  deriving DecidableEq, Repr

/-! ## The text of an early exit -/

namespace CommandLine.Exit

/-- The status with which the program leaves. -/
def status : Exit → Nat
  | help => 0
  | version => 0
  | rejected _ => 2

/-- What is printed on the standard output. -/
def output : Exit → String
  | help => helpText
  | version => versionText ++ "\n"
  | rejected _ => ""

/-- What is printed on the console. -/
def console : Exit → String
  | help => ""
  | version => ""
  | rejected complaint => programName ++ ": error: " ++ complaint.message ++ "\n"

end CommandLine.Exit

/-! ## Where events are written -/

/-- A stream to which text is written: the console, the standard output, or an opened file. -/
inductive Stream where
  | console
  | output
  | file (number : Nat)
  deriving DecidableEq, Repr

/-- The stream of a report, if it goes anywhere. -/
def CommandLine.Destination.stream? : Destination → Option Stream
  | nowhere => none
  | standardOutput => some .output
  | file _ number => some (.file number)

/-- Where the events of a session are written: the least level of the records on the console, the
stream of all records, and the stream of the text report. -/
structure Sinks where
  consoleLevel : Level
  logStream : Option Stream
  reportStream : Option Stream
  deriving DecidableEq, Repr

/-- A piece of text and the stream to which it is written. -/
abbrev Write := Stream × String

/-- What an event writes. -/
def Sinks.writes (sinks : Sinks) : Event → List Write
  | .log record =>
    (if sinks.consoleLevel.number ≤ record.level.number then
        [(.console, record.colouredLine ++ "\n")]
      else []) ++
      sinks.logStream.toList.map fun stream => (stream, record.line ++ "\n")
  | .report entry => sinks.reportStream.toList.map fun stream => (stream, entry.render)
  | .print text => [(.output, text)]
  | .start _ | .wrote _ _ => []

/-- The text that a stream received. -/
def received (stream : Stream) (writes : List Write) : String :=
  String.join ((writes.filter (·.1 = stream)).map (·.2))

/-- The places of opened files with the newest text of each. A place that was opened again later is
left out where it was opened first. -/
def fileTexts (writes : List Write) : Nat → List (List String) → List (List String × String)
  | _, [] => []
  | number, place :: rest =>
    let later := fileTexts writes (number + 1) rest
    if place ∈ rest then later else (place, received (.file number) writes) :: later

/-- The text that started commands left in the file at a place, if they wrote it: that of the last
one. -/
def commandText? (events : List Event) (place : List String) : Option String :=
  (events.filterMap Event.written?).reverse.lookup place

/-- The transcript of a session with the given events. A file that a command wrote holds the text of
the command: a linker makes its output anew, and what the session writes goes to the file that stood
there before. -/
def Transcript.ofEvents (ending : Ending) (files : List (List String)) (sinks : Sinks)
    (events : List Event) : Transcript :=
  let writes := events.flatMap sinks.writes
  { ending := ending
    output := received .output writes
    console := received .console writes
    files := (fileTexts writes 0 files).map fun file =>
      (file.1, (commandText? events file.1).getD file.2)
    commands := events.filterMap Event.started? }

/-- The transcript of a session that ended before anything was logged. -/
def Transcript.early (ending : Ending) (files : List (List String)) (output console : String) :
    Transcript where
  ending := ending
  output := output
  console := console
  files := fileTexts [] 0 files
  commands := []

/-- The transcript of a command line that was only parsed. -/
def Transcript.ofParsed (parsed : Parsed) : Transcript :=
  match parsed.result with
  | .error exit => .early (.exited exit.status) parsed.files exit.output exit.console
  | .ok _ => .early .returned parsed.files "" ""

/-! ## The session -/

namespace Session

/-- The sinks of a session, and its level on the console. A level that was given blank cannot be
set. -/
def sinks (arguments : Arguments) : Except Fault Sinks :=
  match arguments.log with
  | none => .error (.blank .level)
  | some level =>
    .ok {
      consoleLevel := if arguments.verbose = 0 then level else .debug
      logStream := arguments.report.bind Destination.stream?
      reportStream := arguments.textReport.bind Destination.stream? }

/-- A record of the session itself. -/
def note (level : Level) (message : String) : Event :=
  .log ⟨level, "root", message⟩

/-- The literal of the reporter in use. -/
def reporterLiteral (sinks : Sinks) : String :=
  let kind := if sinks.reportStream.isSome then "Text" else "Dummy"
  "<ppld.utils.reporting." ++ kind ++ "ReportGenerator object at 0x0>"

/-- The events before the link: the header of the report, and the notes of what is attached. -/
def opening (sinks : Sinks) : List Event :=
  [.report .header, note .debug ("Reporting to " ++ reporterLiteral sinks),
   note .debug "Loggers attached", note .debug versionText]

/-- The events that tell how the link ended, and the note of what is removed. Of a fault only the
note is left here. -/
def closing : Except Failure String → List Event
  | .error (.driver error) =>
    [note .error error.message, .report (.driverError error.message), note .debug "Removing loggers",
     .report .footer]
  | _ => [note .debug "Removing loggers", .report .footer]

/-- How a session ends after its link. -/
def ending : Except Failure String → Ending
  | .ok _ => .returned
  | .error (.driver _) => .exited 1
  | .error (.fault fault) => .failed (.fault fault)

/-- Resolves the arguments of a command line and attempts the link. -/
def body {σ : Type} (host : HostView) (engine : Engine σ) (arguments : Arguments)
    (commandLine : List String) : Action σ Failure String := do
  let options ← resolve arguments commandLine
  attempt host engine options

/-- Links by a command line that was parsed, with an engine made from its arguments. -/
def link {σ : Type} (parsed : Parsed) (engine : Arguments → Engine σ) (state : σ)
    (commandLine : List String) : σ × Transcript :=
  match parsed.result with
  | .error _ => (state, .ofParsed parsed)
  | .ok arguments =>
    match sinks arguments with
    | .error fault => (state, .early (.failed (.fault fault)) parsed.files "" "")
    | .ok sinks =>
      let outcome := (body parsed.host (engine arguments) arguments commandLine).run state
      (outcome.state,
        .ofEvents (ending outcome.result) parsed.files sinks
          (opening sinks ++ outcome.events ++ closing outcome.result))

/-- The settings that a command line gives to the engine that runs a linker. -/
def settings (arguments : Arguments) : Gnu.Settings where
  program := arguments.linker
  staticOnly := arguments.static
  dryRun := arguments.dryRun

/-- Links by a command line, with the engine that runs a linker. -/
def linkGnu (host : Host) (ran : Gnu.LinkerRun) (commandLine : List String) : Transcript :=
  let parsed := parse host commandLine
  (link parsed (fun arguments => Gnu.engine (settings arguments) parsed.host ran) .new
    commandLine).2

/-- Links by a command line, with a recording engine. -/
def linkRecording (host : Host) (failures : Recording.Failures) (commandLine : List String) :
    Recording.State × Transcript :=
  link (parse host commandLine) (fun _ => Recording.engine failures) .new commandLine

/-- Runs the program: a subcommand with its command line, or the help on the subcommands. -/
def program (host : Host) (ran : Gnu.LinkerRun) : List String → Transcript
  | [] => .early .returned [] subcommandHelp ""
  | subcommand :: commandLine =>
    if subcommand ∈ subcommands then linkGnu host ran commandLine
    else .early .returned [] subcommandHelp ""

end Session

end LinkDriver
