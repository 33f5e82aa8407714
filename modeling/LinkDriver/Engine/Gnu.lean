import LinkDriver.Engine.Basic
import LinkDriver.Host
import LinkDriver.Options
import LinkDriver.Text.Blank

/-!
# The engine for linkers in the style of GNU ld

All inputs are resolved to files before the linker starts, so that a missing object or library is
reported for exactly that input. Linking composes one command from the state and runs it, or
prints it in a dry run.

A library is looked up in the search directories in turn, and in each directory under its
candidate names in turn. A directory that begins with `=` lies in the sysroot; the system's
directories always do.
-/

namespace LinkDriver.Gnu

/-- The settings of an engine: the linker, whether only static archives are considered, and whether
the command is printed in place of being run. -/
structure Settings where
  program : Value
  staticOnly : Bool
  dryRun : Bool
  deriving DecidableEq, Repr

/-- The linker that is run unless another one is given. -/
def defaultProgram : String := "ld"

/-- How a linker that was started ended: with a code and two texts, or with bytes that cannot be
decoded into texts. -/
inductive LinkerExit where
  | decoded (code : Int) (output errors : String)
  | undecodable (detail : String)
  deriving DecidableEq, Repr

/-- What became of a command that was handed to the system: the linker was started, left texts in
the files at some places, and ended; it could not be started; or the system did not take the
command. -/
inductive LinkerRun where
  | started (exit : LinkerExit) (written : List (List String × String))
  | unstartable (reason : String)
  | rejected (rejection : Rejection)
  deriving DecidableEq, Repr

/-- The linker ended with a code and two texts, and wrote no file that anyone else has opened. -/
def LinkerRun.finished (code : Int) (output errors : String) : LinkerRun :=
  .started (.decoded code output errors) []

/-- The state of an engine. -/
structure State where
  configuration : Option Configuration
  output : Option String
  inputs : List String
  deriving DecidableEq, Repr

/-- The state of a new engine. -/
def State.new : State where
  configuration := none
  output := none
  inputs := []

/-- The source of the engine's log records. -/
def source : String := "gnu-ld"

/-! ## Libraries -/

/-- The file names under which a library is looked up. A namespec that begins with a colon is a
file name as it stands. -/
def libraryNames (staticOnly : Bool) (name : String) : List String :=
  match name.toList with
  | ':' :: file => [String.ofList file]
  | _ =>
    if staticOnly then ["lib" ++ name ++ ".a"] else ["lib" ++ name ++ ".so", "lib" ++ name ++ ".a"]

/-- A directory moved into the sysroot, if there is one. -/
def inSysroot (sysroot : Option String) (directory : String) : String :=
  sysroot.getD "" ++ directory

/-- A search directory as the linker sees it. One that begins with `=` lies in the sysroot; any
other one does if it belongs to the system. -/
def locate (sysroot : Option String) (ofSystem : Bool) (directory : String) : String :=
  match directory.toList with
  | '=' :: rest => inSysroot sysroot (String.ofList rest)
  | _ => if ofSystem then inSysroot sysroot directory else directory

/-- The number of search directories before those of the system, which are always the last ones. -/
def userCount (directories : List String) : Nat :=
  directories.length - Configuration.systemSearchDirs.length

/-- The search directories as the linker sees them. -/
def locateAll (sysroot : Option String) (directories : List String) : List String :=
  (directories.take (userCount directories)).map (locate sysroot false) ++
    (directories.drop (userCount directories)).map (locate sysroot true)

/-- The search directories of a configuration, unless one of them is blank. -/
def searchDirsOf (configuration : Configuration) : Except Fault (List String) :=
  match texts? configuration.searchDirs with
  | some directories => .ok (locateAll configuration.sysroot directories)
  | none => .error (.blank .inspected)

/-- The search directories of an engine. There are none before it is configured. -/
def State.searchDirs (state : State) : Except Fault (List String) :=
  match state.configuration with
  | none => .ok []
  | some configuration => searchDirsOf configuration

/-- The paths at which a library is looked up: every directory with every name, directories
first. -/
def candidates (directories names : List String) : List String :=
  directories.flatMap fun directory => names.map (Path.join directory)

/-- The first regular file among the paths at which a library is looked up. -/
def lookUp? (host : HostView) (directories names : List String) : Option String :=
  (candidates directories names).find? host.isFile

/-- Finds the file of a library. -/
def State.findLibrary (host : HostView) (staticOnly : Bool) (state : State) (name : Value) :
    Except CallFailure String :=
  match name with
  | .blank => .error (.fault (.blank .inspected))
  | .text name =>
    match state.searchDirs with
    | .error fault => .error (.fault fault)
    | .ok directories =>
      match lookUp? host directories (libraryNames staticOnly name) with
      | some file => .ok file
      | none =>
        .error (.refused ("Cannot find " ++ " or ".intercalate (libraryNames staticOnly name)))

/-! ## The command -/

/-- The words of the command that come from the configuration. -/
def configurationWords (configuration : Configuration) : List String :=
  ((given? configuration.sysroot).toList.map ("--sysroot=" ++ ·)) ++
    (match configuration.outputKind with
      | .executable => []
      | .sharedLibrary =>
        ["-shared", "-soname", configuration.soname] ++
          if configuration.symbolic then ["-Bsymbolic"] else []) ++
    ((given? configuration.dynamicLinker).toList.flatMap fun program =>
      ["--dynamic-linker", program]) ++
    configuration.wraps.map fun symbol => "--wrap=" ++ symbol.display

/-- The command that links inputs, up to the name of the output. -/
def openCommand (program : Value) (configuration : Configuration)
    (directories inputs : List String) : Command where
  program := program
  arguments := configurationWords configuration ++ directories.map ("-L" ++ ·) ++ inputs ++ ["-o"]

/-- The command that links inputs into an output. -/
def compose (program : Value) (configuration : Configuration) (directories inputs : List String)
    (output : String) : Command :=
  (openCommand program configuration directories inputs).withArgument output

/-- The command of a configured engine up to the name of its output, and that name once it is
set. -/
def State.draft (settings : Settings) (state : State) : Except Fault (Command × Option String) :=
  match state.configuration with
  | none => .error .notConfigured
  | some configuration =>
    (searchDirsOf configuration).map fun directories =>
      (openCommand settings.program configuration directories state.inputs, state.output)

/-- The command of an engine that is configured and has an output: its draft with that output
behind it. -/
def State.command? (settings : Settings) (state : State) : Option (Except Fault Command) :=
  match state.configuration, state.output with
  | some _, some output =>
    some ((state.draft settings).map fun drafted => drafted.1.withArgument output)
  | _, _ => none

/-! ## Operations -/

/-- An action of the engine. -/
abbrev EngineAction := Action State CallFailure

/-- Refuses a call. -/
def refuse {α : Type} (detail : String) : EngineAction α :=
  .fail (.refused detail)

/-- Notes in the log that portable symbols have no effect. -/
def notePortables (portables : List Value) : EngineAction Unit :=
  if portables = [] then pure ()
  else
    match texts? portables with
    | some names =>
      .log .debug source ("Portable symbols are not supported by ld: " ++ ", ".intercalate names)
    | none => .fail (.fault (.blank (.joined (portables.findIdx (· == .blank)))))

/-- Takes the configuration. -/
def configure (configuration : Configuration) : EngineAction Unit := do
  .modify fun state => { state with configuration := some configuration }
  notePortables configuration.portables

/-- Why the output cannot be written, or nothing. Its directory is that of its absolute path. -/
def checkOutput (host : HostView) (path : String) : Except CallFailure Unit :=
  match host.absolute? path with
  | none => .error (.fault .directoryGone)
  | some absolute =>
    let directory := Path.directory absolute
    if !host.isDirectory directory then .error (.refused ("No such directory " ++ directory))
    else if !host.isWritable directory then .error (.refused "Permission denied")
    else if host.isDirectory path then .error (.refused "Is a directory")
    else .ok ()

/-- Takes the output. -/
def setOutput (host : HostView) (path : String) : EngineAction Unit := do
  .ofExcept (checkOutput host path)
  .modify fun state => { state with output := some path }

/-- Why an object file cannot be read, or nothing. -/
def checkObject (host : HostView) (path : String) : Except CallFailure Unit :=
  if !host.holds path then .error (.refused "No such file or directory")
  else if !host.isFile path then .error (.refused "Not a regular file")
  else if !host.isReadable path then .error (.refused "Permission denied")
  else .ok ()

/-- Takes an input. -/
def addInput (path : String) : EngineAction Unit :=
  .modify fun state => { state with inputs := state.inputs ++ [path] }

/-- Takes an object file. -/
def addObject (host : HostView) (path : String) : EngineAction Unit := do
  .ofExcept (checkObject host path)
  addInput path

/-- Takes a library under the file it is found in. -/
def addNamespec (settings : Settings) (host : HostView) (name : Value) : EngineAction Unit := do
  let file ← .ofExcept ((← .get).findLibrary host settings.staticOnly name)
  .log .debug source ("Namespec " ++ name.display ++ " resolved to " ++ file)
  addInput file

/-- Tells how a linker ended. Its own text is logged; a code other than 0 is a failure, which its
error text explains unless that is blank. -/
def tellExit (program : Value) : LinkerExit → EngineAction Unit
  | .undecodable detail => .fail (.fault (.undecodable detail))
  | .decoded code output errors => do
    if output ≠ "" then
      .log .info source (Text.strip output)
    if code ≠ 0 then
      refuse <|
        (given? (some (Text.strip errors))).getD
          (program.display ++ " exited with code " ++ toString code)

/-- Hands a command to the system and tells what became of it. -/
def runCommand (ran : LinkerRun) (command : Command) : EngineAction Unit :=
  match ran with
  | .rejected rejection => .fail (.fault (.rejected rejection))
  | .unstartable reason => do
    .emit (.start command)
    refuse ("Cannot run " ++ command.program.display ++ ": " ++ reason)
  | .started exit written => do
    .emit (.start command)
    written.forM fun file => .emit (.wrote file.1 file.2)
    tellExit command.program exit

/-- Links: runs the command, or prints it in a dry run. -/
def link (settings : Settings) (ran : LinkerRun) : EngineAction Unit := do
  match (← .get).command? settings with
  | none => refuse "Engine is not configured"
  | some composed =>
    let command ← .ofExcept (composed.mapError .fault)
    .log .debug source ("Running " ++ command.shellText)
    if settings.dryRun then
      .emit (.print (command.shellText ++ "\n"))
    else
      runCommand ran command

/-- The engine on a host on which this becomes of a command. -/
def engine (settings : Settings) (host : HostView) (ran : LinkerRun) : Engine State where
  perform
    | .configure configuration => configure configuration
    | .setOutput path => setOutput host path
    | .addObject path => addObject host path
    | .addNamespec name => addNamespec settings host name
    | .link => link settings ran

end LinkDriver.Gnu
