import LinkDriver.CommandLine.Reading
import LinkDriver.Engine.Gnu
import LinkDriver.Log

/-!
# The arguments of a link

Occurrences of options are taken one by one into the arguments of the link. Taking one may open a
file for a report, ask for the help or the version, or be rejected; the files that were opened
before stay open. `parse` reads a whole command line.
-/

namespace LinkDriver.CommandLine

/-- Where a report goes: nowhere, to the standard output, or to a file, with its name as given and
its number among the files that were opened. -/
inductive Destination where
  | nowhere
  | standardOutput
  | file (name : String) (number : Nat)
  deriving DecidableEq, Repr

/-- What a command line says. A level that was given blank is absent. -/
structure Arguments where
  objects : List String
  libraries : List Value
  searchDirs : List Value
  sysroot : Option Value
  soname : Option Value
  dynamicLinker : Option Value
  shared : Bool
  symbolic : Bool
  wraps : List Value
  portables : List Value
  target : Value
  linker : Value
  static : Bool
  dryRun : Bool
  log : Option Level
  report : Option Destination
  textReport : Option Destination
  verbose : Nat
  output : Option Value
  deriving DecidableEq, Repr

/-- What an empty command line says. -/
def Arguments.initial : Arguments where
  objects := []
  libraries := []
  searchDirs := []
  sysroot := none
  soname := none
  dynamicLinker := none
  shared := false
  symbolic := true
  wraps := []
  portables := []
  target := .text defaultTarget
  linker := .text Gnu.defaultProgram
  static := false
  dryRun := false
  log := some .info
  report := none
  textReport := none
  verbose := 0
  output := none

/-- Why no link follows a command line. -/
inductive Exit where
  | help
  | version
  | rejected (complaint : Complaint)
  deriving DecidableEq, Repr

/-- The arguments taken so far, the host, and the places of the files that were opened on it. -/
structure Progress where
  host : Host
  files : List (List String)
  arguments : Arguments

namespace Progress

/-- Nothing is taken yet. -/
def start (host : Host) : Progress where
  host := host
  files := []
  arguments := .initial

/-- Takes an occurrence into the arguments. -/
def update (progress : Progress) (change : Arguments → Arguments) : Progress × Option Exit :=
  ({ progress with arguments := change progress.arguments }, none)

/-- Rejects an occurrence. -/
def reject (progress : Progress) (complaint : Complaint) : Progress × Option Exit :=
  (progress, some (.rejected complaint))

/-- Takes an option that may be given once. -/
def once {α : Type} (progress : Progress) (opt : Opt) (current : Arguments → Option α)
    (change : Arguments → Arguments) : Progress × Option Exit :=
  if (current progress.arguments).isSome then progress.reject (.repeated opt)
  else progress.update change

/-- Opens the file that a report is to go to. -/
def openReport (progress : Progress) : Value → Except (String × OpenRefusal) (Progress × Destination)
  | .blank => .ok (progress, .nowhere)
  | .text path =>
    if path = "-" then .ok (progress, .standardOutput)
    else
      match progress.host.create path with
      | .error refusal => .error (path, refusal)
      | .ok (host, place) =>
        .ok ({ progress with host := host, files := progress.files ++ [place] },
          .file path progress.files.length)

/-- Takes a report, which may be given once. Its file is opened before that is checked. -/
def takeReport (progress : Progress) (opt : Opt) (value : Value)
    (current : Arguments → Option Destination) (change : Destination → Arguments → Arguments) :
    Progress × Option Exit :=
  match progress.openReport value with
  | .error (path, refusal) => progress.reject (.notOpened opt path refusal)
  | .ok (opened, destination) => opened.once opt current (change destination)

/-- Takes the level of the console. -/
def takeLevel (progress : Progress) : Value → Progress × Option Exit
  | .blank => progress.update fun arguments => { arguments with log := none }
  | .text name =>
    match Level.read? name with
    | none => progress.reject (.levelInvalid name)
    | some level => progress.update fun arguments => { arguments with log := some level }

/-- Takes one occurrence of an option. -/
def take (progress : Progress) (occurrence : Occurrence) : Progress × Option Exit :=
  let value := occurrence.value
  match occurrence.opt with
  | .help => (progress, some .help)
  | .version => (progress, some .version)
  | .log => progress.takeLevel value
  | .report =>
    progress.takeReport .report value (·.report) fun destination arguments =>
      { arguments with report := some destination }
  | .textReport =>
    progress.takeReport .textReport value (·.textReport) fun destination arguments =>
      { arguments with textReport := some destination }
  | .verbose => progress.update fun arguments => { arguments with verbose := arguments.verbose + 1 }
  | .output =>
    progress.once .output (·.output) fun arguments => { arguments with output := some value }
  | .library =>
    progress.update fun arguments => { arguments with libraries := arguments.libraries ++ [value] }
  | .searchDir =>
    progress.update fun arguments => { arguments with searchDirs := arguments.searchDirs ++ [value] }
  | .sysroot =>
    progress.once .sysroot (·.sysroot) fun arguments => { arguments with sysroot := some value }
  | .soname =>
    progress.once .soname (·.soname) fun arguments => { arguments with soname := some value }
  | .dynamicLinker =>
    progress.once .dynamicLinker (·.dynamicLinker) fun arguments =>
      { arguments with dynamicLinker := some value }
  | .shared => progress.update fun arguments => { arguments with shared := true }
  | .symbolic => progress.update fun arguments => { arguments with symbolic := true }
  | .noSymbolic => progress.update fun arguments => { arguments with symbolic := false }
  | .wrap =>
    progress.update fun arguments => { arguments with wraps := arguments.wraps ++ [value] }
  | .portable =>
    progress.update fun arguments => { arguments with portables := arguments.portables ++ [value] }
  | .target => progress.update fun arguments => { arguments with target := value }
  | .linker => progress.update fun arguments => { arguments with linker := value }
  | .static => progress.update fun arguments => { arguments with static := true }
  | .dryRun => progress.update fun arguments => { arguments with dryRun := true }

/-- Takes occurrences in their order until one of them ends the command line. -/
def takeAll : Progress → List Occurrence → Progress × Option Exit
  | progress, [] => (progress, none)
  | progress, occurrence :: rest =>
    match progress.take occurrence with
    | (next, none) => takeAll next rest
    | stopped => stopped

end Progress

/-- A command line that was parsed: the host with the files that were opened on it, and the
arguments or the reason why no link follows. -/
structure Parsed where
  host : Host
  files : List (List String)
  result : Except Exit Arguments

/-- The arguments before the end of the options. -/
def beforeEnd (commandLine : List String) : List String :=
  commandLine.takeWhile (· ≠ endOfOptions)

/-- The arguments behind the end of the options, all of them object files. -/
def behindEnd (commandLine : List String) : List String :=
  (commandLine.dropWhile (· ≠ endOfOptions)).drop 1

/-- The arguments of a command line that was read to its end: unknown options are rejected, and so
is the lack of object files. -/
def settle (arguments : Arguments) (reading : Reading) (behind : List String) :
    Except Exit Arguments :=
  match reading.complaint with
  | some complaint => .error (.rejected complaint)
  | none =>
    if reading.surplus ≠ [] then .error (.rejected (.unrecognized reading.surplus))
    else if reading.operands ++ behind = [] then .error (.rejected .objectsMissing)
    else .ok { arguments with objects := reading.operands ++ behind }

/-- Parses a command line. What an option does comes before any complaint about a later
argument. -/
def parse (host : Host) (commandLine : List String) : Parsed :=
  let reading := read 1 (beforeEnd commandLine)
  let taken := (Progress.start host).takeAll reading.occurrences
  { host := taken.1.host
    files := taken.1.files
    result :=
      match taken.2 with
      | some exit => .error exit
      | none => settle taken.1.arguments reading (behindEnd commandLine) }

end LinkDriver.CommandLine
