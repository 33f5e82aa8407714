import LinkDriver.HostListing
import LinkDriver.Session

/-!
# The command line program

The host is read as a listing from the standard input, and the arguments are those of the program.
The program starts no process and writes no file: the commands it would start are printed for a
shell, and the texts of the reports are printed under their paths.
-/

namespace LinkDriver

/-- The lines of a stream, without the newlines at their ends. -/
partial def readLines (stream : IO.FS.Stream) (lines : List String) : IO (List String) := do
  let line ← stream.getLine
  if line.isEmpty then
    return lines.reverse
  readLines stream (String.ofList (CommandLine.withoutNewline line.toList) :: lines)

/-- The status of the program, and what it tells of a failure that left the link. -/
def statusOf : Ending → UInt32 × String
  | .returned => (0, "")
  | .exited status => (status.toUInt32, "")
  | .failed (.driver error) => (1, error.message ++ "\n")
  | .failed (.fault fault) => (1, fault.name ++ ": " ++ fault.message ++ "\n")

/-- Runs the program on the host that standard input lists. -/
def runProgram (arguments : List String) : IO UInt32 := do
  let stdin ← IO.getStdin
  match HostListing.host? (← readLines stdin []) with
  | none =>
    IO.eprintln "the listing of the host has an unknown word"
    return 2
  | some host =>
    let transcript := Session.program host (.finished 0 "" "") arguments
    let (status, failure) := statusOf transcript.ending
    IO.print transcript.output
    for command in transcript.commands do
      IO.println command.shellText
    for file in transcript.files do
      IO.println (Path.ofPlace file.1)
      IO.print file.2
    IO.eprint (transcript.console ++ failure)
    return status

end LinkDriver

def main (arguments : List String) : IO UInt32 :=
  LinkDriver.runProgram arguments
