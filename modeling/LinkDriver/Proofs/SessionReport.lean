import LinkDriver.Proofs.CommandLine.ReportFiles
import LinkDriver.Proofs.OutputDecision
import LinkDriver.Proofs.Session
import LinkDriver.Proofs.TextReport

/-!
# What the report of a session tells

The text report of a session is written in three places: its header before the link, its sections
during it, and its error behind it. Read `text_report_tells` first: together they tell what the
session did. The report has sections exactly if everything was determined that is needed to call the
engine, and `SectionsTell` compares them with the calls that were then made. The file of the report
has this text unless a linker writes to it, or it is no regular one (`Keeps`).
-/

namespace LinkDriver.Session

open LinkDriver.Action CommandLine

variable {σ : Type} {host : HostView} {engine : Engine σ} {arguments : Arguments}
  {commandLine : List String} {state : σ}

/-! ## The link of a session -/

/-- A report that goes to the file of the output is lost to what the linker writes there. -/
example :
    let host := (Host.new (some "/work")).withFile ["work", "a.o"]
    let ran := Gnu.LinkerRun.started (.decoded 0 "" "") [(["work", "out"], "ELF")]
    (linkGnu host ran ["--text-report", "out", "-o", "out", "a.o"]).files =
      [(["work", "out"], "ELF")] := by
  decide +kernel

end LinkDriver.Session
