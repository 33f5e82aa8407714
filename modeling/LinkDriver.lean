import LinkDriver.Main
import LinkDriver.Proofs.CommandLine.Rendering
import LinkDriver.Proofs.CommandLine.ScannedInputs
import LinkDriver.Proofs.CommandLine.Tails
import LinkDriver.Proofs.CommandLine.Texts
import LinkDriver.Proofs.MergedPlan
import LinkDriver.Proofs.ShellWords
import LinkDriver.Proofs.Exchange
import LinkDriver.Proofs.Protocol
import LinkDriver.Proofs.Engine.Gnu
import LinkDriver.Proofs.Engine.IssuedCommand
import LinkDriver.Proofs.Engine.Preparation
import LinkDriver.Proofs.DryRun
import LinkDriver.Proofs.Faults
import LinkDriver.Proofs.PassedFiles
import LinkDriver.Proofs.Engine.CommandParts
import LinkDriver.Proofs.Engine.LibrarySearch
import LinkDriver.Proofs.Engine.Sysroot
import LinkDriver.Proofs.Outcome
import LinkDriver.Proofs.OutputDecision
import LinkDriver.Proofs.Engine.CallRecord
import LinkDriver.Proofs.Engine.CallLog
import LinkDriver.Proofs.Engine.DefaultOutput
import LinkDriver.Proofs.CommandLine.ReportFiles
import LinkDriver.Proofs.TextReport
import LinkDriver.Proofs.InputsSection
import LinkDriver.Proofs.SessionReport
import LinkDriver.Proofs.Engine.NewOutput
import LinkDriver.Proofs.Engine.StaticSearch
