import LinkDriver.CommandLine.Opt
import LinkDriver.Host

/-!
# Complaints about the command line

A complaint is a command line that is rejected before any link is attempted.
-/

namespace LinkDriver.CommandLine

/-- Why a command line is rejected. -/
inductive Complaint where
  | valueExpected (opt : Opt)
  | valueIgnored (opt : Opt) (attached : String)
  | repeated (opt : Opt)
  | levelInvalid (text : String)
  | notOpened (opt : Opt) (path : String) (refusal : OpenRefusal)
  | unrecognized (arguments : List String)
  | objectsMissing
  deriving DecidableEq, Repr

namespace Complaint

/-- A complaint about one option. -/
def about (opt : Opt) (text : String) : String :=
  "argument " ++ opt.label ++ ": " ++ text

/-- The message of a complaint. -/
def message : Complaint → String
  | valueExpected opt => about opt "expected one argument"
  | valueIgnored opt attached =>
    about opt ("ignored explicit argument " ++ Literal.ofText attached)
  | repeated opt => about opt "Cannot give multiple"
  | levelInvalid text => about .log ("invalid log_level value: " ++ Literal.ofText text)
  | notOpened opt path refusal =>
    about opt ("can\x27t open \x27" ++ path ++ "\x27: " ++ refusal.message path)
  | unrecognized arguments => "unrecognized arguments: " ++ " ".intercalate arguments
  | objectsMissing => "the following arguments are required: obj"

end Complaint

end LinkDriver.CommandLine
