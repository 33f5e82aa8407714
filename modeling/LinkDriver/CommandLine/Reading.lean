import LinkDriver.CommandLine.Complaint
import LinkDriver.CommandLine.Token
import LinkDriver.Value

/-!
# Reading a command line

`read` turns the arguments before the end of the options into operands, unknown options and
occurrences of options, each with the position of its argument. A flag with one hyphen may run on:
the text attached to it is read as further options of one letter, of which the last may take a
value. Reading stops at the first argument that is malformed.
-/

namespace LinkDriver.CommandLine

/-- How an occurrence of an option came by its value. -/
inductive Argument where
  | absent
  | attached (value : Value)
  | separate (value : String)
  deriving DecidableEq, Repr

/-- An occurrence of an option: the position of its argument, whether it was reached by running on
from a flag, and its own value. -/
structure Occurrence where
  opt : Opt
  position : Nat
  clustered : Bool
  argument : Argument
  deriving DecidableEq, Repr

/-- The value of an occurrence. A flag has none, and its value counts as blank. -/
def Occurrence.value (occurrence : Occurrence) : Value :=
  match occurrence.argument with
  | .absent => .blank
  | .attached value => value
  | .separate value => .text value

/-- What an argument, or an option with a separate value, is read as. -/
inductive Element where
  | operand (position : Nat) (text : String)
  | unknown (text : String)
  | use (occurrence : Occurrence)
  deriving DecidableEq, Repr

/-- What a command line is read as: its elements up to the first malformed argument, and the
complaint about that argument. -/
structure Reading where
  elements : List Element
  complaint : Option Complaint
  deriving DecidableEq, Repr

/-- A reading with elements before it. -/
def Reading.after (reading : Reading) (elements : List Element) : Reading :=
  { reading with elements := elements ++ reading.elements }

/-- The options in one argument: the flags that ran on, the last option, and the text attached to
it. -/
structure Cluster where
  flags : List Opt
  last : Opt
  attached : Option String
  deriving DecidableEq, Repr

/-- A cluster behind one more flag. -/
def Cluster.behind (flag : Opt) (cluster : Cluster) : Cluster :=
  { cluster with flags := flag :: cluster.flags }

/-- The elements of a cluster, given the value of its last option. -/
def Cluster.elements (cluster : Cluster) (position : Nat) (argument : Argument) : List Element :=
  match cluster.flags with
  | [] => [.use ⟨cluster.last, position, false, argument⟩]
  | first :: others =>
    .use ⟨first, position, false, .absent⟩ ::
      others.map (fun flag => .use ⟨flag, position, true, .absent⟩) ++
        [.use ⟨cluster.last, position, true, argument⟩]

/-- Runs on through the text attached to an option of one hyphen. -/
def runOn (opt : Opt) : List Char → Except Complaint Cluster
  | [] => .ok ⟨[], opt, none⟩
  | c :: rest =>
    if opt.takesValue then .ok ⟨[], opt, some (String.ofList (c :: rest))⟩
    else
      match Opt.ofSpelling? (String.ofList ['-', c]) with
      | none => .error (.valueIgnored opt (String.ofList (c :: rest)))
      | some next => (runOn next rest).map (Cluster.behind opt)

/-- The options in an argument that uses an option. A flag with two hyphens cannot run on, and
nothing runs on through an empty text. -/
def cluster (opt : Opt) (long : Bool) (attached : Option String) : Except Complaint Cluster :=
  match attached with
  | none => .ok ⟨[], opt, none⟩
  | some text =>
    if opt.takesValue then .ok ⟨[], opt, some text⟩
    else if long || text == "" then .error (.valueIgnored opt text)
    else runOn opt text.toList

/-- The value that an attached text gives. Two hyphens alone end the options, and leave a blank. -/
def attachedValue (text : String) : Value :=
  if text = endOfOptions then .blank else .text text

/-- Reads arguments, the first of which has the given position. -/
def read : Nat → List String → Reading
  | _, [] => ⟨[], none⟩
  | position, argument :: rest =>
    match classify argument with
    | .operand => (read (position + 1) rest).after [.operand position argument]
    | .unknown => (read (position + 1) rest).after [.unknown argument]
    | .use opt long attached =>
      match cluster opt long attached with
      | .error complaint => ⟨[], some complaint⟩
      | .ok options =>
        if options.last.takesValue then
          match options.attached with
          | some text =>
            (read (position + 1) rest).after
              (options.elements position (.attached (attachedValue text)))
          | none =>
            match rest with
            | [] => ⟨[], some (.valueExpected options.last)⟩
            | value :: others =>
              if classify value = .operand then
                (read (position + 2) others).after (options.elements position (.separate value))
              else ⟨[], some (.valueExpected options.last)⟩
        else (read (position + 1) rest).after (options.elements position .absent)

namespace Reading

/-- The occurrences of options in their order. -/
def occurrences (reading : Reading) : List Occurrence :=
  reading.elements.filterMap fun
    | .use occurrence => some occurrence
    | _ => none

/-- The operands in their order. -/
def operands (reading : Reading) : List String :=
  reading.elements.filterMap fun
    | .operand _ text => some text
    | _ => none

/-- What is neither an option nor the value of one: each text, and whether it is an operand. -/
def leftovers (reading : Reading) : List (String × Bool) :=
  reading.elements.filterMap fun
    | .operand _ text => some (text, true)
    | .unknown text => some (text, false)
    | .use _ => none

/-- The leftovers that are not taken as object files. The operands are taken up to the first
unknown option that follows one. -/
def surplus (reading : Reading) : List String :=
  let unknownFirst := reading.leftovers.takeWhile fun leftover => !leftover.2
  let others := (reading.leftovers.dropWhile fun leftover => !leftover.2).dropWhile (·.2)
  (unknownFirst ++ others).map (·.1)

end Reading

end LinkDriver.CommandLine
