import LinkDriver.CommandLine.Opt

/-!
# The positions of link inputs

A second look at the command line finds where the object files and the namespecs stand. It gives
each argument a role from the arguments before it and a set of flags that take a value. `roles`
gives one role for each argument, so a position has one role and the positions of a role ascend.

The scan knows no clusters and takes every argument with a hyphen for an option; where it counts
other inputs than the reading of the command line, the positions are unknown.
-/

namespace LinkDriver.CommandLine

/-- The role of an argument: an object file, a library, the value of an option, or any other
option. -/
inductive Role where
  | object
  | library
  | value
  | other
  deriving DecidableEq, Repr

/-- The flag before a library. -/
def libraryFlag : String := "-l"

/-- Whether the next argument is skipped as the value of this one. -/
def skipsNext (flags : List String) (argument : String) : Bool :=
  isOptionLike argument && flags.contains argument &&
    !(isLong argument && argument.toList.contains '=')

/-- The role of an argument that is neither skipped nor the end of the options. -/
def role (flags : List String) (argument : String) : Role :=
  if !isOptionLike argument then .object
  else if isLong argument then .other
  else if flags.contains argument then if argument = libraryFlag then .library else .other
  else if libraryFlag.toList.isPrefixOf argument.toList then .library
  else .other

/-- The roles of all arguments. -/
def roles (flags : List String) : List String → List Role
  | [] => []
  | argument :: rest =>
    if argument = endOfOptions then .other :: rest.map fun _ => .object
    else
      role flags argument ::
        if skipsNext flags argument then
          match rest with
          | [] => []
          | _ :: others => .value :: roles flags others
        else roles flags rest

/-- The positions of a role in a list of roles, the first of which has the given position. -/
def positionsFrom (wanted : Role) : Nat → List Role → List Nat
  | _, [] => []
  | position, found :: rest =>
    if found = wanted then position :: positionsFrom wanted (position + 1) rest
    else positionsFrom wanted (position + 1) rest

/-- The positions at which a role stands on a command line. -/
def positions (wanted : Role) (flags arguments : List String) : List Nat :=
  positionsFrom wanted 1 (roles flags arguments)

end LinkDriver.CommandLine
