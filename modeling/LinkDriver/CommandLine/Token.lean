import LinkDriver.CommandLine.Opt
import LinkDriver.Text.DecimalDigit

/-!
# The class of an argument

Each argument before the end of the options is an operand, a use of an option, or an unknown
option. The class depends on the argument alone.

An argument that begins with a hyphen is still an operand if it is a single hyphen, a negative
number, or has a space in it, unless it reads as a use of an option.

Arguments are texts of Unicode scalar values. The system may also hand over bytes that are no such
text, as in the name of a file in another encoding; these are left out.
-/

namespace LinkDriver.CommandLine

/-- The class of an argument. A use of an option says whether the spelling begins with two hyphens,
and which text is attached to it. -/
inductive Token where
  | operand
  | unknown
  | use (opt : Opt) (long : Bool) (attached : Option String)
  deriving DecidableEq, Repr

/-- The parts of a text before and behind its first equals sign. -/
def splitEquals? (text : String) : Option (String × String) :=
  match text.toList.dropWhile (· != '=') with
  | [] => none
  | _ :: value => some (String.ofList (text.toList.takeWhile (· != '=')), String.ofList value)

/-- A text without one newline at its end. -/
def withoutNewline (text : List Char) : List Char :=
  if text.getLast? = some '\n' then text.dropLast else text

/-- Whether a text is a number: decimal digits with at most one point, and a digit at the end. -/
def isNumber (text : List Char) : Bool :=
  match text.dropWhile Text.isDecimalDigit with
  | [] => text ≠ []
  | '.' :: fraction => fraction ≠ [] && fraction.all Text.isDecimalDigit
  | _ => false

/-- Whether a text is a hyphen followed by a number, and perhaps by a newline. -/
def isNegativeNumber (text : String) : Bool :=
  match withoutNewline text.toList with
  | '-' :: number => isNumber number
  | _ => false

/-- A use of an option whose value follows an equals sign. -/
def useWithEquals? (text : String) : Option Token :=
  match splitEquals? text with
  | none => none
  | some (spelling, value) =>
    (Opt.ofSpelling? spelling).map fun opt => .use opt (isLong spelling) (some value)

/-- A use of an option of one letter with all the rest attached, or the start of a longer spelling
with one hyphen. -/
def useOfLetter? (text : String) : Option Token :=
  if isLong text then none
  else
    match Opt.ofSpelling? (String.ofList (text.toList.take 2)) with
    | some opt => some (.use opt false (some (String.ofList (text.toList.drop 2))))
    | none =>
      (Opt.all.find? fun opt =>
          opt.spellings.any fun spelling => text.toList.isPrefixOf spelling.toList).map
        fun opt => .use opt false none

/-- The class of an argument that begins with a hyphen and is no spelling of an option. -/
def classifyDashed (text : String) : Token :=
  match (useWithEquals? text).or (useOfLetter? text) with
  | some use => use
  | none => if isNegativeNumber text || text.toList.contains ' ' then .operand else .unknown

/-- The class of an argument. -/
def classify (text : String) : Token :=
  if !isOptionLike text then .operand
  else
    match Opt.ofSpelling? text with
    | some opt => .use opt (isLong text) none
    | none => classifyDashed text

end LinkDriver.CommandLine
