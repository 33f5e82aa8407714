import LinkDriver.Text.Printable

/-!
# Literals

Messages, reports and log lines show values as literals. A text stands between single quotes, or
between double quotes when it holds a single quote and no double quote; a backslash, the quote in
use and every character that is not printable are escaped. Lists stand in brackets, tuples in
parentheses.
-/

namespace LinkDriver.Literal

/-- The backslash, with which every escape begins. -/
def backslash : Char := '\x5c'

/-- The single quote, around most texts. -/
def singleQuote : Char := '\x27'

/-- The double quote, around texts that hold a single quote and no double quote. -/
def doubleQuote : Char := '\x22'

/-- The hexadecimal digit of a number below sixteen. -/
def hexDigit (n : Nat) : Char :=
  Char.ofNat (if n < 10 then 0x30 + n else 0x57 + n)

/-- The last `width` hexadecimal digits of a number, the most significant one first. -/
def hexDigits : Nat → Nat → List Char
  | 0, _ => []
  | width + 1, n => hexDigits width (n / 16) ++ [hexDigit (n % 16)]

/-- The escape of a character by its number, in the shortest of the three forms that fits. -/
def numericEscape (n : Nat) : List Char :=
  if n < 0x100 then backslash :: 'x' :: hexDigits 2 n
  else if n < 0x10000 then backslash :: 'u' :: hexDigits 4 n
  else backslash :: 'U' :: hexDigits 8 n

/-- How a character is written in a text between the given quotes. -/
def escape (quote c : Char) : List Char :=
  if c = backslash ∨ c = quote then [backslash, c]
  else if c = '\n' then [backslash, 'n']
  else if c = '\r' then [backslash, 'r']
  else if c = '\t' then [backslash, 't']
  else if Text.isPrintable c then [c]
  else numericEscape c.toNat

/-- The quotes that stand around a text. -/
def quoteFor (text : List Char) : Char :=
  if singleQuote ∈ text ∧ doubleQuote ∉ text then doubleQuote else singleQuote

/-- The characters of a text's literal. -/
def quoted (text : List Char) : List Char :=
  quoteFor text :: text.flatMap (escape (quoteFor text)) ++ [quoteFor text]

/-- The literal of a text. -/
def ofText (text : String) : String :=
  String.ofList (quoted text.toList)

/-- The literal of a truth value. -/
def ofBool : Bool → String
  | true => "True"
  | false => "False"

/-- The literal of a value that may be absent. -/
def ofOption {α : Type} (literal : α → String) : Option α → String
  | none => "None"
  | some a => literal a

/-- The literal of a list. -/
def ofList {α : Type} (literal : α → String) (items : List α) : String :=
  "[" ++ ", ".intercalate (items.map literal) ++ "]"

/-- The literal of a tuple; a single member is followed by a comma. -/
def ofTuple {α : Type} (literal : α → String) : List α → String
  | [] => "()"
  | [a] => "(" ++ literal a ++ ",)"
  | items => "(" ++ ", ".intercalate (items.map literal) ++ ")"

end LinkDriver.Literal
