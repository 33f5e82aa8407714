import LinkDriver.Value

/-!
# Shell words

A command is printed so that it can be pasted into a shell: its words are separated by spaces, and
a word that the shell could read in another way stands between single quotes.
-/

namespace LinkDriver.Shell

/-- The characters besides letters and digits of ASCII that need no quotes. -/
def plainMarks : List Char :=
  ['_', '@', '%', '+', '=', ':', ',', '.', '/', '-']

/-- Whether a character stands for itself outside quotes. -/
def isPlain (c : Char) : Bool :=
  c.isAlphanum || plainMarks.contains c

/-- How a character is written between single quotes. A single quote closes them, stands between
double quotes, and opens them again. -/
def quotedChar (c : Char) : List Char :=
  if c = '\x27' then ['\x27', '\x22', '\x27', '\x22', '\x27'] else [c]

/-- The characters of a word as the shell reads it back. The empty word is a pair of quotes. -/
def quoteChars (word : List Char) : List Char :=
  if word ≠ [] ∧ word.all isPlain then word
  else '\x27' :: word.flatMap quotedChar ++ ['\x27']

/-- A word as the shell reads it back. -/
def quote (word : String) : String :=
  String.ofList (quoteChars word.toList)

/-- A command line for the shell. -/
def quoteCommand (words : List String) : String :=
  " ".intercalate (words.map quote)

end LinkDriver.Shell
