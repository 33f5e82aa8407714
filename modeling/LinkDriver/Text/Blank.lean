import LinkDriver.Text.CharRange

/-!
# Blank characters

The characters that `strip` removes at both ends of a text: the blanks of ASCII with the four
information separators, the next-line control, and the spaces and line separators of Unicode. The
zero-width space is not one of them.
-/

namespace LinkDriver.Text

/-- The blank characters, by ascending code point. -/
def blanks : List (Nat × Nat) :=
  [(0x9, 0xd), (0x1c, 0x20), (0x85, 0x85), (0xa0, 0xa0), (0x1680, 0x1680), (0x2000, 0x200a),
   (0x2028, 0x2029), (0x202f, 0x202f), (0x205f, 0x205f), (0x3000, 0x3000)]

/-- Whether a character counts as blank. -/
def isBlank (c : Char) : Bool :=
  inRanges blanks c

/-- Removes the elements for which `drop` holds from both ends of a list. -/
def trim (drop : Char → Bool) (text : List Char) : List Char :=
  ((text.dropWhile drop).reverse.dropWhile drop).reverse

/-- A text without the blanks at its two ends. -/
def strip (text : String) : String :=
  String.ofList (trim isBlank text.toList)

end LinkDriver.Text
