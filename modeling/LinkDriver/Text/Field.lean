/-!
# Fields of a fixed width

Widths count characters. A text that is longer than its field is written whole, unless the field
also cuts.
-/

namespace LinkDriver.Text

/-- A text moved to the right end of a field of at least `width` characters. -/
def alignRight (width : Nat) (text : String) : String :=
  String.ofList (List.replicate (width - text.length) ' ') ++ text

/-- A text cut to at most `width` characters. -/
def cut (width : Nat) (text : String) : String :=
  String.ofList (text.toList.take width)

end LinkDriver.Text
