import LinkDriver.Proofs.Literal
import LinkDriver.Report

/-!
# The lines of the inputs in a report

`lines` takes a text apart at every line break of Unicode. The line of an input, `inputLine`, holds
none of them, for all of it is printable (`printable_inputLine`). So such lines, each ended by a
newline, can be read back (`lines_join`), and the rows that are written of inputs are one line for
each of them (`lines_inputRows`).
-/

namespace LinkDriver

/-! ## Lines -/

/-- The characters that end a line. -/
def lineBreaks : List Char :=
  ['\n', '\x0b', '\x0c', '\r', '\x1c', '\x1d', '\x1e', '\x85', '\u2028', '\u2029']

/-- Takes a text apart into lines, where `begun` is what is read of the first one. A carriage return
and a newline behind it end one line, and no line stands behind the last break. -/
def linesFrom (begun : List Char) : List Char → List (List Char)
  | [] => if begun = [] then [] else [begun]
  | '\r' :: '\n' :: rest => begun :: linesFrom [] rest
  | c :: rest =>
    if c ∈ lineBreaks then begun :: linesFrom [] rest else linesFrom (begun ++ [c]) rest

/-- The lines of a text, without their breaks. -/
def lines (text : String) : List String :=
  (linesFrom [] text.toList).map String.ofList

/-- No line break is printable. -/
theorem Printable.unbroken {text : String} (h : Printable text) :
    ∀ c ∈ text.toList, c ∉ lineBreaks := by
  have hbreaks : lineBreaks.all (fun c => !Text.isPrintable c) = true := by decide +kernel
  intro c hmem hbreak
  have hc := List.all_eq_true.mp hbreaks c hbreak
  rw [h c hmem] at hc
  exact absurd hc (by decide)

/-- A text without a break in it is read up to the newline that ends it. -/
theorem linesFrom_unbroken {line : List Char} (h : ∀ c ∈ line, c ∉ lineBreaks)
    (begun rest : List Char) :
    linesFrom begun (line ++ '\n' :: rest) = (begun ++ line) :: linesFrom [] rest := by
  induction line generalizing begun with
  | nil => simp [linesFrom, lineBreaks]
  | cons c others ih =>
      obtain ⟨hc, hothers⟩ := List.forall_mem_cons.mp h
      have hreturn : c ≠ '\r' := by
        rintro rfl
        exact hc (by decide)
      have hstep : linesFrom begun (c :: (others ++ '\n' :: rest)) =
          linesFrom (begun ++ [c]) (others ++ '\n' :: rest) := by
        rw [linesFrom, if_neg hc]
        exact fun _ hc => absurd hc hreturn
      rw [List.cons_append, hstep, ih hothers, List.append_assoc, List.singleton_append]

/-- Printable texts, each ended by a newline, are the lines of what they make. -/
theorem lines_join {pieces : List String} (h : ∀ piece ∈ pieces, Printable piece) :
    lines (String.join (pieces.map fun piece => piece ++ "\n")) = pieces := by
  unfold lines
  induction pieces with
  | nil => rfl
  | cons piece rest ih =>
      obtain ⟨hpiece, hrest⟩ := List.forall_mem_cons.mp h
      have htext : (String.join ((piece :: rest).map fun piece => piece ++ "\n")).toList =
          piece.toList ++ '\n' :: (String.join (rest.map fun piece => piece ++ "\n")).toList := by
        simp [String.join_cons]
      rw [htext, linesFrom_unbroken hpiece.unbroken, List.map_cons, ih hrest, List.nil_append,
        String.ofList_toList]

/-! ## The line of an input -/

/-- The line of an input in a report: its position, moved to the right, and its literal. -/
def inputLine (item : Item) : String :=
  Text.alignRight 4 (toString item.position) ++ " " ++ item.literal

/-- A position is written with digits, behind a hyphen if it is negative. -/
theorem mem_position {position : Int} {c : Char} (h : c ∈ (toString position).toList) :
    c = '-' ∨ c.isDigit = true := by
  have hnat : ∀ n : Nat, c ∈ n.repr.toList → c.isDigit = true := by
    intro n hmem
    rw [Nat.toList_repr] at hmem
    exact Nat.isDigit_of_mem_toDigits (by decide) (by decide) hmem
  rw [Int.toString_eq_repr, Int.repr_eq_if] at h
  split at h
  · exact .inr (hnat _ h)
  · rw [String.toList_append] at h
    rcases List.mem_append.mp h with hmem | hmem
    · exact .inl (List.mem_singleton.mp hmem)
    · exact .inr (hnat _ hmem)

theorem printable_position (position : Int) : Printable (toString position) := by
  intro c hmem
  rcases mem_position hmem with rfl | hdigit
  · decide
  · simp only [Char.isDigit, Bool.and_eq_true, decide_eq_true_eq, UInt32.le_iff_toNat_le] at hdigit
    have hrange : 0x20 ≤ c.toNat ∧ c.toNat ≤ 0x7e :=
      ⟨Nat.le_trans (by decide) hdigit.1, Nat.le_trans hdigit.2 (by decide)⟩
    simp [Text.isPrintable, hrange]

theorem Item.printable_literal (item : Item) : Printable item.literal := by
  cases item with
  | object file =>
      have hstart : Printable ("ObjectFile(position=" ++ toString file.position ++ ", path=") :=
        (Printable.append (by decide) (printable_position file.position)).append (by decide)
      exact (hstart.append (Literal.printable_ofText file.path)).append (by decide)
  | namespec spec =>
      have hstart : Printable ("NameSpec(position=" ++ toString spec.position ++ ", name=") :=
        (Printable.append (by decide) (printable_position spec.position)).append (by decide)
      exact (hstart.append spec.name.printable_literal).append (by decide)

/-- All of a line is printable. -/
theorem printable_inputLine (item : Item) : Printable (inputLine item) := by
  have hspaces : ∀ width, Printable (String.ofList (List.replicate width ' ')) := by
    intro width c hmem
    rw [String.toList_ofList] at hmem
    rw [List.eq_of_mem_replicate hmem]
    decide
  have hcolumn : Printable (Text.alignRight 4 (toString item.position)) :=
    (hspaces _).append (printable_position item.position)
  exact (hcolumn.append (by decide)).append item.printable_literal

/-! ## The section of the inputs -/

/-- What is written of inputs, behind the heading. -/
def inputRows (items : List Item) : String :=
  String.join (items.map fun item => inputLine item ++ "\n")

theorem ReportEntry.render_inputs (items : List Item) :
    (ReportEntry.inputs items).render = "\nInputs\n------\n\n" ++ inputRows items := by
  have hheading : headingText 2 "Inputs" = "\nInputs\n------\n\n" := by decide
  rw [render, hheading]
  rfl

/-- There is one line for each input. -/
theorem lines_inputRows (items : List Item) : lines (inputRows items) = items.map inputLine := by
  have hrows : inputRows items =
      String.join ((items.map inputLine).map fun line => line ++ "\n") := by
    rw [inputRows, List.map_map]
    rfl
  rw [hrows]
  refine lines_join ?_
  intro line hmem
  obtain ⟨item, -, rfl⟩ := List.mem_map.mp hmem
  exact printable_inputLine item

end LinkDriver
