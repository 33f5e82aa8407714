import LinkDriver.Proofs.InputLines

/-!
# What the inputs section of a report tells

Read `inputs_section_determines_plan` first: the section of a report on the inputs has one line for
each of them, and plans with one section are equal. The position of an input is the first word of
its line (`firstWord_inputLine`), and what stands behind it is the literal, which shows the rest
(`Item.eq_of_literal`).
-/

namespace LinkDriver

/-! ## The line of an input -/

/-- The first word of a text, behind the spaces at its beginning. -/
def firstWord (text : String) : List Char :=
  (text.toList.dropWhile (· = ' ')).takeWhile (· ≠ ' ')

theorem space_not_mem_position (position : Int) : ' ' ∉ (toString position).toList := by
  intro hmem
  rcases mem_position hmem with hspace | hspace <;> exact absurd hspace (by decide)

theorem position_ne_nil (position : Int) : (toString position).toList ≠ [] := by
  intro hnil
  have hempty := String.toList_eq_nil_iff.mp hnil
  rw [Int.toString_eq_repr, Int.repr_eq_if] at hempty
  split at hempty
  · exact Nat.repr_ne_empty hempty
  · exact absurd hempty (by simp)

/-- Numbers are read back from their digits. -/
theorem eq_of_repr {number other : Nat} (h : number.repr = other.repr) : number = other := by
  have hdigits : Nat.toDigits 10 number = Nat.toDigits 10 other := by
    rw [← Nat.toList_repr, h, Nat.toList_repr]
  calc number
      = Nat.ofDigitChars 10 (Nat.toDigits 10 number) 0 :=
        (Nat.ofDigitChars_toDigits (by decide) (by decide)).symm
    _ = Nat.ofDigitChars 10 (Nat.toDigits 10 other) 0 := by rw [hdigits]
    _ = other := Nat.ofDigitChars_toDigits (by decide) (by decide)

/-- No number is written with a hyphen in front. -/
theorem repr_ne_negative (number : Nat) (digits : String) : number.repr ≠ "-" ++ digits := by
  intro hsame
  have hmem : '-' ∈ number.repr.toList := by simp [hsame]
  rw [Nat.toList_repr] at hmem
  exact absurd (Nat.isDigit_of_mem_toDigits (by decide) (by decide) hmem) (by decide)

/-- Positions with one text are equal. -/
theorem eq_of_position {position other : Int} (h : toString position = toString other) :
    position = other := by
  rw [Int.toString_eq_repr, Int.toString_eq_repr, Int.repr_eq_if, Int.repr_eq_if] at h
  split at h
  · split at h
    · have hsize := eq_of_repr h
      omega
    · exact absurd h (repr_ne_negative _ _)
  · split at h
    · exact absurd h.symm (repr_ne_negative _ _)
    · have hsize := eq_of_repr ((String.append_right_inj _).mp h)
      omega

/-- The position of an input is the first word of its line. -/
theorem firstWord_inputLine (item : Item) :
    firstWord (inputLine item) = (toString item.position).toList := by
  have hline : ∃ width, (inputLine item).toList =
      List.replicate width ' ' ++ ((toString item.position).toList ++ ' ' :: item.literal.toList) :=
    ⟨4 - (toString item.position).length, by simp [inputLine, Text.alignRight]⟩
  obtain ⟨width, hline⟩ := hline
  have hspaces : ∀ c ∈ List.replicate width ' ', decide (c = ' ') = true := by
    intro c hmem
    exact decide_eq_true (List.eq_of_mem_replicate hmem)
  have hword : ∀ c ∈ (toString item.position).toList, decide (c ≠ ' ') = true := by
    intro c hmem
    refine decide_eq_true ?_
    rintro rfl
    exact space_not_mem_position _ hmem
  rw [firstWord, hline, List.dropWhile_append_of_pos hspaces]
  cases hposition : (toString item.position).toList with
  | nil => exact absurd hposition (position_ne_nil _)
  | cons c rest =>
      rw [hposition] at hword
      have hc : c ≠ ' ' := by simpa using hword c (List.mem_cons_self ..)
      rw [List.cons_append, List.dropWhile_cons_of_neg (by simpa using hc), ← List.cons_append,
        List.takeWhile_append_of_pos hword, List.takeWhile_cons_of_neg (by simp), List.append_nil]

theorem ObjectFile.head?_literal (file : ObjectFile) : file.literal.toList.head? = some 'O' := by
  have hfirst : "ObjectFile(position=".toList.head? = some 'O' := by decide
  unfold literal
  simp only [String.toList_append, List.head?_append, hfirst, Option.some_or]

theorem NameSpec.head?_literal (spec : NameSpec) : spec.literal.toList.head? = some 'N' := by
  have hfirst : "NameSpec(position=".toList.head? = some 'N' := by decide
  unfold literal
  simp only [String.toList_append, List.head?_append, hfirst, Option.some_or]

/-- The literals of the two kinds of inputs begin with different letters. -/
theorem ObjectFile.literal_ne (file : ObjectFile) (spec : NameSpec) :
    file.literal ≠ spec.literal := by
  intro hsame
  have hfirst := file.head?_literal
  rw [hsame, spec.head?_literal] at hfirst
  exact absurd hfirst (by decide)

/-- Inputs at one position with one literal are equal. -/
theorem Item.eq_of_literal {item other : Item} (hposition : item.position = other.position)
    (h : item.literal = other.literal) : item = other := by
  cases item with
  | object file =>
      cases other with
      | object otherFile =>
          obtain ⟨position, path⟩ := file
          obtain ⟨_, otherPath⟩ := otherFile
          obtain rfl : position = _ := hposition
          have hpath : Literal.ofText path = Literal.ofText otherPath :=
            (String.append_right_inj _).mp ((String.append_left_inj _).mp h)
          rw [Literal.ofText_injective hpath]
      | namespec spec => exact absurd h (file.literal_ne spec)
  | namespec spec =>
      cases other with
      | object file => exact absurd h.symm (file.literal_ne spec)
      | namespec otherSpec =>
          obtain ⟨position, name⟩ := spec
          obtain ⟨_, otherName⟩ := otherSpec
          obtain rfl : position = _ := hposition
          have hname : name.literal = otherName.literal :=
            (String.append_right_inj _).mp ((String.append_left_inj _).mp h)
          rw [Value.literal_injective hname]

/-- Inputs with one line are equal. -/
theorem inputLine_injective : Function.Injective inputLine := by
  intro item other h
  have hposition : item.position = other.position := by
    have hword : firstWord (inputLine item) = firstWord (inputLine other) := by rw [h]
    rw [firstWord_inputLine, firstWord_inputLine] at hword
    exact eq_of_position (String.toList_injective hword)
  refine Item.eq_of_literal hposition ?_
  unfold inputLine at h
  rw [hposition] at h
  exact (String.append_right_inj _).mp h

/-! ## The section -/

/-- The section of a report on its inputs has a line for each of them, in their order, and nothing
else; and plans with one section are equal. -/
theorem inputs_section_determines_plan :
    (∀ items : List Item, ∃ rows : String,
        (ReportEntry.inputs items).render = "\nInputs\n------\n\n" ++ rows ∧
          lines rows = items.map inputLine ∧
          rows = String.join ((lines rows).map fun line => line ++ "\n")) ∧
      Function.Injective fun items => (ReportEntry.inputs items).render := by
  constructor
  · intro items
    refine ⟨inputRows items, ReportEntry.render_inputs items, lines_inputRows items, ?_⟩
    rw [lines_inputRows, List.map_map]
    rfl
  · intro items others h
    simp only [ReportEntry.render_inputs] at h
    have hrows : inputRows items = inputRows others := (String.append_right_inj _).mp h
    have hlines : items.map inputLine = others.map inputLine := by
      rw [← lines_inputRows items, hrows, lines_inputRows others]
    exact (List.map_inj_right fun _ _ hline => inputLine_injective hline).mp hlines

/-- A path that imitates the end of its line stays inside its quotes. -/
example : inputLine (.object ⟨-12, "it's')\n   3 NameSpec("⟩) =
    " -12 ObjectFile(position=-12, path=\"it's')\\n   3 NameSpec(\")" := by decide

end LinkDriver
