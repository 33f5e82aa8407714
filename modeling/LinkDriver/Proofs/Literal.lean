import LinkDriver.Value
import Mathlib.Algebra.Group.Nat.Defs

/-!
# Reading literals back

`readChar` reads the character back that an escape stands for. Read `ofText_injective` first: two
texts with one literal are equal, for the literal opens with the quote in use, and each escape can
be told apart from what stands behind it (`escape_append_inj`). All of a literal is printable
(`printable_ofText`), so no literal holds a line break.
-/

namespace LinkDriver

/-! ## Printable texts -/

/-- Every character of a text is printable. -/
def Printable (text : String) : Prop :=
  ∀ c ∈ text.toList, Text.isPrintable c = true

instance (text : String) : Decidable (Printable text) :=
  List.decidableBAll _ text.toList

theorem Printable.append {first second : String} (hfirst : Printable first)
    (hsecond : Printable second) : Printable (first ++ second) := by
  intro c hmem
  rw [String.toList_append] at hmem
  rcases List.mem_append.mp hmem with hmem | hmem
  · exact hfirst c hmem
  · exact hsecond c hmem

namespace Literal

/-! ## How a character is written -/

/-- The letters that stand for a character behind a backslash, with that character. -/
def letters : List (Char × Char) :=
  [('n', '\n'), ('r', '\r'), ('t', '\t')]

/-- The letters behind a backslash that the number of a character follows, with the width of that
number. -/
def widths : List (Char × Nat) :=
  [('x', 2), ('u', 4), ('U', 8)]

/-- `WrittenAs quote c written` lists the ways in which a character is written between quotes:
behind a backslash, as a letter, as itself, or by its number. -/
inductive WrittenAs (quote c : Char) : List Char → Prop where
  | behind (hself : c = backslash ∨ c = quote) : WrittenAs quote c [backslash, c]
  | letter (name : Char) (hname : (name, c) ∈ letters) : WrittenAs quote c [backslash, name]
  | plain (hplain : c ≠ backslash ∧ c ≠ quote) (hprintable : Text.isPrintable c = true) :
      WrittenAs quote c [c]
  | number (name : Char) (width : Nat) (hname : (name, width) ∈ widths)
      (hwidth : c.toNat < 16 ^ width) :
      WrittenAs quote c (backslash :: name :: hexDigits width c.toNat)

theorem writtenAs_numericEscape (quote c : Char) : WrittenAs quote c (numericEscape c.toNat) := by
  unfold numericEscape
  split
  · exact .number 'x' 2 (by decide) ‹_›
  · split
    · exact .number 'u' 4 (by decide) ‹_›
    · exact .number 'U' 8 (by decide) c.val.toNat_lt

theorem writtenAs_escape (quote c : Char) : WrittenAs quote c (escape quote c) := by
  unfold escape
  split
  · exact .behind ‹_›
  · rename_i hself
    split
    · exact .letter 'n' (by simp [letters, *])
    · split
      · exact .letter 'r' (by simp [letters, *])
      · split
        · exact .letter 't' (by simp [letters, *])
        · split
          · exact .plain (not_or.mp hself) ‹_›
          · exact writtenAs_numericEscape quote c

/-- The quotes around a text are single or double ones. -/
theorem quoteFor_cases (text : List Char) :
    quoteFor text = singleQuote ∨ quoteFor text = doubleQuote := by
  unfold quoteFor
  split
  · exact .inr rfl
  · exact .inl rfl

/-! ## All is printable -/

theorem isPrintable_of_mem_hexDigits {width n : Nat} {c : Char} (h : c ∈ hexDigits width n) :
    Text.isPrintable c = true := by
  induction width generalizing n with
  | zero => exact absurd h List.not_mem_nil
  | succ width ih =>
      have hdigit : ∀ digit < 16, Text.isPrintable (hexDigit digit) = true := by decide
      rcases List.mem_append.mp h with hmem | hmem
      · exact ih hmem
      · rw [List.mem_singleton.mp hmem]
        exact hdigit _ (Nat.mod_lt n (by decide))

/-- What is not printable is written by characters that are. -/
theorem WrittenAs.isPrintable {quote c d : Char} {written : List Char}
    (h : WrittenAs quote c written) (hquote : Text.isPrintable quote = true)
    (hmem : d ∈ written) : Text.isPrintable d = true := by
  have hbackslash : Text.isPrintable backslash = true := by decide
  cases h with
  | behind hself =>
      have hc : Text.isPrintable c = true := by
        rcases hself with rfl | rfl
        · exact hbackslash
        · exact hquote
      simp only [List.mem_cons, List.not_mem_nil, or_false] at hmem
      rcases hmem with rfl | rfl
      · exact hbackslash
      · exact hc
  | letter name hname =>
      have hletter : ∀ pair ∈ letters, Text.isPrintable pair.1 = true := by decide
      simp only [List.mem_cons, List.not_mem_nil, or_false] at hmem
      rcases hmem with rfl | rfl
      · exact hbackslash
      · exact hletter _ hname
  | plain _ hprintable => exact List.mem_singleton.mp hmem ▸ hprintable
  | number name width hname =>
      have hletter : ∀ pair ∈ widths, Text.isPrintable pair.1 = true := by decide
      simp only [List.mem_cons] at hmem
      rcases hmem with rfl | rfl | hmem
      · exact hbackslash
      · exact hletter _ hname
      · exact isPrintable_of_mem_hexDigits hmem

theorem printable_ofText (text : String) : Printable (ofText text) := by
  have hquote : Text.isPrintable (quoteFor text.toList) = true := by
    rcases quoteFor_cases text.toList with hquote | hquote <;> rw [hquote] <;> decide
  intro c hmem
  rw [ofText, String.toList_ofList, quoted, List.cons_append] at hmem
  rcases List.mem_cons.mp hmem with rfl | hmem
  · exact hquote
  · rcases List.mem_append.mp hmem with hmem | hmem
    · obtain ⟨d, -, hd⟩ := List.mem_flatMap.mp hmem
      exact (writtenAs_escape _ d).isPrintable hquote hd
    · rw [List.mem_singleton.mp hmem]
      exact hquote

/-! ## Reading one character -/

/-- The value of a hexadecimal digit. -/
def digitValue (digit : Char) : Nat :=
  if digit.toNat < 0x3a then digit.toNat - 0x30 else digit.toNat - 0x57

/-- The number that hexadecimal digits stand for. -/
def hexValue (digits : List Char) : Nat :=
  digits.foldl (fun n digit => n * 16 + digitValue digit) 0

/-- Reads the character that a backslash and this name begin, and what follows it. -/
def readBehind (name : Char) (rest : List Char) : Char × List Char :=
  match widths.lookup name with
  | some width => (Char.ofNat (hexValue (rest.take width)), rest.drop width)
  | none => ((letters.lookup name).getD name, rest)

/-- Reads the first character of a text in which characters are escaped. -/
def readChar : List Char → Option (Char × List Char)
  | [] => none
  | first :: rest =>
    if first = backslash then rest.head?.map fun name => readBehind name rest.tail
    else some (first, rest)

theorem length_hexDigits (width n : Nat) : (hexDigits width n).length = width := by
  induction width generalizing n with
  | zero => rfl
  | succ width ih => simp [hexDigits, ih]

theorem hexValue_hexDigits (width n : Nat) : hexValue (hexDigits width n) = n % 16 ^ width := by
  induction width generalizing n with
  | zero => simp [hexDigits, hexValue, Nat.mod_one]
  | succ width ih =>
      have hdigit : ∀ digit < 16, digitValue (hexDigit digit) = digit := by decide
      calc hexValue (hexDigits (width + 1) n)
          = hexValue (hexDigits width (n / 16)) * 16 + digitValue (hexDigit (n % 16)) := by
            simp [hexDigits, hexValue]
        _ = n / 16 % 16 ^ width * 16 + n % 16 := by
            rw [ih, hdigit _ (Nat.mod_lt n (by decide))]
        _ = n % 16 ^ (width + 1) := by
            rw [Nat.pow_succ, Nat.mul_comm (16 ^ width), Nat.mod_mul]
            omega

/-- A character that is written is read back, whatever follows it. -/
theorem WrittenAs.readChar_append {quote c : Char} {written : List Char}
    (h : WrittenAs quote c written) (hquote : quote = singleQuote ∨ quote = doubleQuote)
    (rest : List Char) : readChar (written ++ rest) = some (c, rest) := by
  cases h with
  | behind hself =>
      have hread : readBehind c rest = (c, rest) := by
        rcases hself with rfl | rfl
        · rfl
        · rcases hquote with rfl | rfl <;> rfl
      exact congrArg some hread
  | letter name hname =>
      have hnames : ∀ pair ∈ letters, widths.lookup pair.1 = none ∧
          letters.lookup pair.1 = some pair.2 := by decide
      obtain ⟨hwidths, hletters⟩ := hnames _ hname
      simp [readChar, readBehind, hwidths, hletters]
  | plain hplain => simp [readChar, hplain.1]
  | number name width hname hwidth =>
      have hnames : ∀ pair ∈ widths, widths.lookup pair.1 = some pair.2 := by decide
      have htake : (hexDigits width c.toNat ++ rest).take width = hexDigits width c.toNat :=
        List.take_left' (length_hexDigits _ _)
      have hdrop : (hexDigits width c.toNat ++ rest).drop width = rest :=
        List.drop_left' (length_hexDigits _ _)
      have hread : readBehind name (hexDigits width c.toNat ++ rest) = (c, rest) := by
        rw [readBehind, hnames _ hname]
        simp only [htake, hdrop]
        rw [hexValue_hexDigits, Nat.mod_eq_of_lt hwidth, Char.ofNat_toNat]
      exact congrArg some hread

/-! ## Reading texts -/

section Quoted

variable {quote : Char} (hquote : quote = singleQuote ∨ quote = doubleQuote)

include hquote

/-- Escapes can be told apart, and from what follows them. -/
theorem escape_append_inj {c d : Char} {rest others : List Char}
    (h : escape quote c ++ rest = escape quote d ++ others) : c = d ∧ rest = others := by
  have hread := congrArg readChar h
  rw [(writtenAs_escape quote c).readChar_append hquote,
    (writtenAs_escape quote d).readChar_append hquote] at hread
  simpa using hread

theorem escape_ne_nil (c : Char) : escape quote c ≠ [] := by
  intro hnil
  have hread := (writtenAs_escape quote c).readChar_append hquote []
  rw [hnil] at hread
  exact absurd hread (by simp [readChar])

theorem flatMap_escape_inj {text other : List Char}
    (h : text.flatMap (escape quote) = other.flatMap (escape quote)) : text = other := by
  induction text generalizing other with
  | nil =>
      cases other with
      | nil => rfl
      | cons d others =>
          rw [List.flatMap_cons] at h
          exact absurd (List.append_eq_nil_iff.mp h.symm).1 (escape_ne_nil hquote d)
  | cons c rest ih =>
      cases other with
      | nil =>
          rw [List.flatMap_cons] at h
          exact absurd (List.append_eq_nil_iff.mp h).1 (escape_ne_nil hquote c)
      | cons d others =>
          rw [List.flatMap_cons, List.flatMap_cons] at h
          obtain ⟨rfl, hrest⟩ := escape_append_inj hquote h
          rw [ih hrest]

end Quoted

/-- Texts with one literal are equal. -/
theorem ofText_injective : Function.Injective ofText := by
  intro text other h
  have hquoted : quoted text.toList = quoted other.toList := String.ofList_injective h
  rw [quoted, quoted, List.cons_append, List.cons_append, List.cons.injEq] at hquoted
  obtain ⟨hquote, hbody⟩ := hquoted
  rw [← hquote] at hbody
  have hescaped := List.append_cancel_right hbody
  exact String.toList_injective (flatMap_escape_inj (quoteFor_cases text.toList) hescaped)

end Literal

/-- Values with one literal are equal, for a blank one has no quotes around it. -/
theorem Value.literal_injective : Function.Injective Value.literal := by
  have hblank : ∀ content, Literal.ofText content ≠ "[]" := by
    intro content hsame
    have hfirst : (Literal.ofText content).toList.head? = "[]".toList.head? := by rw [hsame]
    rw [Literal.ofText, String.toList_ofList, Literal.quoted, List.cons_append,
      List.head?_cons] at hfirst
    rcases Literal.quoteFor_cases content.toList with hquote | hquote <;> rw [hquote] at hfirst <;>
      exact absurd hfirst (by decide)
  intro value other h
  cases value with
  | text content =>
      cases other with
      | text others => exact congrArg text (Literal.ofText_injective h)
      | blank => exact absurd h (hblank content)
  | blank =>
      cases other with
      | text others => exact absurd h.symm (hblank others)
      | blank => rfl

theorem Value.printable_literal (value : Value) : Printable value.literal := by
  cases value with
  | text content => exact Literal.printable_ofText content
  | blank => decide

end LinkDriver
