import LinkDriver.CommandLine.Positions
import LinkDriver.Proofs.CommandLine.Uses

/-!
# The roles of arguments and their classes

The scan for positions and the reading of a command line look at the same arguments by rules of
their own. For a single argument the rules agree but for one class: an operand that begins with a
hyphen is an object file to the reading and an option to the scan. `role_eq_library_iff` and
`skipsNext_eq_true_iff` say where they agree, `role_eq_object_iff` says what an object file is to
the scan.
-/

namespace LinkDriver.CommandLine

theorem mem_valueFlags {declarations : List Declaration} {flag : String} :
    flag ∈ valueFlags declarations ↔
      ∃ declaration ∈ declarations, declaration.arity ≠ .exactly 0 ∧
        flag ∈ declaration.spellings ∧ isDashed flag = true := by
  simp [valueFlags, List.mem_eraseDups, and_assoc]

/-- The program's value flags are the spellings of its options with a value. -/
theorem mem_ownValueFlags {flag : String} :
    flag ∈ ownValueFlags ↔ ∃ opt : Opt, opt.takesValue = true ∧ flag ∈ opt.spellings := by
  simp only [ownValueFlags, mem_valueFlags, Opt.declarations, List.mem_map]
  constructor
  · intro h
    obtain ⟨_, ⟨opt, -, rfl⟩, harity, hmem, -⟩ := h
    refine ⟨opt, ?_, hmem⟩
    cases hvalue : opt.takesValue with
    | true => rfl
    | false => simp [hvalue] at harity
  · intro h
    obtain ⟨opt, hvalue, hmem⟩ := h
    have hlike := (Opt.spelling_shape hmem).1
    simp only [isOptionLike, Bool.and_eq_true] at hlike
    exact ⟨_, ⟨opt, Opt.mem_all opt, rfl⟩, by simp [hvalue], hmem, hlike.1⟩

/-! ## One class for each argument -/

/-- An argument uses one option at most. -/
theorem Uses.unique {text : String} {opt other : Opt} {long otherLong : Bool}
    {attached otherAttached : Option String} (h : Uses text opt long attached)
    (hother : Uses text other otherLong otherAttached) :
    opt = other ∧ long = otherLong ∧ attached = otherAttached := by
  have hclass := (classify_of_uses h).symm.trans (classify_of_uses hother)
  simpa using hclass

/-- An argument that begins with the flag of a library uses that option. -/
theorem uses_of_libraryFlag {text : String} (h : libraryFlag.toList <+: text.toList) :
    ∃ attached, Uses text .library false attached := by
  obtain ⟨rest, hrest⟩ := h
  have hmem : ofLetter 'l' ∈ Opt.library.spellings := by decide
  have htext : text = ofLetter 'l' ++ String.ofList rest :=
    String.toList_inj.mp (by simp [ofLetter, ← hrest, libraryFlag])
  subst htext
  cases rest with
  | nil => exact ⟨none, .bare hmem⟩
  | cons first value =>
      by_cases hfirst : first = '='
      · subst hfirst
        have hassigned : ofLetter 'l' ++ String.ofList ('=' :: value) =
            ofLetter 'l' ++ "=" ++ String.ofList value := String.toList_inj.mp (by simp)
        rw [hassigned]
        exact ⟨_, .assigned _ hmem⟩
      · exact ⟨_, .joined hmem (by simp) (by simpa using hfirst)⟩

/-- A use of the library option begins with its flag, and no two hyphens. -/
theorem Uses.begins_with_libraryFlag {text : String} {long : Bool} {attached : Option String}
    (h : Uses text .library long attached) :
    libraryFlag.toList <+: text.toList ∧ isLong text = false ∧ isOptionLike text = true := by
  have hbegins : libraryFlag.toList <+: text.toList := by
    cases h with
    | bare hmem =>
        obtain rfl : text = "-l" := by simpa [Opt.spellings] using hmem
        exact List.prefix_rfl
    | assigned value hmem =>
        rename_i spelling
        obtain rfl : spelling = "-l" := by simpa [Opt.spellings] using hmem
        exact ⟨'=' :: value.toList, by simp [libraryFlag]⟩
    | joined hmem =>
        rename_i letter value _ _
        have hletter : ofLetter letter = "-l" := by simpa [Opt.spellings] using hmem
        exact ⟨value.toList, by simp [hletter, libraryFlag]⟩
  obtain ⟨rest, hrest⟩ := hbegins
  have htext : text.toList = '-' :: 'l' :: rest := by simp [← hrest, libraryFlag]
  exact ⟨⟨rest, hrest⟩, by simp [isLong, htext], isOptionLike_of_toList htext⟩

/-! ## The role of an argument -/

/-- The scan takes every argument for an object file that is not option-like. -/
theorem role_eq_object_iff {flags : List String} {argument : String} :
    role flags argument = .object ↔ isOptionLike argument = false := by
  constructor
  · intro h
    cases hlike : isOptionLike argument with
    | false => rfl
    | true =>
        have hne : role flags argument ≠ .object := by
          unfold role
          rw [if_neg (by simp [hlike])]
          split
          · simp
          split
          · split <;> simp
          · split <;> simp
        exact absurd h hne
  · intro h
    simp [role, h]

/-- The scan finds a library exactly where the reading finds a use of that option. -/
theorem role_eq_library_iff {argument : String} :
    role ownValueFlags argument = .library ↔
      ∃ long attached, classify argument = .use .library long attached := by
  constructor
  · intro h
    have hbegins : libraryFlag.toList <+: argument.toList := by
      -- A library is a value flag and equal to its own flag, or none and begins with it.
      unfold role at h
      split at h
      · exact absurd h (by simp)
      split at h
      · exact absurd h (by simp)
      split at h
      · split at h
        · rename_i hflag
          exact hflag ▸ List.prefix_rfl
        · exact absurd h (by simp)
      · split at h
        · rename_i hbegins
          exact List.isPrefixOf_iff_prefix.mp hbegins
        · exact absurd h (by simp)
    obtain ⟨attached, huses⟩ := uses_of_libraryFlag hbegins
    exact ⟨false, attached, classify_of_uses huses⟩
  · intro h
    obtain ⟨long, attached, hclass⟩ := h
    obtain ⟨hbegins, hshort, hlike⟩ := (uses_of_classify hclass).begins_with_libraryFlag
    unfold role
    rw [if_neg (by simp [hlike]), if_neg (by simp [hshort])]
    split
    · rename_i hvalue
      obtain ⟨opt, -, hmem⟩ := mem_ownValueFlags.mp (by simpa using hvalue)
      obtain ⟨rfl, -, -⟩ := (Uses.bare hmem).unique (uses_of_classify hclass)
      have heq : argument = libraryFlag := by simpa [Opt.spellings, libraryFlag] using hmem
      rw [if_pos heq]
    · rw [if_pos (List.isPrefixOf_iff_prefix.mpr hbegins)]

/-- The scan skips an argument behind a use of an option with a value and nothing attached. -/
theorem skipsNext_eq_true_iff {argument : String} :
    skipsNext ownValueFlags argument = true ↔
      ∃ opt long, classify argument = .use opt long none ∧ opt.takesValue = true := by
  constructor
  · intro h
    simp only [skipsNext, Bool.and_eq_true, List.contains_iff_mem] at h
    obtain ⟨opt, hvalue, hmem⟩ := mem_ownValueFlags.mp h.1.2
    exact ⟨opt, _, classify_of_uses (.bare hmem), hvalue⟩
  · intro h
    obtain ⟨opt, long, hclass, hvalue⟩ := h
    cases uses_of_classify hclass with
    | bare hmem =>
        obtain ⟨hlike, hequals⟩ := Opt.spelling_shape hmem
        have hflag : argument ∈ ownValueFlags := mem_ownValueFlags.mpr ⟨opt, hvalue, hmem⟩
        simp [skipsNext, hlike, hflag, hequals]
    | shortened => exact absurd hvalue (by decide)

end LinkDriver.CommandLine
