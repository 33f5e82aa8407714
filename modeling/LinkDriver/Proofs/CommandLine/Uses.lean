import LinkDriver.CommandLine.Token

/-!
# The forms in which an option is used

`Uses text opt long attached` lists the four forms of an argument that uses an option: a spelling
alone, a spelling and a value behind an equals sign, a letter with its value joined to it, and the
start of the only long spelling with one hyphen. Read `classify_eq_use_iff` first: these are
exactly the arguments that `classify` takes for uses, and it finds the same option and the same
attached text.
-/

namespace LinkDriver.CommandLine

/-! ## Spellings -/

namespace Opt

/-- A spelling belongs to one option only, the one that is found for it. -/
theorem ofSpelling?_eq_some_iff {spelling : String} {opt : Opt} :
    ofSpelling? spelling = some opt ↔ spelling ∈ opt.spellings := by
  constructor
  · intro h
    simpa using List.find?_some h
  · intro h
    have hall : ∀ s ∈ opt.spellings, ofSpelling? s = some opt := by
      cases opt <;> decide
    exact hall spelling h

theorem ofSpelling?_eq_none_iff {spelling : String} :
    ofSpelling? spelling = none ↔ ∀ opt : Opt, spelling ∉ opt.spellings := by
  constructor
  · intro h opt hmem
    rw [ofSpelling?_eq_some_iff.mpr hmem] at h
    exact absurd h (by simp)
  · intro h
    cases hfound : ofSpelling? spelling with
    | none => rfl
    | some opt => exact absurd (ofSpelling?_eq_some_iff.mp hfound) (h opt)

/-- Every spelling is option-like and has no equals sign. -/
theorem spelling_shape {opt : Opt} {spelling : String} (h : spelling ∈ opt.spellings) :
    isOptionLike spelling = true ∧ '=' ∉ spelling.toList := by
  have hall : ∀ s ∈ opt.spellings, isOptionLike s = true ∧ '=' ∉ s.toList := by
    cases opt <;> decide
  exact hall spelling h

/-- A spelling with one hyphen is a letter behind it, but for one spelling of the symbolic
option. -/
theorem short_spelling {opt : Opt} {spelling : String} (h : spelling ∈ opt.spellings)
    (hshort : isLong spelling = false) :
    spelling.toList.length = 2 ∨ opt = .symbolic ∧ spelling = "-Bsymbolic" := by
  have hall : ∀ s ∈ opt.spellings, isLong s = false →
      s.toList.length = 2 ∨ opt = .symbolic ∧ s = "-Bsymbolic" := by
    cases opt <;> decide
  exact hall spelling h hshort

end Opt

/-! ## The shape of an argument -/

/-- An option-like text is a hyphen, a second character, and a rest. -/
theorem toList_of_isOptionLike {text : String} (h : isOptionLike text = true) :
    ∃ second rest, text.toList = '-' :: second :: rest := by
  simp only [isOptionLike, isDashed, Bool.and_eq_true, beq_iff_eq, bne_iff_ne] at h
  obtain ⟨hhead, hne⟩ := h
  match htext : text.toList with
  | [] => simp [htext] at hhead
  | [first] =>
    simp only [htext, List.head?_cons, Option.some.injEq] at hhead
    subst hhead
    exact absurd (String.toList_inj.mp htext) hne
  | first :: second :: rest =>
    simp only [htext, List.head?_cons, Option.some.injEq] at hhead
    subst hhead
    exact ⟨second, rest, rfl⟩

theorem isOptionLike_of_toList {text : String} {second : Char} {rest : List Char}
    (h : text.toList = '-' :: second :: rest) : isOptionLike text = true := by
  have hne : text ≠ "-" := by
    intro heq
    subst heq
    simp at h
  simp [isOptionLike, isDashed, h, hne]

/-! ## Equals signs -/

/-- The parts around the first equals sign make up the text. -/
theorem eq_of_splitEquals? {text spelling value : String}
    (h : splitEquals? text = some (spelling, value)) :
    text = spelling ++ "=" ++ value := by
  unfold splitEquals? at h
  split at h
  · simp at h
  · rename_i first rest hdrop
    simp only [Option.some.injEq, Prod.mk.injEq] at h
    obtain ⟨rfl, rfl⟩ := h
    have hfirst : first = '=' := by
      have hnot := List.head_dropWhile_not (l := text.toList) (· != '=') (by simp [hdrop])
      simpa [hdrop] using hnot
    have hparts := List.takeWhile_append_dropWhile (p := (· != '=')) (l := text.toList)
    rw [hdrop, hfirst] at hparts
    apply String.toList_inj.mp
    simpa using hparts.symm

theorem splitEquals?_append {spelling : String} (value : String) (h : '=' ∉ spelling.toList) :
    splitEquals? (spelling ++ "=" ++ value) = some (spelling, value) := by
  have hpos : ∀ c ∈ spelling.toList, (c != '=') = true := by
    intro c hc
    simp only [bne_iff_ne]
    intro heq
    subst heq
    exact h hc
  simp [splitEquals?, List.dropWhile_append_of_pos hpos, List.takeWhile_append_of_pos hpos]

theorem splitEquals?_eq_none {text : String} (h : '=' ∉ text.toList) :
    splitEquals? text = none := by
  have hall : ∀ c ∈ text.toList, (c != '=') = true := by
    intro c hc
    simp only [bne_iff_ne]
    intro heq
    subst heq
    exact h hc
  have hdrop : (text.toList ++ []).dropWhile (· != '=') = _ := List.dropWhile_append_of_pos hall
  simp only [List.append_nil, List.dropWhile_nil] at hdrop
  simp [splitEquals?, hdrop]

/-! ## Uses -/

/-- The spelling of a letter. -/
def ofLetter (letter : Char) : String :=
  String.ofList ['-', letter]

/-- `Uses text opt long attached` says the argument `text` uses `opt` by a spelling that begins with
two hyphens or not, and with this text attached to it. -/
inductive Uses : String → Opt → Bool → Option String → Prop where
  | bare {opt : Opt} {spelling : String} :
      spelling ∈ opt.spellings → Uses spelling opt (isLong spelling) none
  | assigned {opt : Opt} {spelling : String} (value : String) :
      spelling ∈ opt.spellings →
      Uses (spelling ++ "=" ++ value) opt (isLong spelling) (some value)
  | joined {opt : Opt} {letter : Char} {value : String} :
      ofLetter letter ∈ opt.spellings → value ≠ "" → value.toList.head? ≠ some '=' →
      Uses (ofLetter letter ++ value) opt false (some value)
  | shortened {text : String} :
      isOptionLike text = true → text ≠ "-Bsymbolic" →
      text.toList.isPrefixOf "-Bsymbolic".toList = true → Uses text .symbolic false none

/-- A letter is no option together with more text behind it. -/
theorem ofLetter_append_not_spelling {opt other : Opt} {letter : Char} {value : String}
    (h : ofLetter letter ∈ opt.spellings) (hvalue : value ≠ "") :
    ofLetter letter ++ value ∉ other.spellings := by
  intro hmem
  have hnil : value.toList ≠ [] := by simpa using hvalue
  have hletter : letter ≠ 'B' ∧ letter ≠ '-' := by
    constructor <;> rintro rfl <;> revert h <;> cases opt <;> decide
  have hlong : isLong (ofLetter letter ++ value) = false := by
    simpa [isLong, ofLetter] using hletter.2
  -- With one hyphen only `-Bsymbolic` is longer than a letter, and `B` is no letter.
  rcases Opt.short_spelling hmem hlong with hlength | ⟨-, htext⟩
  · simp [ofLetter] at hlength
    exact hvalue hlength
  · have hlist := congrArg String.toList htext
    simp [ofLetter] at hlist
    exact hletter.1 hlist.1

/-- The only spelling with one hyphen that can be shortened is that of the symbolic option. -/
theorem symbolic_of_prefix {text spelling : String} {opt : Opt} (hlike : isOptionLike text = true)
    (hshort : isLong text = false) (hmem : spelling ∈ opt.spellings) (hne : text ≠ spelling)
    (hbegins : text.toList <+: spelling.toList) :
    opt = .symbolic ∧ spelling = "-Bsymbolic" := by
  obtain ⟨second, rest, htext⟩ := toList_of_isOptionLike hlike
  obtain ⟨more, hmore⟩ := hbegins
  rw [htext] at hmore
  have hlong : isLong spelling = false := by
    simpa [isLong, htext, ← hmore] using hshort
  rcases Opt.short_spelling hmem hlong with hlength | hsymbolic
  · have hnil : rest = [] ∧ more = [] := by
      simpa [← hmore] using hlength
    obtain ⟨rfl, rfl⟩ := hnil
    exact absurd (String.toList_inj.mp (by rw [htext, ← hmore]; rfl)) hne
  · exact hsymbolic

/-- The option that is found for the start of a spelling with one hyphen. -/
theorem find?_prefix {text : String} (hlike : isOptionLike text = true)
    (hshort : isLong text = false) (hspelling : Opt.ofSpelling? text = none) :
    (Opt.all.find? fun opt =>
      opt.spellings.any fun spelling => text.toList.isPrefixOf spelling.toList) =
        if text.toList.isPrefixOf "-Bsymbolic".toList then some .symbolic else none := by
  have honly : ∀ opt : Opt, (opt.spellings.any fun spelling =>
      text.toList.isPrefixOf spelling.toList) = true →
      opt = .symbolic ∧ text.toList.isPrefixOf "-Bsymbolic".toList = true := by
    intro opt h
    rw [List.any_eq_true] at h
    obtain ⟨spelling, hmem, hbegins⟩ := h
    have hne : text ≠ spelling := by
      intro heq
      subst heq
      exact Opt.ofSpelling?_eq_none_iff.mp hspelling opt hmem
    obtain ⟨rfl, rfl⟩ :=
      symbolic_of_prefix hlike hshort hmem hne (List.isPrefixOf_iff_prefix.mp hbegins)
    exact ⟨rfl, hbegins⟩
  split
  · rename_i hbegins
    cases hfound : Opt.all.find? fun opt =>
        opt.spellings.any fun spelling => text.toList.isPrefixOf spelling.toList with
    | none =>
        have hnot := List.find?_eq_none.mp hfound .symbolic (Opt.mem_all .symbolic)
        exact absurd (by simpa [Opt.spellings] using Or.inr hbegins) hnot
    | some opt =>
        have hopt := List.find?_some hfound
        rw [(honly opt hopt).1]
  · rename_i hbegins
    rw [List.find?_eq_none]
    intro opt _ h
    exact hbegins (honly opt h).2

/-- What an argument with one hyphen uses, if it is no spelling itself: the option of its letter, or
the option whose spelling it starts. -/
theorem useOfLetter?_eq {text : String} {second : Char} {rest : List Char}
    (htext : text.toList = '-' :: second :: rest) (hsecond : second ≠ '-')
    (hspelling : Opt.ofSpelling? text = none) :
    useOfLetter? text =
      match Opt.ofSpelling? (ofLetter second) with
      | some opt => some (.use opt false (some (String.ofList rest)))
      | none =>
        if text.toList.isPrefixOf "-Bsymbolic".toList then some (.use .symbolic false none)
        else none := by
  have hshort : isLong text = false := by simpa [isLong, htext] using hsecond
  have htake : String.ofList (text.toList.take 2) = ofLetter second := by simp [ofLetter, htext]
  have hdrop : text.toList.drop 2 = rest := by simp [htext]
  unfold useOfLetter?
  rw [if_neg (by simp [hshort]), htake, hdrop,
    find?_prefix (isOptionLike_of_toList htext) hshort hspelling]
  cases hletter : Opt.ofSpelling? (ofLetter second) with
  | some opt => rfl
  | none =>
      by_cases hbegins : text.toList.isPrefixOf "-Bsymbolic".toList = true
      · rw [if_pos hbegins, if_pos hbegins]
        rfl
      · rw [if_neg hbegins, if_neg hbegins]
        rfl

/-- A letter with a value joined to it has no spelling in front of an equals sign. -/
theorem useWithEquals?_joined {opt : Opt} {letter : Char} {value : String}
    (hmem : ofLetter letter ∈ opt.spellings) (hhead : value.toList.head? ≠ some '=') :
    useWithEquals? (ofLetter letter ++ value) = none := by
  cases hsplit : splitEquals? (ofLetter letter ++ value) with
  | none => simp [useWithEquals?, hsplit]
  | some parts =>
      obtain ⟨spelling, rest⟩ := parts
      have hlist := congrArg String.toList (eq_of_splitEquals? hsplit)
      simp only [useWithEquals?, hsplit, Option.map_eq_none_iff]
      -- The letter has no equals sign, and longer texts that begin with it are no spellings.
      match hspelling : spelling.toList with
      | [] => simp [ofLetter, hspelling] at hlist
      | [first] =>
        have hequals := (Opt.spelling_shape hmem).2
        simp only [ofLetter, hspelling, String.toList_append, String.toList_ofList] at hlist hequals
        simp_all
      | [first, second] =>
        simp [ofLetter, hspelling] at hlist
        simp [hlist.2.2] at hhead
      | first :: second :: third :: more =>
        simp only [ofLetter, hspelling, String.toList_append, String.toList_ofList,
          List.cons_append, List.cons.injEq] at hlist
        obtain ⟨rfl, rfl, -⟩ := hlist
        have heq : spelling = ofLetter letter ++ String.ofList (third :: more) :=
          String.toList_inj.mp (by simp [ofLetter, hspelling])
        rw [heq, Opt.ofSpelling?_eq_none_iff]
        exact fun _ => ofLetter_append_not_spelling hmem (by simp)

/-! ## The class of a use -/

/-- An argument that uses an option is a use for `classify`. -/
theorem classify_of_uses {text : String} {opt : Opt} {long : Bool} {attached : Option String}
    (h : Uses text opt long attached) : classify text = .use opt long attached := by
  cases h with
  | bare hmem => simp [classify, (Opt.spelling_shape hmem).1, Opt.ofSpelling?_eq_some_iff.mpr hmem]
  | @assigned _ spelling value hmem =>
      obtain ⟨hlike, hequals⟩ := Opt.spelling_shape hmem
      obtain ⟨second, rest, hspelling⟩ := toList_of_isOptionLike hlike
      have htext : (spelling ++ "=" ++ value).toList =
          '-' :: second :: (rest ++ '=' :: value.toList) := by simp [hspelling]
      have hlikeText := isOptionLike_of_toList htext
      have hnone : Opt.ofSpelling? (spelling ++ "=" ++ value) = none := by
        rw [Opt.ofSpelling?_eq_none_iff]
        intro other hother
        exact (Opt.spelling_shape hother).2 (by simp)
      simp [classify, hlikeText, hnone, classifyDashed, useWithEquals?,
        splitEquals?_append value hequals, Opt.ofSpelling?_eq_some_iff.mpr hmem]
  | @joined _ letter value hmem hvalue hhead =>
      have htext : (ofLetter letter ++ value).toList = '-' :: letter :: value.toList := by
        simp [ofLetter]
      have hnone : Opt.ofSpelling? (ofLetter letter ++ value) = none := by
        rw [Opt.ofSpelling?_eq_none_iff]
        exact fun _ => ofLetter_append_not_spelling hmem hvalue
      have hletter : letter ≠ '-' := by
        intro heq
        subst heq
        revert hmem
        cases opt <;> decide
      simp [classify, isOptionLike_of_toList htext, hnone, classifyDashed,
        useWithEquals?_joined hmem hhead, useOfLetter?_eq htext hletter hnone,
        Opt.ofSpelling?_eq_some_iff.mpr hmem]
  | shortened hlike hne hbegins =>
      obtain ⟨second, rest, htext⟩ := toList_of_isOptionLike hlike
      have hstart : second = 'B' ∧ rest <+: "symbolic".toList := by
        rw [htext] at hbegins
        simpa using hbegins
      obtain ⟨rfl, hrest⟩ := hstart
      -- No start of `-Bsymbolic` is a spelling of its own, and none has an equals sign.
      have hnone : Opt.ofSpelling? text = none := by
        rw [Opt.ofSpelling?_eq_none_iff]
        intro opt hmem
        have hall : ∀ s ∈ opt.spellings, s.toList.isPrefixOf "-Bsymbolic".toList = true →
            s = "-Bsymbolic" := by
          cases opt <;> decide
        exact hne (hall text hmem hbegins)
      have hequals : splitEquals? text = none := by
        apply splitEquals?_eq_none
        rw [htext]
        intro hmem
        have hsymbolic : '=' ∈ "symbolic".toList := hrest.subset (by simpa using hmem)
        revert hsymbolic
        decide
      have hletter : Opt.ofSpelling? (ofLetter 'B') = none := by decide
      have hstarts : useOfLetter? text = some (.use .symbolic false none) := by
        rw [useOfLetter?_eq htext (by decide) hnone, hletter]
        exact if_pos hbegins
      simp [classify, hlike, hnone, classifyDashed, useWithEquals?, hequals, hstarts]

theorem uses_of_useWithEquals? {text : String} {opt : Opt} {long : Bool}
    {attached : Option String} (h : useWithEquals? text = some (.use opt long attached)) :
    Uses text opt long attached := by
  unfold useWithEquals? at h
  split at h
  · exact absurd h (by simp)
  · rename_i spelling value hsplit
    simp only [Option.map_eq_some_iff, Token.use.injEq] at h
    obtain ⟨_, hfound, rfl, rfl, rfl⟩ := h
    rw [eq_of_splitEquals? hsplit]
    exact .assigned value (Opt.ofSpelling?_eq_some_iff.mp hfound)

theorem uses_of_useOfLetter? {text : String} {second : Char} {rest : List Char} {opt : Opt}
    {long : Bool} {attached : Option String} (htext : text.toList = '-' :: second :: rest)
    (hspelling : Opt.ofSpelling? text = none) (hequals : useWithEquals? text = none)
    (h : useOfLetter? text = some (.use opt long attached)) : Uses text opt long attached := by
  have hsecond : second ≠ '-' := by
    intro heq
    subst heq
    simp [useOfLetter?, isLong, htext] at h
  rw [useOfLetter?_eq htext hsecond hspelling] at h
  cases hletter : Opt.ofSpelling? (ofLetter second) with
  | some found =>
      simp only [hletter, Option.some.injEq, Token.use.injEq] at h
      obtain ⟨rfl, rfl, rfl⟩ := h
      have hmem := Opt.ofSpelling?_eq_some_iff.mp hletter
      have heq : text = ofLetter second ++ String.ofList rest :=
        String.toList_inj.mp (by simp [ofLetter, htext])
      rw [heq] at hspelling hequals ⊢
      refine .joined hmem ?_ ?_
      · intro hnil
        rw [hnil, String.append_empty, hletter] at hspelling
        exact absurd hspelling (by simp)
      · intro hhead
        obtain ⟨more, rfl⟩ : ∃ more, rest = '=' :: more := by
          cases rest with
          | nil => simp at hhead
          | cons first more => exact ⟨more, by simpa using hhead⟩
        have htext : ofLetter second ++ String.ofList ('=' :: more) =
            ofLetter second ++ "=" ++ String.ofList more := String.toList_inj.mp (by simp)
        rw [htext, useWithEquals?, splitEquals?_append _ (Opt.spelling_shape hmem).2] at hequals
        simp [hletter] at hequals
  | none =>
      simp only [hletter] at h
      split at h
      · rename_i hbegins
        simp only [Option.some.injEq, Token.use.injEq] at h
        obtain ⟨rfl, rfl, rfl⟩ := h
        refine .shortened (isOptionLike_of_toList htext) ?_ hbegins
        intro heq
        subst heq
        exact absurd hspelling (by decide)
      · exact absurd h (by simp)

/-- A use for `classify` uses its option in one of the four forms. -/
theorem uses_of_classify {text : String} {opt : Opt} {long : Bool} {attached : Option String}
    (h : classify text = .use opt long attached) : Uses text opt long attached := by
  unfold classify at h
  split at h
  · exact absurd h (by simp)
  · rename_i hlike
    simp only [Bool.not_eq_true', Bool.not_eq_false] at hlike
    obtain ⟨second, rest, htext⟩ := toList_of_isOptionLike hlike
    cases hspelling : Opt.ofSpelling? text with
    | some found =>
        simp only [hspelling, Token.use.injEq] at h
        obtain ⟨rfl, rfl, rfl⟩ := h
        exact .bare (Opt.ofSpelling?_eq_some_iff.mp hspelling)
    | none =>
        simp only [hspelling, classifyDashed] at h
        cases hequals : useWithEquals? text with
        | some use =>
            rw [hequals] at h
            obtain rfl : use = .use opt long attached := h
            exact uses_of_useWithEquals? hequals
        | none =>
            cases hletter : useOfLetter? text with
            | some use =>
                rw [hequals, hletter] at h
                obtain rfl : use = .use opt long attached := h
                exact uses_of_useOfLetter? htext hspelling hequals hletter
            | none =>
                rw [hequals, hletter] at h
                simp only [Option.or_none] at h
                split at h <;> exact absurd h (by simp)

/-- The arguments that `classify` takes for uses are those of the four forms. -/
theorem classify_eq_use_iff {text : String} {opt : Opt} {long : Bool} {attached : Option String} :
    classify text = .use opt long attached ↔ Uses text opt long attached :=
  ⟨uses_of_classify, classify_of_uses⟩

end LinkDriver.CommandLine
