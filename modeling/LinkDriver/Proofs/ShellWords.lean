import LinkDriver.Shell

/-!
# Reading shell words back

`split` takes a text apart into words as a POSIX shell does, without comments and without
expansions: blanks separate words, single quotes keep all between them, and a backslash keeps the
next character, between double quotes only a double quote or a backslash. `Reader.step` reads one
character.

Read `split_quoteCommand` first: what is pasted from a printed command line are the words of the
command.
-/

namespace LinkDriver.Shell

/-- The characters that separate words. -/
def separators : List Char :=
  [' ', '\t', '\r', '\n']

/-- Where a reader stands: between two words, or in a word of which some characters are read. In a
word it stands outside quotes, between single or double quotes, or behind a backslash, which stands
outside quotes or between double ones. -/
inductive Place where
  | between
  | bare (word : List Char)
  | single (word : List Char)
  | double (word : List Char)
  | escaped (word : List Char)
  | escapedInDouble (word : List Char)
  deriving DecidableEq, Repr

/-- The place in a word behind one more character outside quotes, which is no separator. -/
def Place.enter (word : List Char) (c : Char) : Place :=
  if c = '\x27' then .single word
  else if c = '\x22' then .double word
  else if c = '\\' then .escaped word
  else .bare (word ++ [c])

/-- The words that a reader has finished, and where it stands. -/
structure Reader where
  words : List String
  place : Place
  deriving DecidableEq, Repr

namespace Reader

/-- Reads one character. -/
def step (reader : Reader) (c : Char) : Reader :=
  match reader.place with
  | .between => if c ∈ separators then reader else ⟨reader.words, .enter [] c⟩
  | .bare word =>
    if c ∈ separators then ⟨reader.words ++ [String.ofList word], .between⟩
    else ⟨reader.words, .enter word c⟩
  | .single word => ⟨reader.words, if c = '\x27' then .bare word else .single (word ++ [c])⟩
  | .double word =>
    ⟨reader.words,
      if c = '\x22' then .bare word
      else if c = '\\' then .escapedInDouble word
      else .double (word ++ [c])⟩
  | .escaped word => ⟨reader.words, .bare (word ++ [c])⟩
  | .escapedInDouble word =>
    ⟨reader.words, .double (if c = '\x22' ∨ c = '\\' then word ++ [c] else word ++ ['\\', c])⟩

/-- Reads a text. -/
def read (reader : Reader) (text : List Char) : Reader :=
  text.foldl step reader

end Reader

/-- Why a text has no words: its end stands between quotes, or behind a backslash. -/
inductive Unfinished where
  | openQuotation
  | openEscape
  deriving DecidableEq, Repr

/-- The words that are read at the end of a text. -/
def Reader.finish (reader : Reader) : Except Unfinished (List String) :=
  match reader.place with
  | .between => .ok reader.words
  | .bare word => .ok (reader.words ++ [String.ofList word])
  | .single _ | .double _ => .error .openQuotation
  | .escaped _ | .escapedInDouble _ => .error .openEscape

/-- The words of a text. -/
def split (text : String) : Except Unfinished (List String) :=
  (Reader.read ⟨[], .between⟩ text.toList).finish

variable {words : List String} {word : List Char} {c : Char}

namespace Reader

theorem read_append (reader : Reader) (first second : List Char) :
    reader.read (first ++ second) = (reader.read first).read second :=
  List.foldl_append

/-! ## Plain characters -/

/-- A plain character is no separator. -/
theorem not_mem_separators (h : isPlain c = true) : c ∉ separators := by
  intro hmem
  simp only [separators, List.mem_cons, List.not_mem_nil, or_false] at hmem
  rcases hmem with rfl | rfl | rfl | rfl <;> exact absurd h (by decide)

/-- A plain character is neither a quote nor a backslash. -/
theorem enter_plain (h : isPlain c = true) (word : List Char) :
    Place.enter word c = .bare (word ++ [c]) := by
  have hne {mark : Char} (hmark : isPlain mark = false) : c ≠ mark := by
    rintro rfl
    exact absurd (h.symm.trans hmark) (by decide)
  unfold Place.enter
  rw [if_neg (hne rfl), if_neg (hne rfl), if_neg (hne rfl)]

/-- A plain character is added to a word outside quotes. -/
theorem step_bare_plain (h : isPlain c = true) :
    step ⟨words, .bare word⟩ c = ⟨words, .bare (word ++ [c])⟩ := by
  simp only [step, if_neg (not_mem_separators h), enter_plain h]

/-- A plain character begins a word. -/
theorem step_between_plain (h : isPlain c = true) :
    step ⟨words, .between⟩ c = ⟨words, .bare [c]⟩ := by
  simp only [step, if_neg (not_mem_separators h), enter_plain h, List.nil_append]

/-- Plain characters are added to a word outside quotes. -/
theorem read_bare_plain {text : List Char} (h : ∀ c ∈ text, isPlain c = true) :
    read ⟨words, .bare word⟩ text = ⟨words, .bare (word ++ text)⟩ := by
  induction text generalizing word with
  | nil => rw [List.append_nil]; rfl
  | cons c text ih =>
      obtain ⟨hplain, hrest⟩ := List.forall_mem_cons.mp h
      show read (step ⟨words, .bare word⟩ c) text = _
      rw [step_bare_plain hplain, ih hrest, List.append_assoc, List.singleton_append]

/-! ## Quoted words -/

/-- What is written for a character between single quotes is read as that character. For a single
quote the reader leaves the quotes, reads the quote between double ones, and enters them again. -/
theorem read_quotedChar (words : List String) (word : List Char) (c : Char) :
    read ⟨words, .single word⟩ (quotedChar c) = ⟨words, .single (word ++ [c])⟩ := by
  unfold quotedChar
  split
  · rename_i hquote
    subst hquote
    rfl
  · rename_i hother
    show step ⟨words, .single word⟩ c = _
    simp only [step, if_neg hother]

theorem read_quotedChars (words : List String) (word text : List Char) :
    read ⟨words, .single word⟩ (text.flatMap quotedChar) = ⟨words, .single (word ++ text)⟩ := by
  induction text generalizing word with
  | nil => rw [List.append_nil]; rfl
  | cons c text ih =>
      rw [List.flatMap_cons, read_append, read_quotedChar, ih, List.append_assoc,
        List.singleton_append]

/-- A quoted word is read as that word. -/
theorem read_quoteChars (words : List String) (word : List Char) :
    read ⟨words, .between⟩ (quoteChars word) = ⟨words, .bare word⟩ := by
  unfold quoteChars
  split
  · rename_i hplain
    obtain ⟨hne, hall⟩ := hplain
    obtain ⟨c, rest, rfl⟩ := List.exists_cons_of_ne_nil hne
    obtain ⟨hfirst, hrest⟩ := List.forall_mem_cons.mp (List.all_eq_true.mp hall)
    show read (step ⟨words, .between⟩ c) rest = _
    rw [step_between_plain hfirst, read_bare_plain hrest, List.singleton_append]
  · show read (step ⟨words, .between⟩ '\x27') (word.flatMap quotedChar ++ ['\x27']) = _
    have hopen : step ⟨words, .between⟩ '\x27' = ⟨words, .single []⟩ := rfl
    rw [hopen, read_append, read_quotedChars, List.nil_append]
    rfl

/-! ## Command lines -/

/-- From between two words, a command line is read as its words. -/
theorem finish_read_quoteCommand (words command : List String) :
    (read ⟨words, .between⟩ (quoteCommand command).toList).finish = .ok (words ++ command) := by
  induction command generalizing words with
  | nil => rw [List.append_nil]; rfl
  | cons word rest ih =>
      have hword : read ⟨words, .between⟩ (quote word).toList = ⟨words, .bare word.toList⟩ := by
        rw [quote, String.toList_ofList, read_quoteChars]
      cases rest with
      | nil =>
          have hcommand : quoteCommand [word] = quote word := String.intercalate_singleton
          rw [hcommand, hword]
          show Except.ok (words ++ [String.ofList word.toList]) = _
          rw [String.ofList_toList]
      | cons next others =>
          have hcommand : quoteCommand (word :: next :: others) =
              quote word ++ " " ++ quoteCommand (next :: others) := String.intercalate_cons_cons
          -- The blank ends the first word, and the reader is between words again.
          have hblank : read ⟨words, .bare word.toList⟩ " ".toList =
              ⟨words ++ [String.ofList word.toList], .between⟩ := rfl
          rw [hcommand, String.toList_append, String.toList_append, read_append, read_append, hword,
            hblank, ih, String.ofList_toList, List.append_assoc, List.singleton_append]

end Reader

/-- A printed command line is read as the words of the command, whatever characters they have. So
different commands are printed differently. -/
theorem split_quoteCommand :
    (∀ words, split (quoteCommand words) = .ok words) ∧
      ∀ words others, quoteCommand words = quoteCommand others → words = others := by
  have hsplit : ∀ words, split (quoteCommand words) = .ok words :=
    Reader.finish_read_quoteCommand []
  refine ⟨hsplit, ?_⟩
  intro words others hsame
  have hwords : Except.ok words = (.ok others : Except Unfinished (List String)) := by
    rw [← hsplit words, hsame, hsplit]
  exact Except.ok.inj hwords

/-- A quote inside a word leaves the single quotes and enters them again. -/
example : quoteCommand ["ld", "", "it's"] = "ld '' 'it'\"'\"'s'" := by decide

/-- Between double quotes a backslash stands for itself, unless a double quote or a backslash
follows. -/
example : split "a\\ b\t\"c\\\"d\\e\"''" = .ok ["a b", "c\"d\\e"] := rfl

end LinkDriver.Shell
