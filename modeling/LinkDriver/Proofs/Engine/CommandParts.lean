import LinkDriver.CommandLine.Opt
import LinkDriver.Proofs.Configuration
import LinkDriver.Proofs.Engine.Gnu

/-!
# The parts of a linker's command

The arguments of a command are a list of parts: options with their values, the linked files, and the
output. `readParts` takes a list of words apart again. Read `readParts_flatMap_words` first: the
parts are read back whatever their values are, as long as no file begins with a hyphen. So a command
tells what it was composed from, as `command_told` states.
-/

namespace LinkDriver.Gnu

open CommandLine

/-! ## Parts -/

/-- What a part of a command is about. -/
inductive PartKind where
  | sysroot
  | shared
  | soname
  | symbolic
  | dynamicLinker
  | wrap
  | directory
  | file
  | output
  deriving DecidableEq, Repr

/-- Whether the value of a part is a word of its own, behind the word that says what it is. -/
def PartKind.isSeparate : PartKind → Bool
  | soname | dynamicLinker | output => true
  | sysroot | shared | symbolic | wrap | directory | file => false

/-- A part of a command: what it is about, and its value, which is empty for a part without one. -/
structure Part where
  kind : PartKind
  value : String
  deriving DecidableEq, Repr

/-- The words of a part. -/
def Part.words : Part → List String
  | ⟨.sysroot, value⟩ => ["--sysroot=" ++ value]
  | ⟨.shared, _⟩ => ["-shared"]
  | ⟨.soname, value⟩ => ["-soname", value]
  | ⟨.symbolic, _⟩ => ["-Bsymbolic"]
  | ⟨.dynamicLinker, value⟩ => ["--dynamic-linker", value]
  | ⟨.wrap, value⟩ => ["--wrap=" ++ value]
  | ⟨.directory, value⟩ => ["-L" ++ value]
  | ⟨.file, value⟩ => [value]
  | ⟨.output, value⟩ => ["-o", value]

/-- The value of a part can be read back: a file does not begin with a hyphen, and a part without a
value has none. -/
def Part.IsReadable : Part → Prop
  | ⟨.file, value⟩ => isDashed value = false
  | ⟨.shared, value⟩ | ⟨.symbolic, value⟩ => value = ""
  | _ => True

/-- What stands behind a flag in a word, if the word begins with it. -/
def behind? (flag word : String) : Option String :=
  if flag.toList <+: word.toList then some (String.ofList (word.toList.drop flag.toList.length))
  else none

/-- The part that a word begins, with the value that stands in this word. -/
def Part.ofWord (word : String) : Part :=
  if isDashed word = false then ⟨.file, word⟩
  else
    match behind? "--sysroot=" word, behind? "--wrap=" word, behind? "-L" word with
    | some value, _, _ => ⟨.sysroot, value⟩
    | none, some value, _ => ⟨.wrap, value⟩
    | none, none, some value => ⟨.directory, value⟩
    | none, none, none =>
      if word = "-shared" then ⟨.shared, ""⟩
      else if word = "-soname" then ⟨.soname, ""⟩
      else if word = "-Bsymbolic" then ⟨.symbolic, ""⟩
      else if word = "--dynamic-linker" then ⟨.dynamicLinker, ""⟩
      else if word = "-o" then ⟨.output, ""⟩
      else ⟨.file, word⟩

/-- The parts of a list of words. -/
def readParts : List String → List Part
  | [] => []
  | word :: rest =>
    let part := Part.ofWord word
    if part.kind.isSeparate then
      match rest with
      | [] => [part]
      | value :: rest => ⟨part.kind, value⟩ :: readParts rest
    else part :: readParts rest

/-! ## One word -/

theorem behind?_append (flag value : String) : behind? flag (flag ++ value) = some value := by
  have hbegins : flag.toList <+: (flag ++ value).toList := ⟨value.toList, by simp⟩
  unfold behind?
  rw [if_pos hbegins, String.toList_append, List.drop_left, String.ofList_toList]

/-- A word that begins with a flag begins with no other one, unless one flag begins with the
other. -/
theorem behind?_eq_none {flag other : String} (value : String)
    (h : ¬ flag.toList <+: other.toList) (hother : ¬ other.toList <+: flag.toList) :
    behind? other (flag ++ value) = none := by
  unfold behind?
  rw [if_neg]
  intro hbegins
  have hflag : flag.toList <+: (flag ++ value).toList := ⟨value.toList, by simp⟩
  rcases List.prefix_or_prefix_of_prefix hflag hbegins with hprefix | hprefix
  · exact h hprefix
  · exact hother hprefix

theorem isDashed_append {flag : String} (value : String) (h : isDashed flag = true) :
    isDashed (flag ++ value) = true := by
  have hhead : flag.toList.head? = some '-' := by simpa [isDashed] using h
  simp [isDashed, List.head?_append, hhead]

theorem ofWord_sysroot (value : String) :
    Part.ofWord ("--sysroot=" ++ value) = ⟨.sysroot, value⟩ := by
  unfold Part.ofWord
  rw [isDashed_append value (by decide), if_neg (by decide), behind?_append]

theorem ofWord_wrap (value : String) : Part.ofWord ("--wrap=" ++ value) = ⟨.wrap, value⟩ := by
  unfold Part.ofWord
  rw [isDashed_append value (by decide), if_neg (by decide),
    behind?_eq_none value (by decide) (by decide), behind?_append]

theorem ofWord_directory (value : String) : Part.ofWord ("-L" ++ value) = ⟨.directory, value⟩ := by
  unfold Part.ofWord
  rw [isDashed_append value (by decide), if_neg (by decide),
    behind?_eq_none value (by decide) (by decide), behind?_eq_none value (by decide) (by decide),
    behind?_append]

theorem ofWord_file {word : String} (h : isDashed word = false) :
    Part.ofWord word = ⟨.file, word⟩ :=
  if_pos h

/-! ## Reading -/

variable {word : String} {part : Part}

/-- A word that is a whole part is read as that part. -/
theorem readParts_whole (hword : Part.ofWord word = part) (hwhole : part.kind.isSeparate = false)
    (rest : List String) : readParts (word :: rest) = part :: readParts rest := by
  subst hword
  cases rest <;> simp [readParts, hwhole]

/-- A word that only says what a part is about is read with the next word, whatever that is. -/
theorem readParts_separate (hword : Part.ofWord word = part)
    (hseparate : part.kind.isSeparate = true) (value : String) (rest : List String) :
    readParts (word :: value :: rest) = ⟨part.kind, value⟩ :: readParts rest := by
  subst hword
  simp [readParts, hseparate]

/-- A readable part is read in front of any other words. -/
theorem readParts_words (h : part.IsReadable) (rest : List String) :
    readParts (part.words ++ rest) = part :: readParts rest := by
  obtain ⟨kind, value⟩ := part
  cases kind with
  | sysroot => exact readParts_whole (ofWord_sysroot value) rfl rest
  | wrap => exact readParts_whole (ofWord_wrap value) rfl rest
  | directory => exact readParts_whole (ofWord_directory value) rfl rest
  | file => exact readParts_whole (ofWord_file h) rfl rest
  | shared =>
      obtain rfl : value = "" := h
      exact readParts_whole (by decide) rfl rest
  | symbolic =>
      obtain rfl : value = "" := h
      exact readParts_whole (by decide) rfl rest
  | soname =>
      have hword : Part.ofWord "-soname" = ⟨.soname, ""⟩ := by decide
      exact readParts_separate hword rfl value rest
  | dynamicLinker =>
      have hword : Part.ofWord "--dynamic-linker" = ⟨.dynamicLinker, ""⟩ := by decide
      exact readParts_separate hword rfl value rest
  | output =>
      have hword : Part.ofWord "-o" = ⟨.output, ""⟩ := by decide
      exact readParts_separate hword rfl value rest

/-- Readable parts are read back from their words. -/
theorem readParts_flatMap_words {parts : List Part} (h : ∀ part ∈ parts, part.IsReadable) :
    readParts (parts.flatMap Part.words) = parts := by
  induction parts with
  | nil => rfl
  | cons part rest ih =>
      obtain ⟨hpart, hrest⟩ := List.forall_mem_cons.mp h
      rw [List.flatMap_cons, readParts_words hpart, ih hrest]

/-! ## The parts of a command -/

variable {configuration : Configuration} {directories inputs : List String} {output : String}

/-- The parts of the command that links inputs into an output. -/
def partsOf (configuration : Configuration) (directories inputs : List String) (output : String) :
    List Part :=
  (given? configuration.sysroot).toList.map (⟨.sysroot, ·⟩) ++
    (match configuration.outputKind with
      | .executable => []
      | .sharedLibrary =>
        [⟨.shared, ""⟩, ⟨.soname, configuration.soname⟩] ++
          if configuration.symbolic then [⟨.symbolic, ""⟩] else []) ++
    (given? configuration.dynamicLinker).toList.map (⟨.dynamicLinker, ·⟩) ++
    (configuration.wraps.map Value.display).map (⟨.wrap, ·⟩) ++
    directories.map (⟨.directory, ·⟩) ++ inputs.map (⟨.file, ·⟩) ++ [⟨.output, output⟩]

/-- The arguments of a command are the words of its parts. -/
theorem arguments_compose (program : Value) (configuration : Configuration)
    (directories inputs : List String) (output : String) :
    (compose program configuration directories inputs output).arguments =
      (partsOf configuration directories inputs output).flatMap Part.words := by
  unfold compose openCommand Command.withArgument configurationWords partsOf
  cases configuration.outputKind <;> cases configuration.symbolic <;>
    simp [List.flatMap_map, ← List.map_eq_flatMap, Part.words, Function.comp_def]

/-- The parts of a command are readable where no input begins with a hyphen. -/
theorem isReadable_of_mem_partsOf (h : ∀ input ∈ inputs, isDashed input = false) :
    ∀ part ∈ partsOf configuration directories inputs output, part.IsReadable := by
  unfold partsOf
  cases configuration.outputKind <;> cases configuration.symbolic <;>
    simpa [or_imp, forall_and, Part.IsReadable] using h

/-- The values of the parts of one kind, in their order. -/
def valuesOf (kind : PartKind) (parts : List Part) : List String :=
  (parts.filter fun part => part.kind = kind).map Part.value

@[simp] theorem valuesOf_nil (kind : PartKind) : valuesOf kind [] = [] := rfl

@[simp] theorem valuesOf_cons (kind : PartKind) (part : Part) (rest : List Part) :
    valuesOf kind (part :: rest) =
      if part.kind = kind then part.value :: valuesOf kind rest else valuesOf kind rest := by
  split
  · rename_i hsame
    simp [valuesOf, hsame]
  · rename_i hdifferent
    simp [valuesOf, hdifferent]

@[simp] theorem valuesOf_append (kind : PartKind) (first second : List Part) :
    valuesOf kind (first ++ second) = valuesOf kind first ++ valuesOf kind second := by
  simp [valuesOf]

@[simp] theorem valuesOf_map (kind other : PartKind) (values : List String) :
    valuesOf kind (values.map (⟨other, ·⟩)) = if other = kind then values else [] := by
  split
  · rename_i hsame
    simp [valuesOf, List.filter_map, Function.comp_def, hsame]
  · rename_i hdifferent
    simp [valuesOf, List.filter_map, Function.comp_def, hdifferent]

/-- The values of a command's parts, by their kinds. -/
theorem valuesOf_partsOf (kind : PartKind) :
    valuesOf kind (partsOf configuration directories inputs output) =
      match kind with
      | .sysroot => (given? configuration.sysroot).toList
      | .shared => if configuration.outputKind = .sharedLibrary then [""] else []
      | .soname =>
        if configuration.outputKind = .sharedLibrary then [configuration.soname] else []
      | .symbolic =>
        if configuration.outputKind = .sharedLibrary ∧ configuration.symbolic then [""] else []
      | .dynamicLinker => (given? configuration.dynamicLinker).toList
      | .wrap => configuration.wraps.map Value.display
      | .directory => directories
      | .file => inputs
      | .output => [output] := by
  -- The maps stay apart, so that every list of parts keeps its kind.
  unfold partsOf
  cases kind <;> cases configuration.outputKind <;> cases configuration.symbolic <;>
    simp [-List.map_map]

/-- Equal parts come from equal inputs, directories and outputs, and from configurations that differ
in no more than what the command leaves out. -/
theorem eq_of_partsOf_eq {other : Configuration} {otherDirectories otherInputs : List String}
    {otherOutput : String}
    (h : partsOf configuration directories inputs output =
      partsOf other otherDirectories otherInputs otherOutput) :
    given? configuration.sysroot = given? other.sysroot ∧
      configuration.outputKind = other.outputKind ∧
      (configuration.outputKind = .sharedLibrary →
        configuration.soname = other.soname ∧ configuration.symbolic = other.symbolic) ∧
      given? configuration.dynamicLinker = given? other.dynamicLinker ∧
      configuration.wraps.map Value.display = other.wraps.map Value.display ∧
      directories = otherDirectories ∧ inputs = otherInputs ∧ output = otherOutput := by
  have hvalues (kind : PartKind) := congrArg (valuesOf kind) h
  simp only [valuesOf_partsOf] at hvalues
  have hkind : configuration.outputKind = other.outputKind := by
    have hshared := hvalues .shared
    cases hfirst : configuration.outputKind <;> cases hsecond : other.outputKind <;>
      simp [hfirst, hsecond] at hshared ⊢
  refine ⟨by simpa using congrArg List.head? (hvalues .sysroot), hkind, fun hshared => ⟨?_, ?_⟩,
    by simpa using congrArg List.head? (hvalues .dynamicLinker), hvalues .wrap, hvalues .directory,
    hvalues .file, by simpa using hvalues .output⟩
  · simpa [← hkind, hshared] using hvalues .soname
  · have hsymbolic := hvalues .symbolic
    cases hfirst : configuration.symbolic <;> cases hsecond : other.symbolic <;>
      simp [← hkind, hshared, hfirst, hsecond] at hsymbolic ⊢

/-! ## Commands -/

/-- A state whose command can be read back: it has the configuration of some options, in which the
wrapped symbols are texts, and no input begins with a hyphen. -/
structure State.Readable (state : State) (configuration : Configuration) : Prop where
  configured : state.configuration = some configuration
  built : ∃ options output, LinkOptions.configuration? options output = some configuration
  textual : ∃ symbols : List String, configuration.wraps = symbols.map .text
  undashed : ∀ input ∈ state.inputs, isDashed input = false

variable {settings : Settings} {state : State} {command : Command}

/-- The arguments of a command are read as the parts of what it was composed from. -/
theorem State.Readable.readParts_arguments (h : state.Readable configuration)
    (hcommand : state.command? settings = some (.ok command)) :
    command.program = settings.program ∧ ∃ directories output,
      state.searchDirs = .ok directories ∧ state.output = some output ∧
        readParts command.arguments =
          partsOf configuration directories state.inputs output := by
  unfold State.command? State.draft at hcommand
  unfold State.searchDirs
  rw [h.configured] at hcommand ⊢
  cases houtput : state.output with
  | none => simp [houtput] at hcommand
  | some output =>
      cases hdirectories : searchDirsOf configuration with
      | error fault => simp [houtput, hdirectories, Except.map] at hcommand
      | ok directories =>
          simp only [houtput, hdirectories, Except.map, Option.some.injEq, Except.ok.injEq]
            at hcommand
          subst hcommand
          refine ⟨rfl, directories, output, hdirectories, rfl, ?_⟩
          show readParts
            (compose settings.program configuration directories state.inputs output).arguments = _
          rw [arguments_compose, readParts_flatMap_words (isReadable_of_mem_partsOf h.undashed)]

/-- A command tells what it was composed from: the linker, the sysroot, the kind of the output, the
name and the binding of a shared library, the dynamic linker, the wrapped symbols, the search
directories, the inputs and the output. -/
theorem command_told {otherSettings : Settings} {otherState : State} {other : Configuration}
    (h : state.Readable configuration) (hother : otherState.Readable other)
    (hcommand : state.command? settings = some (.ok command))
    (hotherCommand : otherState.command? otherSettings = some (.ok command)) :
    settings.program = otherSettings.program ∧
      configuration.sysroot = other.sysroot ∧
      configuration.outputKind = other.outputKind ∧
      (configuration.outputKind = .sharedLibrary →
        configuration.soname = other.soname ∧ configuration.symbolic = other.symbolic) ∧
      configuration.dynamicLinker = other.dynamicLinker ∧
      configuration.wraps = other.wraps ∧
      state.searchDirs = otherState.searchDirs ∧
      state.inputs = otherState.inputs ∧
      state.output = otherState.output := by
  obtain ⟨options, path, hbuilt⟩ := h.built
  obtain ⟨otherOptions, otherPath, hotherBuilt⟩ := hother.built
  obtain ⟨symbols, hsymbols⟩ := h.textual
  obtain ⟨otherSymbols, hotherSymbols⟩ := hother.textual
  have hconfigured := LinkOptions.configured_of_configuration? hbuilt
  have hotherConfigured := LinkOptions.configured_of_configuration? hotherBuilt
  obtain ⟨hprogram, directories, output, hdirectories, houtput, hparts⟩ :=
    h.readParts_arguments hcommand
  obtain ⟨hotherProgram, otherDirectories, otherOutput, hotherDirectories, hotherOutput,
    hotherParts⟩ := hother.readParts_arguments hotherCommand
  obtain ⟨hsysroot, hkind, hlibrary, hlinker, hwraps, rfl, hinputs, rfl⟩ :=
    eq_of_partsOf_eq (hparts.symm.trans hotherParts)
  -- An empty text leaves no word behind, like a missing one, but options configure no empty text.
  rw [hconfigured.given?_sysroot, hotherConfigured.given?_sysroot] at hsysroot
  rw [hconfigured.given?_dynamicLinker, hotherConfigured.given?_dynamicLinker] at hlinker
  have hsame : symbols = otherSymbols := by
    simpa [hsymbols, hotherSymbols, Function.comp_def] using hwraps
  exact ⟨hprogram.symm.trans hotherProgram, hsysroot, hkind, hlibrary, hlinker,
    by rw [hsymbols, hotherSymbols, hsame], hdirectories.trans hotherDirectories.symm,
    hinputs, houtput.trans hotherOutput.symm⟩

/-- Two configurations whose names look like options, and that write one search directory in two
ways, have the same command. It tells everything but the way in which the directory is written. -/
theorem command_told_of_option_like :
    let options (directory : String) : LinkOptions :=
      ⟨some [], some [], none, some "-Bsymbolic", some "/sr", some "-o", some [.text "-L", .text ""],
        some [], some [.text directory], true, false, none⟩
    ∃ configuration other command, (options "=/opt").configuration? "out" = some configuration ∧
      (options "/sr/opt").configuration? "out" = some other ∧ configuration ≠ other ∧
      let settings : Settings := ⟨.text "ld", false, false⟩
      let state : State := ⟨some configuration, some "-L", ["a.o"]⟩
      let otherState : State := ⟨some other, some "-L", ["a.o"]⟩
      command.arguments = ["--sysroot=/sr", "-shared", "-soname", "-Bsymbolic", "--dynamic-linker",
        "-o", "--wrap=-L", "--wrap=", "-L/sr/opt", "-L/sr/lib", "-L/sr/usr/lib", "a.o", "-o", "-L"] ∧
      state.command? settings = some (.ok command) ∧
      otherState.command? settings = some (.ok command) ∧
      configuration.soname = other.soname ∧ configuration.wraps = other.wraps ∧
      state.searchDirs = otherState.searchDirs := by
  intro options
  let command : Command := ⟨.text "ld", ["--sysroot=/sr", "-shared", "-soname", "-Bsymbolic",
    "--dynamic-linker", "-o", "--wrap=-L", "--wrap=", "-L/sr/opt", "-L/sr/lib", "-L/sr/usr/lib",
    "a.o", "-o", "-L"]⟩
  have hreadable (directory : String) (configuration : Configuration)
      (hbuilt : (options directory).configuration? "out" = some configuration)
      (hwraps : configuration.wraps = ["-L", ""].map .text) :
      State.Readable ⟨some configuration, some "-L", ["a.o"]⟩ configuration :=
    ⟨rfl, ⟨_, _, hbuilt⟩, ⟨_, hwraps⟩, List.forall_mem_singleton.mpr (by decide)⟩
  refine ⟨_, _, command, rfl, rfl, by decide +kernel, ?_⟩
  intro settings state otherState
  have hcommand : state.command? settings = some (.ok command) := by decide +kernel
  have hother : otherState.command? settings = some (.ok command) := by decide +kernel
  obtain ⟨-, -, -, hlibrary, -, hwraps, hsearched, -⟩ := command_told
    (hreadable "=/opt" _ rfl rfl) (hreadable "/sr/opt" _ rfl rfl) hcommand hother
  exact ⟨rfl, hcommand, hother, (hlibrary rfl).1, hwraps, hsearched⟩

end LinkDriver.Gnu
