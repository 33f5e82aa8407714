import LinkDriver.Proofs.CommandLine.Order

/-!
# Tails of a command line

A tail is what stands behind the end of the options, a head is what stands before it. Read
`tails_alike_iff` first: of two tails behind one head nothing can be told but the object files that
they are. Both command lines are rejected alike, or refused alike, or resolved to the same link
options with the object files of the tail at their end. The one exception is a head with a library
in a cluster and a library whose name is blank: the refusal cannot name its libraries, and both
command lines fail by the same fault.
-/

namespace LinkDriver.CommandLine

/-! ## Definitions -/

/-- A head with an end of the options, and a tail behind it. -/
def withTail (head tail : List String) : List String :=
  head ++ endOfOptions :: tail

/-- What becomes of a command line: it is rejected, its arguments are not resolved, or they are
resolved to link options. -/
def outcomeOf (host : Host) (commandLine : List String) :
    Except Exit (Except Failure LinkOptions) :=
  (parse host commandLine).result.map fun arguments =>
    ((resolve arguments commandLine).run ()).result

/-- The object files of a tail, each at the position of its own argument. -/
def tailObjects (head tail : List String) : List ObjectFile :=
  tail.mapIdx fun index path => ⟨head.length + 2 + index, path⟩

/-- `Alike head first second one other` says the outcomes `one` and `other`, of the tails `first`
and `second` behind one head, differ in nothing but the object files of the tails. -/
inductive Alike (head first second : List String) :
    Except Exit (Except Failure LinkOptions) → Except Exit (Except Failure LinkOptions) → Prop where
  | rejected (exit : Exit) : Alike head first second (.error exit) (.error exit)
  | objectsUnplaced :
      Alike head first second
        (.ok (.error (.driver (.objectPositions ((read 1 head).operands ++ first)))))
        (.ok (.error (.driver (.objectPositions ((read 1 head).operands ++ second)))))
  | namespecsUnplaced (names : List String) :
      Alike head first second (.ok (.error (.driver (.namespecPositions names))))
        (.ok (.error (.driver (.namespecPositions names))))
  | resolved (options : LinkOptions) (leading : List ObjectFile) :
      leading.map ObjectFile.path = (read 1 head).operands →
      Alike head first second
        (.ok (.ok { options with objects := some (leading ++ tailObjects head first) }))
        (.ok (.ok { options with objects := some (leading ++ tailObjects head second) }))

/-- A head is accepted if it is read without a complaint, every option in it is taken, and nothing
is left over. -/
structure HeadAccepted (host : Host) (head : List String) : Prop where
  complaint : (read 1 head).complaint = none
  surplus : (read 1 head).surplus = []
  taken : ((Progress.start host).takeAll (read 1 head).occurrences).2 = none

/-- The names of the libraries are lost to a refusal: the object files of a reading are placed, its
libraries are not, and one of their names is blank. -/
structure Reading.NamesLost (reading : Reading) : Prop where
  objects : reading.clusteredValues = reading.dashedOperands
  libraries : 0 < reading.clusteredLibraries
  blank : ∃ occurrence ∈ reading.libraries, occurrence.value = .blank

/-- The arguments that the options of a head give. -/
def headArguments (host : Host) (head : List String) : Arguments :=
  ((Progress.start host).takeAll (read 1 head).occurrences).1.arguments

/-- The object files of a head at the positions of the scan. -/
def headObjects (head : List String) : List ObjectFile :=
  objectsAt ((read 1 head).elements.filterMap Element.scannedObject?) (read 1 head).operands

/-- The namespecs of a head at the positions of their arguments. -/
def headNamespecs (head : List String) : List NameSpec :=
  (read 1 head).libraries.map fun occurrence => ⟨occurrence.position, occurrence.value⟩

/-! ## Where the tail begins -/

variable {host : Host} {head tail : List String}

/-- The first end of the options is the one behind the head, whatever the tail holds. -/
theorem beforeEnd_withTail (hhead : endOfOptions ∉ head) (tail : List String) :
    beforeEnd (withTail head tail) = head :=
  (beforeEnd_append hhead tail).1

theorem behindEnd_withTail (hhead : endOfOptions ∉ head) (tail : List String) :
    behindEnd (withTail head tail) = tail :=
  (beforeEnd_append hhead tail).2

theorem readingOf_withTail (hhead : endOfOptions ∉ head) (tail : List String) :
    readingOf (withTail head tail) = read 1 head := by
  rw [readingOf, beforeEnd_withTail hhead]

/-- The object files behind the end of the options are those of the tail. -/
theorem objectsBehind_withTail (hhead : endOfOptions ∉ head) (tail : List String) :
    objectsBehind (withTail head tail) = tailObjects head tail := by
  apply List.ext_getElem?
  intro index
  rw [getElem?_objectsBehind, beforeEnd_withTail hhead, behindEnd_withTail hhead, tailObjects,
    List.getElem?_mapIdx]

/-! ## The outcome behind a head -/

/-- What parsing does to the host is done by the head alone. -/
theorem parse_withTail (hhead : endOfOptions ∉ head) (tail : List String) :
    parse host (withTail head tail) =
      { host := ((Progress.start host).takeAll (read 1 head).occurrences).1.host
        files := ((Progress.start host).takeAll (read 1 head).occurrences).1.files
        result :=
          match ((Progress.start host).takeAll (read 1 head).occurrences).2 with
          | some exit => .error exit
          | none => settle (headArguments host head) (read 1 head) tail } := by
  unfold parse
  rw [beforeEnd_withTail hhead, behindEnd_withTail hhead]
  rfl

/-- A head that is not accepted is rejected in front of every tail, and always for one reason. -/
theorem rejected_withTail (hhead : endOfOptions ∉ head) (h : ¬ HeadAccepted host head) :
    ∃ exit, ∀ tail, outcomeOf host (withTail head tail) = .error exit := by
  simp only [outcomeOf, parse_withTail hhead]
  cases htaken : ((Progress.start host).takeAll (read 1 head).occurrences).2 with
  | some exit => exact ⟨exit, fun tail => rfl⟩
  | none =>
      cases hcomplaint : (read 1 head).complaint with
      | some complaint =>
          exact ⟨.rejected complaint, fun tail => by simp [settle, hcomplaint, Except.map]⟩
      | none =>
          have hsurplus : (read 1 head).surplus ≠ [] :=
            fun hnone => h ⟨hcomplaint, hnone, htaken⟩
          exact ⟨.rejected (.unrecognized (read 1 head).surplus),
            fun tail => by simp [settle, hcomplaint, hsurplus, Except.map]⟩

/-- An accepted head makes an accepted command line with every tail in which there is an object
file. -/
theorem HeadAccepted.acceptedAs (h : HeadAccepted host head) (hhead : endOfOptions ∉ head)
    (htail : tail ≠ []) :
    AcceptedAs host (withTail head tail)
      { headArguments host head with objects := (read 1 head).operands ++ tail } := by
  have hreading := readingOf_withTail hhead tail
  refine ⟨?_, ?_, ?_, ?_, ?_⟩
  · rw [hreading, h.complaint]
  · rw [hreading, h.surplus]
  · rw [hreading, behindEnd_withTail hhead]
  · simp [htail]
  · rw [hreading]
    exact ⟨_, Prod.ext rfl h.taken, rfl⟩

/-- An accepted head is resolved on the command line that it makes with a tail. -/
theorem HeadAccepted.outcomeOf_eq (h : HeadAccepted host head) (hhead : endOfOptions ∉ head)
    (htail : tail ≠ []) :
    outcomeOf host (withTail head tail) = .ok ((resolve
      { headArguments host head with objects := (read 1 head).operands ++ tail }
        (withTail head tail)).run ()).result := by
  unfold outcomeOf
  rw [parse_eq_ok_iff.mpr (h.acceptedAs hhead htail)]
  rfl

/-- Where a value in a cluster and a dashed operand do not balance, the object files cannot be
placed. -/
theorem HeadAccepted.objects_unplaced (h : HeadAccepted host head) (hhead : endOfOptions ∉ head)
    (htail : tail ≠ [])
    (hobjects : (read 1 head).clusteredValues ≠ (read 1 head).dashedOperands) :
    outcomeOf host (withTail head tail) =
      .ok (.error (.driver (.objectPositions ((read 1 head).operands ++ tail)))) := by
  have hlength := (h.acceptedAs hhead htail).length_objects_iff
  rw [readingOf_withTail hhead] at hlength
  rw [h.outcomeOf_eq hhead htail, resolve_result, placedInputs]
  simp only
  rw [if_pos (mt hlength.mp hobjects)]
  rfl

/-- Where a library stands in a cluster, the namespecs cannot be placed. -/
theorem HeadAccepted.namespecs_unplaced (h : HeadAccepted host head) (hhead : endOfOptions ∉ head)
    (htail : tail ≠ [])
    (hobjects : (read 1 head).clusteredValues = (read 1 head).dashedOperands)
    (hlibraries : 0 < (read 1 head).clusteredLibraries) :
    outcomeOf host (withTail head tail) =
      .ok (.error (namespecPositionsUnknown ((read 1 head).libraries.map Occurrence.value))) := by
  have haccepted := h.acceptedAs hhead htail
  have hlength := haccepted.length_objects_iff
  have hcount := haccepted.length_libraries_iff
  have hnames := haccepted.libraries_eq
  rw [readingOf_withTail hhead] at hlength hcount hnames
  rw [h.outcomeOf_eq hhead htail, resolve_result, placedInputs]
  simp only
  rw [if_neg (not_not_intro (hlength.mpr hobjects)),
    if_pos (mt hcount.mp (Nat.ne_of_gt hlibraries)), ← hnames]
  rfl

/-- Otherwise the head alone says all of the link options but the object files at their end. -/
theorem HeadAccepted.resolved (h : HeadAccepted host head) (hhead : endOfOptions ∉ head)
    (htail : tail ≠ [])
    (hobjects : (read 1 head).clusteredValues = (read 1 head).dashedOperands)
    (hlibraries : (read 1 head).clusteredLibraries = 0) :
    (headObjects head).map ObjectFile.path = (read 1 head).operands ∧
      outcomeOf host (withTail head tail) =
        .ok (.ok { linkOptions (headArguments host head) [] (headNamespecs head) with
          objects := some (headObjects head ++ tailObjects head tail) }) := by
  have haccepted := h.acceptedAs hhead htail
  have hlength := haccepted.length_objects_iff
  have hcount := haccepted.length_libraries_iff
  rw [readingOf_withTail hhead] at hlength hcount
  obtain ⟨options, hresolve⟩ : ∃ options, ((resolve
      { headArguments host head with objects := (read 1 head).operands ++ tail }
        (withTail head tail)).run ()).result = .ok options :=
    ⟨_, resolve_eq_ok_iff.mpr ⟨hlength.mpr hobjects, hcount.mpr hlibraries, rfl⟩⟩
  obtain ⟨hscanned, hplaced⟩ := haccepted.objects_eq hresolve
  obtain ⟨-, hnamed⟩ := haccepted.namespecs_eq hresolve
  rw [readingOf_withTail hhead, objectsBehind_withTail hhead] at hplaced
  rw [readingOf_withTail hhead] at hscanned hnamed
  refine ⟨map_value_zipWith ObjectFile.path (fun _ _ => rfl) hscanned, ?_⟩
  rw [h.outcomeOf_eq hhead htail, hresolve]
  obtain ⟨-, -, rfl⟩ := resolve_eq_ok_iff.mp hresolve
  have hobjectList := Option.some.inj hplaced
  have hnameList := Option.some.inj hnamed
  rw [hobjectList, hnameList]
  rfl

/-! ## Two tails -/

/-- Where a name is blank, the complaint about namespecs without positions is a fault. -/
theorem namespecPositionsUnknown_cases (names : List Value) :
    (.blank ∉ names ∧ ∃ contents, namespecPositionsUnknown names =
        .driver (.namespecPositions contents)) ∨
      (.blank ∈ names ∧ ∃ index, namespecPositionsUnknown names =
        .fault (.blank (.joined index))) := by
  unfold namespecPositionsUnknown
  cases htexts : texts? names with
  | some contents =>
      refine Or.inl ⟨?_, contents, rfl⟩
      intro hblank
      exact absurd (htexts.symm.trans (texts?_eq_none_iff.mpr hblank)) (by simp)
  | none => exact Or.inr ⟨texts?_eq_none_iff.mp htexts, _, rfl⟩

/-- Two command lines with one head leave one host and the same opened files. What becomes of them
is alike, whatever stands in their tails, exactly if the head is not accepted or does not lose the
names of its libraries; if it does, both command lines end with one fault. -/
theorem tails_alike_iff (host : Host) {head : List String} (hhead : endOfOptions ∉ head)
    {first second : List String} (hfirst : first ≠ []) (hsecond : second ≠ []) :
    (parse host (withTail head first)).host = (parse host (withTail head second)).host ∧
    (parse host (withTail head first)).files = (parse host (withTail head second)).files ∧
    (Alike head first second (outcomeOf host (withTail head first))
        (outcomeOf host (withTail head second)) ↔
      ¬ (HeadAccepted host head ∧ (read 1 head).NamesLost)) ∧
    (HeadAccepted host head → (read 1 head).NamesLost → ∃ index,
      outcomeOf host (withTail head first) = .ok (.error (.fault (.blank (.joined index)))) ∧
      outcomeOf host (withTail head second) = .ok (.error (.fault (.blank (.joined index))))) := by
  have hlost : HeadAccepted host head → (read 1 head).NamesLost → ∃ index,
      outcomeOf host (withTail head first) = .ok (.error (.fault (.blank (.joined index)))) ∧
      outcomeOf host (withTail head second) = .ok (.error (.fault (.blank (.joined index)))) := by
    intro haccepted hlost
    rw [haccepted.namespecs_unplaced hhead hfirst hlost.objects hlost.libraries,
      haccepted.namespecs_unplaced hhead hsecond hlost.objects hlost.libraries]
    rcases namespecPositionsUnknown_cases ((read 1 head).libraries.map Occurrence.value) with
      ⟨hnone, -⟩ | ⟨-, index, hfault⟩
    · exact absurd (List.mem_map.mpr hlost.blank) hnone
    · exact ⟨index, by rw [hfault], by rw [hfault]⟩
  refine ⟨by simp only [parse_withTail hhead], by simp only [parse_withTail hhead], ?_, hlost⟩
  constructor
  · rintro halike ⟨haccepted, hnames⟩
    obtain ⟨index, hone, hother⟩ := hlost haccepted hnames
    rw [hone, hother] at halike
    cases halike
  · intro hkept
    by_cases haccepted : HeadAccepted host head
    · by_cases hobjects : (read 1 head).clusteredValues = (read 1 head).dashedOperands
      · rcases Nat.eq_zero_or_pos (read 1 head).clusteredLibraries with hnone | hlibraries
        · obtain ⟨hpaths, hone⟩ := haccepted.resolved hhead hfirst hobjects hnone
          obtain ⟨-, hother⟩ := haccepted.resolved hhead hsecond hobjects hnone
          rw [hone, hother]
          exact .resolved _ _ hpaths
        · rw [haccepted.namespecs_unplaced hhead hfirst hobjects hlibraries,
            haccepted.namespecs_unplaced hhead hsecond hobjects hlibraries]
          rcases namespecPositionsUnknown_cases ((read 1 head).libraries.map Occurrence.value) with
            ⟨-, contents, hnames⟩ | ⟨hblank, -⟩
          · rw [hnames]
            exact .namespecsUnplaced contents
          · exact absurd ⟨haccepted, hobjects, hlibraries, List.mem_map.mp hblank⟩ hkept
      · rw [haccepted.objects_unplaced hhead hfirst hobjects,
          haccepted.objects_unplaced hhead hsecond hobjects]
        exact .objectsUnplaced
    · obtain ⟨exit, hexit⟩ := rejected_withTail hhead haccepted
      rw [hexit first, hexit second]
      exact .rejected exit

/-- Behind an end of the options a library flag and a second end are object files like any other.
Behind the head `-vl--` both tails end with one fault. -/
theorem tails_alike_behind_library :
    let host := Host.new (some "/work")
    let head := ["-o", "out", "a.o", "-lm"]
    (endOfOptions ∉ head ∧
      Alike head ["-l", "--", "--static"] ["b.o"]
        (outcomeOf host (withTail head ["-l", "--", "--static"]))
        (outcomeOf host (withTail head ["b.o"]))) ∧
    HeadAccepted host ["-vl--"] ∧ (read 1 ["-vl--"]).NamesLost ∧
      ∃ index, outcomeOf host (withTail ["-vl--"] ["-l", "--", "--static"]) =
        .ok (.error (.fault (.blank (.joined index)))) := by
  intro host head
  have hfirst : ["-l", "--", "--static"] ≠ [] := by simp
  have hsecond : ["b.o"] ≠ [] := by simp
  have hhead : endOfOptions ∉ head := by decide
  obtain ⟨-, -, halike, -⟩ := tails_alike_iff host hhead hfirst hsecond
  have hplaced : (read 1 head).clusteredLibraries = 0 := by decide +kernel
  have haccepted : HeadAccepted host ["-vl--"] :=
    ⟨by decide +kernel, by decide +kernel, by decide +kernel⟩
  have hlost : (read 1 ["-vl--"]).NamesLost :=
    ⟨by decide +kernel, by decide +kernel, by decide +kernel⟩
  obtain ⟨-, -, -, hfault⟩ :=
    tails_alike_iff host (show endOfOptions ∉ ["-vl--"] by decide) hfirst hsecond
  obtain ⟨index, hone, -⟩ := hfault haccepted hlost
  refine ⟨⟨hhead, halike.mpr ?_⟩, haccepted, hlost, index, hone⟩
  rintro ⟨-, hnames⟩
  exact absurd hnames.libraries (by omega)

/-- In `-vl--` a library without a name stands in a cluster. Behind it every tail ends with a fault,
where a refusal was to name the libraries. -/
theorem tails_fail_behind_blank_cluster :
    let host := Host.new (some "/work")
    outcomeOf host (withTail ["-vl--"] ["a.o"]) = .ok (.error (.fault (.blank (.joined 0)))) ∧
      outcomeOf host (withTail ["-vl--"] ["b.o"]) = .ok (.error (.fault (.blank (.joined 0)))) ∧
      ¬ Alike ["-vl--"] ["a.o"] ["b.o"] (outcomeOf host (withTail ["-vl--"] ["a.o"]))
        (outcomeOf host (withTail ["-vl--"] ["b.o"])) := by
  intro host
  have hone : outcomeOf host (withTail ["-vl--"] ["a.o"]) =
      .ok (.error (.fault (.blank (.joined 0)))) := rfl
  have hother : outcomeOf host (withTail ["-vl--"] ["b.o"]) =
      .ok (.error (.fault (.blank (.joined 0)))) := rfl
  refine ⟨hone, hother, ?_⟩
  intro halike
  rw [hone, hother] at halike
  cases halike

end LinkDriver.CommandLine
