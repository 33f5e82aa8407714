import LinkDriver.Proofs.Path

/-!
# Paths in normal form

`Spells path place` says that a path is a normal form: one or two slashes, and then the names of a
place with a slash between them. Every normalized path is one (`spells_normalize`), and it is its own
normal form (`Spells.normalize_eq`). Taking the directory part of such a path takes the last name
away, and joining a name to it adds one; so on normal forms, what the operations on texts do is what
they should do to places.
-/

namespace LinkDriver.Path

/-- The name of an entry in a directory. -/
structure IsName (name : String) : Prop where
  noSlash : '/' ∉ name.toList
  ne_empty : name ≠ ""
  ne_dot : name ≠ "."
  ne_dots : name ≠ ".."

/-- The path is a normal form of this place. -/
structure Spells (path : String) (place : List String) : Prop where
  names : ∀ name ∈ place, IsName name
  text : ∃ slashes, (slashes = "/" ∨ slashes = "//") ∧ path = slashes ++ "/".intercalate place

variable {path name front : String} {place names : List String}

/-! ## Components -/

/-- Between two slashes there is none. -/
theorem noSlash_of_mem_splitSlashes {text part : List Char} (h : part ∈ splitSlashes text) :
    '/' ∉ part := by
  induction text generalizing part with
  | nil =>
      obtain rfl := List.mem_singleton.mp h
      exact List.not_mem_nil
  | cons c rest ih =>
      rw [splitSlashes] at h
      split at h
      · rcases List.mem_cons.mp h with rfl | h
        · exact List.not_mem_nil
        · exact ih h
      · rename_i hc
        obtain ⟨first, parts, hparts⟩ := List.exists_cons_of_ne_nil (splitSlashes_ne_nil rest)
        rw [hparts] at h ih
        rcases List.mem_cons.mp h with rfl | h
        · have hfirst := ih (List.mem_cons_self ..)
          simp [Ne.symm hc, hfirst]
        · exact ih (List.mem_cons_of_mem _ h)

theorem noSlash_of_mem_components (h : name ∈ components path) : '/' ∉ name.toList := by
  obtain ⟨part, hpart, rfl⟩ := List.mem_map.mp h
  rw [String.toList_ofList]
  exact noSlash_of_mem_splitSlashes hpart

theorem splitSlashes_of_noSlash {text : List Char} (h : '/' ∉ text) :
    splitSlashes text = [text] := by
  induction text with
  | nil => rfl
  | cons c rest ih =>
      obtain ⟨hc, hrest⟩ := not_or.mp (mt List.mem_cons.mpr h)
      rw [splitSlashes, if_neg (Ne.symm hc), ih hrest]

/-- A text without a slash is one component. -/
theorem components_of_noSlash (h : '/' ∉ name.toList) : components name = [name] := by
  rw [components, splitSlashes_of_noSlash h, List.map_singleton, String.ofList_toList]

/-- The components of joined names are the names. -/
theorem components_intercalate (hnames : ∀ name ∈ names, '/' ∉ name.toList) (hne : names ≠ []) :
    components ("/".intercalate names) = names := by
  induction names with
  | nil => exact absurd rfl hne
  | cons first rest ih =>
      obtain ⟨hfirst, hrest⟩ := List.forall_mem_cons.mp hnames
      cases rest with
      | nil => rw [String.intercalate_singleton, components_of_noSlash hfirst]
      | cons second rest =>
          rw [String.intercalate_cons_cons, components_append, components_of_noSlash hfirst,
            ih hrest (List.cons_ne_nil _ _), List.singleton_append]

theorem enter_name (place : List String) (h : IsName name) :
    enter place name = place ++ [name] := by
  rw [enter, if_neg (not_or.mpr ⟨h.ne_empty, h.ne_dot⟩), if_neg h.ne_dots]

/-- Names only lead further down. -/
theorem foldl_enter_names (hnames : ∀ name ∈ names, IsName name) :
    names.foldl enter place = place ++ names := by
  induction names generalizing place with
  | nil => exact (List.append_nil place).symm
  | cons first rest ih =>
      obtain ⟨hfirst, hrest⟩ := List.forall_mem_cons.mp hnames
      rw [List.foldl_cons, enter_name place hfirst, ih hrest, List.append_assoc,
        List.singleton_append]

/-- From a place of names, every path leads to one. -/
theorem isName_of_mem_follow (hplace : ∀ name ∈ place, IsName name) (h : name ∈ follow place path) :
    IsName name := by
  have hparts : ∀ part ∈ components path, '/' ∉ part.toList :=
    fun part => noSlash_of_mem_components
  unfold follow at h
  generalize components path = parts at h hparts
  induction parts generalizing place with
  | nil => exact hplace name h
  | cons part rest ih =>
      obtain ⟨hpart, hrest⟩ := List.forall_mem_cons.mp hparts
      refine ih ?_ h hrest
      intro other hother
      unfold enter at hother
      split at hother
      · exact hplace other hother
      · rename_i hstay
        split at hother
        · exact hplace other (List.dropLast_subset place hother)
        · rename_i hup
          rcases List.mem_append.mp hother with hother | hother
          · exact hplace other hother
          · obtain rfl := List.mem_singleton.mp hother
            exact ⟨hpart, (not_or.mp hstay).1, (not_or.mp hstay).2, hup⟩

/-! ## Directory and last part -/

/-- The part of a path up to its last slash, and the part behind it. -/
theorem parts_append (front : String) (hname : '/' ∉ name.toList) :
    uptoLastSlash (front ++ "/" ++ name) = front.toList ++ ['/'] ∧
      lastPart (front ++ "/" ++ name) = name := by
  have hreverse : (front ++ "/" ++ name).toList.reverse =
      name.toList.reverse ++ '/' :: front.toList.reverse := by
    simp
  have hnone : ∀ c ∈ name.toList.reverse, (c != '/') = true := by
    intro c hmem
    have hc : c ≠ '/' := fun hslash => hname (hslash ▸ List.mem_reverse.mp hmem)
    simpa using hc
  unfold uptoLastSlash lastPart
  rw [hreverse, List.dropWhile_append_of_pos hnone, List.takeWhile_append_of_pos hnone]
  constructor <;> simp

/-- The directory part of a path whose last name stands behind one slash. -/
theorem directory_append {last : Char} (hname : '/' ∉ name.toList)
    (hlast : front.toList.getLast? = some last) (hslash : last ≠ '/') :
    directory (front ++ "/" ++ name) = front := by
  obtain ⟨before, hfront⟩ := List.getLast?_eq_some_iff.mp hlast
  unfold directory
  rw [(parts_append front hname).1, hfront]
  simp only
  rw [if_neg (by simp [hslash])]
  have hstripped : (before ++ [last] ++ ['/']).reverse.dropWhile (· == '/') =
      (before ++ [last]).reverse := by
    simp [hslash]
  rw [hstripped, List.reverse_reverse, ← hfront, String.ofList_toList]

/-- The directory part of a path whose last name stands behind slashes alone. -/
theorem directory_append_slashes (front : String) (hname : '/' ∉ name.toList)
    (hfront : front.toList.all (· == '/') = true) :
    directory (front ++ "/" ++ name) = front ++ "/" := by
  unfold directory
  rw [(parts_append front hname).1]
  simp only
  rw [if_pos (by simpa using hfront), ← String.toList_inj, String.toList_ofList]
  simp

/-- The last character of joined names is no slash. -/
theorem getLast?_intercalate (hnames : ∀ name ∈ names, IsName name) (hne : names ≠ []) :
    ∃ last, ("/".intercalate names).toList.getLast? = some last ∧ last ≠ '/' := by
  obtain ⟨before, final, rfl⟩ : ∃ before final, names = before ++ [final] :=
    ⟨_, _, (List.dropLast_concat_getLast hne).symm⟩
  have hfinal := hnames final (by simp)
  have hnil : final.toList ≠ [] := mt String.toList_eq_nil_iff.mp hfinal.ne_empty
  refine ⟨final.toList.getLast hnil, ?_, ?_⟩
  · by_cases hbefore : before = []
    · rw [hbefore, List.nil_append, String.intercalate_singleton,
        List.getLast?_eq_some_getLast hnil]
    · rw [String.intercalate_append_of_ne_nil hbefore (by simp), String.intercalate_singleton,
        String.toList_append, List.getLast?_append, List.getLast?_eq_some_getLast hnil]
      rfl
  · intro hslash
    exact hfinal.noSlash (hslash ▸ List.getLast_mem hnil)

/-- Joined names begin with no slash. -/
theorem isAbsolute_intercalate (hnames : ∀ name ∈ names, IsName name) :
    isAbsolute ("/".intercalate names) = false := by
  cases names with
  | nil => rfl
  | cons first rest =>
      have hfirst := hnames first (List.mem_cons_self ..)
      obtain ⟨c, others, hchars⟩ :=
        List.exists_cons_of_ne_nil (mt String.toList_eq_nil_iff.mp hfirst.ne_empty)
      have hc : c ≠ '/' := fun hslash => hfirst.noSlash (by simp [hchars, hslash])
      cases rest with
      | nil => simp [isAbsolute, String.intercalate_singleton, hchars, hc]
      | cons second rest => simp [isAbsolute, String.intercalate_cons_cons, hchars, hc]

/-! ## Normal forms -/

theorem spells_normalize (path : String) : Spells (normalize path) (follow [] path) where
  names _ := isName_of_mem_follow (by simp)
  text := by
    refine ⟨root path, ?_, rfl⟩
    unfold root
    split
    · exact Or.inl rfl
    · exact Or.inr rfl
    · exact Or.inl rfl

namespace Spells

theorem isAbsolute (h : Spells path place) : isAbsolute path = true := by
  obtain ⟨slashes, rfl | rfl, rfl⟩ := h.text <;> simp [Path.isAbsolute]

/-- A normal form leads to the place that it spells. -/
theorem follow_eq (h : Spells path place) : follow [] path = place := by
  have hjoined : follow [] ("/".intercalate place) = place := by
    by_cases hnil : place = []
    · rw [hnil]
      rfl
    · rw [follow, components_intercalate (fun name hmem => (h.names name hmem).noSlash) hnil,
        foldl_enter_names h.names, List.nil_append]
  obtain ⟨slashes, rfl | rfl, rfl⟩ := h.text
  · rw [show "/" ++ "/".intercalate place = "" ++ "/" ++ "/".intercalate place by simp,
      follow_append_slash]
    exact hjoined
  · rw [show "//" ++ "/".intercalate place = "/" ++ "/" ++ "/".intercalate place by simp,
      follow_append_slash]
    exact hjoined

/-- In front of the last name of a normal form stand a slash and the rest of the place. -/
theorem exists_front (h : Spells path (place ++ [name])) :
    ∃ front slashes, (slashes = "/" ∨ slashes = "//") ∧ path = front ++ "/" ++ name ∧
      (place = [] ∧ front ++ "/" = slashes ∨
        place ≠ [] ∧ front = slashes ++ "/".intercalate place) := by
  obtain ⟨slashes, hslashes, rfl⟩ := h.text
  by_cases hnil : place = []
  · subst hnil
    rcases hslashes with rfl | rfl
    · exact ⟨"", "/", Or.inl rfl, by simp, Or.inl ⟨rfl, rfl⟩⟩
    · exact ⟨"/", "//", Or.inr rfl, by simp, Or.inl ⟨rfl, rfl⟩⟩
  · refine ⟨slashes ++ "/".intercalate place, slashes, hslashes, ?_, Or.inr ⟨hnil, rfl⟩⟩
    rw [String.intercalate_append_of_ne_nil hnil (by simp), String.intercalate_singleton]
    simp [String.append_assoc]

/-- The last part of a normal form is the last name. -/
theorem lastPart_eq (h : Spells path (place ++ [name])) : lastPart path = name := by
  obtain ⟨front, slashes, -, rfl, -⟩ := h.exists_front
  exact (parts_append front (h.names name (by simp)).noSlash).2

/-- The components of a normal form are its names, behind those of the slashes that it begins
with. -/
theorem components_eq (h : Spells path (place ++ [name])) :
    components path = "" :: (place ++ [name]) ∨ components path = "" :: "" :: (place ++ [name]) := by
  have hnames := components_intercalate (fun other hmem => (h.names other hmem).noSlash)
    (List.append_ne_nil_of_right_ne_nil place (List.cons_ne_nil name []))
  obtain ⟨slashes, rfl | rfl, rfl⟩ := h.text
  · left
    rw [show "/" ++ "/".intercalate (place ++ [name]) =
      "" ++ "/" ++ "/".intercalate (place ++ [name]) by simp, components_append, hnames]
    rfl
  · right
    rw [show "//" ++ "/".intercalate (place ++ [name]) =
      "/" ++ "/" ++ "/".intercalate (place ++ [name]) by simp, components_append, hnames]
    rfl

/-- A normal form is its own normal form. -/
theorem normalize_eq (h : Spells path place) : normalize path = path := by
  have hplace : resolve (components path) = place := h.follow_eq
  obtain ⟨slashes, hslashes, htext⟩ := h.text
  have hroot : root path = slashes := by
    have hbegins := isAbsolute_intercalate h.names
    rw [htext]
    unfold Path.isAbsolute at hbegins
    unfold root
    rw [String.toList_append]
    generalize ("/".intercalate place).toList = chars at hbegins
    -- The names behind the slashes bring no further slash.
    cases chars with
    | nil => rcases hslashes with rfl | rfl <;> rfl
    | cons c rest =>
        have hc : c ≠ '/' := by simpa using hbegins
        rcases hslashes with rfl | rfl <;> simp [hc]
  rw [normalize, hplace, hroot, htext]

/-- The directory part of a normal form is the normal form without the last name. -/
theorem directory (h : Spells path (place ++ [name])) : Spells (directory path) place where
  names other hmem := h.names other (List.mem_append_left _ hmem)
  text := by
    have hname := (h.names name (by simp)).noSlash
    obtain ⟨front, slashes, hslashes, rfl, ⟨rfl, hfront⟩ | ⟨hne, rfl⟩⟩ := h.exists_front
    · refine ⟨slashes, hslashes, ?_⟩
      have hall : slashes.toList.all (· == '/') = true := by
        rcases hslashes with rfl | rfl <;> rfl
      rw [← hfront] at hall ⊢
      rw [directory_append_slashes front hname (by simpa using hall)]
      simp
    · refine ⟨slashes, hslashes, ?_⟩
      obtain ⟨last, hlast, hslash⟩ := getLast?_intercalate
        (fun other hmem => h.names other (List.mem_append_left _ hmem)) hne
      refine directory_append hname ?_ hslash
      rw [String.toList_append, List.getLast?_append, hlast]
      rfl

/-- The directory part of a normal form spells the place above, which at the root is the root. -/
theorem directory_dropLast (h : Spells path place) : Spells (Path.directory path) place.dropLast := by
  by_cases hnil : place = []
  · subst hnil
    obtain ⟨slashes, hslashes, rfl⟩ := h.text
    refine ⟨by simp, slashes, hslashes, ?_⟩
    rcases hslashes with rfl | rfl <;> decide
  · rw [← List.dropLast_concat_getLast hnil] at h
    exact h.directory

/-- A name is joined to a normal form behind a slash, which the root has already. -/
theorem join_eq (h : Spells path place) (hname : IsName name) :
    Path.join path name = if place = [] then path ++ name else path ++ "/" ++ name := by
  have hnames : ∀ other ∈ [name], IsName other := by simpa using hname
  have hrelative : Path.isAbsolute name = false := by simpa using isAbsolute_intercalate hnames
  obtain ⟨slashes, hslashes, rfl⟩ := h.text
  unfold Path.join
  rw [if_neg (by simp [hrelative])]
  by_cases hnil : place = []
  · subst hnil
    rcases hslashes with rfl | rfl <;> simp
  · obtain ⟨last, hlast, hslash⟩ := getLast?_intercalate h.names hnil
    have hends : (slashes ++ "/".intercalate place).toList.getLast? = some last := by
      rw [String.toList_append, List.getLast?_append, hlast]
      rfl
    have hne : slashes ++ "/".intercalate place ≠ "" := by
      intro hempty
      rw [hempty] at hends
      exact absurd hends (by simp)
    rw [if_neg hnil,
      if_neg (by simp only [hends, hne, Option.some.injEq, hslash, or_self, not_false_eq_true])]

/-- A name that is joined to a normal form stands behind the others. -/
theorem join (h : Spells path place) (hname : IsName name) :
    Spells (join path name) (place ++ [name]) where
  names := List.forall_mem_append.mpr ⟨h.names, by simpa using hname⟩
  text := by
    rw [h.join_eq hname]
    obtain ⟨slashes, hslashes, rfl⟩ := h.text
    refine ⟨slashes, hslashes, ?_⟩
    by_cases hnil : place = []
    · subst hnil
      simp
    · rw [if_neg hnil, String.intercalate_append_of_ne_nil hnil (by simp),
        String.intercalate_singleton]
      simp [String.append_assoc]

/-- The directory part of a normal form with a name joined to it is that normal form. -/
theorem directory_join (h : Spells path place) (hname : IsName name) :
    Path.directory (Path.join path name) = path := by
  rw [h.join_eq hname]
  obtain ⟨slashes, hslashes, rfl⟩ := h.text
  by_cases hnil : place = []
  · subst hnil
    rw [if_pos rfl, String.intercalate_nil, String.append_empty]
    rcases hslashes with rfl | rfl
    · exact directory_append_slashes "" hname.noSlash rfl
    · exact directory_append_slashes "/" hname.noSlash rfl
  · obtain ⟨last, hlast, hslash⟩ := getLast?_intercalate h.names hnil
    rw [if_neg hnil]
    refine directory_append hname.noSlash ?_ hslash
    rw [String.toList_append, List.getLast?_append, hlast]
    rfl

end Spells

end LinkDriver.Path
