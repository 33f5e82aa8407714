import LinkDriver.Proofs.FileTree

/-!
# Opening a file

In a rooted tree, a path that is opened for writing leads to the file that was opened, and the tree
stays rooted. Read `opened_of_create` first. Every path is followed along the components that lead
to its parent, and from there by its last part alone (`exists_above`); where it leads nowhere, that
part is the name of a new file, which can be made if the path is `Creatable`.
-/

namespace LinkDriver

/-! ## Paths and their last part -/

namespace Path

/-- A path either has no slash, or its last part stands behind the last one. -/
theorem last_cases (path : String) :
    ('/' ∉ path.toList ∧ uptoLastSlash path = [] ∧ lastPart path = path) ∨
    ∃ front, path = front ++ "/" ++ lastPart path ∧ '/' ∉ (lastPart path).toList ∧
      uptoLastSlash path = front.toList ++ ['/'] := by
  by_cases hslash : '/' ∈ path.toList
  · right
    obtain ⟨before, behind, hsplit, hbefore⟩ :=
      List.eq_append_cons_of_mem (List.mem_reverse.mpr hslash)
    have hname : '/' ∉ (String.ofList before.reverse).toList := by simpa using hbefore
    obtain rfl : path = String.ofList behind.reverse ++ "/" ++ String.ofList before.reverse := by
      rw [← String.toList_inj, ← List.reverse_inj, hsplit]
      simp
    obtain ⟨hupto, hlast⟩ := parts_append (String.ofList behind.reverse) hname
    refine ⟨String.ofList behind.reverse, ?_, ?_, hupto⟩
    · rw [hlast]
    · rwa [hlast]
  · left
    have hall : ∀ c ∈ path.toList.reverse, (c != '/') = true := by
      intro c hmem
      have hc : c ≠ '/' := fun heq => hslash (heq ▸ List.mem_reverse.mp hmem)
      simpa using hc
    refine ⟨hslash, ?_, ?_⟩
    · rw [uptoLastSlash, List.dropWhile_eq_nil_iff.mpr hall, List.reverse_nil]
    · rw [lastPart, List.takeWhile_eq_self_iff.mpr hall, List.reverse_reverse, String.ofList_toList]

end Path

namespace Host

open FileTree

variable {host opened : Host} {path : String} {place directory : List String}

/-! ## Where a new file is made -/

/-- The parent of a path with a slash in it lies where the text before its last slash leads, if that
is not the slash of the root. -/
theorem parent?_of_front {front : String} (hfront : front ≠ "")
    (hupto : Path.uptoLastSlash path = front.toList ++ ['/']) :
    host.parent? path = host.find? front := by
  obtain ⟨first, rest, hchars⟩ :=
    List.exists_cons_of_ne_nil (mt String.toList_eq_nil_iff.mp hfront)
  unfold parent?
  rw [hupto]
  split
  · rename_i hnil
    exact absurd hnil (by simp)
  · rename_i hroot
    exact absurd hroot (by simp [hchars])
  · rw [List.dropLast_concat, String.ofList_toList]

/-- What stands behind a slash does not tell where the lookup of a path starts. -/
theorem start?_append_slash {front last : String} (hfront : front ≠ "") :
    host.start? (front ++ "/" ++ last) = host.start? front := by
  obtain ⟨first, rest, hchars⟩ :=
    List.exists_cons_of_ne_nil (mt String.toList_eq_nil_iff.mp hfront)
  have hhead : (front ++ "/" ++ last).toList.head? = front.toList.head? := by
    simp [hchars]
  unfold start? Path.isAbsolute
  rw [hhead]

/-- The components of a path, as far as they matter from `start`, are those that lead to its parent
and then its last part. -/
structure Above (host : Host) (path : String) (start parts : List String) : Prop where
  parent?_eq : host.parent? path = host.tree.walk start parts
  subset : parts ⊆ Path.components path
  walk_eq : host.tree.walk start (Path.components path) =
    host.tree.walk start (parts ++ [Path.lastPart path])
  follow_eq : Path.follow start path = Path.enter (parts.foldl Path.enter start) (Path.lastPart path)

/-- The parent of a path is reached from where the lookup of the path starts. -/
theorem exists_above {start : List String} (hstart : host.start? path = some start) :
    ∃ parts, Above host path start parts := by
  rcases Path.last_cases path with ⟨hslash, hupto, hwhole⟩ | ⟨front, hpath, hslash, hupto⟩
  · -- The path is a single name, whose parent is where the lookup starts.
    have hcomponents : Path.components path = [Path.lastPart path] := by
      rw [Path.components_of_noSlash hslash, hwhole]
    refine ⟨[], ?_, List.nil_subset _, by rw [hcomponents]; rfl, ?_⟩
    · unfold parent?
      rw [hupto, hstart]
      rfl
    · rw [Path.follow, hcomponents, List.foldl_cons, List.foldl_nil, List.foldl_nil]
  · have hcomponents : Path.components path =
        Path.components front ++ [Path.lastPart path] := by
      rw [← Path.components_of_noSlash hslash, ← Path.components_append, ← hpath]
    by_cases hfront : front = ""
    · -- The path is a name behind the slash of the root.
      subst hfront
      have habsolute : Path.isAbsolute path = true := by
        rw [hpath]
        simp [Path.isAbsolute]
      rw [start?, if_pos habsolute] at hstart
      obtain rfl := Option.some.inj hstart
      refine ⟨[], ?_, List.nil_subset _, ?_, ?_⟩
      · unfold parent?
        rw [hupto]
        rfl
      · rw [hcomponents]
        exact walk_empty_cons _ _ (List.cons_ne_nil _ _)
      · rw [Path.follow, hcomponents, List.foldl_append, List.foldl_cons, List.foldl_nil,
          List.foldl_nil]
        rfl
    · refine ⟨Path.components front, ?_, ?_, by rw [hcomponents], ?_⟩
      · rw [hpath, start?_append_slash hfront] at hstart
        rw [parent?_of_front hfront hupto, find?, if_neg hfront, hstart, Option.bind_some]
      · rw [hcomponents]
        exact List.subset_append_left _ _
      · rw [Path.follow, hcomponents, List.foldl_append, List.foldl_cons, List.foldl_nil]

/-- A path with a parent has a lookup that starts somewhere. -/
theorem exists_start_of_parent? (hparent : host.parent? path = some directory) :
    ∃ start, host.start? path = some start := by
  rcases Path.last_cases path with ⟨-, hupto, -⟩ | ⟨front, hpath, -, hupto⟩
  · unfold parent? at hparent
    rw [hupto] at hparent
    obtain ⟨start, hstart, -⟩ := Option.bind_eq_some_iff.mp hparent
    exact ⟨start, hstart⟩
  · by_cases hfront : front = ""
    · subst hfront
      have habsolute : Path.isAbsolute path = true := by
        rw [hpath]
        simp [Path.isAbsolute]
      exact ⟨[], if_pos habsolute⟩
    · rw [parent?_of_front hfront hupto] at hparent
      obtain ⟨start, hstart, -⟩ := eq_follow_of_find? hparent
      exact ⟨start, by rw [hpath, start?_append_slash hfront, hstart]⟩

/-- A path is followed from the place of its parent by its last part alone. -/
theorem find?_of_parent? (hparent : host.parent? path = some directory)
    (hlast : Path.lastPart path ≠ "") :
    host.find? path = host.tree.walk directory [Path.lastPart path] := by
  have hne : path ≠ "" := by
    rintro rfl
    exact hlast (by decide)
  obtain ⟨start, hstart⟩ := exists_start_of_parent? hparent
  obtain ⟨parts, habove⟩ := exists_above hstart
  rw [habove.parent?_eq] at hparent
  rw [find?, if_neg hne, hstart, Option.bind_some, habove.walk_eq, walk_append, hparent,
    Option.bind_some]

/-- A path spells what its last part makes of the place of its parent. -/
theorem follow_of_parent? {start : List String} (hstart : host.start? path = some start)
    (hparent : host.parent? path = some directory) :
    Path.follow start path = Path.enter directory (Path.lastPart path) := by
  obtain ⟨parts, habove⟩ := exists_above hstart
  rw [habove.parent?_eq] at hparent
  rw [habove.follow_eq, ← eq_foldl_of_walk hparent]

/-- In a rooted tree, the parent of a path of names without a step up lies above the place that the
path spells, if a directory stands there. -/
theorem parent?_of_down (hrooted : host.tree.Rooted) {start : List String}
    (hstart : host.start? path = some start) (hdown : ".." ∉ Path.components path)
    (hname : Path.IsName (Path.lastPart path))
    (hdirectory : host.tree.isDirectoryAt (Path.follow start path).dropLast = true) :
    host.parent? path = some (Path.follow start path).dropLast := by
  obtain ⟨parts, habove⟩ := exists_above hstart
  have hspelled : (Path.follow start path).dropLast = parts.foldl Path.enter start := by
    rw [habove.follow_eq, Path.enter_name _ hname, List.dropLast_concat]
  rw [hspelled] at hdirectory ⊢
  rw [habove.parent?_eq]
  exact hrooted.walk_down (fun hmem => hdown (habove.subset hmem)) hdirectory

/-- In a rooted tree, the last part of a path that leads nowhere from an existing directory is the
name of an entry that is missing there. -/
theorem enter_missing (hrooted : host.tree.Rooted)
    (hdirectory : host.tree.isDirectoryAt directory = true) {name : String} (hne : name ≠ "")
    (h : host.tree.walk directory [name] = none) :
    Path.enter directory name = directory ++ [name] ∧
      host.tree.node? (directory ++ [name]) = none := by
  have hnode : host.tree.node? (Path.enter directory name) = none := by
    rw [walk, if_pos hdirectory, walk] at h
    split at h
    · exact absurd h (by simp)
    · rename_i hnone
      simpa using hnone
  have hexists : ∀ {other}, host.tree.isDirectoryAt other = true →
      host.tree.node? other ≠ none := by
    intro other hother hnone
    have hsome := isSome_of_isDirectoryAt hother
    rw [hnone] at hsome
    exact absurd hsome (by simp)
  unfold Path.enter at hnode ⊢
  by_cases hdot : name = "."
  · rw [if_pos (Or.inr hdot)] at hnode
    exact absurd hnode (hexists hdirectory)
  rw [if_neg (not_or.mpr ⟨hne, hdot⟩)] at hnode ⊢
  by_cases hdots : name = ".."
  · rw [if_pos hdots] at hnode
    exact absurd hnode (hexists (hrooted.isDirectoryAt_dropLast hdirectory))
  rw [if_neg hdots] at hnode ⊢
  exact ⟨rfl, hnode⟩

/-! ## New files -/

/-- A file can be made at a path, where nothing stands: the path has a last part, and what stands
before it leads to a directory that may be written. -/
def Creatable (host : Host) (path : String) : Prop :=
  Path.lastPart path ≠ "" ∧ ∃ directory, host.parent? path = some directory ∧
    host.tree.isDirectoryAt directory = true ∧ host.tree.isWritableAt directory = true

/-- Where nothing stands, opening a file for writing makes one if that can be done. -/
theorem exists_create_iff (hnew : host.find? path = none) :
    (∃ opened place, host.create path = .ok (opened, place)) ↔ host.Creatable path := by
  unfold create Creatable
  rw [hnew]
  cases hparent : host.parent? path with
  | none => simp
  | some directory =>
      simp only [Option.some.injEq, exists_eq_left']
      by_cases hlast : Path.lastPart path = ""
      · simp [hlast]
      · cases hdirectory : host.tree.isDirectoryAt directory with
        | false => simp
        | true =>
            have hwritable : host.tree.isWritableAt directory =
                (host.tree.node? directory).any fun node => node.access.writable := rfl
            rw [hwritable]
            cases (host.tree.node? directory).any fun node => node.access.writable <;> simp [hlast]

/-! ## Opened files -/

/-- A path that leads somewhere still does after a file was put where no directory is. -/
theorem find?_withFile (hplace : host.tree.isDirectoryAt place = false) {target : List String}
    (h : host.find? path = some target) : (host.withFile place).find? path = some target := by
  unfold find? at h ⊢
  split at h
  · exact absurd h (by simp)
  · rename_i hne
    obtain ⟨start, hstart, hwalk⟩ := Option.bind_eq_some_iff.mp h
    have hsame : (host.withFile place).start? path = some start := hstart
    rw [if_neg hne, hsame]
    exact walk_put hplace hwalk

/-- The parent of a path stays the same when a file is put where no directory is. -/
theorem parent?_withFile (hplace : host.tree.isDirectoryAt place = false)
    (h : host.parent? path = some directory) :
    (host.withFile place).parent? path = some directory := by
  unfold parent? at h ⊢
  split at h
  · obtain ⟨start, hstart, hwalk⟩ := Option.bind_eq_some_iff.mp h
    have hsame : (host.withFile place).start? path = some start := hstart
    simp only [hsame, Option.bind_some]
    exact walk_put hplace hwalk
  · exact walk_put hplace h
  · exact find?_withFile hplace h

/-- In a rooted tree, a file that is put where no directory is, and where no place above is anything
else, keeps the tree rooted. -/
theorem rooted_withFile_of_directories (hrooted : host.tree.Rooted)
    (hplace : host.tree.isDirectoryAt place = false)
    (habove : ∀ ancestor, ancestor <+: place → ancestor ≠ place →
      host.tree.isDirectoryAt ancestor = true) : (host.withFile place).tree.Rooted := by
  refine rooted_withFile hrooted ?_ hplace
  intro depth hdepth
  have hproper : place.take depth ≠ place := by
    intro hsame
    have hlength := congrArg List.length hsame
    rw [List.length_take] at hlength
    omega
  have hdirectory := habove _ (List.take_prefix depth place) hproper
  unfold isDirectoryAt at hdirectory
  cases hnode : host.tree.node? (place.take depth) with
  | none => rfl
  | some node => simpa [hnode] using hdirectory

/-- A file that is opened is put at the place to which the path leads, where no directory is, or
else at a new entry in the directory of its parent. -/
theorem place_of_create (h : host.create path = .ok (opened, place)) :
    opened = host.withFile place ∧
      (host.find? path = some place ∧ host.tree.isDirectoryAt place = false ∨
        ∃ directory, host.find? path = none ∧ host.parent? path = some directory ∧
          Path.lastPart path ≠ "" ∧ host.tree.isDirectoryAt directory = true ∧
          place = directory ++ [Path.lastPart path]) := by
  unfold create at h
  split at h
  · rename_i found hfind
    split at h
    · exact absurd h (by simp)
    · exact absurd h (by simp)
    · rename_i hdirectory _
      obtain ⟨rfl, rfl⟩ := Prod.mk.inj (Except.ok.inj h)
      refine ⟨rfl, Or.inl ⟨hfind, ?_⟩⟩
      unfold isDirectoryAt
      cases hnode : host.tree.node? found with
      | none => rfl
      | some node =>
          obtain ⟨kind, access⟩ := node
          have hkind : kind ≠ .directory := by
            rintro rfl
            exact hdirectory access hnode
          simpa using hkind
  · rename_i hfind
    split at h
    · exact absurd h (by simp)
    · rename_i directory hparent
      split at h
      · exact absurd h (by simp)
      · rename_i hentry
        obtain ⟨hlast, hdirectory⟩ := not_or.mp hentry
        split at h
        · obtain ⟨rfl, rfl⟩ := Prod.mk.inj (Except.ok.inj h)
          exact ⟨rfl, Or.inr ⟨directory, hfind, hparent, hlast, by simpa using hdirectory, rfl⟩⟩
        · exact absurd h (by simp)

/-- In a rooted tree, a file that is opened for writing is put where no directory is. The tree stays
rooted, and the path leads to the file. -/
theorem opened_of_create (hrooted : host.tree.Rooted) (h : host.create path = .ok (opened, place)) :
    opened = host.withFile place ∧ host.tree.isDirectoryAt place = false ∧ opened.tree.Rooted ∧
      opened.find? path = some place := by
  obtain ⟨rfl, ⟨hfind, hfile⟩ | ⟨directory, hfind, hparent, hlast, hdirectory, rfl⟩⟩ :=
    place_of_create h
  · refine ⟨rfl, hfile, rooted_withFile_of_directories hrooted hfile ?_, find?_withFile hfile hfind⟩
    intro ancestor hbegins hproper
    exact hrooted ancestor place hbegins hproper (isSome_of_find? hfind)
  · rw [find?_of_parent? hparent hlast] at hfind
    obtain ⟨henter, hmissing⟩ := enter_missing hrooted hdirectory hlast hfind
    have hfile : host.tree.isDirectoryAt (directory ++ [Path.lastPart path]) = false := by
      rw [isDirectoryAt, hmissing]
      rfl
    refine ⟨rfl, hfile, rooted_withFile_of_directories hrooted hfile ?_, ?_⟩
    · intro ancestor hbegins hproper
      rcases List.prefix_concat_iff.mp hbegins with hsame | hbelow
      · exact absurd hsame hproper
      · exact hrooted.isDirectoryAt_of_prefix hbelow hdirectory
    · have hstays : (host.withFile (directory ++ [Path.lastPart path])).tree.isDirectoryAt
          directory = true := isDirectoryAt_put hfile hdirectory
      rw [find?_of_parent? (parent?_withFile hfile hparent) hlast, walk, if_pos hstays, henter,
        walk, if_pos]
      simp [withFile]

end Host

end LinkDriver
