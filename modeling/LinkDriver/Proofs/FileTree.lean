import LinkDriver.Host
import LinkDriver.Proofs.NormalPath

/-!
# Lookups in rooted trees

A tree is `Rooted` if nothing stands in it but below directories. In such a tree a path in normal
form leads to the place that it spells, if a node stands there (`find?_of_spells`). Any other path
leads to the same place as its normal form, if it leads anywhere (`exists_spelled`).
-/

namespace LinkDriver

namespace FileTree

variable {tree : FileTree} {place target components names : List String}

/-! ## Walks -/

/-- A directory is a node. -/
theorem isSome_of_isDirectoryAt (h : tree.isDirectoryAt place = true) :
    (tree.node? place).isSome = true := by
  unfold isDirectoryAt at h
  cases hnode : tree.node? place with
  | none => simp [hnode] at h
  | some node => rfl

/-- A walk ends where the components lead. -/
theorem eq_foldl_of_walk (h : tree.walk place components = some target) :
    target = components.foldl Path.enter place := by
  induction components generalizing place with
  | nil =>
      rw [walk] at h
      split at h
      · exact (Option.some.inj h).symm
      · exact absurd h (by simp)
  | cons component rest ih =>
      rw [walk] at h
      split at h
      · exact ih h
      · exact absurd h (by simp)

/-- A walk over an empty component stays where it is, if it goes on. -/
theorem walk_empty_cons (tree : FileTree) (place : List String) {rest : List String}
    (hrest : rest ≠ []) : tree.walk place ("" :: rest) = tree.walk place rest := by
  obtain ⟨component, others, rfl⟩ := List.exists_cons_of_ne_nil hrest
  show (if tree.isDirectoryAt place then tree.walk place (component :: others) else none) = _
  cases hdirectory : tree.isDirectoryAt place with
  | true => rw [if_pos rfl]
  | false => rw [if_neg (by simp), walk, if_neg (by simp [hdirectory])]

/-- A walk along components and then others walks on from where the first ones lead. -/
theorem walk_append (tree : FileTree) (place first second : List String) :
    tree.walk place (first ++ second) =
      (tree.walk place first).bind fun middle => tree.walk middle second := by
  induction first generalizing place with
  | nil =>
      rw [List.nil_append, walk]
      split
      · rfl
      · rename_i hnone
        cases second with
        | nil => rw [walk, if_neg hnone]; rfl
        | cons component rest =>
            have hdirectory : ¬ tree.isDirectoryAt place = true :=
              fun hdirectory => hnone (isSome_of_isDirectoryAt hdirectory)
            rw [walk, if_neg hdirectory]
            rfl
  | cons component rest ih =>
      rw [List.cons_append, walk, walk]
      split
      · exact ih _
      · rfl

/-- Directories stay where a node is put somewhere else. -/
theorem isDirectoryAt_put {other : List String} {node : Node}
    (hplace : tree.isDirectoryAt place = false) (h : tree.isDirectoryAt other = true) :
    (tree.put place node).isDirectoryAt other = true := by
  have hne : other ≠ place := by
    rintro rfl
    exact absurd (h.symm.trans hplace) (by simp)
  have hkept : (tree.put place node).node? other = tree.node? other := by
    obtain ⟨old, hold⟩ := Option.isSome_iff_exists.mp (isSome_of_isDirectoryAt h)
    unfold put
    simp only
    rw [if_neg hne, hold]
    split <;> rfl
  rwa [isDirectoryAt, hkept]

/-- No node is lost where one is put. -/
theorem isSome_put {other : List String} {node : Node} (h : (tree.node? other).isSome = true) :
    ((tree.put place node).node? other).isSome = true := by
  obtain ⟨old, hold⟩ := Option.isSome_iff_exists.mp h
  unfold put
  simp only
  rw [hold]
  split
  · rfl
  · split <;> rfl

/-- A walk leads to the same place where a node is put that replaces no directory. -/
theorem walk_put {start : List String} {node : Node} (hplace : tree.isDirectoryAt place = false)
    (h : tree.walk start components = some target) :
    (tree.put place node).walk start components = some target := by
  induction components generalizing start with
  | nil =>
      rw [walk] at h ⊢
      split at h
      · rename_i hnode
        rwa [if_pos (isSome_put hnode)]
      · exact absurd h (by simp)
  | cons component rest ih =>
      rw [walk] at h ⊢
      split at h
      · rename_i hdirectory
        rw [if_pos (isDirectoryAt_put hplace hdirectory)]
        exact ih h
      · exact absurd h (by simp)

/-! ## Rooted trees -/

/-- Every proper ancestor of a node is a directory. -/
def Rooted (tree : FileTree) : Prop :=
  ∀ ancestor place, ancestor <+: place → ancestor ≠ place → (tree.node? place).isSome = true →
    tree.isDirectoryAt ancestor = true

/-- Whether the node at a place may be written. -/
def isWritableAt (tree : FileTree) (place : List String) : Bool :=
  (tree.node? place).any fun node => node.access.writable

/-- Above a directory of a rooted tree stand directories alone. -/
theorem Rooted.isDirectoryAt_of_prefix (h : tree.Rooted) (hbegins : target <+: place)
    (hplace : tree.isDirectoryAt place = true) : tree.isDirectoryAt target = true := by
  by_cases hsame : target = place
  · rwa [hsame]
  · exact h target place hbegins hsame (isSome_of_isDirectoryAt hplace)

/-- The root of a rooted tree with a directory in it is a directory. -/
theorem Rooted.isDirectoryAt_root (h : tree.Rooted) (hplace : tree.isDirectoryAt place = true) :
    tree.isDirectoryAt [] = true :=
  h.isDirectoryAt_of_prefix List.nil_prefix hplace

/-- Above a directory of a rooted tree stands a directory, which at the root is itself. -/
theorem Rooted.isDirectoryAt_dropLast (h : tree.Rooted) (hplace : tree.isDirectoryAt place = true) :
    tree.isDirectoryAt place.dropLast = true :=
  h.isDirectoryAt_of_prefix (List.dropLast_prefix place) hplace

theorem rooted_empty : empty.Rooted := by
  intro ancestor place hbegins hne hnode
  have hroot : place = [] := by
    by_contra hplace
    simp [empty, hplace] at hnode
  subst hroot
  exact absurd (List.prefix_nil.mp hbegins) hne

/-- A tree stays rooted when a node is set at a place that has no files above it, and nothing below
it unless the node is a directory. -/
theorem Rooted.put (h : tree.Rooted) {node : Node}
    (habove : ∀ depth < place.length,
      (tree.node? (place.take depth)).all (fun node => node.kind == .directory) = true)
    (hbelow : tree.isDirectoryAt place = true → node.kind = .directory) :
    (tree.put place node).Rooted := by
  intro ancestor other hbegins hne hnode
  by_cases habovePlace : ancestor <+: place ∧ ancestor ≠ place
  · -- Above the place stand the directories that were there, or that are made.
    obtain ⟨hancestor, hproper⟩ := habovePlace
    have hdepth : ancestor.length < place.length :=
      Nat.lt_of_le_of_ne hancestor.length_le (mt hancestor.eq_of_length hproper)
    have hkind := habove ancestor.length hdepth
    rw [← List.prefix_iff_eq_take.mp hancestor] at hkind
    have hput : (tree.put place node).node? ancestor =
        (tree.node? ancestor).or (some ⟨.directory, true⟩) := by
      unfold FileTree.put
      simp only
      rw [if_neg hproper, if_pos (List.isPrefixOf_iff_prefix.mpr hancestor)]
    unfold isDirectoryAt
    rw [hput]
    cases hold : tree.node? ancestor with
    | none => rfl
    | some old => simpa [hold] using hkind
  · -- Elsewhere the node below was there before.
    have hother : other ≠ place ∧ ¬ other <+: place := by
      constructor
      · rintro rfl
        exact habovePlace ⟨hbegins, hne⟩
      · intro hotherBegins
        refine habovePlace ⟨hbegins.trans hotherBegins, ?_⟩
        rintro rfl
        exact hne (hbegins.eq_of_length_le hotherBegins.length_le)
    have hold : (tree.node? other).isSome = true := by
      unfold FileTree.put at hnode
      simp only at hnode
      rwa [if_neg hother.1, if_neg (mt List.isPrefixOf_iff_prefix.mp hother.2)] at hnode
    have hdirectory := h ancestor other hbegins hne hold
    by_cases hsame : ancestor = place
    · subst hsame
      simp [isDirectoryAt, hbelow hdirectory]
    · have hkept : (tree.put place node).node? ancestor = tree.node? ancestor := by
        unfold FileTree.put
        simp only
        rw [if_neg hsame,
          if_neg fun hancestor => habovePlace ⟨List.isPrefixOf_iff_prefix.mp hancestor, hsame⟩]
      rwa [isDirectoryAt, hkept]

/-- In a rooted tree, names lead to a place exactly if a node stands there. -/
theorem Rooted.walk_names (h : tree.Rooted) (hnames : ∀ name ∈ names, Path.IsName name) :
    tree.walk place names =
      if (tree.node? (place ++ names)).isSome then some (place ++ names) else none := by
  induction names generalizing place with
  | nil => rw [List.append_nil, walk]
  | cons name rest ih =>
      obtain ⟨hname, hrest⟩ := List.forall_mem_cons.mp hnames
      have hsplit : place ++ name :: rest = place ++ [name] ++ rest := by simp
      rw [walk, Path.enter_name place hname, ih hrest, hsplit]
      split
      · rfl
      · rename_i hfile
        rw [if_neg]
        intro hnode
        refine hfile (h place _ ⟨[name] ++ rest, by simp⟩ ?_ hnode)
        simp

/-- In a rooted tree, a walk without a step up to where a directory stands gets there. -/
theorem Rooted.walk_down (h : tree.Rooted) (hdown : ".." ∉ components)
    (hend : tree.isDirectoryAt (components.foldl Path.enter place) = true) :
    tree.walk place components = some (components.foldl Path.enter place) := by
  induction components generalizing place with
  | nil => exact if_pos (isSome_of_isDirectoryAt hend)
  | cons component rest ih =>
      have hdirectory := h.isDirectoryAt_of_prefix (Path.prefix_foldl_enter hdown) hend
      rw [walk, if_pos hdirectory]
      exact ih (mt (List.mem_cons_of_mem component) hdown) hend

/-- In a rooted tree, a walk to anything but a directory ends with the name of an entry in a
directory. -/
theorem Rooted.exists_parent (h : tree.Rooted) (hcomponents : components ≠ [])
    (hwalk : tree.walk place components = some target)
    (hleaf : tree.isDirectoryAt target = false) :
    ∃ parent name, target = parent ++ [name] ∧ tree.isDirectoryAt parent = true := by
  induction components generalizing place with
  | nil => exact absurd rfl hcomponents
  | cons component rest ih =>
      rw [walk] at hwalk
      split at hwalk
      · rename_i hdirectory
        by_cases hrest : rest = []
        · subst hrest
          obtain rfl : target = Path.enter place component := eq_foldl_of_walk hwalk
          unfold Path.enter at hleaf ⊢
          split at hleaf
          · exact absurd (hdirectory.symm.trans hleaf) (by simp)
          · rename_i hstay
            rw [if_neg hstay]
            split at hleaf
            · have hup := h.isDirectoryAt_dropLast hdirectory
              exact absurd (hup.symm.trans hleaf) (by simp)
            · rename_i hup
              rw [if_neg hup]
              exact ⟨place, component, rfl, hdirectory⟩
        · exact ih hrest hwalk
      · exact absurd hwalk (by simp)

end FileTree

namespace Host

open FileTree

variable {host : Host} {path : String} {place : List String}

/-! ## Rooted hosts -/

theorem rooted_new (workingDirectory : Option String) : (new workingDirectory).tree.Rooted := by
  cases workingDirectory with
  | none => exact rooted_empty
  | some directory =>
      refine rooted_empty.put ?_ (fun _ => rfl)
      intro depth _
      unfold empty
      simp only
      split <;> rfl

/-- A host stays rooted when a file is put where no directory is, and no file is above. -/
theorem rooted_withFile (h : host.tree.Rooted)
    (habove : ∀ depth < place.length,
      (host.tree.node? (place.take depth)).all (fun node => node.kind == .directory) = true)
    (hplace : host.tree.isDirectoryAt place = false) : (host.withFile place).tree.Rooted :=
  h.put habove fun hdirectory => absurd (hdirectory.symm.trans hplace) (by simp)

/-! ## Lookups -/

/-- A path leads where its components do. -/
theorem eq_follow_of_find? (h : host.find? path = some place) :
    ∃ start, host.start? path = some start ∧ place = Path.follow start path := by
  unfold find? at h
  split at h
  · exact absurd h (by simp)
  · obtain ⟨start, hstart, hwalk⟩ := Option.bind_eq_some_iff.mp h
    exact ⟨start, hstart, eq_foldl_of_walk hwalk⟩

theorem isSome_of_find? (h : host.find? path = some place) :
    (host.tree.node? place).isSome = true := by
  unfold find? at h
  split at h
  · exact absurd h (by simp)
  · obtain ⟨start, -, hwalk⟩ := Option.bind_eq_some_iff.mp h
    exact node?_of_walk hwalk

theorem find?_of_isFile (h : host.isFile path = true) : ∃ place, host.find? path = some place := by
  cases hfind : host.find? path with
  | some place => exact ⟨place, rfl⟩
  | none => simp [isFile, node?, hfind] at h

/-- In a rooted tree, a path in normal form leads to the place that it spells, if a node stands
there. -/
theorem find?_of_spells (hrooted : host.tree.Rooted) (hroot : host.tree.isDirectoryAt [] = true)
    (h : Path.Spells path place) :
    host.find? path = if (host.tree.node? place).isSome then some place else none := by
  have hne : path ≠ "" := by
    rintro rfl
    exact absurd h.isAbsolute (by decide)
  have hjoined : host.tree.walk [] (Path.components ("/".intercalate place)) =
      if (host.tree.node? place).isSome then some place else none := by
    by_cases hnil : place = []
    · subst hnil
      show host.tree.walk [] [""] = _
      rw [walk, if_pos hroot]
      rfl
    · rw [Path.components_intercalate (fun name hmem => (h.names name hmem).noSlash) hnil,
        hrooted.walk_names h.names, List.nil_append]
  have hparts : ∀ text, Path.components text ≠ [] := by
    intro text
    simpa [Path.components] using Path.splitSlashes_ne_nil text.toList
  have hslash : ∀ text, host.tree.walk [] (Path.components ("/" ++ text)) =
      host.tree.walk [] (Path.components text) := by
    intro text
    rw [show "/" ++ text = "" ++ "/" ++ text by simp, Path.components_append]
    exact walk_empty_cons _ _ (hparts text)
  unfold find? start?
  rw [if_neg hne, if_pos h.isAbsolute, Option.bind_some, ← hjoined]
  obtain ⟨slashes, rfl | rfl, rfl⟩ := h.text
  · exact hslash _
  · rw [show "//" ++ "/".intercalate place = "/" ++ ("/" ++ "/".intercalate place) by
      rw [← String.append_assoc]; rfl, hslash, hslash]

/-- In a rooted tree, a path in normal form leads to the node at the place that it spells. -/
theorem node?_of_spells (hrooted : host.tree.Rooted) (hroot : host.tree.isDirectoryAt [] = true)
    (h : Path.Spells path place) : host.node? path = host.tree.node? place := by
  unfold node?
  rw [find?_of_spells hrooted hroot h]
  cases hnode : host.tree.node? place <;> simp [hnode]

/-- With a working directory, the lookup of every path starts somewhere. -/
theorem exists_start {directory : String} (h : host.workingDirectory = some directory)
    (path : String) : ∃ start, host.start? path = some start := by
  unfold start?
  rw [h]
  split
  · exact ⟨[], rfl⟩
  · exact ⟨_, rfl⟩

/-- A path whose lookup starts somewhere has a normal form, which spells the place to which the path
leads. -/
theorem exists_spelled {start : List String} (h : host.start? path = some start) :
    ∃ absolute, host.view.absolute? path = some absolute ∧
      Path.Spells absolute (Path.follow start path) := by
  unfold start? at h
  unfold HostView.absolute?
  split at h
  · rename_i habsolute
    obtain rfl := Option.some.inj h
    rw [if_pos habsolute]
    exact ⟨_, rfl, Path.spells_normalize path⟩
  · rename_i hrelative
    obtain ⟨directory, hdirectory, rfl⟩ := Option.map_eq_some_iff.mp h
    rw [if_neg hrelative, view_workingDirectory, hdirectory]
    refine ⟨_, rfl, ?_⟩
    have hjoin : Path.follow [] (Path.join directory path) =
        Path.follow (Path.resolve (Path.components directory)) path := by
      by_cases hempty : directory = ""
      · subst hempty
        simp [Path.join]
        rfl
      · exact Path.follow_join hempty (by simpa using hrelative)
    rw [← hjoin]
    exact Path.spells_normalize _

end Host

end LinkDriver
