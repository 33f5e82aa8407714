import LinkDriver.CommandLine.Opt
import LinkDriver.Path
import Mathlib.Data.List.TakeWhile

/-!
# How paths begin, and where they lead

Whether a path is absolute, and whether it reads like an option, is said by its first character.
`head?_join` says where a joined path has that character from.

`follow place path` is the place to which the components of a path lead. Read `follow_join` for
joined paths, and `prefix_follow` for paths that only lead further down.
-/

namespace LinkDriver.Path

open CommandLine

/-- The normal form of a path begins at the root. -/
theorem isAbsolute_normalize (path : String) : isAbsolute (normalize path) = true := by
  have hroot : (root path).toList.head? = some '/' := by
    unfold root
    split <;> rfl
  unfold isAbsolute normalize
  rw [String.toList_append, List.head?_append, hroot]
  rfl

/-- The part of an absolute path up to its last slash begins with a slash. -/
theorem uptoLastSlash_of_isAbsolute {path : String} (h : isAbsolute path = true) :
    ∃ rest, uptoLastSlash path = '/' :: rest := by
  have hhead : path.toList.head? = some '/' := by simpa [isAbsolute] using h
  obtain ⟨rest, hpath⟩ : ∃ rest, path.toList = '/' :: rest := List.head?_eq_some_iff.mp hhead
  unfold uptoLastSlash
  rw [hpath, List.reverse_cons, List.dropWhile_append]
  split
  · exact ⟨[], rfl⟩
  · exact ⟨(rest.reverse.dropWhile (· != '/')).reverse, by simp⟩

/-- The directory part of an absolute path is absolute. -/
theorem isAbsolute_directory {path : String} (h : isAbsolute path = true) :
    isAbsolute (directory path) = true := by
  obtain ⟨rest, hhead⟩ := uptoLastSlash_of_isAbsolute h
  unfold directory
  rw [hhead]
  simp only
  split
  · simp [isAbsolute]
  · rename_i hslashes
    -- A character other than a slash stands behind the first one, so that one is kept.
    have hkept : (rest.reverse.dropWhile (· == '/')).isEmpty = false := by
      rw [List.isEmpty_eq_false_iff, ne_eq, List.dropWhile_eq_nil_iff]
      simpa using hslashes
    rw [List.reverse_cons, List.dropWhile_append, hkept]
    simp [isAbsolute]

/-- A joined path begins as its first part does that is not empty, unless the second part is
absolute. -/
theorem head?_join {base path : String} (h : isAbsolute path = false) :
    (join base path).toList.head? = base.toList.head?.or path.toList.head? := by
  unfold join
  rw [if_neg (by simp [h])]
  split
  · rw [String.toList_append, List.head?_append]
  · rename_i hbase
    have hnil : base.toList ≠ [] := by
      intro hnil
      exact hbase (Or.inl (String.toList_eq_nil_iff.mp hnil))
    obtain ⟨first, rest, hcons⟩ := List.exists_cons_of_ne_nil hnil
    simp [hcons]

theorem isAbsolute_join {base path : String} (h : isAbsolute base = true) :
    isAbsolute (join base path) = true := by
  cases hpath : isAbsolute path with
  | true => simp [join, hpath]
  | false =>
      have hbase : base.toList.head? = some '/' := by simpa [isAbsolute] using h
      unfold isAbsolute
      rw [head?_join hpath, hbase]
      rfl

/-- A joined path reads like an option exactly if a relative path is joined to a directory that
does, or if nothing stands before a path that does. -/
theorem isDashed_join_iff {base path : String} :
    isDashed (join base path) = true ↔
      isAbsolute path = false ∧ isDashed base = true ∨ base = "" ∧ isDashed path = true := by
  cases hpath : isAbsolute path with
  | true =>
      have hslash : path.toList.head? = some '/' := by simpa [isAbsolute] using hpath
      simp [join, hpath, isDashed, hslash]
  | false =>
      unfold isDashed
      rw [head?_join hpath]
      cases hbase : base.toList with
      | nil => simp [String.toList_eq_nil_iff.mp hbase]
      | cons first rest =>
          have hne : base ≠ "" := by
            rintro rfl
            exact absurd hbase (by simp)
          simp [hne]

/-- A relative path is joined behind its directory. -/
theorem prefix_join {base path : String} (h : isAbsolute path = false) :
    base.toList <+: (join base path).toList := by
  unfold join
  rw [if_neg (by simp [h])]
  split
  · exact ⟨path.toList, by rw [String.toList_append]⟩
  · exact ⟨'/' :: path.toList, by simp⟩

/-- A joined path ends as its second part does, unless that part is empty. -/
theorem getLast?_join {base path : String} (h : path ≠ "") :
    (join base path).toList.getLast? = path.toList.getLast? := by
  have hnil : path.toList ≠ [] := fun hnil => h (String.toList_eq_nil_iff.mp hnil)
  unfold join
  split
  · rfl
  · split <;>
      rw [String.toList_append, List.getLast?_append, List.getLast?_eq_some_getLast hnil,
        Option.some_or]

/-! ## Components -/

theorem splitSlashes_ne_nil (text : List Char) : splitSlashes text ≠ [] := by
  cases text with
  | nil => exact List.cons_ne_nil _ _
  | cons c rest =>
      rw [splitSlashes]
      split
      · exact List.cons_ne_nil _ _
      · split <;> exact List.cons_ne_nil _ _

/-- The parts of a text are those before a slash and those behind it. -/
theorem splitSlashes_append (first second : List Char) :
    splitSlashes (first ++ '/' :: second) = splitSlashes first ++ splitSlashes second := by
  induction first with
  | nil => rfl
  | cons c rest ih =>
      rw [List.cons_append, splitSlashes, splitSlashes, ih]
      split
      · rfl
      · obtain ⟨part, parts, hparts⟩ := List.exists_cons_of_ne_nil (splitSlashes_ne_nil rest)
        rw [hparts]
        rfl

theorem components_append (first second : String) :
    components (first ++ "/" ++ second) = components first ++ components second := by
  have hslash : (first ++ "/" ++ second).toList = first.toList ++ '/' :: second.toList := by
    simp
  unfold components
  rw [hslash, splitSlashes_append, List.map_append]

/-- The place reached from `place` by the components of a path. -/
def follow (place : List String) (path : String) : List String :=
  (components path).foldl enter place

theorem follow_append_slash (place : List String) (first second : String) :
    follow place (first ++ "/" ++ second) = follow (follow place first) second := by
  unfold follow
  rw [components_append, List.foldl_append]

/-- A slash at the end of a path leads nowhere else. -/
theorem follow_slash (place : List String) (path : String) :
    follow place (path ++ "/") = follow place path := by
  have hempty : path ++ "/" = path ++ "/" ++ "" := by simp
  rw [hempty, follow_append_slash]
  rfl

/-- A path that begins with a slash is followed from where the text before it leads. -/
theorem follow_append {place : List String} {first second : String}
    (h : isAbsolute second = true) :
    follow place (first ++ second) = follow (follow place first) second := by
  have hhead : second.toList.head? = some '/' := by simpa [isAbsolute] using h
  obtain ⟨rest, hrest⟩ : ∃ rest, second.toList = '/' :: rest := List.head?_eq_some_iff.mp hhead
  obtain rfl : second = "/" ++ String.ofList rest := by
    rw [← String.toList_inj, hrest]
    simp
  have hsecond : ∀ start, follow start ("/" ++ String.ofList rest) =
      follow start (String.ofList rest) := by
    intro start
    have hempty : "/" ++ String.ofList rest = "" ++ "/" ++ String.ofList rest := by simp
    rw [hempty, follow_append_slash]
    rfl
  rw [hsecond, ← String.append_assoc, follow_append_slash]

/-- A relative path that is joined to a directory is followed from there. -/
theorem follow_join {place : List String} {base path : String} (hbase : base ≠ "")
    (h : isAbsolute path = false) :
    follow place (join base path) = follow (follow place base) path := by
  unfold join
  rw [if_neg (by simp [h])]
  split
  · rename_i hends
    have hlast : base.toList.getLast? = some '/' := hends.resolve_left hbase
    obtain ⟨front, hfront⟩ := List.getLast?_eq_some_iff.mp hlast
    obtain rfl : base = String.ofList front ++ "/" := by
      rw [← String.toList_inj, hfront]
      simp
    rw [follow_append_slash, follow_slash]
  · exact follow_append_slash place base path

/-- Without a step up, components only lead further down. -/
theorem prefix_foldl_enter {place parts : List String} (h : ".." ∉ parts) :
    place <+: parts.foldl enter place := by
  induction parts generalizing place with
  | nil => exact List.prefix_refl place
  | cons part rest ih =>
      obtain ⟨hpart, hrest⟩ := not_or.mp (mt List.mem_cons.mpr h)
      have henter : place <+: enter place part := by
        unfold enter
        split
        · exact List.prefix_refl place
        · rw [if_neg (Ne.symm hpart)]
          exact List.prefix_append place [part]
      exact henter.trans (ih hrest)

/-- Without a step up, a path only leads further down. -/
theorem prefix_follow {place : List String} {path : String} (h : ".." ∉ components path) :
    place <+: follow place path :=
  prefix_foldl_enter h

end LinkDriver.Path
