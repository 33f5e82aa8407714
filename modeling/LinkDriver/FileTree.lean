import LinkDriver.Path

/-!
# File trees

A file tree says which node stands at each place. A place is the list of names that leads to it
from the root. There are no symbolic links: what is asked of a host that may have them is asked of a
`HostView`.

`FileTree.walk` follows the components of a path one by one: each must start from a directory.
-/

namespace LinkDriver

/-- What a node of a file tree is: a regular file, a directory, or something else. -/
inductive NodeKind where
  | regular
  | directory
  | special
  deriving DecidableEq, Repr

/-- Whether a node may be read, and whether it may be written. -/
structure Access where
  readable : Bool
  writable : Bool
  deriving DecidableEq, Repr

/-- Both are often granted or denied at once. -/
instance : Coe Bool Access where
  coe granted := ⟨granted, granted⟩

/-- A node of a file tree. -/
structure Node where
  kind : NodeKind
  access : Access
  deriving DecidableEq, Repr

/-- A file tree: the node at each place, if there is one. -/
structure FileTree where
  node? : List String → Option Node

namespace FileTree

/-- The tree that holds the root directory alone. -/
def empty : FileTree where
  node? place := if place = [] then some ⟨.directory, true⟩ else none

/-- The tree with a node set at a place. Directories that are missing above it are made. -/
def put (tree : FileTree) (place : List String) (node : Node) : FileTree where
  node? other :=
    if other = place then some node
    else if other.isPrefixOf place then (tree.node? other).or (some ⟨.directory, true⟩)
    else tree.node? other

/-- The tree without the node at a place and all below it. -/
def remove (tree : FileTree) (place : List String) : FileTree where
  node? other := if place.isPrefixOf other then none else tree.node? other

/-- Whether a directory stands at a place. -/
def isDirectoryAt (tree : FileTree) (place : List String) : Bool :=
  (tree.node? place).any fun node => node.kind == .directory

/-- The place reached from `place` by following components, if every component starts from a
directory and a node stands at the end. -/
def walk (tree : FileTree) : List String → List String → Option (List String)
  | place, [] => if (tree.node? place).isSome then some place else none
  | place, component :: rest =>
    if tree.isDirectoryAt place then walk tree (Path.enter place component) rest else none

@[simp] theorem node?_put_self (tree : FileTree) (place : List String) (node : Node) :
    (tree.put place node).node? place = some node := by
  simp [put]

theorem node?_of_walk {tree : FileTree} {components place target : List String}
    (h : tree.walk place components = some target) : (tree.node? target).isSome = true := by
  induction components generalizing place with
  | nil =>
    simp only [walk] at h
    split at h
    · next found => simp_all
    · simp at h
  | cons component rest ih =>
    simp only [walk] at h
    split at h
    · exact ih h
    · simp at h

end FileTree

end LinkDriver
