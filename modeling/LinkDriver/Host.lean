import LinkDriver.FileTree
import LinkDriver.Text.Literal

/-!
# The host

The driver asks a host what stands at a path, what may be done with it, and what its working
directory is. `HostView` is all that can be asked. It leaves open how paths are looked up: whether
there are symbolic links, and where a relative path leads once the working directory was removed.

A `Host` is a file tree together with a working directory, which gives such answers. Paths are
looked up component by component; they are made absolute by their text alone. Where the working
directory was removed, no relative path leads anywhere, not even one that steps up from it.
-/

namespace LinkDriver

/-- What can be asked of a host: its working directory, which is absent once it was removed, and
what stands at each path and may be done with it. -/
structure HostView where
  workingDirectory : Option String
  holds : String → Bool
  isFile : String → Bool
  isDirectory : String → Bool
  isReadable : String → Bool
  isWritable : String → Bool
  holds_of_isFile : ∀ {path}, isFile path = true → holds path = true

/-- The normal form of a path from the root. A relative path has none once the working directory
was removed. -/
def HostView.absolute? (host : HostView) (path : String) : Option String :=
  if Path.isAbsolute path then some (Path.normalize path)
  else host.workingDirectory.map fun directory => Path.absolute directory path

/-- The file tree and the working directory, which is absent once it was removed. -/
structure Host where
  tree : FileTree
  workingDirectory : Option String

/-- Why a file cannot be opened for writing. -/
inductive OpenRefusal where
  | isDirectory
  | permissionDenied
  | noSuchFile
  deriving DecidableEq, Repr

namespace OpenRefusal

/-- The number and the words of the system's error. -/
def words : OpenRefusal → String
  | isDirectory => "[Errno 21] Is a directory"
  | permissionDenied => "[Errno 13] Permission denied"
  | noSuchFile => "[Errno 2] No such file or directory"

/-- The refusal to open a path, as the system reports it. -/
def message (refusal : OpenRefusal) (path : String) : String :=
  refusal.words ++ ": " ++ Literal.ofText path

end OpenRefusal

namespace Host

/-- A new host: its root and its working directory are directories. -/
def new (workingDirectory : Option String) : Host where
  tree :=
    match workingDirectory with
    | none => FileTree.empty
    | some directory =>
      FileTree.empty.put (Path.resolve (Path.components directory)) ⟨.directory, true⟩
  workingDirectory := workingDirectory

/-- The place at which the lookup of a path starts. -/
def start? (host : Host) (path : String) : Option (List String) :=
  if Path.isAbsolute path then some []
  else host.workingDirectory.map fun directory => Path.resolve (Path.components directory)

/-- The place that a path leads to. The empty path leads nowhere. -/
def find? (host : Host) (path : String) : Option (List String) :=
  if path = "" then none
  else (host.start? path).bind fun start => host.tree.walk start (Path.components path)

/-- The node that a path leads to. -/
def node? (host : Host) (path : String) : Option Node :=
  (host.find? path).bind host.tree.node?

/-- Whether a path leads to a node. -/
def holds (host : Host) (path : String) : Bool :=
  (host.node? path).isSome

/-- Whether a path leads to a regular file. -/
def isFile (host : Host) (path : String) : Bool :=
  (host.node? path).any fun node => node.kind == .regular

/-- Whether a path leads to a directory. -/
def isDirectory (host : Host) (path : String) : Bool :=
  (host.node? path).any fun node => node.kind == .directory

/-- Whether a path leads to a node that may be read. -/
def isReadable (host : Host) (path : String) : Bool :=
  (host.node? path).any fun node => node.access.readable

/-- Whether a path leads to a node that may be written. -/
def isWritable (host : Host) (path : String) : Bool :=
  (host.node? path).any fun node => node.access.writable

/-- What can be asked of a host. -/
def view (host : Host) : HostView where
  workingDirectory := host.workingDirectory
  holds := host.holds
  isFile := host.isFile
  isDirectory := host.isDirectory
  isReadable := host.isReadable
  isWritable := host.isWritable
  holds_of_isFile := by
    intro path h
    unfold isFile at h
    unfold holds
    cases hnode : host.node? path with
    | none => simp [hnode] at h
    | some node => rfl

instance : Coe Host HostView where
  coe := view

@[simp] theorem view_workingDirectory (host : Host) :
    host.view.workingDirectory = host.workingDirectory := rfl

@[simp] theorem view_isFile (host : Host) : host.view.isFile = host.isFile := rfl

@[simp] theorem view_isDirectory (host : Host) : host.view.isDirectory = host.isDirectory := rfl

@[simp] theorem view_isReadable (host : Host) : host.view.isReadable = host.isReadable := rfl

@[simp] theorem view_isWritable (host : Host) : host.view.isWritable = host.isWritable := rfl

/-- The place of the directory in which a path that leads nowhere would be made. -/
def parent? (host : Host) (path : String) : Option (List String) :=
  match Path.uptoLastSlash path with
  | [] => (host.start? path).bind fun start => host.tree.walk start []
  | ['/'] => host.tree.walk [] []
  | head => host.find? (String.ofList head.dropLast)

/-- The host with a regular file at a place. -/
def withFile (host : Host) (place : List String) : Host :=
  { host with tree := host.tree.put place ⟨.regular, true⟩ }

/-- Opens a file for writing: the host with that file in it, and the place of the file. A special
node gives way to the file. -/
def create (host : Host) (path : String) : Except OpenRefusal (Host × List String) :=
  match host.find? path with
  | some place =>
    match host.tree.node? place with
    | some ⟨.directory, _⟩ => .error .isDirectory
    | some ⟨_, _, false⟩ => .error .permissionDenied
    | _ => .ok (host.withFile place, place)
  | none =>
    match host.parent? path with
    | none => .error .noSuchFile
    | some directory =>
      if Path.lastPart path = "" ∨ !host.tree.isDirectoryAt directory then .error .noSuchFile
      else if (host.tree.node? directory).any fun node => node.access.writable then
        let place := directory ++ [Path.lastPart path]
        .ok (host.withFile place, place)
      else .error .permissionDenied

end Host

end LinkDriver
