/-!
# Paths

A path is a text whose components stand between slashes. The operations here look at the text
alone: joining, the directory part, the last part, and the normal form of an absolute path, in
which no component is empty, `.` or `..`. A path that begins with exactly two slashes keeps both.

`Path.enter` says how one component changes the place a path has reached. The normal form and the
lookup in a file tree share it, so they can only differ where the tree lacks a directory.
-/

namespace LinkDriver.Path

/-- The texts between the slashes of a text. -/
def splitSlashes : List Char → List (List Char)
  | [] => [[]]
  | c :: rest =>
    if c = '/' then [] :: splitSlashes rest
    else
      match splitSlashes rest with
      | [] => [[c]]
      | part :: parts => (c :: part) :: parts

/-- The components of a path, the empty ones included. -/
def components (path : String) : List String :=
  (splitSlashes path.toList).map String.ofList

/-- Whether a path begins at the root. -/
def isAbsolute (path : String) : Bool :=
  path.toList.head? == some '/'

/-- A path read from the directory `base`. -/
def join (base path : String) : String :=
  if isAbsolute path then path
  else if base = "" ∨ base.toList.getLast? = some '/' then base ++ path
  else base ++ "/" ++ path

/-- The slashes with which the normal form of an absolute path begins. -/
def root (path : String) : String :=
  match path.toList with
  | '/' :: '/' :: '/' :: _ => "/"
  | '/' :: '/' :: _ => "//"
  | _ => "/"

/-- The place reached from `place` by one component. The empty component and `.` stay, and `..`
goes up; at the root it stays. -/
def enter (place : List String) (component : String) : List String :=
  if component = "" ∨ component = "." then place
  else if component = ".." then place.dropLast
  else place ++ [component]

/-- The path of a place in a file tree. -/
def ofPlace (place : List String) : String :=
  "/" ++ "/".intercalate place

/-- The place reached from the root by a list of components. -/
def resolve (components : List String) : List String :=
  components.foldl enter []

/-- The normal form of an absolute path. -/
def normalize (path : String) : String :=
  root path ++ "/".intercalate (resolve (components path))

/-- The part of a path up to its last slash. -/
def uptoLastSlash (path : String) : List Char :=
  (path.toList.reverse.dropWhile (· != '/')).reverse

/-- The part of a path behind its last slash. -/
def lastPart (path : String) : String :=
  String.ofList (path.toList.reverse.takeWhile (· != '/')).reverse

/-- The directory part of a path: all up to the last slash, without the slashes at its end unless
it consists of slashes. -/
def directory (path : String) : String :=
  let head := uptoLastSlash path
  if head.all (· == '/') then String.ofList head
  else String.ofList (head.reverse.dropWhile (· == '/')).reverse

/-- The normal form of a path read from a working directory. -/
def absolute (workingDirectory path : String) : String :=
  normalize (join workingDirectory path)

end LinkDriver.Path
