import LinkDriver.Host

/-!
# Host listings

A host is described by lines, each a word and an absolute path with a space between them. The word
`cwd` gives the working directory, and `file`, `directory` and `special` put a node at the path. A
hyphen behind the word of a node takes away the permission to read and write it.
-/

namespace LinkDriver.HostListing

/-- The nodes that a line can put into the tree, by their words. -/
def nodes : List (String × Node) :=
  [("file", ⟨.regular, true⟩), ("file-", ⟨.regular, false⟩),
   ("directory", ⟨.directory, true⟩), ("directory-", ⟨.directory, false⟩),
   ("special", ⟨.special, true⟩), ("special-", ⟨.special, false⟩)]

/-- The word and the path of a line. -/
def splitLine (line : String) : String × String :=
  (String.ofList (line.toList.takeWhile (· != ' ')),
    String.ofList ((line.toList.dropWhile (· != ' ')).drop 1))

/-- The working directory of a listing: the last one that is given. -/
def workingDirectory? (lines : List String) : Option String :=
  (lines.reverse.map splitLine).lookup "cwd"

/-- The host after one more line, unless the line has an unknown word. -/
def addLine (host : Host) (line : String) : Option Host :=
  let (word, path) := splitLine line
  if word = "cwd" then some host
  else
    (nodes.lookup word).map fun node =>
      { host with tree := host.tree.put (Path.resolve (Path.components path)) node }

/-- The host of a listing. -/
def host? (lines : List String) : Option Host :=
  lines.foldlM addLine (Host.new (workingDirectory? lines))

end LinkDriver.HostListing
