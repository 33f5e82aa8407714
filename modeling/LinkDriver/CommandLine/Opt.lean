/-!
# The options of the command line

Every option has one or more spellings and may take a value. `valueFlags` lists the spellings that
take one; it works for any list of declarations, of which the program's own is `Opt.declarations`.
-/

namespace LinkDriver.CommandLine

/-- The argument that ends the options. -/
def endOfOptions : String := "--"

/-- How many arguments follow an option: exactly one, a fixed number, at most one, any number, or
at least one. -/
inductive Arity where
  | one
  | exactly (count : Nat)
  | atMostOne
  | any
  | atLeastOne
  deriving DecidableEq, Repr

/-- The declaration of an argument: its spellings and its arity. A spelling without a hyphen is the
name of an operand. -/
structure Declaration where
  spellings : List String
  arity : Arity
  deriving DecidableEq, Repr

/-- Whether a text begins with a hyphen. -/
def isDashed (text : String) : Bool :=
  text.toList.head? == some '-'

/-- Whether a text begins with a hyphen and is more than that. -/
def isOptionLike (text : String) : Bool :=
  isDashed text && text != "-"

/-- Whether a text begins with two hyphens. -/
def isLong (text : String) : Bool :=
  text.toList.take 2 == ['-', '-']

/-- The spellings of all declared options that take a value, each one once. -/
def valueFlags (declarations : List Declaration) : List String :=
  ((declarations.filter (·.arity ≠ .exactly 0)).flatMap
    fun declaration => declaration.spellings.filter isDashed).eraseDups

/-- An option of the program. -/
inductive Opt where
  | help
  | log
  | report
  | textReport
  | verbose
  | version
  | output
  | library
  | searchDir
  | sysroot
  | soname
  | dynamicLinker
  | shared
  | symbolic
  | noSymbolic
  | wrap
  | portable
  | target
  | linker
  | static
  | dryRun
  deriving DecidableEq, Repr

namespace Opt

/-- All options. -/
def all : List Opt :=
  [help, log, report, textReport, verbose, version, output, library, searchDir, sysroot, soname,
   dynamicLinker, shared, symbolic, noSymbolic, wrap, portable, target, linker, static, dryRun]

/-- The spellings of an option. -/
def spellings : Opt → List String
  | help => ["-h", "--help"]
  | log => ["--log"]
  | report => ["--report"]
  | textReport => ["--text-report"]
  | verbose => ["--verbose", "-v"]
  | version => ["--version", "-V"]
  | output => ["--output", "-o"]
  | library => ["-l"]
  | searchDir => ["-L"]
  | sysroot => ["--sysroot"]
  | soname => ["--soname"]
  | dynamicLinker => ["--dynamic-linker"]
  | shared => ["--shared"]
  | symbolic => ["--symbolic", "-Bsymbolic"]
  | noSymbolic => ["--no-symbolic"]
  | wrap => ["--wrap"]
  | portable => ["--portable"]
  | target => ["--mtriple", "-C"]
  | linker => ["--ld-path"]
  | static => ["--static"]
  | dryRun => ["--dry-run"]

/-- Whether an option takes a value. -/
def takesValue : Opt → Bool
  | help | verbose | version | shared | symbolic | noSymbolic | static | dryRun => false
  | log | report | textReport | output | library | searchDir | sysroot | soname | dynamicLinker
  | wrap | portable | target | linker => true

/-- The name of an option in a complaint. -/
def label (opt : Opt) : String :=
  "/".intercalate opt.spellings

/-- The option of a spelling. -/
def ofSpelling? (spelling : String) : Option Opt :=
  all.find? fun opt => opt.spellings.contains spelling

/-- The declarations of all options. -/
def declarations : List Declaration :=
  all.map fun opt => ⟨opt.spellings, if opt.takesValue then .one else .exactly 0⟩

theorem mem_all (opt : Opt) : opt ∈ all := by
  cases opt <;> decide

end Opt

/-- The spellings of the program's options that take a value. -/
def ownValueFlags : List String :=
  valueFlags Opt.declarations

end LinkDriver.CommandLine
