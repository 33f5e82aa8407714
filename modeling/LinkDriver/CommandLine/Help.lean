import LinkDriver.Version

/-!
# The help texts

What the program prints when it is asked for help, or is not told what to do.
-/

namespace LinkDriver.CommandLine

/-- The help on linking. -/
def helpText : String :=
  String.join <| List.map (· ++ "\n") [
    "usage: ppld [-h] [--log log-level] [--report report-file]",
    "            [--text-report text-report-file] [--verbose] [--version]",
    "            [--output output-file] [-l namespec] [-L searchdir]",
    "            [--sysroot directory] [--soname name] [--dynamic-linker program]",
    "            [--shared] [--symbolic] [--no-symbolic] [--wrap symbol]",
    "            [--portable symbol] [--mtriple triple] [--ld-path program]",
    "            [--static] [--dry-run]",
    "            [obj ...]",
    "",
    " Linker driver.",
    "",
    "Link object files and libraries into an executable or a shared library.",
    "Object files and -l namespecs are passed to the linker in the order in",
    "which they appear on the command line.",
    "",
    "positional arguments:",
    "  obj                   the object files to link",
    "",
    "options:",
    "  -h, --help            show this help message and exit",
    "  --log log-level       Log level (info,debug,warn)",
    "  --report report-file  Specify a file to write the log to",
    "  --text-report text-report-file",
    "                        Write a report into a text file",
    "  --verbose, -v         Increase verbosity of the output",
    "  --version, -V         Display version and exit",
    "  --output output-file, -o output-file",
    "                        output file",
    "  -l namespec           Add the archive or object file specified by namespec",
    "                        to the list of files to link.",
    "  -L searchdir          Add searchdir to the list of paths that will be",
    "                        searched for archive libraries.",
    "  --sysroot directory   Use directory as the location of the sysroot.",
    "  --soname name         Set internal name of shared library",
    "  --dynamic-linker program",
    "                        Set the name of the dynamic linker.",
    "  --shared              Create a shared library.",
    "  --symbolic, -Bsymbolic",
    "                        Bind references within the shared library (default).",
    "  --no-symbolic         Do not bind references within the shared library.",
    "  --wrap symbol         Use a wrap function for symbol.",
    "  --portable symbol     Use a portable function for symbol.",
    "  --mtriple triple, -C triple",
    "                        Specify the target triple (default: x86_64-unknown-",
    "                        linux)",
    "  --ld-path program     The ld executable to run (default: ld)",
    "  --static              Only use static archives when searching namespecs.",
    "  --dry-run             Print the linker command instead of running it."]

/-- The names under which a link can be asked for. -/
def subcommands : List String :=
  ["link", "ld"]

/-- The help on the subcommands. -/
def subcommandHelp : String :=
  "Welcome to PPLD command line!\n\nPlease use one of the subcommands below:\n" ++
    String.join
      (subcommands.map fun name => "  $ python -m " ++ programName ++ " " ++ name ++ " -h\n") ++
    "\n"

end LinkDriver.CommandLine
