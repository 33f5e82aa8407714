/-!
# The program's name and version
-/

namespace LinkDriver

/-- The name under which the program reports. -/
def programName : String := "ppld"

/-- The version of the program. -/
def version : String := "0.1.0"

/-- The line that tells the version and the system on which the program runs. -/
def versionText : String :=
  programName ++ " " ++ version ++ " linker driver on CPython 3.11.2 on TestHost"

end LinkDriver
