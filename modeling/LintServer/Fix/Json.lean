/-
  LintServer.Fix.Json — commands and edits as the editor gets them.
-/

import LintServer.Fix.Command
import LintServer.Message

namespace LintServer

def TextEdit.toJson (e : TextEdit) : Json :=
  .obj [("range", e.range.toJson), ("newText", .str e.newText)]

def Command.toJson (c : Command) : Json :=
  .obj [("title", .str c.title), ("command", .str c.command),
    ("arguments", .arr [.str c.uri, .int c.version, .arr (c.edits.map TextEdit.toJson)])]

def AllFixes.toJson (a : AllFixes) : Json :=
  .obj [("documentVersion", .int a.version), ("edits", .arr (a.edits.map TextEdit.toJson))]

end LintServer
