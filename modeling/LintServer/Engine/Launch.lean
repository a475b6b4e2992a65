/-
  LintServer.Engine.Launch — starting the linter on a text, and what its end means.

  The text is handed to the linter as its input, under the name of its file. Codes 0 and 1
  come with a report on the output; any other code is a failure, told on the error stream or,
  if that is empty, on the output.
-/

import LintServer.Engine.Arguments
import LintServer.Engine.Failing
import LintServer.Report
import LintServer.World

namespace LintServer.Engine

/-- A start of the linter: its command line, the folder it runs in, its input, and the name
of the file, which is empty when it is told none. -/
structure Launch where
  command : List String
  file : String
  folder : Option String
  input : Text
  deriving DecidableEq, Repr

/-- The name of an engine. -/
def describe (executable : String) : String :=
  "EslintEngine(" ++ Text.quoted executable ++ ")"

/-- The start of the linter for a text; a file without a name counts as none. -/
def launch (w : World) (executable : String) (content : Text) (file : Option String)
    (options : Json) : Except Failure Launch := do
  let flags ← arguments options
  let name := file.getD ""
  let folder := Path.folderOf name
  return {
    command := [executable, "--stdin", "--format", "json"] ++ flags ++
      (if name.isEmpty then [] else ["--stdin-filename", name])
    file := name
    folder := if w.isFolder folder then some folder else none
    input := content }

/-- What a program wrote, with U+FFFD for what is no text. -/
def written (bytes : List Nat) : String :=
  String.ofList (Text.coded (Text.Utf8.decodeLossy bytes))

/-- What the end of a run means. -/
def outcome (b : Behaviour) : Except Failure Report :=
  let output := written b.output
  let errors := written b.errors
  if b.code = 0 ∨ b.code = 1 then Report.parse output
  else .error (failureOf (if errors.isEmpty then output else errors))

end LintServer.Engine
