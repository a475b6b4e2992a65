/-
  LintServer.Validation.Messages — error messages gathered while many documents are validated.

  Each text is kept once, in the order it first came, and all are shown together.
-/

import LintServer.Effect

namespace LintServer

abbrev Messages := List String

namespace Messages

def add (ms : Messages) (text : String) : Messages := if ms.contains text then ms else ms ++ [text]

def shown (ms : Messages) : List Effect := ms.map fun text => .told (.showError text)

end Messages

end LintServer
