/-
  LintServer.Engine.Run — lint runs as a session sees them.

  A run has the effects of its start, and ends as it does: at once, or when it is released.
  How it ends is settled when it starts. A text that cannot be encoded is not handed over.
-/

import LintServer.Effect
import LintServer.Engine.Launch

namespace LintServer.Engine

structure Run where
  effects : List Effect
  /-- The name under which the run is released, if it does not end at once. -/
  held : Option String := none
  outcome : Except Failure (Option Report)

/-- A run of the linter's program. -/
def run (w : World) (executable : String) (content : Text) (file : Option String) (options : Json) :
    Run :=
  match launch w executable content file options with
  | .error f => { effects := [], outcome := .error f }
  | .ok l =>
    let b := w.behaviour l.file
    let started := [.debug ("Running " ++ Text.joined " " l.command), .launched l.command l.folder]
    match b.refused with
    | some f => { effects := started, outcome := .error f }
    | none =>
      match Encoding.checkUtf8 l.input.points with
      | .error f => { effects := started, outcome := .error f }
      | .ok () =>
        { effects := started ++ [.fed l.input]
          held := if b.held then some l.file else none
          outcome := (outcome b).map some }

end LintServer.Engine
