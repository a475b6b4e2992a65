/-
  LintServer.Server.Outgoing — what the server sends.

  Requests are numbered, and their ids are an `s` and the number. Requests of the editor are
  answered with a result, or refused with a code and a reason.
-/

import LintServer.Effect

namespace LintServer.Outgoing

def ofMessage (number : Nat) (m : Message) : Json :=
  let body := [("method", .str m.method), ("params", m.params)]
  .obj (if m.isRequest then ("id", .str ("s" ++ toString number)) :: body else body)

/-- What is sent for an effect, when a request would have the given number. -/
def ofEffect (number : Nat) : Effect → Option Json
  | .answered id result => some (.obj [("id", id), ("result", result)])
  | .refused id code reason =>
    some (.obj [("id", id), ("error", .obj [("code", .int code), ("message", .str reason)])])
  | e => e.message?.map (ofMessage number)

/-- Each effect with what is sent for it, after `sent` requests. -/
def all (sent : Nat) : List Effect → List (Effect × Option Json)
  | [] => []
  | e :: es =>
    let asks := e.message?.any Message.isRequest
    (e, ofEffect (sent + 1) e) :: all (if asks then sent + 1 else sent) es

end LintServer.Outgoing
