/-
  LintServer.Server.Incoming — what the editor sends.

  Requests have an id, under which they are answered. A notification of another method, or a
  message that lacks what its method needs, is none of these.
-/

import LintServer.Diagnostic
import LintServer.Json.Field

namespace LintServer

inductive Incoming where
  | setUp (id options : Json) (rootPath rootUri : Option String)
  | initialized
  | didOpen (document : Document)
  | didChange (uri : String) (version : Int) (texts : List Text)
  | didSave (uri : String)
  | didClose (uri : String)
  | didChangeConfiguration (settings : Json)
  | didChangeWatchedFiles (uris : List String)
  /-- The diagnostics are given by their keys. -/
  | codeAction (id : Json) (uri : String) (keys : List String)
  | allFixes (id params : Json)
  | shutdown (id : Json)
  | exit
  /-- A request to execute a command. -/
  | execute (id : Json) (command : String)
  /-- A request of another method. -/
  | unknown (id : Json) (method : String)
  /-- The answer to a request of the server, by its number; a failure comes with a text. -/
  | response (number : Nat) (failure : Option String)
  deriving Repr

namespace Incoming

def uriIn (params : Json) : Option String := (params.path ["textDocument", "uri"]).text?

def positionIn? (v : Json) : Option Position :=
  (Position.ofJson (v.child "line") (v.child "character")).toOption

def keyIn? (v : Json) : Option String := do
  let start ← positionIn? (v.path ["range", "start"])
  let stop ← positionIn? (v.path ["range", "end"])
  return Diagnostic.keyOf ⟨start, stop⟩ (v.child "code")

def documentIn? (v : Json) : Option Document := do
  return {
    uri := ← (v.child "uri").text?
    language := (v.child "languageId").text?.getD ""
    version := (v.child "version").whole?.getD 0
    text := ← (v.child "text").text? }

/-- A message of a method. -/
def ofMethod? (method : String) (id params : Json) : Option Incoming :=
  match method with
  | "initialize" => some (.setUp id (params.child "initializationOptions")
      (params.child "rootPath").text? (params.child "rootUri").text?)
  | "initialized" => some .initialized
  | "textDocument/didOpen" => (documentIn? (params.child "textDocument")).map .didOpen
  | "textDocument/didChange" => do
    let uri ← uriIn params
    let version := (params.path ["textDocument", "version"]).whole?.getD 0
    let changes ← (params.child "contentChanges").items?
    return .didChange uri version (← changes.mapM fun c => (c.child "text").text?.map Text.ofString)
  | "textDocument/didSave" => (uriIn params).map .didSave
  | "textDocument/didClose" => (uriIn params).map .didClose
  | "workspace/didChangeConfiguration" => some (.didChangeConfiguration (params.child "settings"))
  | "workspace/didChangeWatchedFiles" => do
    let changes ← (params.child "changes").items?
    return .didChangeWatchedFiles (← changes.mapM fun c => (c.child "uri").text?)
  | "textDocument/codeAction" => do
    let uri ← uriIn params
    let diagnostics ← (params.path ["context", "diagnostics"]).items?
    return .codeAction id uri (← diagnostics.mapM keyIn?)
  | "textDocument/eslint/allFixes" => some (.allFixes id params)
  | "shutdown" => some (.shutdown id)
  | "exit" => some .exit
  | "workspace/executeCommand" => (params.child "command").text?.map (.execute id)
  | _ => if id.isNull then none else some (.unknown id method)

/-- The number of a request of the server, from the id it was sent with. -/
def requestNumber? (id : Json) : Option Nat :=
  match id with
  | .str s =>
    match s.toList with
    | 's' :: digits => (String.ofList digits).toNat?
    | _ => none
  | _ => none

def ofJson? (v : Json) : Option Incoming :=
  match v.child "method" with
  | .str method => ofMethod? method (v.child "id") (v.child "params")
  | _ => do
    let number ← requestNumber? (v.child "id")
    return .response number ((v.path ["error", "message"]).text?)

end Incoming

end LintServer
