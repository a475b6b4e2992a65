/-
  LintServer.Message — what the editor is told.

  Diagnostics and the status after each pass; that a document has no configuration or no
  linter, which the editor is asked to acknowledge; that the server is about to exit; and
  texts to show or to log. Every message has a method and parameters in JSON.
-/

import LintServer.Diagnostic

namespace LintServer

/-- How a pass went, from best to worst. -/
inductive Status where
  | ok
  | warn
  | error
  deriving DecidableEq, Repr, Inhabited

namespace Status

def code : Status → Int
  | .ok => 1
  | .warn => 2
  | .error => 3

def name : Status → String
  | .ok => "OK"
  | .warn => "WARN"
  | .error => "ERROR"

def ofCode (code : Int) : Except Failure Status :=
  if code = 1 then .ok .ok
  else if code = 2 then .ok .warn
  else if code = 3 then .ok .error
  else .error (.saying .badValue (toString code ++ " is not a valid Status"))

def max (a b : Status) : Status := if a.code < b.code then b else a

/-- The worst of several, or the default if there is none. -/
def worst (default : Status) : List Status → Status
  | [] => default
  | s :: rest => rest.foldl max s

end Status

inductive Message where
  | diagnostics (uri : String) (found : List Diagnostic)
  | status (s : Status)
  /-- A document has no configuration. -/
  | noConfig (text uri : String)
  /-- No linter was found for a document. -/
  | noLibrary (uri : String)
  | exitCalled (code : Int) (stack : String)
  | showError (text : String)
  | showInfo (text : String)
  | logInfo (text : String)
  | logWarning (text : String)
  deriving Repr

def Position.toJson (p : Position) : Json :=
  .obj [("line", .int p.line), ("character", .int p.character)]

def Range.toJson (r : Range) : Json :=
  .obj [("start", r.start.toJson), ("end", r.stop.toJson)]

def Severity.code : Severity → Int
  | .error => 1
  | .warning => 2

namespace Diagnostic

def toFields (d : Diagnostic) : List (String × Json) :=
  [("range", d.range.toJson), ("message", .str d.message), ("severity", .int d.severity.code),
   ("source", .str d.source), ("code", d.code)]

def toJson (d : Diagnostic) : Json := .obj d.toFields

/-- As the editor gets it: without a code when there is none. -/
def toWire (d : Diagnostic) : Json := .obj (d.toFields.filter fun f => !f.2.isNull)

end Diagnostic

namespace Message

/-- Whether the editor has to answer. -/
def isRequest : Message → Bool
  | .noConfig .. | .noLibrary .. => true
  | _ => false

def method : Message → String
  | .diagnostics .. => "textDocument/publishDiagnostics"
  | .status .. => "eslint/status"
  | .noConfig .. => "eslint/noConfig"
  | .noLibrary .. => "eslint/noLibrary"
  | .exitCalled .. => "eslint/exitCalled"
  | .showError .. | .showInfo .. => "window/showMessage"
  | .logInfo .. | .logWarning .. => "window/logMessage"

def ofUri (uri : String) : Json := .obj [("uri", .str uri)]

/-- A text with its type: 1 for errors, 2 for warnings, 3 for information. -/
def typed (type : Int) (text : String) : Json := .obj [("type", .int type), ("message", .str text)]

def params : Message → Json
  | .diagnostics uri found =>
    .obj [("uri", .str uri), ("diagnostics", .arr (found.map Diagnostic.toWire))]
  | .status s => .obj [("state", .int s.code)]
  | .noConfig text uri => .obj [("message", .str text), ("document", ofUri uri)]
  | .noLibrary uri => .obj [("source", ofUri uri)]
  | .exitCalled code stack => .arr [.int code, .str stack]
  | .showError text => typed 1 text
  | .logWarning text => typed 2 text
  | .showInfo text | .logInfo text => typed 3 text

end Message

end LintServer
