/-
  LintServer.CommandLine.Basic — the commands.

  `serve` starts the language server. `check` lints one file and shows the diagnostics an
  editor would get, and how many of the fixes can be applied together. Problems that are
  errors, and mistakes of the user, end with code 1; a linter that is missing or fails, with
  code 2. What is no failure of the linter or of the configuration is not caught.
-/

import LintServer.CommandLine.Arguments
import LintServer.CommandLine.Terminal
import LintServer.Config.Load
import LintServer.Engine.Run
import LintServer.Fix.Selection
import LintServer.Library.Search
import LintServer.Logging
import LintServer.Server.Basic

namespace LintServer.CommandLine

inductive Output where
  | lines (ls : List Line)
  | json (v : Json)
  /-- How the program is used. -/
  | usage
  deriving Repr

/-- All that a command does. -/
structure Outcome where
  code : Int := 0
  effects : List Effect := []
  sinks : List Sink := []
  /-- The configuration with which the server was started. -/
  started : Option Config := none
  /-- A failure that was not caught. -/
  raised : Option Failure := none
  errors : String := ""
  output : Output := .lines []

/-- What stands for how the program is used. -/
def usage : String := "<usage>"

def userError : Int := 1
def systemError : Int := 2

namespace Outcome

def uncaught (o : Outcome) (f : Failure) : Outcome := { o with code := 1, raised := some f }

def failed (o : Outcome) (message : String) (code : Int) : Outcome :=
  match printed ("[red]Error:[/red] " ++ message) with
  | .ok errors => { o with code, errors }
  | .error f => o.uncaught f

end Outcome

/-- Configuration problems that the user is told about. -/
def isConfigProblem (f : Failure) : Bool :=
  f.kind == .badConfig || f.kind == .badValue || f.kind == .undecodable || f.kind == .unencodable

/-- The configuration with some fields set on the command line. -/
def configured (w : World) (overrides : List (String × Json)) : Except Outcome Config :=
  match Config.load w overrides none with
  | .ok config => .ok config
  | .error f =>
    .error <| if isConfigProblem f then
        ({} : Outcome).failed ("Invalid configuration: " ++ f.text) userError
      else ({} : Outcome).uncaught f

def textOrNull : Option String → Json
  | some s => .str s
  | none => .null

def serve (w : World) (logLevel logFile : Option String) : Outcome :=
  match configured w [("log_level", textOrNull logLevel), ("log_file", textOrNull logFile)] with
  | .error o => o
  | .ok config =>
    let (sinks, problem) := Sink.setUp (.str config.logLevel) config.logFile
    match problem with
    | none => { sinks, started := some config }
    | some f => ({ sinks } : Outcome).uncaught f

/-! ## Checking a file -/

/-- A text in which every line ends in a line feed. -/
def unifyLineEnds : List Char → List Char
  | [] => []
  | '\r' :: '\n' :: cs => '\n' :: unifyLineEnds cs
  | '\r' :: cs => '\n' :: unifyLineEnds cs
  | c :: cs => c :: unifyLineEnds cs

def readText (w : World) (path : String) : Except Failure Text :=
  match w.file? path with
  | none => .error (.saying (.outside "FileNotFoundError") path)
  | some entry =>
    if entry.unreadable then .error (.saying .denied path)
    else (Encoding.decoded entry.bytes).map fun cs => String.ofList (unifyLineEnds cs)

/-- The place of a file, and the file as a document. -/
def fileDocument (w : World) (given : String) : Except Failure (String × Document) := do
  let file := (← w.followed (.ofText given)).text
  let uri ← Uri.ofPath file
  return (file, { uri, version := 0, text := ← readText w file })

def severityName : Severity → String
  | .warning => "warning"
  | .error => "error"

def diagnosticJson (d : Diagnostic) : Json :=
  .obj [("line", .int d.range.start.line), ("character", .int d.range.start.character),
    ("severity", .str (severityName d.severity)), ("code", d.code), ("message", .str d.message)]

def severityMarkup : Severity → String
  | .warning => "[yellow]warning[/yellow]"
  | .error => "[red]error[/red]"

def diagnosticCells (d : Diagnostic) : List String :=
  [toString (d.range.start.line + 1), toString (d.range.start.character + 1),
   severityMarkup d.severity, (d.code.orElse (.str "")).text, d.message]

/-- The diagnostics of a file, and how many fixes can be applied together. -/
structure Checked where
  file : String
  diagnostics : List Diagnostic
  fixable : Nat

namespace Checked

def toJson (c : Checked) : Json :=
  .obj [("file", .str c.file), ("diagnostics", .arr (c.diagnostics.map diagnosticJson)),
    ("fixable", .int c.fixable)]

def summary (c : Checked) : String :=
  toString c.diagnostics.length ++ " problem(s), " ++ toString c.fixable ++ " fixable together"

/-- What is shown, under the path as it was given. -/
def lines (c : Checked) (given : String) : Except Failure (List Line) := do
  if c.diagnostics.isEmpty then textLines ("[green]No problems found in " ++ given ++ "[/green]")
  else
    let listing : Listing := {
      title := given
      headings := ["Line", "Col", "Severity", "Rule", "Message"]
      rows := c.diagnostics.map diagnosticCells }
    return (← listing.lines) ++ (← textLines c.summary)

def output (c : Checked) (given : String) (json : Bool) : Except Failure Output :=
  if json then .ok (.json c.toJson) else (c.lines given).map .lines

def hasErrors (c : Checked) : Bool := c.diagnostics.any (·.severity == .error)

end Checked

/-- What is made of the linter's report. -/
def checked (d : Document) (file : String) (report : Option Report) : Except Failure Checked :=
  let (registry, found) := FixRegistry.collectReport [] d report
  found.map fun diagnostics =>
    { file, diagnostics
      fixable := (FixTable.overlapFree ((registry.lookup d.uri).getD [])).length }

/-- The linter's run on a file, and what comes of it. -/
def lintFile (w : World) (executable : String) (d : Document) (file given : String) (json : Bool)
    (o : Outcome) : Outcome :=
  let run := Engine.run w executable d.text (some file) (.obj [])
  let o := { o with effects := run.effects }
  match run.outcome with
  | .error f => if f.isLint then o.failed (f.userMessage file) systemError else o.uncaught f
  | .ok report =>
    match (do let c ← checked d file report; return (c, ← c.output given json)) with
    | .error f => o.uncaught f
    | .ok (c, output) => { o with code := if c.hasErrors then userError else 0, output }

def check (w : World) (path : String) (eslint : Option String) (json : Bool) : Outcome :=
  let given := (Path.ofText path).text
  match w.isFile given with
  | .error f => ({} : Outcome).uncaught f
  | .ok false => ({} : Outcome).failed ("File not found: " ++ given) userError
  | .ok true =>
    match configured w [("eslint_path", textOrNull eslint), ("log_level", .str "WARNING")] with
    | .error o => o
    | .ok config =>
      let o : Outcome := { sinks := (Sink.setUp (.str config.logLevel) .null).1 }
      match fileDocument w given with
      | .error f => o.uncaught f
      | .ok (file, d) =>
        match Search.resolve w { eslintPath := config.eslintPath } d with
        | .error f => if f.isLibraryLoad then o.failed f.text systemError else o.uncaught f
        | .ok executable => lintFile w executable d file given json o

def run (w : World) (args : List String) : Outcome :=
  match Request.parse args with
  | .version => { output := .lines [.text (Server.name ++ " version " ++ Server.version)] }
  | .help => { output := .usage }
  | .misuse => { code := 2, errors := usage }
  | .serve logLevel logFile => serve w logLevel logFile
  | .check path eslint json => check w path eslint json

end LintServer.CommandLine
