/-
  LintServer.Report — what the linter prints about the files it linted.

  The output is a JSON array of results. A result that counts as not given is left out; a
  problem that counts as not given keeps its place as none.
-/

import LintServer.Diagnostic

namespace LintServer

/-- The linter's result for one file. -/
structure FileReport where
  file : Json := .str ""
  problems : List (Option Problem) := []
  errors : Int := 0
  warnings : Int := 0
  output : Json := .null
  deriving Repr, Inhabited

structure Report where
  results : List FileReport := []
  deriving Repr, Inhabited

namespace FileReport

def problemOf (v : Json) : Except Failure (Option Problem) :=
  if v.isTruthy then (Problem.ofJson v).map some else .ok none

def ofJson (v : Json) : Except Failure FileReport := do
  let fields ← v.fields
  let messages ← ((Json.field fields "messages").orElse (.arr [])).members
  return {
    file := (Table.get? fields "filePath").getD (.str "")
    problems := ← messages.mapM problemOf
    errors := ← (Json.field fields "errorCount").count
    warnings := ← (Json.field fields "warningCount").count
    output := Json.field fields "output" }

end FileReport

namespace Report

def errors (r : Report) : Int := r.results.foldl (fun n f => n + f.errors) 0

def warnings (r : Report) : Int := r.results.foldl (fun n f => n + f.warnings) 0

def invalid (why : String) : Failure := .lint ("Invalid ESLint output: " ++ why)

def ofJson : Json → Except Failure Report
  | .arr items => do
    let results ← (items.filter Json.isTruthy).mapM FileReport.ofJson
    return { results }
  | _ => .error (invalid "expected a list of results")

/-- What is said of an output that cannot be read. -/
def unreadable (e : Json.SyntaxError) : Failure :=
  match e.trouble with
  | .longNumber _ => .saying .badValue e.message
  | .tooDeep _ => .saying .tooDeep e.message
  | _ => invalid e.message

def parse (output : String) : Except Failure Report :=
  match Json.read output with
  | .error e => .error (unreadable e)
  | .ok v => ofJson v

/-- The problems of the first result, those left blank apart. -/
def problems (r : Report) : List Problem :=
  match r.results with
  | [] => []
  | first :: _ => first.problems.filterMap id

end Report

end LintServer
