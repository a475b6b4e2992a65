/-
  LintServer.Diagnostic — problems the linter reports, and the diagnostics made of them.

  The linter counts lines and columns from one, the editor from zero. A problem without an
  end has an empty range at its start. Whatever the linter leaves out of a problem counts as
  zero or is carried on as it is; a diagnostic needs coordinates from 0 to 2^31 - 1 and a
  text for its message.
-/

import LintServer.Document
import LintServer.Json.Field
import LintServer.Json.Number

namespace LintServer

/-- A proposed replacement of the units from `start` up to `stop`. The text is carried on as
the linter wrote it. -/
structure Edit where
  start : Int
  stop : Int
  text : Json := .str ""
  deriving Repr, Inhabited

/-- One finding of the linter. -/
structure Problem where
  line : Int
  column : Int
  severity : Int
  rule : Json
  message : Json
  endLine : Json := .null
  endColumn : Json := .null
  edit : Option Edit := none
  deriving Repr, Inhabited

inductive Severity where
  | error
  | warning
  deriving DecidableEq, Repr

structure Diagnostic where
  range : Range
  message : String
  severity : Severity
  source : String := "eslint"
  code : Json
  deriving Repr

namespace Edit

def ofJson (v : Json) : Except Failure Edit := do
  let (start, stop) ← (← v.entry "range").pair
  return { start := ← start.toInt, stop := ← stop.toInt, text := (v.child "text").orElse (.str "") }

end Edit

namespace Problem

def ofJson (v : Json) : Except Failure Problem := do
  let fields ← v.fields
  let line ← (Json.field fields "line").count
  let column ← (Json.field fields "column").count
  let severity ← (Json.field fields "severity").count
  let fix := Json.field fields "fix"
  let edit ← if fix.isTruthy then (Edit.ofJson fix).map some else pure none
  return {
    line, column, severity, edit
    rule := Json.field fields "ruleId"
    message := (Table.get? fields "message").getD (.str "")
    endLine := Json.field fields "endLine"
    endColumn := Json.field fields "endColumn" }

end Problem

/-- Severity 1 is a warning, and anything else an error. -/
def Severity.ofLinter (severity : Int) : Severity := if severity = 1 then .warning else .error

namespace Position

/-- A coordinate that is a whole number from 0 to the bound. -/
def coordinate (name : String) (v : Json) : Except Failure Nat :=
  match v with
  | .int n => if 0 ≤ n ∧ n ≤ bound then .ok n.toNat else .error (refused name v.text)
  | _ => .error (refused name v.text)

def ofJson (line character : Json) : Except Failure Position := do
  return { line := ← coordinate "line" line, character := ← coordinate "character" character }

end Position

namespace Diagnostic

/-- One less than a coordinate of the linter, and no less than 0. A number with a fraction
part that is above 1 stays one, and is no coordinate. -/
def fromOne : Json → Except Failure Json
  | .bool b => .ok (.int (max 0 (Json.ofBool b - 1)))
  | .int n => .ok (.int (max 0 (n - 1)))
  | .float x =>
    let y := x.add (Double.ofInt (-1))
    .ok (if (Double.zero false).less y then .float y else .int 0)
  | v => Json.wrong .wrongType ("unsupported operand type(s) for -: '" ++ v.typeName ++ "' and 'int'")

def fromOneOr (start : Json) (v : Json) : Except Failure Json :=
  if v.isNull then .ok start else fromOne v

/-- The message of the problem, with the rule in brackets when there is one. -/
def messageOf (p : Problem) : Json :=
  if p.rule.isNull then p.message
  else .str (p.message.text ++ " (" ++ p.rule.text ++ ")")

def ofProblem (p : Problem) : Except Failure Diagnostic := do
  let startLine ← fromOne (.int p.line)
  let startCharacter ← fromOne (.int p.column)
  let endLine ← fromOneOr startLine p.endLine
  let endCharacter ← fromOneOr startCharacter p.endColumn
  let start ← Position.ofJson startLine startCharacter
  let stop ← Position.ofJson endLine endCharacter
  match messageOf p with
  | .str message =>
    return { range := ⟨start, stop⟩, message, severity := .ofLinter p.severity, code := p.rule }
  | v => throw (v.noText "message")

/-- The name under which a diagnostic and its fix are joined: its range and its code. -/
def keyOf (range : Range) (code : Json) : String :=
  "[" ++ toString range.start.line ++ "," ++ toString range.start.character ++ "," ++
    toString range.stop.line ++ "," ++ toString range.stop.character ++ "]-" ++ code.text

def key (d : Diagnostic) : String := keyOf d.range d.code

end Diagnostic

end LintServer
