/-
  LintServer.Config.Basic — the configuration the server starts with.

  A configuration is made from fields by name. The fields are looked at in a fixed order, and
  the first that cannot stand is reported: the log level is one of seven, in any case; the
  delay is a number that is not negative; the languages are a list or a text with commas, or
  a table whose names count, and none of them may be empty; the name of the probe ends in
  `.js`. The log file and the executable are taken as they come.
-/

import LintServer.Delay
import LintServer.Json.Shape
import LintServer.Text.Capital

namespace LintServer

inductive Languages where
  | list (ids : List String)
  | table (fields : List (String × Json))
  deriving Repr

namespace Languages

def ids : Languages → List String
  | .list ids => ids
  | .table fields => Table.keys fields

def toJson : Languages → Json
  | .list ids => .arr (ids.map .str)
  | .table fields => .obj fields

def default : Languages := .list ["javascript", "javascriptreact"]

instance : Inhabited Languages := ⟨default⟩

end Languages

structure Config where
  logLevel : String := "INFO"
  logFile : Json := .null
  exitDelay : Delay := .second
  languages : Languages := .default
  probeName : String := "___test___.js"
  eslintPath : Json := .null
  deriving Repr, Inhabited

namespace Config

def levels : List String :=
  ["TRACE", "DEBUG", "INFO", "SUCCESS", "WARNING", "ERROR", "CRITICAL"]

def fieldNames : List String :=
  ["log_level", "log_file", "exit_delay", "languages", "probe_filename", "eslint_path"]

def refused {α : Type} (why : String) : Except Failure α := .error (.saying .badConfig why)

def levelOf : Json → Except Failure String
  | .str s =>
    let level := Text.capitals s
    if levels.contains level then .ok level
    else refused ("log_level must be one of " ++ Text.joined ", " levels)
  | _ => refused ("log_level must be one of " ++ Text.joined ", " levels)

def delayOf (v : Json) : Except Failure Delay := do
  let delay ← match v with
    | .int n => pure (.whole n)
    | .float x => pure (.fraction x)
    | _ => refused "exit_delay must be a number"
  if delay.isNegative then refused "exit_delay must not be negative" else return delay

def noLanguages {α : Type} : Except Failure α :=
  refused "languages must be a non-empty list of language ids"

/-- The texts among the values, when all of them are texts and none is empty. -/
def ids? (vs : List Json) : Option (List String) :=
  vs.mapM fun v => match v with
    | .str s => if s.isEmpty then none else some s
    | _ => none

def languagesOf (v : Json) : Except Failure Languages :=
  match v with
  | .str s =>
    let ids := ((Text.split ',' s).map Text.trim).filter (!·.isEmpty)
    if ids.isEmpty then noLanguages else .ok (.list ids)
  | v =>
    if !v.isTruthy then noLanguages
    else do
      let members ← v.members
      match ids? members, v with
      | none, _ => noLanguages
      | some _, .obj fields => return .table fields
      | some ids, _ => return .list ids

def probeOf : Json → Except Failure String
  | .str s =>
    if s.isEmpty then refused "probe_filename must be a non-empty string"
    else if s.endsWith ".js" then .ok s
    else refused "probe_filename must end with .js"
  | _ => refused "probe_filename must be a non-empty string"

/-- A field that was given, as `read` takes it. -/
def given {α : Type} (fields : List (String × Json)) (name : String) (default : α)
    (read : Json → Except Failure α) : Except Failure α :=
  match Table.get? fields name with
  | some v => read v
  | none => .ok default

/-- The configuration with the given fields; a field of another name is refused at once. -/
def ofFields (fields : List (String × Json)) : Except Failure Config := do
  if !(Table.keys fields).all fieldNames.contains then
    throw (.saying .wrongType "a field of no known name")
  let logLevel ← given fields "log_level" "INFO" levelOf
  let exitDelay ← given fields "exit_delay" .second delayOf
  let languages ← given fields "languages" .default languagesOf
  let probeName ← given fields "probe_filename" "___test___.js" probeOf
  return {
    logLevel, exitDelay, languages, probeName
    logFile := Json.field fields "log_file"
    eslintPath := Json.field fields "eslint_path" }

/-- The configuration by the names of its fields, the delay as a text. Numbers with too many
digits cannot be written. -/
def described (c : Config) : Except Failure (List (String × Json)) := do
  let delay := match c.exitDelay with
    | .whole n => Json.int n
    | .fraction _ => .null
  [delay, c.logFile, c.eslintPath].forM Json.checkWritten
  return [("log_level", .str c.logLevel), ("log_file", c.logFile),
    ("exit_delay", .str c.exitDelay.text), ("languages", c.languages.toJson),
    ("probe_filename", .str c.probeName), ("eslint_path", c.eslintPath)]

def supports (c : Config) (language : String) : Bool := c.languages.ids.contains language

end Config

end LintServer
