/-
  LintServer.Config.Load — where the configuration comes from.

  Field by field, the command line wins over the environment, that over the nearest
  `.eslintbridgerc`, that over the `[tool.eslint-bridge]` section of the nearest
  `pyproject.toml`, and that over the defaults. A file is looked for in a folder and then in
  each folder above it; where the system refuses to look, the search fails. A file that cannot
  be read, or is no TOML, counts as empty; one that is no UTF-8 or goes beyond what is read does
  not, nor does one whose section is no table.
-/

import LintServer.Config.Basic
import LintServer.Json.Number
import LintServer.Toml.Reader
import LintServer.World

namespace LintServer.Config

def ownFile : String := ".eslintbridgerc"
def projectFile : String := "pyproject.toml"

/-- The file in the nearest folder, from `start` upwards. -/
def find? (w : World) (name : String) (start : Option String) : Except Failure (Option String) := do
  let here ← w.followed (.ofText (start.getD w.cwd))
  ((here :: here.parents).map fun folder => (folder / name).text).findM? w.isFile

/-- The fields of a text, none if it counts as empty. -/
def readFields (text : List Char) : Except Failure (Option Toml.Fields) :=
  match Toml.read text with
  | .ok fields => .ok (some fields)
  | .error .malformed => .ok none
  | .error (.longNumber digits) => .error (Json.longNumber digits)
  | .error .tooDeep => .error (.saying .tooDeep "maximum recursion depth exceeded")

/-- The fields of a file, none if it counts as empty. -/
def readFile (w : World) (path : String) : Except Failure (Option Toml.Fields) :=
  match w.file? path with
  | none => .ok none
  | some entry =>
    if entry.unreadable then .ok none
    else do readFields (← Encoding.decoded entry.bytes)

/-- The fields that a configuration has, out of the given ones. -/
def known (fields : List (String × Json)) : List (String × Json) :=
  fields.filter fun f => fieldNames.contains f.1

def ofOwnFile (w : World) (start : Option String) : Except Failure (List (String × Json)) := do
  match ← find? w ownFile start with
  | none => return []
  | some path => return known (Toml.fieldsToJson ((← readFile w path).getD []))

/-- The fields of a table that is there or counts as empty, for a use of them. -/
def section? (use : String) (fields : List (String × Json)) (name : String) :
    Except Failure (List (String × Json)) :=
  match Table.get? fields name with
  | none => .ok []
  | some v => v.fieldsTo use

def ofProjectFile (w : World) (start : Option String) :
    Except Failure (List (String × Json)) := do
  match ← find? w projectFile start with
  | none => return []
  | some path =>
    match ← readFile w path with
    | none => return []
    | some fields =>
      let tools ← section? "get" (Toml.fieldsToJson fields) "tool"
      return known (← section? "items" tools "eslint-bridge")

/-- The variables of the environment, with the fields they set. -/
def variableFields : List (String × String) :=
  [("ESLINT_BRIDGE_LOG_LEVEL", "log_level"), ("ESLINT_BRIDGE_LOG_FILE", "log_file"),
   ("ESLINT_BRIDGE_EXIT_DELAY", "exit_delay"), ("ESLINT_BRIDGE_LANGUAGES", "languages"),
   ("ESLINT_BRIDGE_PROBE_FILENAME", "probe_filename"),
   ("ESLINT_BRIDGE_ESLINT_PATH", "eslint_path")]

/-- The value that a variable gives its field. -/
def ofVariable (name value : String) : Except Failure Json :=
  if name = "exit_delay" then
    match Json.floatOf? value with
    | some x => .ok (.float x)
    | none => refused "ESLINT_BRIDGE_EXIT_DELAY must be a number"
  else .ok (.str value)

def ofEnvironment (w : World) : Except Failure (List (String × Json)) :=
  (variableFields.filterMap fun (source, name) =>
    (Table.get? w.environment source).map (name, ·)).mapM fun (name, value) =>
      (ofVariable name value).map (name, ·)

/-- The fields of all sources; of a field given twice the later one counts. -/
def merged (sources : List (List (String × Json))) : List (String × Json) :=
  Table.ofPairs (sources.flatten.filter fun f => !f.2.isNull)

def load (w : World) (overrides : List (String × Json)) (start : Option String) :
    Except Failure Config := do
  let project ← ofProjectFile w start
  let own ← ofOwnFile w start
  let environment ← ofEnvironment w
  ofFields (merged [project, own, environment, known overrides])

end LintServer.Config
