/-
  LintServer.Json.Text — a value inside a message.

  Texts, dates and times are shown as they are, null as `None`, truth values as `True` and `False`. Inside an
  array or an object a text is quoted.
-/

import LintServer.Json.Basic
import LintServer.Number.Shortest
import LintServer.Text.Quoted

namespace LintServer.Json

mutual

/-- A value as it is shown inside another value. -/
def shown : Json → String
  | .null => "None"
  | .bool b => if b then "True" else "False"
  | .int n => toString n
  | .float x => x.text
  | .str s => Text.quoted s
  | .stamp s => s.shown
  | .arr [] => "[]"
  | .arr (v :: vs) => "[" ++ shown v ++ shownItems vs
  | .obj [] => "\x7b\x7d"
  | .obj ((k, v) :: fields) => "\x7b" ++ Text.quoted k ++ ": " ++ shown v ++ shownFields fields

def shownItems : List Json → String
  | [] => "]"
  | v :: vs => ", " ++ shown v ++ shownItems vs

def shownFields : List (String × Json) → String
  | [] => "\x7d"
  | (k, v) :: fields => ", " ++ Text.quoted k ++ ": " ++ shown v ++ shownFields fields

end

/-- A value as it is shown on its own. -/
def text : Json → String
  | .str s => s
  | .stamp s => s.text
  | v => v.shown

end LintServer.Json
