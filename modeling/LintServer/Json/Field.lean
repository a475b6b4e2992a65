/-
  LintServer.Json.Field — looking into values without caring whether they have the shape.

  Whatever is not there is null, and whatever has another shape is none.
-/

import LintServer.Json.Basic

namespace LintServer.Json

/-- A field of an object; anything else has none. -/
def child (v : Json) (name : String) : Json :=
  match v with
  | .obj fields => field fields name
  | _ => .null

/-- A field of a field, and so on. -/
def path (v : Json) (names : List String) : Json := names.foldl child v

def text? : Json → Option String
  | .str s => some s
  | _ => none

def whole? : Json → Option Int
  | .int n => some n
  | _ => none

def items? : Json → Option (List Json)
  | .arr items => some items
  | _ => none

end LintServer.Json
