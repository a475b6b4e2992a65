/-
  LintServer.World.Json — a world described in JSON.

  Contents are given as text, or as bytes in hexadecimal under a name that ends in `_hex`.
-/

import LintServer.Json.Field
import LintServer.Json.Reader
import LintServer.World

namespace LintServer

def hexBytes : List Char → List Nat
  | h :: l :: cs =>
    (16 * (Json.hexValue? h).getD 0 + (Json.hexValue? l).getD 0) :: hexBytes cs
  | _ => []

/-- A text in UTF-8, without halves of surrogate pairs. -/
def utf8Of (s : String) : List Nat :=
  Text.Utf8.encode ((Text.pointsOf s.toList).filterMap Point.char?)

/-- The bytes under a name; a text is written in UTF-8. -/
def Json.bytesAt (v : Json) (name : String) : List Nat :=
  match (v.child (name ++ "_hex")).text?, (v.child name).text? with
  | some hex, _ => hexBytes hex.toList
  | none, some text => utf8Of text
  | none, none => []

def Json.isTrue (v : Json) (name : String) : Bool := (v.child name).isTruthy

/-- The fields of an object; anything else has none. -/
def Json.fieldsOrNone : Json → List (String × Json)
  | .obj fields => fields
  | _ => []

def FileEntry.ofJson : Json → FileEntry
  | .str text => { bytes := utf8Of text }
  | v => {
      bytes := v.bytesAt "text"
      executable := match v.child "exec" with
        | .bool b => some b
        | _ => none
      unreadable := v.isTrue "unreadable" }

def Behaviour.ofJson (v : Json) : Behaviour where
  code := (v.child "code").whole?.getD 0
  output := v.bytesAt "stdout"
  errors := v.bytesAt "stderr"
  held := v.isTrue "hold"
  refused := (v.child "spawn_error").text?.map fun name =>
    .saying (.ofName name) ((v.child "spawn_message").text?.getD "spawn failed")

namespace World

def ofJson (v : Json) : World where
  cwd := (v.child "cwd").text?.getD "/work"
  files := (v.child "files").fieldsOrNone.map fun f => (f.1, .ofJson f.2)
  folders := ((v.child "dirs").items?.getD []).filterMap Json.text?
  onPath := (v.child "which").text?
  environment := (v.child "env").fieldsOrNone.filterMap fun f => f.2.text?.map (f.1, ·)
  programs := (v.child "processes").fieldsOrNone.map fun f => (f.1, .ofJson f.2)

/-- A program behaves differently from now on. -/
def behaving (w : World) (file : String) (b : Behaviour) : World :=
  { w with programs := Table.put file b w.programs }

end World

end LintServer
