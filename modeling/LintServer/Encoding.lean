/-
  LintServer.Encoding — text as bytes and bytes as text, or why that is not possible.

  What cannot be read is told by its first malformed part, and what cannot be written by its
  first halves of surrogate pairs. In UTF-8 a run of halves is told as one; in UTF-16 each half
  is told by itself.
-/

import LintServer.Failure
import LintServer.Text.Point
import LintServer.Text.Utf8

namespace LintServer.Encoding

/-- A failure of an encoding, which has the encoding as its first detail. -/
def failure (kind : Failure.Kind) (encoding text : String) : Failure :=
  { kind, details := [.str encoding], words := some ("'" ++ encoding ++ "' codec can't " ++ text) }

def undecodable (bytes : List Nat) (m : Text.Utf8.Malformed) : Failure :=
  let place := if m.length = 1 then
      "byte 0x" ++ String.ofList (Text.hex 2 (bytes.getD m.index 0)) ++ " in position " ++
        toString m.index
    else "bytes in position " ++ toString m.index ++ "-" ++ toString (m.index + m.length - 1)
  failure .undecodable "utf-8" ("decode " ++ place ++ ": " ++ m.why)

/-- The text of bytes that are all well formed, as the characters of a string. -/
def decoded (bytes : List Nat) : Except Failure (List Char) :=
  match Text.Utf8.malformed? 0 0 none bytes with
  | some m => .error (undecodable bytes m)
  | none => .ok (Text.coded (Text.Utf8.decodeLossy bytes))

/-- What is said of halves that begin at an index. -/
def unencodable (encoding : String) (index : Nat) (halves : List Nat) : Failure :=
  let place := match halves with
    | [unit] => "character '\\u" ++ String.ofList (Text.hex 4 unit) ++ "' in position " ++
        toString index
    | _ => "characters in position " ++ toString index ++ "-" ++ toString (index + halves.length - 1)
  failure .unencodable encoding ("encode " ++ place ++ ": surrogates not allowed")

def checkUtf8 (ps : List Point) : Except Failure Unit :=
  match Text.halves? ps with
  | some (index, halves) => .error (unencodable "utf-8" index halves)
  | none => .ok ()

def checkUtf16 (ps : List Point) : Except Failure Unit :=
  match Text.halves? ps with
  | some (index, halves) => .error (unencodable "utf-16-le" index (halves.take 1))
  | none => .ok ()

end LintServer.Encoding
