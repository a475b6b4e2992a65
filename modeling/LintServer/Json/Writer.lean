/-
  LintServer.Json.Writer — writing JSON text on one line.

  A comma and a colon are each followed by one space. Characters from U+007F on are written
  as escapes of their 16-bit units, in lower case. Floating point numbers are written by
  their shortest decimal. Dates, times, integers of too many digits and values nested too
  deeply are not written.
-/

import LintServer.Json.Shape
import LintServer.Number.Shortest
import LintServer.Text.Quoted

namespace LintServer.Json

/-- The escape of one 16-bit unit. -/
def unitEscape (n : Nat) : List Char := '\\' :: 'u' :: Text.hex 4 n

def writeChar (c : Char) : List Char :=
  let n := c.toNat
  if c = '"' then ['\\', '"']
  else if c = '\\' then ['\\', '\\']
  else if c = '\n' then ['\\', 'n']
  else if c = '\r' then ['\\', 'r']
  else if c = '\t' then ['\\', 't']
  else if n = 8 then ['\\', 'b']
  else if n = 12 then ['\\', 'f']
  else if 32 ≤ n ∧ n < 127 then [c]
  else if n < 0x10000 then unitEscape n
  else unitEscape (0xD800 + (n - 0x10000) / 0x400) ++ unitEscape (0xDC00 + (n - 0x10000) % 0x400)

def writePoint : Point → List Char
  | .char c => writeChar c
  | .half i => unitEscape (0xD800 + i)

def writeString (s : String) : List Char :=
  '"' :: ((Text.pointsOf s.toList).flatMap writePoint ++ ['"'])

def writeFloat : Double → List Char
  | .nan => "NaN".toList
  | .infinite negative => if negative then "-Infinity".toList else "Infinity".toList
  | x => x.text.toList

def writeInt (n : Int) : List Char :=
  if n < 0 then '-' :: Nat.toDigits 10 n.natAbs else Nat.toDigits 10 n.natAbs

mutual

def writeValue : Json → List Char
  | .null => "null".toList
  | .bool b => if b then "true".toList else "false".toList
  | .int n => writeInt n
  | .float x => writeFloat x
  | .str s => writeString s
  | .stamp s => writeString s.text
  | .arr [] => ['[', ']']
  | .arr (v :: vs) => '[' :: (writeValue v ++ writeItems vs)
  | .obj [] => ['\x7b', '\x7d']
  | .obj ((k, v) :: fields) =>
    '\x7b' :: (writeString k ++ ':' :: ' ' :: (writeValue v ++ writeFields fields))

/-- The items after the first, and the closing bracket. -/
def writeItems : List Json → List Char
  | [] => [']']
  | v :: vs => ',' :: ' ' :: (writeValue v ++ writeItems vs)

/-- The fields after the first, and the closing brace. -/
def writeFields : List (String × Json) → List Char
  | [] => ['\x7d']
  | (k, v) :: fields =>
    ',' :: ' ' :: (writeString k ++ ':' :: ' ' :: (writeValue v ++ writeFields fields))

end

def write (v : Json) : String := String.ofList (writeValue v)

/-! ## Values that cannot be written -/

/-- What is said of a date or a time, which JSON text cannot hold. -/
def noJson (s : Stamp) : Failure :=
  .saying .wrongType ("Object of type " ++ s.kindName ++ " is not JSON serializable")

def tooDeep : Failure :=
  .saying .tooDeep "maximum recursion depth exceeded while encoding a JSON object"

mutual

/-- Refuses a value that goes beyond what is written; `depth` more levels may be nested. -/
def checkWritable (depth : Nat) : Json → Except Failure Unit
  | .int n => if Text.isWritable n.natAbs then .ok () else .error unwritable
  | .stamp s => .error (noJson s)
  | .arr items =>
    match depth with
    | 0 => .error tooDeep
    | depth + 1 => checkWritableItems depth items
  | .obj fields =>
    match depth with
    | 0 => .error tooDeep
    | depth + 1 => checkWritableFields depth fields
  | _ => .ok ()

def checkWritableItems (depth : Nat) : List Json → Except Failure Unit
  | [] => .ok ()
  | v :: vs => do checkWritable depth v; checkWritableItems depth vs

def checkWritableFields (depth : Nat) : List (String × Json) → Except Failure Unit
  | [] => .ok ()
  | (_, v) :: fields => do checkWritable depth v; checkWritableFields depth fields

end

/-- The text of a value, unless it cannot be written. -/
def written (v : Json) : Except Failure String := do
  checkWritable ({} : Limits).depth v
  return write v

end LintServer.Json
