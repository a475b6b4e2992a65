/-
  LintServer.Document — texts open in the editor, and places in them.

  Offsets and characters count UTF-16 units: one for a character up to U+FFFF, two for any
  other. A line ends at a carriage return, a line feed, or the two together, and at nothing
  else. Offsets outside the text go to its ends, and one inside a line break goes to the end
  of its line.
-/

import LintServer.Uri

namespace LintServer

structure Position where
  line : Nat
  character : Nat
  deriving DecidableEq, Repr, Inhabited

namespace Position

/-- The highest line and the highest character there can be. -/
def bound : Nat := 2147483647

/-- What is said of a coordinate that is none. -/
def refused (name value : String) : Failure :=
  .saying .badValue
    ("Position." ++ name ++ " should be in range [0:2147483647], but was " ++ value ++ ".")

/-- The position, unless one of its coordinates is too high. -/
def checked (p : Position) : Except Failure Position :=
  if bound < p.line then .error (refused "line" (toString p.line))
  else if bound < p.character then .error (refused "character" (toString p.character))
  else .ok p

end Position

structure Range where
  start : Position
  stop : Position
  deriving DecidableEq, Repr, Inhabited

structure Document where
  uri : String
  language : String := "javascript"
  version : Int := 1
  text : Text := ""
  deriving DecidableEq, Repr, Inhabited

namespace Document

/-- The UTF-16 units of a code point. -/
def units : Point → Nat
  | .char c => if c.toNat < 0x10000 then 1 else 2
  | .half _ => 1

/-- A line of a text: the offset of its first character and its length without the break. -/
structure Line where
  start : Nat
  length : Nat
  deriving DecidableEq, Repr

/-- The lines of a text, the first of them begun at `start` and now `length` units long. -/
def linesFrom (start length : Nat) : List Point → List Line
  | [] => [⟨start, length⟩]
  | .char '\r' :: .char '\n' :: ps => ⟨start, length⟩ :: linesFrom (start + length + 2) 0 ps
  | p :: ps =>
    if p = .char '\r' ∨ p = .char '\n' then ⟨start, length⟩ :: linesFrom (start + length + 1) 0 ps
    else linesFrom start (length + units p) ps

def lines (d : Document) : List Line := linesFrom 0 0 d.text.points

/-- The texts between line ends. Between a carriage return and its line feed there is an empty
one. -/
def textLines (ps : List Point) : List (List Point) :=
  Text.splitChars (.char '\n') (ps.map fun p => if p = .char '\r' then .char '\n' else p)

/-- The place of an offset in lines of which the first has the number `number`: the last line
that begins at or before it. -/
def placeIn (offset number : Nat) : List Line → Position
  | [] => ⟨number, 0⟩
  | [line] => ⟨number, min (offset - line.start) line.length⟩
  | line :: next :: rest =>
    if next.start ≤ offset then placeIn offset (number + 1) (next :: rest)
    else ⟨number, min (offset - line.start) line.length⟩

def positionAt (d : Document) (offset : Int) : Position := placeIn offset.toNat 0 d.lines

/-- The place of an offset, unless the text cannot be measured in UTF-16 units or is too long.
Lines are measured one after another. -/
def place (d : Document) (offset : Int) : Except Failure Position := do
  (textLines d.text.points).forM Encoding.checkUtf16
  (d.positionAt offset).checked

def path (d : Document) : Except Failure String := Uri.toPath d.uri

def isFile (d : Document) : Bool := d.uri.startsWith "file:"

end Document

/-- The documents open in the editor, in the order they were first opened. -/
abbrev Documents := List (String × Document)

namespace Documents

def ofList (ds : List Document) : Documents := Table.ofPairs (ds.map fun d => (d.uri, d))

def opened (ds : Documents) (d : Document) : Documents := Table.put d.uri d ds

def closed (ds : Documents) (uri : String) : Documents := Table.erase ds uri

def get? (ds : Documents) (uri : String) : Option Document := Table.get? ds uri

def all (ds : Documents) : List Document := Table.values ds

end Documents

end LintServer
