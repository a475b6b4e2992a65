/-
  LintServer.Path — file paths, taken apart without looking at the disk.

  A path has a root (none, one slash, or exactly two) and parts. Repeated slashes and the
  part `.` vanish; the part `..` stays, since what it means depends on links. The path with
  neither root nor parts is written `.`.

  Beside that there are three operations on the bare text: the folder a text names a file
  in, joining, and the lexical normal form that also takes `..` away.
-/

import LintServer.Text.Blank

namespace LintServer

structure Path where
  /-- The number of slashes the path begins with: 0, 1 or 2. -/
  slashes : Nat
  parts : List String
  deriving DecidableEq, Repr, Inhabited

namespace Path

def leadingSlashes (cs : List Char) : Nat := (cs.takeWhile (· == '/')).length

/-- One slash, or two when there are exactly two. -/
def rootOf (cs : List Char) : Nat :=
  match leadingSlashes cs with
  | 0 => 0
  | 2 => 2
  | _ => 1

def pieces (cs : List Char) : List String :=
  ((Text.splitChars '/' cs).filter (fun p => !p.isEmpty && p != ['.'])).map String.ofList

def ofText (s : String) : Path := { slashes := rootOf s.toList, parts := pieces s.toList }

def text (p : Path) : String :=
  if p.slashes = 0 ∧ p.parts.isEmpty then "."
  else String.ofList (List.replicate p.slashes '/') ++ Text.joined "/" p.parts

/-- The path `q` seen from the folder `p`. -/
def join (p q : Path) : Path :=
  if q.slashes = 0 then { p with parts := p.parts ++ q.parts } else q

instance : HDiv Path String Path where
  hDiv p s := p.join (ofText s)

def parent (p : Path) : Path := { p with parts := p.parts.dropLast }

/-- The folders above `parts`, nearest first, with a relative or absolute top. -/
def foldersAbove (slashes : Nat) : (count : Nat) → List String → List Path
  | 0, _ => []
  | count + 1, parts => { slashes, parts := parts.dropLast } ::
      foldersAbove slashes count parts.dropLast

def parents (p : Path) : List Path := foldersAbove p.slashes p.parts.length p.parts

/-- One part more, where `..` goes back; above the root of an absolute path is the root. -/
def stepInto (absolute : Bool) (done : List String) (part : String) : List String :=
  if part = ".." then
    match done.getLast? with
    | none => if absolute then [] else [".."]
    | some last => if last = ".." then done ++ [".."] else done.dropLast
  else done ++ [part]

/-- The path from the folder `base`, with no `..` left in it. -/
def resolved (base : String) (p : Path) : Path :=
  let whole := (ofText base).join p
  { whole with parts := whole.parts.foldl (stepInto (whole.slashes != 0)) [] }

/-- The text of a path's lexical normal form, seen from the folder `base`. -/
def normal (base s : String) : String := ((ofText s).resolved base).text

/-- What stands before the last slash, without slashes at its end unless it has nothing
else. -/
def folderOf (s : String) : String :=
  let back := s.toList.reverse.dropWhile (· != '/')
  let bare := back.dropWhile (· == '/')
  String.ofList (if bare.isEmpty then back else bare).reverse

/-- A name in a folder, as text. -/
def inFolder (folder name : String) : String :=
  if name.startsWith "/" then name
  else if folder.isEmpty ∨ folder.endsWith "/" then folder ++ name
  else folder ++ "/" ++ name

end Path

end LintServer
