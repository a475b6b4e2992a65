/-
  LintServer.World — what is outside the program: files, the environment, other programs.

  A path leads to a place, which without links is its lexical normal form seen from the working
  folder. The system may refuse to say what stands there, as for a name that is too long or a
  folder that must not be searched. Folders are those listed, the folders of files, and all
  folders above them. Where a file does not say whether it can be run, it can if the search path
  leads to it.
-/

import LintServer.Encoding
import LintServer.Failure.System
import LintServer.Path

namespace LintServer

structure FileEntry where
  bytes : List Nat := []
  executable : Option Bool := none
  unreadable : Bool := false
  deriving Repr, Inhabited

/-- How a program behaves that is run on a file. -/
structure Behaviour where
  code : Int := 0
  output : List Nat := []
  errors : List Nat := []
  /-- Whether it does not end before it is told to. -/
  held : Bool := false
  /-- Why it cannot be started. -/
  refused : Option Failure := none
  deriving Repr, Inhabited

/-- Why the system does not say what stands at a path: the number of its failure, and what that
means. -/
structure Refusal where
  number : Int
  meaning : String
  deriving DecidableEq, Repr, Inhabited

def Refusal.failure (r : Refusal) (path : String) : Failure :=
  .aboutFile r.number r.meaning path

structure World where
  cwd : String := "/work"
  /-- Files by the places they stand at. -/
  files : List (String × FileEntry) := []
  folders : List String := []
  /-- Where a path leads when its links are followed, or why that cannot be told. -/
  followed : Path → Except Failure Path := fun p => .ok (p.resolved cwd)
  refusal : String → Option Refusal := fun _ => none
  /-- The linter that the search path leads to. -/
  onPath : Option String := none
  environment : List (String × String) := []
  /-- Behaviours by the name of the linted file; `*` stands for all other files. -/
  programs : List (String × Behaviour) := []
  deriving Inhabited

namespace World

/-- The place that a path leads to, none if that cannot be told. -/
def place? (w : World) (path : String) : Option Path := (w.followed (.ofText path)).toOption

def file? (w : World) (path : String) : Option FileEntry :=
  (w.place? path).bind fun p => Table.get? w.files p.text

/-- Whether a file stands where a path leads to, if the system says so. -/
def isFile (w : World) (path : String) : Except Failure Bool :=
  match w.refusal path with
  | some r => .error (r.failure path)
  | none => .ok (w.file? path).isSome

/-- The parts of every folder that is listed or holds a file. -/
def knownFolders (w : World) : List (List String) :=
  w.folders.filterMap (fun f => (w.place? f).map Path.parts) ++
    w.files.map (fun f => (Path.ofText f.1).parts.dropLast)

def isFolder (w : World) (path : String) : Bool :=
  !path.isEmpty && (w.place? path).any fun p => w.knownFolders.any p.parts.isPrefixOf

def canRun (w : World) (path : String) : Bool :=
  match (w.file? path).bind (·.executable) with
  | some executable => executable
  | none => w.onPath == some path

def behaviour (w : World) (file : String) : Behaviour :=
  ((Table.get? w.programs file).orElse fun _ => Table.get? w.programs "*").getD
    { output := Text.Utf8.encode "[]".toList }

end World

end LintServer
