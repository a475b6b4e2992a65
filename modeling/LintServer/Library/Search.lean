/-
  LintServer.Library.Search — finding the linter's executable for a document.

  Looked at, in this order: two places in the folder the editor configured, then
  `node_modules` beside the document and in each folder above it (for a document that is no
  file, from the workspace's folder on), then the executable of the configuration. The first
  file found counts, and if there is none, what the search path leads to. It has to be
  executable. Where the system refuses to look, the search fails.
-/

import LintServer.Document
import LintServer.Json.Shape
import LintServer.World

namespace LintServer

/-- Where to look besides the document's own folders. -/
structure Search where
  nodePath : Json := .null
  workspaceRoot : Option String := none
  eslintPath : Json := .null
  deriving Repr, Inhabited

namespace Search

def executableName : String := "eslint"

/-- A path out of data of any shape. -/
def pathOf : Json → Except Failure Path
  | .str s => .ok (.ofText s)
  | v => Json.wrong .wrongType ("expected str, bytes or os.PathLike object, not " ++ v.typeName)

def inModules (folder : Path) : Path := folder / "node_modules" / ".bin" / executableName

/-- The folder to start from. -/
def start? (s : Search) (d : Document) : Except Failure (Option Path) := do
  if d.isFile then return some (Path.ofText (← d.path)).parent
  else match s.workspaceRoot with
    | some root => return if root.isEmpty then none else some (.ofText root)
    | none => return none

def candidates (s : Search) (d : Document) : Except Failure (List Path) := do
  let configured ← if s.nodePath.isTruthy then do
      let folder ← pathOf s.nodePath
      pure [folder / ".bin" / executableName, inModules folder]
    else pure []
  let near := match ← s.start? d with
    | some start => (start :: start.parents).map inModules
    | none => []
  let explicit ← if s.eslintPath.isTruthy then do pure [← pathOf s.eslintPath] else pure []
  return configured ++ near ++ explicit

def checked (w : World) (path : String) : Except Failure String :=
  if w.canRun path then .ok path
  else .error (.libraryLoad ("The eslint executable at " ++ path ++ " is not executable."))

/-- The executable for a document. -/
def resolve (w : World) (s : Search) (d : Document) : Except Failure String := do
  let places := (← s.candidates d).map Path.text
  match ← places.findM? w.isFile with
  | some path => checked w path
  | none =>
    match w.onPath with
    | some path => if path.isEmpty then throw (.unresolved (places ++ ["PATH"])) else checked w path
    | none => throw (.unresolved (places ++ ["PATH"]))

end Search

end LintServer
