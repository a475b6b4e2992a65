/-
  LintServer.Fix.Command — the fixes as the editor gets them.

  For the diagnostics under the cursor the editor is offered one command per fix. When there
  is one, two more are added, each if it makes more than one edit: all fixes of the rule that
  came last, and all fixes of the document. Every command names the version of the last fix
  under the cursor. The edits of all fixes can also be asked for on their own.
-/

import LintServer.Fix.Selection

namespace LintServer

structure TextEdit where
  range : Range
  newText : String
  deriving DecidableEq, Repr

structure Command where
  title : String
  command : String
  uri : String
  version : Int
  edits : List TextEdit
  deriving DecidableEq, Repr

/-- All edits of a document, and the version they are for. -/
structure AllFixes where
  version : Int
  edits : List TextEdit
  deriving DecidableEq, Repr

namespace Command

def applySingle : String := "eslint.applySingleFix"
def applySame : String := "eslint.applySameFixes"
def applyAll : String := "eslint.applyAllFixes"

def editOf (d : Document) (fix : Fix) : Except Failure TextEdit := do
  let range := ⟨← d.place fix.edit.start, ← d.place fix.edit.stop⟩
  match fix.edit.text.orElse (.str "") with
  | .str newText => return { range, newText }
  | v => throw (v.noText "new_text")

def editsOf (d : Document) (fixes : List Fix) : Except Failure (List TextEdit) :=
  fixes.mapM (editOf d)

def single (d : Document) (fix : Fix) : Except Failure Command := do
  return { title := fix.label, command := applySingle, uri := d.uri, version := fix.version,
           edits := [← editOf d fix] }

/-- A command for several fixes, none unless there are two. -/
def several (d : Document) (title command : String) (version : Int) (fixes : List Fix) :
    Except Failure (List Command) :=
  if fixes.length ≤ 1 then .ok []
  else do return [{ title, command, uri := d.uri, version, edits := ← editsOf d fixes }]

/-- The commands for the diagnostics with the given keys. -/
def offered (d : Document) (t : FixTable) (keys : List String) :
    Except Failure (List Command) := do
  let chosen := FixTable.inScope t keys
  let singles ← chosen.mapM (single d)
  match chosen.getLast? with
  | none => return singles
  | some last =>
    if last.rule.isNull then return singles
    else
      let same ← several d ("Fix all " ++ last.rule.text ++ " problems") applySame last.version
        (FixTable.sameRule t last.rule)
      let all ← several d "Fix all auto-fixable problems" applyAll last.version
        (FixTable.overlapFree t)
      return singles ++ same ++ all

/-- What is said when a document is needed and is not open. -/
def notOpen (use : String) : Failure :=
  .saying .missingField ("'NoneType' object has no attribute '" ++ use ++ "'")

/-- The commands for a document that may not be open; without fixes there are none. -/
def forDocument (d : Option Document) (t : Option FixTable) (keys : List String) :
    Except Failure (List Command) :=
  match t with
  | none | some [] => .ok []
  | some t =>
    match d with
    | some d => offered d t keys
    | none => .error (notOpen "uri")

end Command

namespace AllFixes

def ofTable (d : Option Document) (t : Option FixTable) : Except Failure (Option AllFixes) :=
  match t with
  | none | some [] => .ok none
  | some t =>
    match d with
    | some d => do
      let version ← FixTable.version t
      let edits ← Command.editsOf d (FixTable.overlapFree t)
      return some { version, edits }
    | none => .error (Command.notOpen "position_at")

end AllFixes

end LintServer
