/-
  LintServer.Fix.Registry — the fixes proposed for each document.

  A document's fixes are filed under the key of the diagnostic each belongs to. A problem
  without an edit or without a rule has no fix; a fix under a key already there takes its
  place. A document has an entry from its first fix until it is cleared.
-/

import LintServer.Report

namespace LintServer

/-- A fix for one diagnostic, against one version of its document. -/
structure Fix where
  label : String
  version : Int
  rule : Json
  edit : Edit
  deriving Repr, Inhabited

/-- The fixes of one document, by the key of their diagnostic. -/
abbrev FixTable := List (String × Fix)

abbrev FixRegistry := List (String × FixTable)

namespace Fix

def labelFor (rule : Json) : String := "Fix this " ++ rule.text ++ " problem"

/-- The fix that a problem of a document comes with. -/
def ofProblem? (d : Document) (p : Problem) : Option Fix :=
  match p.edit with
  | some edit =>
    if p.rule.isTruthy then
      some { label := labelFor p.rule, version := d.version, rule := p.rule, edit }
    else none
  | none => none

end Fix

namespace FixRegistry

def lookup (r : FixRegistry) (uri : String) : Option FixTable := Table.get? r uri

def clear (r : FixRegistry) (uri : String) : FixRegistry := Table.erase r uri

def record (r : FixRegistry) (d : Document) (diagnostic : Diagnostic) (p : Problem) :
    FixRegistry :=
  match Fix.ofProblem? d p with
  | none => r
  | some fix => Table.put d.uri (Table.put diagnostic.key fix ((r.lookup d.uri).getD [])) r

/-- The diagnostics of the problems in order, with their fixes recorded on the way. On a
problem that makes no diagnostic it stops, and the fixes recorded until then stay. -/
def collect (d : Document) :
    List Problem → FixRegistry → FixRegistry × Except Failure (List Diagnostic)
  | [], r => (r, .ok [])
  | p :: ps, r =>
    match Diagnostic.ofProblem p with
    | .error f => (r, .error f)
    | .ok diagnostic =>
      let (r, rest) := collect d ps (r.record d diagnostic p)
      (r, rest.map (diagnostic :: ·))

/-- The diagnostics of a report, none without one. -/
def collectReport (r : FixRegistry) (d : Document) (report : Option Report) :
    FixRegistry × Except Failure (List Diagnostic) :=
  collect d ((report.map Report.problems).getD []) r

end FixRegistry

end LintServer
