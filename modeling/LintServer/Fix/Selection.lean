/-
  LintServer.Fix.Selection — sets of fixes that can be applied together.

  Fixes are ordered by where they start, those that end at offset 0 first, then by where they
  end; fixes that agree in all of that keep the order they were recorded in. Going through
  them in this order, a fix is taken unless the last one taken ends after its start.
-/

import LintServer.Fix.Registry

namespace LintServer.FixTable

/-- Whether the first fix may stand before the second. -/
def before (a b : Fix) : Bool :=
  if a.edit.start != b.edit.start then a.edit.start < b.edit.start
  else if (a.edit.stop == 0) != (b.edit.stop == 0) then a.edit.stop == 0
  else a.edit.stop ≤ b.edit.stop

def ordered (fixes : List Fix) : List Fix := fixes.mergeSort before

def sorted (t : FixTable) : List Fix := ordered (Table.values t)

/-- Whether a fix overlaps the one taken last. -/
def overlaps : Option Fix → Fix → Bool
  | none, _ => false
  | some last, fix => fix.edit.start < last.edit.stop

def select : Option Fix → List Fix → List Fix
  | _, [] => []
  | last, fix :: rest =>
    if overlaps last fix then select last rest else fix :: select (some fix) rest

/-- All fixes that can be applied together. -/
def overlapFree (t : FixTable) : List Fix := select none (sorted t)

/-- The fixes of one rule that can be applied together. -/
def sameRule (t : FixTable) (rule : Json) : List Fix :=
  select none ((sorted t).filter (·.rule.agrees rule))

/-- The fixes of the given diagnostics, in their order. -/
def inScope (t : FixTable) (keys : List String) : List Fix := keys.filterMap (Table.get? t)

/-- The version the fixes were made for: that of the first one. -/
def version (t : FixTable) : Except Failure Int :=
  match t with
  | [] => .error { kind := .exhausted }
  | (_, fix) :: _ => .ok fix.version

end LintServer.FixTable
