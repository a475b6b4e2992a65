/-
  LintServer.Proofs.FailedPass — what a pass that fails leaves behind.

  A pass fails when its lint run does, and when its report holds a problem that makes no
  diagnostic. Either way it tells the editor nothing and leaves the fixes of other documents
  alone. After a failed run its own document has no fixes. But fixes are recorded problem by
  problem, so those of the problems in front of one that makes no diagnostic stay.
  - `validated_eq`: what a lint run leaves, by what its report is converted to.
  - `lookup_collect_eq_none_iff`: recording leaves nothing just if no problem it gets to has a fix.
  - `failed_pass_leaves`: what a failed pass leaves of everything.
  - `half_converted_keeps_fixes`: it can leave fixes.
-/

import LintServer.Proofs.LastPass

namespace LintServer

/-- The diagnostics of a report, none without one. -/
def Report.diagnostics (report : Option Report) : Except Failure (List Diagnostic) :=
  ((report.map Report.problems).getD []).mapM Diagnostic.ofProblem

/-- The problems of a report in front of the first that makes no diagnostic. -/
def Report.converted (report : Option Report) : List Problem :=
  ((report.map Report.problems).getD []).takeWhile fun p => (Diagnostic.ofProblem p).isOk

namespace FixRegistry

variable {d : Document}

theorem collect_result (d : Document) (ps : List Problem) (r : FixRegistry) :
    (collect d ps r).2 = ps.mapM Diagnostic.ofProblem := by
  induction ps generalizing r with
  | nil => rfl
  | cons p ps ih =>
    rw [List.mapM_cons, collect]
    cases hp : Diagnostic.ofProblem p with
    | error f => rfl
    | ok x =>
      simp only [ih]
      cases ps.mapM Diagnostic.ofProblem <;> rfl

theorem lookup_record_eq_none_iff (r : FixRegistry) (x : Diagnostic) (p : Problem) :
    (r.record d x p).lookup d.uri = none ↔
      r.lookup d.uri = none ∧ Fix.ofProblem? d p = none := by
  rw [lookup_record_self]
  cases Fix.ofProblem? d p with
  | none => simp
  | some fix => simp

/-- Recording leaves a document without fixes just if it had none and no problem that is
reached has one. -/
theorem lookup_collect_eq_none_iff (ps : List Problem) (r : FixRegistry) :
    (collect d ps r).1.lookup d.uri = none ↔ r.lookup d.uri = none ∧
      ∀ p ∈ ps.takeWhile (fun p => (Diagnostic.ofProblem p).isOk), Fix.ofProblem? d p = none := by
  induction ps generalizing r with
  | nil => simp [collect]
  | cons p ps ih =>
    rw [collect]
    cases hp : Diagnostic.ofProblem p with
    | error f => simp [hp, Except.isOk, Except.toBool]
    | ok x =>
      simp only [ih, lookup_record_eq_none_iff]
      simp [hp, Except.isOk, Except.toBool, and_assoc]

end FixRegistry

namespace Session

variable {s : Session} {d : Document} {outcome : Except Failure (Option Report)} {f : Failure}

/-- What a run leaves: the fixes rebuilt and, if its report can be converted, the diagnostics
told. Whether it fails is not up to the session it ends in. -/
theorem validated_eq (s : Session) (d : Document) (outcome : Except Failure (Option Report)) :
    s.validated d outcome =
      match outcome >>= Report.diagnostics with
      | .error f => ({ s with registry := s.registry.rebuilt d outcome }, .error f)
      | .ok found =>
        ({ s with registry := s.registry.rebuilt d outcome }.emit
          [.told (.diagnostics d.uri found)], .ok ()) := by
  cases outcome with
  | error f => rfl
  | ok report =>
    have hr : ((s.registry.clear d.uri).collectReport d report).2 = Report.diagnostics report :=
      FixRegistry.collect_result d _ _
    show _ = match Report.diagnostics report with
      | .error f => _
      | .ok found => _
    rw [← hr]
    rfl

theorem found_of_validated (h : (s.validated d outcome).2 = .error f) :
    (outcome >>= Report.diagnostics) = .error f := by
  rw [validated_eq] at h
  cases hf : outcome >>= Report.diagnostics with
  | error g =>
    rw [hf] at h
    injection h with h
    rw [h]
  | ok found =>
    rw [hf] at h
    cases h

/-- A pass that fails tells the editor nothing and leaves other documents their fixes. Its own
document is left without any just if the run failed, or no problem in front of the first that
makes no diagnostic has a fix. -/
theorem failed_pass_leaves (h : (s.validated d outcome).2 = .error f) :
    (s.validated d outcome).1.history = s.history ∧
      (∀ uri, uri ≠ d.uri →
        (s.validated d outcome).1.registry.lookup uri = s.registry.lookup uri) ∧
      ((s.validated d outcome).1.registry.lookup d.uri = none ↔
        ∀ report, outcome = .ok report →
          ∀ p ∈ Report.converted report, Fix.ofProblem? d p = none) := by
  have hv : (s.validated d outcome).1 = { s with registry := s.registry.rebuilt d outcome } := by
    rw [validated_eq, found_of_validated h]
  rw [hv]
  refine ⟨rfl, fun uri hne => Happening.lookup_rebuilt_of_ne hne s.registry outcome, ?_⟩
  cases outcome with
  | error g => simp [FixRegistry.rebuilt, FixRegistry.lookup_clear_self]
  | ok report =>
    have hc := FixRegistry.lookup_collect_eq_none_iff (d := d)
      ((report.map Report.problems).getD []) (s.registry.clear d.uri)
    simpa [FixRegistry.rebuilt, FixRegistry.collectReport, Report.converted,
      FixRegistry.lookup_clear_self] using hc

/-- A report with a fix for its first problem and an end that is none for its second. -/
def halfConverted : Report :=
  { results := [{ problems := [
      some { line := 1, column := 1, severity := 2, rule := .str "semi", message := .str "",
             edit := some ⟨0, 0, .str ";"⟩ },
      some { line := 1, column := 2, severity := 2, rule := .str "semi", message := .str "",
             endLine := .str "1" }] }] }

/-- A run that fails leaves a document that had a fix without one. -/
theorem failedRun_leaves_nothing :
    let s : Session := { registry := [("file:///a.js", verdictTable 1 "a")] }
    let failed := s.validated (draft 2 "b") (.error (.lint "boom"))
    failed.2 = .error (.lint "boom") ∧ failed.1.history = s.history ∧
      failed.1.registry.lookup "file:///a.js" = none := by
  intro s failed
  have h : failed.2 = .error (.lint "boom") := rfl
  obtain ⟨hh, -, hn⟩ := failed_pass_leaves h
  exact ⟨h, hh, hn.mpr fun report hr => by cases hr⟩

/-- Not every failed pass leaves its document without fixes. -/
theorem half_converted_keeps_fixes :
    ¬ ∀ (s : Session) (d : Document) (outcome : Except Failure (Option Report)) (f : Failure),
      (s.validated d outcome).2 = .error f →
        (s.validated d outcome).1.registry.lookup d.uri = none := by
  intro h
  have hn := h {} (draft 1 "a") (.ok (some halfConverted)) _ rfl
  cases hn

end Session

end LintServer
