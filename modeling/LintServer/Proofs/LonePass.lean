/-
  LintServer.Proofs.LonePass — how a pass of its own comes to its end.

  A pass over one document whose linter is known lints it, at once or until its run is released,
  and then concludes: its call returns a status, which is told last and once, after the
  diagnostics or after at most one message for the user. The end of the run finds a session in
  which anything may have happened since the pass began, so it is stated of any session.
  - `Concluded`: what it is to conclude.
  - `concluded_of_error`, `escapes_of_error`: a pass concludes if its failure can be told of, and
    else the failure to tell escapes from its call and there is no status.
  - `lone_pass_concludes_iff`: the whole of a pass, from its call on.
  - `unaddressed_file_escapes`: a message that calls a file broken whose path has no address.
-/

import LintServer.Proofs.FailedPass
import LintServer.Proofs.Verdicts

namespace LintServer

/-- Lint runs tell the editor nothing by themselves. -/
def Surroundings.Mute (env : Surroundings) : Prop :=
  ∀ engine text file options, Effect.messages (env.run engine text file options).effects = []

/-- The linter's program is no exception. -/
theorem Surroundings.ofWorld_mute (w : World) (slow : List String) : (ofWorld w slow).Mute := by
  intro engine text file options
  show Effect.messages (Engine.run w engine text (some file) (.obj options)).effects = []
  simp only [Engine.run]
  repeat' split
  all_goals rfl

theorem slowEngine_mute : slowEngine.Mute := fun _ _ _ _ => rfl

namespace Session

/-- The lint run of a pass over a document; one without a path fails before an engine is
called. -/
def passRun (env : Surroundings) (engine : String) (d : Document) (s : Session) : Engine.Run :=
  match d.path with
  | .error f => { effects := [], outcome := .error f }
  | .ok path => env.run engine d.text path s.settings.options

/-- A pass over a document has come to a good end between two sessions, with a status and what
was told before it. -/
structure Concluded (call : Nat) (d : Document) (outcome : Except Failure (Option Report))
    (s t : Session) (status : Status) (told : List Message) : Prop where
  returned : t.finished = s.finished ++ [(call, .ok (.status (some status)))]
  said : ∃ es, t.history = s.history ++ es ∧ Effect.messages es = told ++ [.status status]
  once : ∀ m ∈ told, m.isStatus = false
  notices : told.countP Message.isNotice ≤ 1
  published : ∀ uri found, .diagnostics uri found ∈ told ↔
    uri = d.uri ∧ (outcome >>= Report.diagnostics) = .ok found
  ok : status = .ok ↔ ∃ found, (outcome >>= Report.diagnostics) = .ok found

/-- Whether the user can be told of the failure of a pass, if it fails. -/
def Speakable (s : Session) (d : Document) (engine : String)
    (outcome : Except Failure (Option Report)) : Prop :=
  ∀ f, (outcome >>= Report.diagnostics) = .error f →
    Classifier.tellable s.reported ⟨d, engine, f⟩ = true

variable {s : Session} {d : Document} {engine : String}
  {outcome : Except Failure (Option Report)} {call : Nat} {f : Failure}

/-! ## The end of a run -/

theorem endPass_of_found {found : List Diagnostic}
    (h : (outcome >>= Report.diagnostics) = .ok found) :
    s.endPass ⟨d, .alone call⟩ engine outcome =
      (({ s with registry := s.registry.rebuilt d outcome }.emit
        [.told (.diagnostics d.uri found)]).publish .ok).done call (.ok (.status (some .ok))) := by
  simp only [endPass, validated_eq, h]
  rfl

theorem endPass_of_error (h : (outcome >>= Report.diagnostics) = .error f) :
    s.endPass ⟨d, .alone call⟩ engine outcome =
      { s with registry := s.registry.rebuilt d outcome }.endAlone call
        (.error ⟨d, engine, f⟩) := by
  simp only [endPass, validated_eq, h]
  rfl

/-- A report that can be converted is published, and all is well. -/
theorem concluded_of_found {found : List Diagnostic}
    (h : (outcome >>= Report.diagnostics) = .ok found) :
    Concluded call d outcome s (s.endPass ⟨d, .alone call⟩ engine outcome) .ok
      [.diagnostics d.uri found] := by
  rw [endPass_of_found h]
  refine ⟨rfl, ⟨[.told (.diagnostics d.uri found), .told (.status .ok)], ?_, rfl⟩, ?_, ?_, ?_, ?_⟩
  · simp [done, publish, emit, enqueue]
  · simp [Message.isStatus]
  · simp [Message.isNotice]
  · intro uri found'
    rw [h]
    simp only [List.mem_singleton, Message.diagnostics.injEq, Except.ok.injEq]
    exact and_congr_right fun _ => eq_comm
  · exact ⟨fun _ => ⟨found, h⟩, fun _ => rfl⟩

/-- A failure that can be told of has a status, told after it. -/
theorem concluded_of_error (h : (outcome >>= Report.diagnostics) = .error f)
    (ht : Classifier.tellable s.reported ⟨d, engine, f⟩ = true) :
    ∃ status told, Concluded call d outcome s (s.endPass ⟨d, .alone call⟩ engine outcome)
      status told := by
  obtain ⟨status, hs⟩ := (Classifier.classify_single s.documents s.reported ⟨d, engine, f⟩).1 ht
  have plain := Classifier.classify_plain s.documents s.reported ⟨d, engine, f⟩ Classifier.single
  generalize hv : Classifier.classify s.documents s.reported ⟨d, engine, f⟩ Classifier.single = v
    at hs plain
  have he : s.endPass ⟨d, .alone call⟩ engine outcome =
      (({ s with registry := s.registry.rebuilt d outcome, reported := v.reported }.emit
        v.effects).publish status).done call (.ok (.status (some status))) := by
    rw [endPass_of_error h]
    simp only [endAlone, judged, hv, hs]
    rfl
  rw [he]
  refine ⟨status, Effect.messages v.effects, rfl, ⟨v.effects ++ [.told (.status status)], ?_, ?_⟩,
    fun m hm => (plain.quiet m hm).1, plain.notices, ?_, ?_⟩
  · simp [done, publish, emit, enqueue]
  · rw [Effect.messages_append]
    rfl
  · intro uri found
    rw [h]
    refine ⟨fun hm => ?_, fun hf => by cases hf.2⟩
    cases (plain.quiet _ hm).2
  · rw [h]
    refine ⟨?_, ?_⟩
    · rintro rfl
      exact absurd hs plain.worse
    · rintro ⟨found, hf⟩
      cases hf

/-- A failure that cannot be told of escapes, and there is no status. -/
theorem escapes_of_error (call : Nat) (h : (outcome >>= Report.diagnostics) = .error f)
    (ht : Classifier.tellable s.reported ⟨d, engine, f⟩ = false) :
    ∃ g es, (s.endPass ⟨d, .alone call⟩ engine outcome).finished =
        s.finished ++ [(call, .error g)] ∧
      (s.endPass ⟨d, .alone call⟩ engine outcome).history = s.history ++ es ∧
      ∀ m ∈ Effect.messages es, m.isStatus = false := by
  obtain ⟨g, hs⟩ := (Classifier.classify_single s.documents s.reported ⟨d, engine, f⟩).2 ht
  have plain := Classifier.classify_plain s.documents s.reported ⟨d, engine, f⟩ Classifier.single
  generalize hv : Classifier.classify s.documents s.reported ⟨d, engine, f⟩ Classifier.single = v
    at hs plain
  have he : s.endPass ⟨d, .alone call⟩ engine outcome =
      ({ s with registry := s.registry.rebuilt d outcome, reported := v.reported }.emit
        v.effects).done call (.error g) := by
    rw [endPass_of_error h]
    simp only [endAlone, judged, hv, hs]
  rw [he]
  exact ⟨g, v.effects, rfl, rfl, fun m hm => (plain.quiet m hm).1⟩

/-- The end of a run concludes its pass just if the user can be told of its failure. -/
theorem endPass_concludes_iff :
    (∃ status told, Concluded call d outcome s (s.endPass ⟨d, .alone call⟩ engine outcome)
      status told) ↔ s.Speakable d engine outcome := by
  refine ⟨?_, ?_⟩
  · rintro ⟨status, told, hc⟩ f hf
    cases ht : Classifier.tellable s.reported ⟨d, engine, f⟩ with
    | true => rfl
    | false =>
      obtain ⟨g, es, hg, -, -⟩ := escapes_of_error call hf ht
      rw [hc.returned] at hg
      simp at hg
  · intro hs
    cases hf : outcome >>= Report.diagnostics with
    | ok found => exact ⟨_, _, concluded_of_found hf⟩
    | error f => exact concluded_of_error hf (hs f hf)

/-! ## The whole of a pass -/

/-- The call of a pass over a document whose linter is known tells the editor nothing until its
lint run ends, which it does at once unless it is held. Whatever the session is by then, the end
of the run concludes the pass, just if the user can be told of its failure. -/
theorem lone_pass_concludes_iff {env : Surroundings} (mute : env.Mute) {linter : Engine}
    (hl : s.library.future? d.uri = some (.set (some linter))) (call : Nat) :
    let run := s.passRun env linter.path d
    (∃ es, Effect.messages es = [] ∧ s.start env call (.validate d) =
      match run.held with
      | some name => (s.emit es).keep name (.pass ⟨d, .alone call⟩ linter.path) run
      | none => (s.emit es).endPass ⟨d, .alone call⟩ linter.path run.outcome) ∧
    ∀ u : Session,
      (∃ status told, Concluded call d run.outcome u
        (u.endPass ⟨d, .alone call⟩ linter.path run.outcome) status told) ↔
      u.Speakable d linter.path run.outcome := by
  refine ⟨?_, fun u => endPass_concludes_iff⟩
  obtain ⟨n, hn, hs⟩ := Option.bind_eq_some_iff.mp hl
  have hstart : s.start env call (.validate d) = s.lint env ⟨d, .alone call⟩ linter.path := by
    simp only [start, awaitFor, hn, await, hs, proceed]
  rw [hstart]
  cases hp : d.path with
  | error f =>
    refine ⟨[], rfl, ?_⟩
    simp only [lint, passRun, hp, emit, List.append_nil]
  | ok path =>
    refine ⟨.linted linter.path d.text path s.settings.options ::
      (env.run linter.path d.text path s.settings.options).effects, ?_, ?_⟩
    · exact mute linter.path d.text path s.settings.options
    · cases held : (env.run linter.path d.text path s.settings.options).held <;>
        simp only [lint, passRun, hp, invoke, held]

/-- A session in which the linter of a document is known. -/
def readyToLint : Session :=
  { library :=
      { entries := [("file:///a.js", 0)]
        made :=
          [{ document := draft 1 "a", state := .resolved, future := .set (some ⟨1, "eslint"⟩) }] } }

theorem readyToLint_concludes :
    readyToLint.library.future? (draft 1 "a").uri = some (.set (some ⟨1, "eslint"⟩)) ∧
      (∃ es, Effect.messages es = [] ∧ readyToLint.start slowEngine 0 (.validate (draft 1 "a")) =
        (readyToLint.emit es).keep "a" (.pass ⟨draft 1 "a", .alone 0⟩ "eslint")
          (slowEngine.run "eslint" "a" "/a.js" [])) ∧
      ∃ status told, Concluded 0 (draft 1 "a") (.ok (some (verdictOn "a"))) readyToLint
        (readyToLint.endPass ⟨draft 1 "a", .alone 0⟩ "eslint" (.ok (some (verdictOn "a"))))
        status told := by
  have hl : readyToLint.library.future? (draft 1 "a").uri = some (.set (some ⟨1, "eslint"⟩)) := rfl
  obtain ⟨hs, hc⟩ := lone_pass_concludes_iff slowEngine_mute hl 0
  refine ⟨hl, hs, (hc readyToLint).mpr ?_⟩
  intro f hf
  cases hf

/-- A failure that calls a file broken whose path has no address. -/
def unaddressedFile : Failure := .lint "Cannot read config file: //x\nError: y"

/-- Not every failure of an engine leads to a status: one that cannot be told of escapes from
the call of its pass. -/
theorem unaddressed_file_escapes :
    readyToLint.library.future? (draft 1 "a").uri = some (.set (some ⟨1, "eslint"⟩)) ∧
      ¬ ∃ status told, Concluded 0 (draft 1 "a") (.error unaddressedFile) readyToLint
        (readyToLint.endPass ⟨draft 1 "a", .alone 0⟩ "eslint" (.error unaddressedFile))
        status told := by
  refine ⟨rfl, fun h => ?_⟩
  have ht := endPass_concludes_iff.mp h unaddressedFile rfl
  have hf : Classifier.tellable readyToLint.reported
      ⟨draft 1 "a", "eslint", unaddressedFile⟩ = false := by decide +kernel
  rw [hf] at ht
  cases ht

end Session

end LintServer
