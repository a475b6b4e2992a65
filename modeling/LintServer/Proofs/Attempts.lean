/-
  LintServer.Proofs.Attempts — how the passes of a batch end, and what they leave in it.

  A pass of a batch is one attempt: there is no linter for its document, or an engine is called
  and the run comes out in one way or another. Until it ends it waits or lints, and says nothing.
  When it ends it leaves a mark in its batch, which depends on whether the failure is recognised
  and whether the user can be told of it, but not on what the user was told of before.
  - `Session.attempt`, `perform_attempt`: the attempt that a task brings to its end, and what the
    task does otherwise.
  - `endedAs_member`, `markOf_spec`: what the end of an attempt leaves.
  - `tally_spec`, `conclude_spec`: what is made of it.
-/

import LintServer.Proofs.Moments

namespace LintServer

namespace Session

/-- How a pass came to its end: its document had no linter, or will never have one, or an engine
was to lint it. -/
inductive Attempt where
  | unserved
  | cancelled
  | ran (engine : String) (outcome : Except Failure (Option Report))

/-- The failed run of an attempt over a document: the run failed, or its report cannot be
converted. -/
def Attempt.failed? (d : Document) : Attempt → Option Failed
  | .ran engine outcome =>
    match outcome >>= Report.diagnostics with
    | .error failure => some { document := d, engine, failure }
    | .ok _ => none
  | _ => none

/-- The end of a pass. -/
def endedAs (p : Pass) (s : Session) : Attempt → Session
  | .unserved => s.skipPass p
  | .cancelled => s.abandonPass p
  | .ran engine outcome => s.endPass p engine outcome

def lintAttempt (env : Surroundings) (p : Pass) (engine : String) (s : Session) : Option Attempt :=
  match p.document.path with
  | .error f => some (.ran engine (.error f))
  | .ok path =>
    let run := env.run engine p.document.text path s.settings.options
    if run.held.isSome then none else some (.ran engine run.outcome)

def awaitAttempt (env : Surroundings) (n : Nat) (p : Pass) (s : Session) : Option Attempt :=
  match s.library.futureAt? n with
  | some .unset => none
  | some (.set (some engine)) => s.lintAttempt env p engine.path
  | some .cancelled => some .cancelled
  | some (.set none) | none => some .unserved

def passAttempt (env : Surroundings) (p : Pass) (s : Session) : Option Attempt :=
  match s.library.number? p.document.uri with
  | none => some .unserved
  | some n => s.awaitAttempt env n p

/-- The attempt that a task brings to its end, of a pass that a batch asked for or that has
begun. -/
def attempt (env : Surroundings) (s : Session) : Task → Option (Pass × Attempt)
  | .pass p => (s.passAttempt env p).map (p, ·)
  | .wake n (.pass p) => (s.awaitAttempt env n p).map (p, ·)
  | .ended ⟨_, .pass p engine, outcome⟩ => some (p, .ran engine outcome)
  | _ => none

/-! ## Until the end -/

/-- The pass that a piece of work is for. -/
def Work.pass? : Work → Option Pass
  | .asked p | .waiting p | .linting p => some p
  | _ => none

/-- A pass goes on to wait or to lint, without a word. -/
structure Pauses (p : Pass) (s t : Session) : Prop where
  work : ∃ k : Work, k.pass? = some p ∧ (k = .linting p → p.document.path.isOk = true) ∧
    t.work = s.work + {k}
  batches : t.batches = s.batches
  reported : t.reported = s.reported
  told : ∃ es, t.history = s.history ++ es ∧ Effect.messages es = []

/-- A pass has come to its end as an attempt, or it goes on. -/
def Goes (p : Pass) (a : Option Attempt) (s t : Session) : Prop :=
  match a with
  | some a => ∃ es, Effect.messages es = [] ∧ t = (s.emit es).endedAs p a
  | none => Pauses p s t

theorem goes_at_once (p : Pass) (a : Attempt) (s : Session) :
    Goes p (some a) s (s.endedAs p a) :=
  ⟨[], rfl, by rw [emit, List.append_nil]⟩

section

variable {env : Surroundings} (mute : env.Mute)
include mute

theorem lint_goes (p : Pass) (engine : String) (s : Session) :
    Goes p (s.lintAttempt env p engine) s (s.lint env p engine) := by
  cases hp : p.document.path with
  | error f =>
    simp only [lint, lintAttempt, hp]
    exact goes_at_once p _ s
  | ok path =>
    have quiet : Effect.messages (.linted engine p.document.text path s.settings.options ::
        (env.run engine p.document.text path s.settings.options).effects) = [] :=
      mute engine p.document.text path s.settings.options
    cases held : (env.run engine p.document.text path s.settings.options).held with
    | none =>
      simp only [lint, lintAttempt, hp, invoke, held]
      exact ⟨_, quiet, rfl⟩
    | some name =>
      simp only [lint, lintAttempt, hp, invoke, held]
      exact ⟨⟨.linting p, rfl, fun _ => by rw [hp]; rfl, work_keep _ _ _ _⟩, rfl, rfl, _, rfl,
        quiet⟩

theorem await_goes (n : Nat) (p : Pass) (s : Session) :
    Goes p (s.awaitAttempt env n p) s (s.await env n (.pass p)) := by
  cases hs : s.library.futureAt? n with
  | none =>
    simp only [await, awaitAttempt, hs]
    exact goes_at_once p .unserved s
  | some future =>
    cases future with
    | unset =>
      simp only [await, awaitAttempt, hs]
      exact ⟨⟨.waiting p, rfl, fun h => (by cases h), work_wait n (.pass p) s⟩, rfl, rfl, [],
        (List.append_nil _).symm, rfl⟩
    | set engine =>
      cases engine with
      | none =>
        simp only [await, awaitAttempt, hs]
        exact goes_at_once p .unserved s
      | some engine =>
        simp only [await, awaitAttempt, hs]
        exact lint_goes mute p engine.path s
    | cancelled =>
      simp only [await, awaitAttempt, hs]
      exact goes_at_once p .cancelled s

theorem awaitFor_goes (p : Pass) (s : Session) :
    Goes p (s.passAttempt env p) s (s.awaitFor env p.document.uri (.pass p)) := by
  cases hn : s.library.number? p.document.uri with
  | none =>
    simp only [awaitFor, passAttempt, hn]
    exact goes_at_once p .unserved s
  | some n =>
    simp only [awaitFor, passAttempt, hn]
    exact await_goes mute n p s

/-- A task for a pass brings it to its end or leaves it to go on. -/
theorem perform_attempt {task : Task} {k : Work} {p : Pass} (hk : task.work = some k)
    (hp : k.pass? = some p) (s : Session) :
    ∃ a, s.attempt env task = a.map (p, ·) ∧ Goes p a s (s.perform env task) := by
  cases task with
  | pass q =>
    cases hk
    cases hp
    exact ⟨_, rfl, awaitFor_goes mute p s⟩
  | relay n w =>
    cases w with
    | lookUp call =>
      cases hk
      cases hp
    | pass q =>
      cases hk
      cases hp
      refine ⟨none, rfl, ⟨.waiting p, rfl, fun h => (by cases h), work_enqueue _ s⟩, rfl, rfl, [],
        ?_, rfl⟩
      exact (List.append_nil _).symm
  | wake n w =>
    cases w with
    | lookUp call =>
      cases hk
      cases hp
    | pass q =>
      cases hk
      cases hp
      exact ⟨_, rfl, await_goes mute n p s⟩
  | ended r =>
    obtain ⟨name, purpose, outcome⟩ := r
    cases purpose with
    | pass q engine =>
      cases hk
      cases hp
      exact ⟨some (.ran engine outcome), rfl, goes_at_once p _ s⟩
    | probe call file =>
      cases hk
      cases hp
    | reconsider call file rest =>
      cases hk
      cases hp
  | start call goal =>
    cases hk
    cases hp
  | tally call =>
    cases hk
    cases hp
  | conclude call =>
    cases hk
    cases hp
  | _ => cases hk

end

/-- If the document has no path, an attempt over it can fail for that only. -/
def Attempt.Fits (d : Document) (a : Attempt) : Prop :=
  ∀ x, a.failed? d = some x → x.document.path.isOk = false → x.document.path = .error x.failure

theorem Attempt.fits_of_path {d : Document} (h : d.path.isOk = true) (a : Attempt) : a.Fits d := by
  intro x hx hp
  have hd : x.document = d := by
    cases a with
    | ran engine outcome =>
      simp only [failed?] at hx
      split at hx
      · cases hx
        rfl
      · cases hx
    | _ => cases hx
  rw [hd, h] at hp
  cases hp

theorem lintAttempt_fits {env : Surroundings} {p : Pass} {engine : String} {s : Session}
    {a : Attempt} (h : s.lintAttempt env p engine = some a) : a.Fits p.document := by
  cases hp : p.document.path with
  | error f =>
    simp only [lintAttempt, hp] at h
    cases h
    intro x hx _
    cases hx
    exact hp
  | ok path =>
    refine Attempt.fits_of_path ?_ a
    rw [hp]
    rfl

theorem awaitAttempt_fits {env : Surroundings} {n : Nat} {p : Pass} {s : Session} {a : Attempt}
    (h : s.awaitAttempt env n p = some a) : a.Fits p.document := by
  unfold awaitAttempt at h
  split at h
  · cases h
  · exact lintAttempt_fits h
  all_goals
    cases h
    intro x hx
    cases hx

/-- What lints has a path, so an attempt of any pass fits its document. -/
theorem attempt_fits {env : Surroundings} {s : Session} {task : Task} {p : Pass} {a : Attempt}
    (h : s.attempt env task = some (p, a))
    (hl : ∀ q, task.work = some (.linting q) → q.document.path.isOk = true) :
    a.Fits p.document := by
  cases task with
  | pass q =>
    obtain ⟨b, hb, he⟩ := Option.map_eq_some_iff.mp h
    cases he
    unfold passAttempt at hb
    split at hb
    · cases hb
      intro x hx
      cases hx
    · exact awaitAttempt_fits hb
  | wake n w =>
    cases w with
    | lookUp call => cases h
    | pass q =>
      obtain ⟨b, hb, he⟩ := Option.map_eq_some_iff.mp h
      cases he
      exact awaitAttempt_fits hb
  | ended r =>
    obtain ⟨name, purpose, outcome⟩ := r
    cases purpose with
    | pass q engine =>
      cases h
      exact Attempt.fits_of_path (hl _ rfl) _
    | _ => cases h
  | _ => cases h

/-! ## Marks -/

/-- What a failed run leaves in its batch. -/
def markOf (ds : Documents) (r : Reported) (x : Failed) : Mark :=
  match (Classifier.classify ds r x Classifier.batch).status with
  | .error f => .escaped f
  | .ok (some status) => .failed status none
  | .ok none =>
    match Classifier.userMessage x with
    | .error f => .escaped f
    | .ok text => .failed .error (some text)

def Attempt.mark (ds : Documents) (r : Reported) (d : Document) (a : Attempt) : Mark :=
  match a with
  | .cancelled => .escaped Session.cancelled
  | _ => ((a.failed? d).map (markOf ds r)).getD .clean

/-- A failed run that the user cannot be told of escapes; one that a classifier knows is a
warning; and any other is an error with a message. -/
theorem markOf_spec (ds : Documents) (r : Reported) (x : Failed) :
    (Classifier.tellable r x = false → ∃ f, markOf ds r x = .escaped f ∧ f.isCancelled = false) ∧
      (Classifier.tellable r x = true → Classifier.recognised x.failure = true →
        markOf ds r x = .failed .warn none) ∧
      (Classifier.tellable r x = true → Classifier.recognised x.failure = false →
        ∃ text, Classifier.userMessage x = .ok text ∧
          markOf ds r x = .failed .error (some text)) := by
  unfold markOf
  cases hr : Classifier.recognised x.failure with
  | true =>
    have known := Classifier.classify_batch_known ds r hr
    refine ⟨fun ht => ?_, fun ht _ => ?_, fun _ h => by cases h⟩
    · obtain ⟨f, hf⟩ := known.2 ht
      rw [hf]
      exact ⟨f, rfl, ((Classifier.classify_plain ds r x _).stuck f hf).2⟩
    · rw [known.1 ht]
  | false =>
    rw [Classifier.classify_batch_unknown hr, Classifier.tellable_of_unknown hr]
    simp only [Classifier.unrecognised, Classifier.userMessage]
    cases hp : x.document.path with
    | error f =>
      obtain ⟨why, hf, -⟩ := Uri.toPath_refused hp
      exact ⟨fun _ => ⟨f, rfl, (by rw [hf]; rfl)⟩, fun h => (by cases h), fun h => (by cases h)⟩
    | ok path => exact ⟨fun h => (by cases h), fun _ h => (by cases h), fun _ _ => ⟨_, rfl, rfl⟩⟩

/-- Nothing that a batch counts is changed, and neither a status nor an error was told. -/
structure Aside (s t : Session) : Prop where
  work : t.work = s.work
  batches : t.batches = s.batches
  reported : s.reported.Alike t.reported
  told : ∃ es, t.history = s.history ++ es ∧
    ∀ m ∈ Effect.messages es, m.isStatus = false ∧ m.isError = false

theorem Aside.of_registry (r : FixRegistry) (s : Session) : Aside s { s with registry := r } :=
  ⟨rfl, rfl, .refl _, [], (List.append_nil _).symm, fun m hm => by cases hm⟩

theorem Aside.refl (s : Session) : Aside s s := .of_registry s.registry s

theorem Aside.trans {s t u : Session} (h : Aside s t) (h' : Aside t u) : Aside s u := by
  obtain ⟨es, he, hes⟩ := h.told
  obtain ⟨fs, hf, hfs⟩ := h'.told
  refine ⟨h'.work.trans h.work, h'.batches.trans h.batches, h.reported.trans h'.reported, es ++ fs,
    by rw [hf, he, List.append_assoc], fun m hm => ?_⟩
  rw [Effect.messages_append] at hm
  rcases List.mem_append.mp hm with hm | hm
  · exact hes m hm
  · exact hfs m hm

theorem emit_aside (s : Session) {es : List Effect}
    (h : ∀ m ∈ Effect.messages es, m.isStatus = false ∧ m.isError = false) : Aside s (s.emit es) :=
  ⟨rfl, rfl, .refl _, es, rfl, h⟩

theorem judged_aside (x : Failed) (s : Session) : Aside s (s.judged Classifier.batch x).1 := by
  have plain := Classifier.classify_plain s.documents s.reported x Classifier.batch
  refine ⟨rfl, rfl, plain.alike, _, rfl, fun m hm => ⟨(plain.quiet m hm).1, ?_⟩⟩
  exact Classifier.classify_no_error (by decide) m hm

theorem endMember_eq (call place : Nat) (x : Failed) (s : Session) :
    s.endMember call place (.error x) =
      (s.judged Classifier.batch x).1.memberEnded call place (markOf s.documents s.reported x) := by
  simp only [endMember, markOf, judged]
  generalize Classifier.classify s.documents s.reported x Classifier.batch = v
  obtain ⟨r, es, status⟩ := v
  cases status with
  | error f => rfl
  | ok status =>
    cases status with
    | some status => rfl
    | none => cases Classifier.userMessage x <;> rfl

/-- The end of an attempt for a batch leaves a mark in it, and says neither a status nor an
error. -/
theorem endedAs_member (d : Document) (call place : Nat) (a : Attempt) (s : Session) :
    ∃ t, Aside s t ∧ s.endedAs ⟨d, .member call place⟩ a =
      t.memberEnded call place (a.mark s.documents s.reported d) := by
  cases a with
  | unserved => exact ⟨s, .refl s, rfl⟩
  | cancelled => exact ⟨s, .refl s, rfl⟩
  | ran engine outcome =>
    have rebuilt := Aside.of_registry (s.registry.rebuilt d outcome) s
    simp only [endedAs, endPass, validated_eq, Attempt.mark, Attempt.failed?]
    cases outcome >>= Report.diagnostics with
    | error f =>
      refine ⟨_, rebuilt.trans (judged_aside ⟨d, engine, f⟩ _), ?_⟩
      exact endMember_eq call place ⟨d, engine, f⟩ _
    | ok found =>
      refine ⟨_, rebuilt.trans (emit_aside _ fun m hm => ?_), rfl⟩
      rw [List.mem_singleton.mp hm]
      exact ⟨rfl, rfl⟩

/-! ## Counting -/

variable {call : Nat} {b : Batch} {s : Session}

theorem lookup_withBatch (h : s.batches.lookup call = some b) (change : Batch → Batch) :
    (s.withBatch call change).batches.lookup call = some (change b) := by
  have changed : ∀ bs : List (Nat × Batch), bs.lookup call = some b →
      (bs.map fun e => if e.1 = call then (call, change e.2) else e).lookup call =
        some (change b) := by
    intro bs hb
    induction bs with
    | nil => cases hb
    | cons e rest ih =>
      obtain ⟨key, first⟩ := e
      by_cases hk : key = call
      · subst hk
        simp only [List.lookup_cons, beq_self_eq_true, Option.some.injEq] at hb
        simp [hb]
      · have hne : (call == key) = false := by simpa using Ne.symm hk
        simp only [List.lookup_cons, hne] at hb
        simp only [List.map_cons, hk, if_false, List.lookup_cons, hne]
        exact ih hb
  exact changed s.batches h

theorem work_withBatch (call : Nat) (change : Batch → Batch) (s : Session) :
    (s.withBatch call change).work = s.work := rfl

/-- A pass that has ended is to be counted, and its mark is in the batch. -/
theorem memberEnded_spec (h : s.batches.lookup call = some b) (place : Nat) (m : Mark) :
    (s.memberEnded call place m).work = s.work + {.tally call} ∧
      (s.memberEnded call place m).batches.lookup call = some (b.marked place m) ∧
      (s.memberEnded call place m).reported = s.reported ∧
      (s.memberEnded call place m).history = s.history :=
  ⟨work_enqueue _ _, lookup_withBatch h (·.marked place m), rfl, rfl⟩

/-- Counting the last pass that ended brings the batch to its conclusion. -/
theorem tally_spec (h : s.batches.lookup call = some b) :
    (s.tally call).work = s.work + (if b.left - 1 = 0 then {.conclude call} else 0) ∧
      (s.tally call).batches.lookup call = some { b with left := b.left - 1 } ∧
      (s.tally call).reported = s.reported ∧ (s.tally call).history = s.history := by
  have counted := lookup_withBatch h fun b => { b with left := b.left - 1 }
  refine ⟨?_, counted, rfl, rfl⟩
  simp only [tally, work_enqueue, work_withBatch, counted, Option.any_some, beq_iff_eq]
  split <;> rfl

/-- What is told at the end of a batch. -/
def Batch.conclusion (b : Batch) : List Message :=
  match b.escaped.findSome? id with
  | some f =>
    if f.isCancelled then []
    else b.messages.map .showError ++ [.logWarning (allFailed ++ "."), .status .error]
  | none => b.messages.map .showError ++ [.status (Status.worst .ok b.statuses)]

theorem work_done (call : Nat) (r : Except Failure Answer) (s : Session) :
    (s.done call r).work = s.work := by
  have none : (reports r).filterMap Task.work = [] :=
    List.filterMap_eq_nil_iff.mpr (reports_no_work r)
  rw [done, work_enqueue, none]
  exact add_zero _

theorem concluded_spec (call : Nat) (b : Batch) (s : Session) :
    (s.concluded call b).work = s.work ∧ (s.concluded call b).batches = s.batches ∧
      (s.concluded call b).reported = s.reported ∧
      ∃ es, (s.concluded call b).history = s.history ++ es ∧
        Effect.messages es = b.conclusion := by
  cases he : b.escaped.findSome? id with
  | some f =>
    cases hc : f.isCancelled with
    | true =>
      simp only [concluded, Batch.conclusion, he, hc, if_true]
      exact ⟨work_done _ _ _, rfl, rfl, [], (List.append_nil _).symm, rfl⟩
    | false =>
      simp only [concluded, Batch.conclusion, he, hc, Bool.false_eq_true, if_false]
      refine ⟨work_done _ _ _, rfl, rfl, _, List.append_assoc _ _ _, ?_⟩
      simp [Effect.error, messages_shown]
  | none =>
    simp only [concluded, Batch.conclusion, he]
    refine ⟨work_done _ _ _, rfl, rfl, _, List.append_assoc _ _ _, ?_⟩
    simp [messages_shown]

theorem conclude_spec (h : s.batches.lookup call = some b) :
    (s.conclude call).work = s.work ∧ (s.conclude call).batches.lookup call = none ∧
      (s.conclude call).reported = s.reported ∧
      ∃ es, (s.conclude call).history = s.history ++ es ∧ Effect.messages es = b.conclusion := by
  obtain ⟨hw, hb, hr, ht⟩ :=
    concluded_spec call b { s with batches := s.batches.filter (·.1 != call) }
  have gone : (s.batches.filter (·.1 != call)).lookup call = none := by
    rw [List.lookup_eq_none_iff]
    intro e he
    have hne : e.1 ≠ call := by simpa using (List.mem_filter.mp he).2
    simpa using Ne.symm hne
  simp only [conclude, h]
  exact ⟨hw, by rw [hb, gone], hr, ht⟩

end Session

end LintServer
