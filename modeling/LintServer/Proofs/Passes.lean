/-
  LintServer.Proofs.Passes — what a task does to the documents, the fixes and the work under way.

  A pass keeps the document as it was when the pass was asked for: its snapshot. Between that
  moment and the end of its lint run a pass waits for an entry, for its run, or for its turn.
  Each task either ends one pass, and then the fixes of that pass's document are rebuilt, or
  leaves all fixes alone; no task touches the documents.
  - `Session.ending`: the pass that a task ends, and how its run came out.
  - `perform_leads`: all else a task does. Fixes change by `ending` alone, and a snapshot that
    was not under way before is the task's own or that of a document now open.
  - `ending_spec`: a pass that ends was the task's, and its report is what an engine said of the
    text of its snapshot.
-/

import LintServer.Session.Step

namespace LintServer

/-- What a lint run of a document leaves of the fixes. -/
def FixRegistry.rebuilt (r : FixRegistry) (d : Document) :
    Except Failure (Option Report) → FixRegistry
  | .error _ => r.clear d.uri
  | .ok report => ((r.clear d.uri).collectReport d report).1

namespace Session

/-! ## The work under way -/

/-- The documents that a goal is about, as they were when it was set. -/
def Goal.snapshots : Goal → List Document
  | .validate d => [d]
  | .validateMany ds => ds
  | _ => []

def Waiter.snapshots : Waiter → List Document
  | .pass p => [p.document]
  | .lookUp _ => []

def Purpose.snapshots : Purpose → List Document
  | .pass p _ => [p.document]
  | _ => []

def Task.snapshots : Task → List Document
  | .start _ goal => goal.snapshots
  | .pass p => [p.document]
  | .relay _ w | .wake _ w => w.snapshots
  | .ended r => r.purpose.snapshots
  | _ => []

/-- The lint run that a task brings to its end. -/
def Task.run? : Task → Option Running
  | .ended r => some r
  | _ => none

def snapshots (s : Session) : List Document :=
  s.waiters.flatMap (·.2.snapshots) ++ s.running.flatMap (·.purpose.snapshots) ++
    s.ready.flatMap Task.snapshots

/-- The lint runs that have begun and whose ends have not been dealt with. -/
def runs (s : Session) : List Running := s.running ++ s.ready.filterMap Task.run?

/-- The run of a pass comes out as `G` allows for the text of its snapshot. -/
def Running.Says (G : Text → Except Failure (Option Report) → Prop) (r : Running) : Prop :=
  ∀ p engine, r.purpose = .pass p engine → G p.document.text r.outcome

/-! ## The end of a pass -/

/-- A pass that ends: its snapshot, and how its lint run came out. -/
structure Ending where
  document : Document
  outcome : Except Failure (Option Report)

def after (s : Session) : Option Ending → Session
  | none => s
  | some e => { s with registry := s.registry.rebuilt e.document e.outcome }

/-- A run that begins ends its pass at once, unless it is held. -/
def lintEnding (env : Surroundings) (p : Pass) (engine : String) (s : Session) : Option Ending :=
  match p.document.path with
  | .error f => some ⟨p.document, .error f⟩
  | .ok path =>
    let run := env.run engine p.document.text path s.settings.options
    if run.held.isSome then none else some ⟨p.document, run.outcome⟩

def awaitEnding (env : Surroundings) (n : Nat) (s : Session) : Waiter → Option Ending
  | .lookUp _ => none
  | .pass p =>
    match s.library.futureAt? n with
    | some (.set (some engine)) => s.lintEnding env p engine.path
    | _ => none

def passEnding (env : Surroundings) (p : Pass) (s : Session) : Option Ending :=
  (s.library.number? p.document.uri).bind fun n => s.awaitEnding env n (.pass p)

/-- The pass that a task brings to its end. -/
def ending (env : Surroundings) (s : Session) : Task → Option Ending
  | .start call (.validate d) => s.passEnding env ⟨d, .alone call⟩
  | .pass p => s.passEnding env p
  | .wake n w => s.awaitEnding env n w
  | .ended r =>
    match r.purpose with
    | .pass p _ => some ⟨p.document, r.outcome⟩
    | _ => none
  | _ => none

/-! ## Going on without the end of a pass -/

/-- The second session has the documents and the fixes of the first. All its work is work of the
first, or was let in: a snapshot by `Q`, a lint run by what `G` allows. -/
structure Leads (Q : Document → Prop) (G : Text → Except Failure (Option Report) → Prop)
    (s t : Session) : Prop where
  documents : t.documents = s.documents
  registry : t.registry = s.registry
  snapshots : ∀ d ∈ t.snapshots, d ∈ s.snapshots ∨ Q d
  runs : ∀ r ∈ t.runs, r ∈ s.runs ∨ r.Says G

variable {Q : Document → Prop} {G : Text → Except Failure (Option Report) → Prop}
  {s t u : Session}

theorem mem_snapshots {d : Document} : d ∈ s.snapshots ↔
    (∃ w ∈ s.waiters, d ∈ w.2.snapshots) ∨ (∃ r ∈ s.running, d ∈ r.purpose.snapshots) ∨
      ∃ t ∈ s.ready, d ∈ t.snapshots := by
  simp only [Session.snapshots, List.mem_append, List.mem_flatMap, or_assoc]

theorem mem_runs {r : Running} : r ∈ s.runs ↔ r ∈ s.running ∨ ∃ t ∈ s.ready, t.run? = some r := by
  simp only [Session.runs, List.mem_append, List.mem_filterMap]

theorem Leads.of_eq (hd : t.documents = s.documents) (hr : t.registry = s.registry)
    (hw : t.waiters = s.waiters) (hn : t.running = s.running) (hq : t.ready = s.ready) :
    Leads Q G s t := by
  refine ⟨hd, hr, ?_, ?_⟩
  · intro d h
    rw [Session.snapshots, hw, hn, hq] at h
    exact .inl h
  · intro r h
    rw [Session.runs, hn, hq] at h
    exact .inl h

theorem Leads.refl (s : Session) : Leads Q G s s := .of_eq rfl rfl rfl rfl rfl

theorem Leads.trans (h : Leads Q G s t) (h' : Leads Q G t u) : Leads Q G s u := by
  refine ⟨h'.documents.trans h.documents, h'.registry.trans h.registry, ?_, ?_⟩
  · intro d hd
    rcases h'.snapshots d hd with hd | hd
    · exact h.snapshots d hd
    · exact .inr hd
  · intro r hr
    rcases h'.runs r hr with hr | hr
    · exact h.runs r hr
    · exact .inr hr

theorem enqueue_leads (s : Session) {ts : List Task} (hd : ∀ t ∈ ts, ∀ d ∈ t.snapshots, Q d)
    (hr : ∀ t ∈ ts, t.run? = none) : Leads Q G s (s.enqueue ts) := by
  refine ⟨rfl, rfl, ?_, ?_⟩
  · intro d h
    rcases mem_snapshots.mp h with h | h | ⟨t, ht, h⟩
    · exact .inl (mem_snapshots.mpr (.inl h))
    · exact .inl (mem_snapshots.mpr (.inr (.inl h)))
    · rcases List.mem_append.mp ht with ht | ht
      · exact .inl (mem_snapshots.mpr (.inr (.inr ⟨t, ht, h⟩)))
      · exact .inr (hd t ht d h)
  · intro r h
    rcases mem_runs.mp h with h | ⟨t, ht, h⟩
    · exact .inl (mem_runs.mpr (.inl h))
    · rcases List.mem_append.mp ht with ht | ht
      · exact .inl (mem_runs.mpr (.inr ⟨t, ht, h⟩))
      · rw [hr t ht] at h
        cases h

theorem enqueueOne_leads (s : Session) {t : Task} (hd : ∀ d ∈ t.snapshots, Q d)
    (hr : t.run? = none) : Leads Q G s (s.enqueue [t]) := by
  refine enqueue_leads s ?_ ?_
  · intro u hu
    rw [List.mem_singleton.mp hu]
    exact hd
  · intro u hu
    rw [List.mem_singleton.mp hu]
    exact hr

/-- Tasks that are about no document and end no run. -/
theorem enqueueIdle_leads (s : Session) {ts : List Task}
    (h : ∀ t ∈ ts, t.snapshots = [] ∧ t.run? = none) : Leads Q G s (s.enqueue ts) := by
  refine enqueue_leads s ?_ fun t ht => (h t ht).2
  intro t ht d hd
  rw [(h t ht).1] at hd
  cases hd

theorem keep_leads (name : String) (purpose : Purpose) (run : Engine.Run) (s : Session)
    (hd : ∀ d ∈ purpose.snapshots, Q d)
    (hr : ∀ p engine, purpose = .pass p engine → G p.document.text run.outcome) :
    Leads Q G s (s.keep name purpose run) := by
  refine ⟨rfl, rfl, ?_, ?_⟩
  · intro d h
    rcases mem_snapshots.mp h with h | ⟨r, hm, h⟩ | h
    · exact .inl (mem_snapshots.mpr (.inl h))
    · rcases List.mem_append.mp hm with hm | hm
      · exact .inl (mem_snapshots.mpr (.inr (.inl ⟨r, hm, h⟩)))
      · rw [List.mem_singleton.mp hm] at h
        exact .inr (hd d h)
    · exact .inl (mem_snapshots.mpr (.inr (.inr h)))
  · intro r h
    rcases mem_runs.mp h with h | h
    · rcases List.mem_append.mp h with h | h
      · exact .inl (mem_runs.mpr (.inl h))
      · rw [List.mem_singleton.mp h]
        exact .inr hr
    · exact .inl (mem_runs.mpr (.inr h))

/-! ## Ends of calls and of passes -/

theorem reports_idle (r : Except Failure Answer) {t : Task} (h : t ∈ reports r) :
    t.snapshots = [] ∧ t.run? = none := by
  unfold reports at h
  split at h
  · split at h
    · cases h
    · rw [List.mem_singleton.mp h]
      exact ⟨rfl, rfl⟩
  · cases h

theorem done_leads (call : Nat) (r : Except Failure Answer) (s : Session) :
    Leads Q G s (s.done call r) := by
  have h : Leads Q G s { s with finished := s.finished ++ [(call, r)] } :=
    .of_eq rfl rfl rfl rfl rfl
  exact h.trans (enqueueIdle_leads _ fun t ht => reports_idle r ht)

theorem Leads.done (h : Leads Q G s t) (call : Nat) (r : Except Failure Answer) :
    Leads Q G s (t.done call r) := h.trans (done_leads call r t)

theorem emit_leads (es : List Effect) (s : Session) : Leads Q G s (s.emit es) :=
  .of_eq rfl rfl rfl rfl rfl

theorem publish_leads (x : Status) (s : Session) : Leads Q G s (s.publish x) :=
  .of_eq rfl rfl rfl rfl rfl

theorem judged_leads (chain : List Classifier) (x : Failed) (s : Session) :
    Leads Q G s (s.judged chain x).1 := .of_eq rfl rfl rfl rfl rfl

theorem memberEnded_leads (call place : Nat) (m : Mark) (s : Session) :
    Leads Q G s (s.memberEnded call place m) := by
  have h : Leads Q G s (s.withBatch call (·.marked place m)) := .of_eq rfl rfl rfl rfl rfl
  refine h.trans (enqueueOne_leads _ ?_ rfl)
  intro d hd
  cases hd

theorem tally_leads (call : Nat) (s : Session) : Leads Q G s (s.tally call) := by
  have idle : ∀ (c : Bool), ∀ t ∈ (if c then [Task.conclude call] else []),
      t.snapshots = [] ∧ t.run? = none := by
    intro c t ht
    cases c with
    | true =>
      rw [List.mem_singleton.mp ht]
      exact ⟨rfl, rfl⟩
    | false => cases ht
  have h : Leads Q G s (s.withBatch call fun b => { b with left := b.left - 1 }) :=
    .of_eq rfl rfl rfl rfl rfl
  exact h.trans (enqueueIdle_leads _ (idle _))

theorem concluded_leads (call : Nat) (b : Batch) (s : Session) :
    Leads Q G s (s.concluded call b) := by
  unfold concluded
  split
  · split
    · exact done_leads call _ s
    · exact ((emit_leads _ s).trans (publish_leads _ _)).done call _
  · exact ((emit_leads _ s).trans (publish_leads _ _)).done call _

theorem conclude_leads (call : Nat) (s : Session) : Leads Q G s (s.conclude call) := by
  unfold conclude
  split
  · exact .refl s
  · have h : Leads Q G s { s with batches := s.batches.filter (·.1 != call) } :=
      .of_eq rfl rfl rfl rfl rfl
    exact h.trans (concluded_leads call _ _)

theorem endAlone_leads (call : Nat) (x : Except Failed Unit) (s : Session) :
    Leads Q G s (s.endAlone call x) := by
  unfold endAlone
  split
  · exact (publish_leads _ s).done call _
  · rename_i x
    have h : Leads Q G s (s.judged Classifier.single x).1 := judged_leads _ x s
    split <;> rename_i he <;> rw [he] at h
    · exact h.done call _
    · exact (h.trans (publish_leads _ _)).done call _

theorem endMember_leads (call place : Nat) (x : Except Failed Unit) (s : Session) :
    Leads Q G s (s.endMember call place x) := by
  unfold endMember
  split
  · exact memberEnded_leads call place .clean s
  · rename_i x
    have h : Leads Q G s (s.judged Classifier.batch x).1 := judged_leads _ x s
    split <;> rename_i he <;> rw [he] at h
    · exact h.trans (memberEnded_leads call place _ _)
    · exact h.trans (memberEnded_leads call place _ _)
    · split <;> exact h.trans (memberEnded_leads call place _ _)

/-- The registry after a lint run is the same whether or not its report could be converted. -/
theorem validated_leads (d : Document) (outcome : Except Failure (Option Report)) (s : Session) :
    Leads Q G (s.after (some ⟨d, outcome⟩)) (s.validated d outcome).1 := by
  cases outcome with
  | error f => exact .of_eq rfl rfl rfl rfl rfl
  | ok report =>
    simp only [validated]
    split <;> exact .of_eq rfl rfl rfl rfl rfl

theorem endPass_leads (p : Pass) (engine : String) (outcome : Except Failure (Option Report))
    (s : Session) :
    Leads Q G (s.after (some ⟨p.document, outcome⟩)) (s.endPass p engine outcome) := by
  have h : Leads Q G (s.after (some ⟨p.document, outcome⟩)) (s.validated p.document outcome).1 :=
    validated_leads p.document outcome s
  simp only [endPass]
  split
  · exact h.trans (endAlone_leads _ _ _)
  · exact h.trans (endMember_leads _ _ _ _)

theorem skipPass_leads (p : Pass) (s : Session) : Leads Q G s (s.skipPass p) := by
  unfold skipPass
  split
  · exact done_leads _ _ s
  · exact memberEnded_leads _ _ _ s

theorem abandonPass_leads (p : Pass) (s : Session) : Leads Q G s (s.abandonPass p) := by
  unfold abandonPass
  split
  · exact done_leads _ _ s
  · exact memberEnded_leads _ _ _ s

/-! ## Lint runs and what waits for an entry -/

theorem wait_leads (n : Nat) {w : Waiter} (hw : ∀ d ∈ w.snapshots, Q d) (s : Session) :
    Leads Q G s { s with waiters := s.waiters ++ [(n, w)] } := by
  refine ⟨rfl, rfl, ?_, fun r h => .inl h⟩
  intro d h
  rcases mem_snapshots.mp h with ⟨x, hx, h⟩ | h
  · rcases List.mem_append.mp hx with hx | hx
    · exact .inl (mem_snapshots.mpr (.inl ⟨x, hx, h⟩))
    · rw [List.mem_singleton.mp hx] at h
      exact .inr (hw d h)
  · exact .inl (mem_snapshots.mpr (.inr h))

theorem awaitLookUp_leads (env : Surroundings) (n call : Nat) (s : Session) :
    Leads Q G s (s.await env n (.lookUp call)) := by
  unfold await
  split
  · refine wait_leads n ?_ s
    intro d hd
    cases hd
  all_goals exact done_leads call _ s

theorem lookUp_leads (env : Surroundings) (uri : String) (call : Nat) (s : Session) :
    Leads Q G s (s.awaitFor env uri (.lookUp call)) := by
  unfold awaitFor
  split
  · exact done_leads call _ s
  · exact awaitLookUp_leads env _ call s

section

variable {env : Surroundings}
  (henv : ∀ engine text file options, G text (env.run engine text file options).outcome)
include henv

theorem lint_leads {p : Pass} (hp : Q p.document) (engine : String) (s : Session) :
    Leads Q G (s.after (s.lintEnding env p engine)) (s.lint env p engine) := by
  cases hpath : p.document.path with
  | error f =>
    simp only [lint, lintEnding, hpath]
    exact endPass_leads p engine _ s
  | ok path =>
    have begun : ∀ e, Leads Q G (s.after e)
        ((s.invoke env engine p.document.text path).1.after e) := by
      intro e
      cases e <;> exact .of_eq rfl rfl rfl rfl rfl
    cases held : (env.run engine p.document.text path s.settings.options).held with
    | none =>
      simp only [lint, lintEnding, hpath, invoke, held]
      exact (begun _).trans (endPass_leads p engine _ _)
    | some name =>
      simp only [lint, lintEnding, hpath, invoke, held]
      refine (begun none).trans (keep_leads _ _ _ _ ?_ ?_)
      · intro d hd
        rw [List.mem_singleton.mp hd]
        exact hp
      · intro q e hq
        injection hq with hq _
        rw [← hq]
        exact henv _ _ _ _

theorem await_leads (n : Nat) {w : Waiter} (hw : ∀ d ∈ w.snapshots, Q d) (s : Session) :
    Leads Q G (s.after (s.awaitEnding env n w)) (s.await env n w) := by
  cases w with
  | lookUp call => exact awaitLookUp_leads env n call s
  | pass p =>
    have hp : Q p.document := hw p.document List.mem_cons_self
    cases hs : s.library.futureAt? n with
    | none =>
      simp only [await, awaitEnding, hs]
      exact skipPass_leads p s
    | some future =>
      cases future with
      | unset =>
        simp only [await, awaitEnding, hs]
        exact wait_leads n hw s
      | set engine =>
        cases engine with
        | none =>
          simp only [await, awaitEnding, hs]
          exact skipPass_leads p s
        | some engine =>
          simp only [await, awaitEnding, hs]
          exact lint_leads henv hp _ s
      | cancelled =>
        simp only [await, awaitEnding, hs]
        exact abandonPass_leads p s

theorem awaitFor_leads {p : Pass} (hp : Q p.document) (s : Session) :
    Leads Q G (s.after (s.passEnding env p)) (s.awaitFor env p.document.uri (.pass p)) := by
  have hw : ∀ d ∈ (Waiter.pass p).snapshots, Q d := by
    intro d hd
    rw [List.mem_singleton.mp hd]
    exact hp
  cases hn : s.library.number? p.document.uri with
  | none =>
    simp only [awaitFor, passEnding, hn, Option.bind_none]
    exact skipPass_leads p s
  | some n =>
    simp only [awaitFor, passEnding, hn, Option.bind_some]
    exact await_leads henv n hw s

end

/-! ## Resolutions -/

/-- Whatever waited for an entry is told, and stays under way. -/
theorem settled_leads (n : Nat) (outcome : Except Failure Engine) (s : Session) :
    Leads Q G s (s.settled n outcome) := by
  refine ⟨rfl, rfl, ?_, ?_⟩
  · intro d h
    rcases mem_snapshots.mp h with ⟨w, hw, h⟩ | h | ⟨t, ht, h⟩
    · simp only [settled, List.partition_eq_filter_filter] at hw
      exact .inl (mem_snapshots.mpr (.inl ⟨w, (List.mem_filter.mp hw).1, h⟩))
    · exact .inl (mem_snapshots.mpr (.inr (.inl h)))
    · simp only [settled, enqueue, List.partition_eq_filter_filter] at ht
      rcases List.mem_append.mp ht with ht | ht
      · exact .inl (mem_snapshots.mpr (.inr (.inr ⟨t, ht, h⟩)))
      · obtain ⟨w, hw, rfl⟩ := List.mem_map.mp ht
        exact .inl (mem_snapshots.mpr (.inl ⟨w, (List.mem_filter.mp hw).1, h⟩))
  · intro r h
    rcases mem_runs.mp h with h | ⟨t, ht, h⟩
    · exact .inl (mem_runs.mpr (.inl h))
    · rcases List.mem_append.mp ht with ht | ht
      · exact .inl (mem_runs.mpr (.inr ⟨t, ht, h⟩))
      · obtain ⟨w, -, rfl⟩ := List.mem_map.mp ht
        cases h

theorem engineFor_leads (env : Surroundings) (path : String) (s : Session) :
    Leads Q G s (s.engineFor env path).1 := by
  unfold engineFor
  repeat' split
  all_goals exact .of_eq rfl rfl rfl rfl rfl

theorem loadFailed_leads (n : Nat) (uri : String) (f : Failure) (s : Session) :
    Leads Q G s (s.loadFailed n uri f) :=
  (settled_leads n (.error f) s).trans (emit_leads _ _)

theorem searchFor_leads (env : Surroundings) (n : Nat) (d : Document) (s : Session) :
    Leads Q G s (s.searchFor env n d) := by
  have begun : Leads Q G s (s.emit [.searched n d.uri]) := emit_leads _ s
  simp only [searchFor]
  split
  · exact begun.trans (loadFailed_leads n d.uri _ _)
  · rename_i path _
    have h : Leads Q G s ((s.emit [.searched n d.uri]).engineFor env path).1 :=
      begun.trans (engineFor_leads env path _)
    split <;> rename_i he <;> rw [he] at h
    · exact h.trans (loadFailed_leads n d.uri _ _)
    · exact h.trans ((settled_leads n _ _).trans (emit_leads _ _))

theorem look_leads (env : Surroundings) (n : Nat) (s : Session) : Leads Q G s (s.look env n) := by
  unfold look
  split
  · exact .refl s
  · split
    · exact .of_eq rfl rfl rfl rfl rfl
    · exact searchFor_leads env n _ s

theorem goOn_leads (env : Surroundings) (n : Nat) (s : Session) : Leads Q G s (s.goOn env n) := by
  unfold goOn
  split
  · exact .refl s
  · exact searchFor_leads env n _ s

/-! ## Batches and probes -/

theorem beginBatch_leads (call : Nat) {ds : List Document} (hds : ∀ d ∈ ds, Q d) (s : Session) :
    Leads Q G s (s.beginBatch call ds) := by
  simp only [beginBatch]
  split
  · exact concluded_leads call _ s
  · have h : ∀ b : Batch, Leads Q G s { s with batches := s.batches ++ [(call, b)] } :=
      fun _ => .of_eq rfl rfl rfl rfl rfl
    refine (h _).trans (enqueue_leads _ ?_ ?_)
    · intro t ht d hd
      obtain ⟨i, hi, rfl⟩ := List.mem_mapIdx.mp ht
      rw [List.mem_singleton.mp hd]
      exact hds _ (List.mem_filter.mp (List.getElem_mem hi)).1
    · intro t ht
      obtain ⟨i, _, rfl⟩ := List.mem_mapIdx.mp ht
      rfl

theorem beginAll_leads (call : Nat) (s : Session) (hd : ∀ d ∈ s.documents.all, Q d) :
    Leads Q G s (s.beginAll call) := by
  unfold beginAll
  split
  · exact beginBatch_leads call hd s
  · exact done_leads call _ s

theorem endProbe_leads (call : Nat) (file : String) (outcome : Except Failure (Option Report))
    (s : Session) : Leads Q G s (s.endProbe call file outcome) := by
  unfold endProbe
  split
  · exact (emit_leads _ s).done call _
  · exact done_leads call _ s

/-- A lint run that is not for a pass. -/
theorem probing_leads (env : Surroundings) (engine file name : String) {purpose : Purpose}
    (hp : ∀ p e, purpose ≠ .pass p e) (s : Session) :
    Leads Q G s ((s.invoke env engine "" file).1.keep name purpose
      (s.invoke env engine "" file).2) := by
  refine (emit_leads _ s).trans (keep_leads _ _ _ _ ?_ ?_)
  · intro d hd
    cases purpose with
    | pass p e => exact absurd rfl (hp p e)
    | probe _ _ => cases hd
    | reconsider _ _ _ => cases hd
  · exact fun p e h => absurd h (hp p e)

theorem beginProbe_leads (env : Surroundings) (call : Nat) (file engine : String) (s : Session) :
    Leads Q G s (s.beginProbe env call file engine) := by
  simp only [beginProbe]
  split
  · exact done_leads call _ s
  · rename_i name _
    split
    · exact probing_leads env engine name _ (fun _ _ h => by cases h) s
    · exact (emit_leads _ s).trans (endProbe_leads call file _ _)

theorem reconsidered_leads (file : String) (outcome : Except Failure (Option Report))
    (s : Session) : Leads Q G s (s.reconsidered file outcome) := by
  unfold reconsidered
  split <;> exact .of_eq rfl rfl rfl rfl rfl

theorem reconsider_leads (env : Surroundings) (call : Nat) (uris : List String) (s : Session)
    (hd : ∀ d ∈ s.documents.all, Q d) : Leads Q G s (s.reconsider env call uris) := by
  -- a probe that ends at once goes on with the next file, in a session with the same documents
  induction uris generalizing s with
  | nil => exact beginAll_leads call s hd
  | cons uri rest ih =>
    simp only [reconsider]
    split
    · exact done_leads call _ s
    · rename_i file _
      split
      · exact ih s hd
      · rename_i engine name _
        split
        · exact probing_leads env engine name _ (fun _ _ h => by cases h) s
        · have h : Leads Q G s ((s.invoke env engine "" name).1.reconsidered file
              (s.invoke env engine "" name).2.outcome) :=
            (emit_leads _ s).trans (reconsidered_leads file _ _)
          refine h.trans (ih _ ?_)
          rw [h.documents]
          exact hd

/-! ## Tasks -/

/-- What a task does besides ending a pass. -/
theorem perform_leads {env : Surroundings}
    (henv : ∀ engine text file options, G text (env.run engine text file options).outcome)
    {task : Task} (ht : ∀ d ∈ task.snapshots, Q d) (s : Session)
    (hd : ∀ d ∈ s.documents.all, Q d) :
    Leads Q G (s.after (s.ending env task)) (s.perform env task) := by
  cases task with
  | look n => exact look_leads env n s
  | search n => exact goOn_leads env n s
  | start call goal =>
    cases goal with
    | lookUp uri => exact lookUp_leads env uri call s
    | validate d => exact awaitFor_leads henv (ht d List.mem_cons_self) s
    | validateMany ds => exact beginBatch_leads call ht s
    | validateAll => exact beginAll_leads call s hd
    | reconsider uris =>
      have h : Leads Q G s s.forgetNoConfig := .of_eq rfl rfl rfl rfl rfl
      exact h.trans (reconsider_leads env call uris _ hd)
    | probe file engine => exact beginProbe_leads env call file engine s
  | pass p => exact awaitFor_leads henv (ht p.document List.mem_cons_self) s
  | relay n w => exact enqueueOne_leads s ht rfl
  | wake n w => exact await_leads henv n ht s
  | ended r =>
    obtain ⟨name, purpose, outcome⟩ := r
    cases purpose with
    | pass p engine => exact endPass_leads p engine outcome s
    | probe call file => exact endProbe_leads call file outcome s
    | reconsider call file rest =>
      have h : Leads Q G s (s.reconsidered file outcome) := reconsidered_leads file outcome s
      refine h.trans (reconsider_leads env call rest _ ?_)
      rw [h.documents]
      exact hd
  | tally call => exact tally_leads call s
  | conclude call => exact conclude_leads call s
  | report f => exact emit_leads _ s

/-! ## The pass that ends -/

theorem lintEnding_spec {env : Surroundings} {p : Pass} {engine : String} {e : Ending}
    (h : s.lintEnding env p engine = some e) :
    e.document = p.document ∧ ∀ report, e.outcome = .ok report → ∃ file options,
      (env.run engine p.document.text file options).outcome = .ok report := by
  unfold lintEnding at h
  split at h
  · injection h with h
    subst h
    exact ⟨rfl, fun report hr => by cases hr⟩
  · simp only at h
    split at h
    · cases h
    · injection h with h
      subst h
      exact ⟨rfl, fun report hr => ⟨_, _, hr⟩⟩

theorem awaitEnding_spec {env : Surroundings} {n : Nat} {w : Waiter} {e : Ending}
    (h : s.awaitEnding env n w = some e) :
    e.document ∈ w.snapshots ∧ ∀ report, e.outcome = .ok report → ∃ engine file options,
      (env.run engine e.document.text file options).outcome = .ok report := by
  cases w with
  | lookUp call => cases h
  | pass p =>
    simp only [awaitEnding] at h
    split at h
    · rename_i engine _
      obtain ⟨hd, hr⟩ := lintEnding_spec h
      rw [hd]
      exact ⟨List.mem_cons_self, fun report ho => ⟨engine.path, hr report ho⟩⟩
    · cases h

theorem passEnding_spec {env : Surroundings} {p : Pass} {e : Ending}
    (h : s.passEnding env p = some e) :
    e.document = p.document ∧ ∀ report, e.outcome = .ok report → ∃ engine file options,
      (env.run engine e.document.text file options).outcome = .ok report := by
  obtain ⟨n, -, h⟩ := Option.bind_eq_some_iff.mp h
  obtain ⟨hd, hr⟩ := awaitEnding_spec h
  exact ⟨List.mem_singleton.mp hd, hr⟩

/-- A pass that a task ends was the task's own, and what is reported of it is what an engine
said of the text of its snapshot. -/
theorem ending_spec {env : Surroundings}
    (henv : ∀ engine text file options, G text (env.run engine text file options).outcome)
    {task : Task} (hr : ∀ r, task.run? = some r → r.Says G) {e : Ending}
    (h : s.ending env task = some e) :
    e.document ∈ task.snapshots ∧ ∀ report, e.outcome = .ok report →
      G e.document.text (.ok report) := by
  have said : ∀ {report}, (∃ engine file options,
      (env.run engine e.document.text file options).outcome = .ok report) →
      G e.document.text (.ok report) := by
    rintro report ⟨engine, file, options, ho⟩
    rw [← ho]
    exact henv _ _ _ _
  cases task with
  | start call goal =>
    cases goal with
    | validate d =>
      obtain ⟨hd, ho⟩ := passEnding_spec h
      exact ⟨List.mem_singleton.mpr hd, fun report hq => said (ho report hq)⟩
    | _ => cases h
  | pass p =>
    obtain ⟨hd, ho⟩ := passEnding_spec h
    exact ⟨List.mem_singleton.mpr hd, fun report hq => said (ho report hq)⟩
  | wake n w =>
    obtain ⟨hd, ho⟩ := awaitEnding_spec h
    exact ⟨hd, fun report hq => said (ho report hq)⟩
  | ended r =>
    obtain ⟨name, purpose, outcome⟩ := r
    cases purpose with
    | pass p engine =>
      injection h with h
      subst h
      refine ⟨List.mem_cons_self, fun report hq => ?_⟩
      rw [← hq]
      exact hr _ rfl p engine rfl
    | probe call file => cases h
    | reconsider call file rest => cases h
  | _ => cases h

end Session

end LintServer
