/-
  LintServer.Proofs.Work — the work under way, counted.

  Every call leaves pieces of work: passes that wait for an entry, for their lint run or for
  their turn, and the counting of those that have ended. A task takes its own piece out and puts
  in others of the same call; a pass it lets begin is its own, or one over a document that has an
  entry. What it tells the editor about diagnostics comes from the pass it ends.
  - `Session.work`, `Moment.work`: all pieces, in no order.
  - `perform_works`: all that a task does to the work, to the batches of other calls and to what
    was told.
-/

import LintServer.Proofs.LonePass
import Mathlib.Algebra.Order.Group.Multiset
import Mathlib.Data.Multiset.Filter
import Mathlib.Tactic.Abel

namespace LintServer

namespace Session

/-- A piece of work under way. -/
inductive Work where
  /-- A call that has not begun, that waits for a linter, or that probes a file. -/
  | errand (call : Nat)
  /-- A pass of a batch that has not begun. -/
  | asked (p : Pass)
  /-- A pass that waits for the entry of its document, or to go on after that. -/
  | waiting (p : Pass)
  /-- A pass whose lint run has begun and whose end was not dealt with. -/
  | linting (p : Pass)
  | tally (call : Nat)
  | conclude (call : Nat)

def Owner.call : Owner → Nat
  | .alone call | .member call _ => call

/-- The call that a piece of work belongs to. -/
def Work.call : Work → Nat
  | .errand call | .tally call | .conclude call => call
  | .asked p | .waiting p | .linting p => p.owner.call

/-- The pass that has begun. -/
def Work.begun? : Work → Option Pass
  | .waiting p | .linting p => some p
  | _ => none

def Waiter.work : Waiter → Work
  | .lookUp call => .errand call
  | .pass p => .waiting p

def Purpose.work : Purpose → Work
  | .pass p _ => .linting p
  | .probe call _ | .reconsider call _ _ => .errand call

def Task.work : Task → Option Work
  | .start call _ => some (.errand call)
  | .pass p => some (.asked p)
  | .relay _ w | .wake _ w => some w.work
  | .ended r => some r.purpose.work
  | .tally call => some (.tally call)
  | .conclude call => some (.conclude call)
  | .look _ | .search _ | .report _ => none

/-- Whether a task can make the server forget what it told of. -/
def Task.reconsiders : Task → Bool
  | .start _ (.reconsider _) => true
  | .ended ⟨_, .reconsider .., _⟩ => true
  | _ => false

def work (s : Session) : Multiset Work :=
  (s.waiters.map (·.2.work) : Multiset Work) + (s.running.map (·.purpose.work) : Multiset Work) +
    (s.ready.filterMap Task.work : Multiset Work)

/-- The second session has the work of the first and more for a call: of passes that have begun,
such as is in `Q`. The batches of other calls and the documents that have an entry are the same.
What was told of is alike, if it is `calm` or all of it had an address, and diagnostics were told
for addresses in `D` only. -/
structure Works (call : Nat) (Q : Work → Prop) (calm : Prop) (D : String → Prop)
    (s t : Session) : Prop where
  work : ∃ new, t.work = s.work + new ∧ ∀ k ∈ new, k.call = call ∧ ∀ p, k.begun? = some p → Q k
  entries : t.library.entries = s.library.entries
  batches : ∀ other, other ≠ call → t.batches.lookup other = s.batches.lookup other
  reported : calm ∨ Reported.Alike {} s.reported → s.reported.Alike t.reported
  told : ∃ es, t.history = s.history ++ es ∧
    ∀ uri found, .diagnostics uri found ∈ Effect.messages es → D uri

variable {c : Nat} {Q : Work → Prop} {calm : Prop} {D : String → Prop} {s t u : Session}

/-- Nothing but the history and what does not count as work is changed. -/
theorem Works.of_emit (es : List Effect)
    (hes : ∀ uri found, .diagnostics uri found ∈ Effect.messages es → D uri)
    (hw : t.waiters = s.waiters) (hn : t.running = s.running) (hq : t.ready = s.ready)
    (he : t.library.entries = s.library.entries) (hb : t.batches = s.batches)
    (hr : t.reported = s.reported) (hh : t.history = s.history ++ es) : Works c Q calm D s t where
  work := ⟨0, by rw [Session.work, hw, hn, hq, add_zero]; rfl, fun k hk => by simp at hk⟩
  entries := he
  batches other _ := by rw [hb]
  reported _ := hr ▸ .refl _
  told := ⟨es, hh, hes⟩

theorem Works.of_eq (hw : t.waiters = s.waiters) (hn : t.running = s.running)
    (hq : t.ready = s.ready) (he : t.library.entries = s.library.entries)
    (hb : t.batches = s.batches) (hr : t.reported = s.reported) (hh : t.history = s.history) :
    Works c Q calm D s t :=
  .of_emit [] (fun _ _ hm => by cases hm) hw hn hq he hb hr (hh.trans (List.append_nil _).symm)

theorem Works.refl (s : Session) : Works c Q calm D s s := .of_eq rfl rfl rfl rfl rfl rfl rfl

theorem Works.trans (h : Works c Q calm D s t) (h' : Works c Q calm D t u) :
    Works c Q calm D s u := by
  obtain ⟨new, hw, hn⟩ := h.work
  obtain ⟨more, hw', hm⟩ := h'.work
  obtain ⟨es, hh, hes⟩ := h.told
  obtain ⟨fs, hh', hfs⟩ := h'.told
  refine ⟨⟨new + more, by rw [hw', hw, add_assoc], ?_⟩, h'.entries.trans h.entries,
    fun other ho => (h'.batches other ho).trans (h.batches other ho), ?_,
    es ++ fs, by rw [hh', hh, List.append_assoc], ?_⟩
  · intro k hk
    rcases Multiset.mem_add.mp hk with hk | hk
    · exact hn k hk
    · exact hm k hk
  · intro hc
    have first := h.reported hc
    exact first.trans (h'.reported (hc.imp_right (·.trans first)))
  · intro uri found hf
    rw [Effect.messages_append] at hf
    rcases List.mem_append.mp hf with hf | hf
    · exact hes uri found hf
    · exact hfs uri found hf

/-! ## Putting work in -/

theorem work_enqueue (ts : List Task) (s : Session) :
    (s.enqueue ts).work = s.work + (ts.filterMap Task.work : Multiset Work) := by
  simp only [Session.work, enqueue, List.filterMap_append, ← Multiset.coe_add, add_assoc]

theorem enqueue_works (s : Session) {ts : List Task}
    (h : ∀ k ∈ ts.filterMap Task.work, k.call = c ∧ ∀ p, k.begun? = some p → Q k) :
    Works c Q calm D s (s.enqueue ts) where
  work := ⟨_, work_enqueue ts s, h⟩
  entries := rfl
  batches _ _ := rfl
  reported _ := .refl _
  told := ⟨[], (List.append_nil _).symm, fun _ _ hm => by cases hm⟩

/-- Tasks that are no work. -/
theorem enqueueIdle_works (s : Session) {ts : List Task} (h : ∀ t ∈ ts, t.work = none) :
    Works c Q calm D s (s.enqueue ts) := by
  refine enqueue_works s fun k hk => ?_
  obtain ⟨t, ht, hk⟩ := List.mem_filterMap.mp hk
  rw [h t ht] at hk
  cases hk

theorem enqueueOne_works (s : Session) {task : Task} {k : Work} (hk : task.work = some k)
    (hc : k.call = c) (hq : ∀ p, k.begun? = some p → Q k) :
    Works c Q calm D s (s.enqueue [task]) := by
  refine enqueue_works s fun l hl => ?_
  obtain ⟨t, ht, hl⟩ := List.mem_filterMap.mp hl
  rw [List.mem_singleton.mp ht, hk] at hl
  injection hl with hl
  exact hl ▸ ⟨hc, hq⟩

theorem work_keep (name : String) (purpose : Purpose) (run : Engine.Run) (s : Session) :
    (s.keep name purpose run).work = s.work + {purpose.work} := by
  simp only [Session.work, keep, List.map_append, List.map_cons, List.map_nil,
    ← Multiset.coe_add, ← Multiset.coe_singleton]
  abel

theorem keep_works (name : String) {purpose : Purpose} (run : Engine.Run) (s : Session)
    (hc : purpose.work.call = c) (hq : ∀ p, purpose.work.begun? = some p → Q purpose.work) :
    Works c Q calm D s (s.keep name purpose run) where
  work := by
    refine ⟨{purpose.work}, work_keep name purpose run s, fun k hk => ?_⟩
    rw [Multiset.mem_singleton.mp hk]
    exact ⟨hc, hq⟩
  entries := rfl
  batches _ _ := rfl
  reported _ := .refl _
  told := ⟨[], (List.append_nil _).symm, fun _ _ hm => by cases hm⟩

theorem work_wait (n : Nat) (w : Waiter) (s : Session) :
    { s with waiters := s.waiters ++ [(n, w)] }.work = s.work + {w.work} := by
  simp only [Session.work, List.map_append, List.map_cons, List.map_nil, ← Multiset.coe_add,
    ← Multiset.coe_singleton]
  abel

theorem wait_works (n : Nat) {w : Waiter} (s : Session) (hc : w.work.call = c)
    (hq : ∀ p, w.work.begun? = some p → Q w.work) :
    Works c Q calm D s { s with waiters := s.waiters ++ [(n, w)] } where
  work := by
    refine ⟨{w.work}, work_wait n w s, fun k hk => ?_⟩
    rw [Multiset.mem_singleton.mp hk]
    exact ⟨hc, hq⟩
  entries := rfl
  batches _ _ := rfl
  reported _ := .refl _
  told := ⟨[], (List.append_nil _).symm, fun _ _ hm => by cases hm⟩

/-! ## Ends of calls and of passes -/

theorem emit_works (s : Session) {es : List Effect}
    (h : ∀ uri found, .diagnostics uri found ∈ Effect.messages es → D uri) :
    Works c Q calm D s (s.emit es) := .of_emit es h rfl rfl rfl rfl rfl rfl rfl

/-- Effects that tell of no diagnostics. -/
theorem emitPlain_works (s : Session) {es : List Effect}
    (h : ∀ m ∈ Effect.messages es, m.isDiagnostics = false) : Works c Q calm D s (s.emit es) := by
  refine emit_works s fun uri found hm => ?_
  cases h _ hm

theorem publish_works (x : Status) (s : Session) : Works c Q calm D s (s.publish x) := by
  refine .of_emit [.told (.status x)] ?_ rfl rfl rfl rfl rfl rfl rfl
  intro uri found hm
  cases List.mem_singleton.mp hm

theorem reports_no_work (r : Except Failure Answer) : ∀ t ∈ reports r, t.work = none := by
  intro t ht
  unfold reports at ht
  split at ht
  · split at ht
    · cases ht
    · rw [List.mem_singleton.mp ht]
      rfl
  · cases ht

theorem done_works (call : Nat) (r : Except Failure Answer) (s : Session) :
    Works c Q calm D s (s.done call r) := by
  have h : Works c Q calm D s { s with finished := s.finished ++ [(call, r)] } :=
    .of_eq rfl rfl rfl rfl rfl rfl rfl
  exact h.trans (enqueueIdle_works _ (reports_no_work r))

theorem Works.done (h : Works c Q calm D s t) (call : Nat) (r : Except Failure Answer) :
    Works c Q calm D s (t.done call r) := h.trans (done_works call r t)

theorem judged_works (chain : List Classifier) (x : Failed) (s : Session) :
    Works c Q calm D s (s.judged chain x).1 := by
  have plain := Classifier.classify_plain s.documents s.reported x chain
  refine Works.trans (t := { s with
    reported := (Classifier.classify s.documents s.reported x chain).reported }) ?_
    (emitPlain_works _ fun m hm => (plain.quiet m hm).2)
  exact { (Works.refl s : Works c Q calm D s s) with reported := fun _ => plain.alike }

theorem lookup_withBatch_of_ne {call other : Nat} (h : other ≠ call) (change : Batch → Batch)
    (s : Session) : (s.withBatch call change).batches.lookup other = s.batches.lookup other := by
  unfold withBatch
  induction s.batches with
  | nil => rfl
  | cons e rest ih =>
    obtain ⟨key, b⟩ := e
    by_cases hk : key = call
    · have hne : (other == call) = false := by simpa using h
      subst hk
      simp only [List.map_cons, if_true, List.lookup_cons, hne]
      exact ih
    · simp only [List.map_cons, hk, if_false, List.lookup_cons]
      split
      · rfl
      · exact ih

theorem withBatch_works (call : Nat) (change : Batch → Batch) (s : Session) :
    Works call Q calm D s (s.withBatch call change) :=
  { (Works.refl s : Works call Q calm D s s) with
    batches := fun _ ho => lookup_withBatch_of_ne ho change s }

theorem memberEnded_works (call place : Nat) (m : Mark) (s : Session) :
    Works call Q calm D s (s.memberEnded call place m) := by
  refine (withBatch_works call _ s).trans (enqueueOne_works _ (k := .tally call) rfl rfl ?_)
  intro p hp
  cases hp

theorem tally_works (call : Nat) (s : Session) : Works call Q calm D s (s.tally call) := by
  refine (withBatch_works call (fun b => { b with left := b.left - 1 }) s).trans
    (enqueue_works _ fun k hk => ?_)
  split at hk
  · rw [List.mem_singleton.mp hk]
    exact ⟨rfl, fun p hp => by cases hp⟩
  · cases hk

theorem messages_shown (ms : Messages) : Effect.messages ms.shown = ms.map .showError := by
  induction ms with
  | nil => rfl
  | cons text ms ih =>
    simp only [Messages.shown, List.map_cons, Effect.messages_told] at ih ⊢
    rw [ih]

theorem shown_plain (ms : Messages) :
    ∀ m ∈ Effect.messages ms.shown, m.isDiagnostics = false := by
  rw [messages_shown]
  intro m hm
  obtain ⟨text, -, rfl⟩ := List.mem_map.mp hm
  rfl

theorem concluded_works (call : Nat) (b : Batch) (s : Session) :
    Works c Q calm D s (s.concluded call b) := by
  unfold concluded
  split
  · split
    · exact done_works call _ s
    · refine ((emitPlain_works s ?_).trans (publish_works _ _)).done call _
      intro m hm
      simp only [Effect.error, Effect.messages_logged, Effect.messages_append,
        Effect.messages_told, Effect.messages_nil, List.mem_append, List.mem_singleton] at hm
      rcases hm with hm | rfl
      · exact shown_plain _ m hm
      · rfl
  · exact ((emitPlain_works s (shown_plain _)).trans (publish_works _ _)).done call _

theorem lookup_filter_of_ne {call other : Nat} (h : other ≠ call) (bs : List (Nat × Batch)) :
    (bs.filter (·.1 != call)).lookup other = bs.lookup other := by
  induction bs with
  | nil => rfl
  | cons e rest ih =>
    obtain ⟨key, b⟩ := e
    by_cases hk : key = call
    · have hne : (other == key) = false := by simpa [hk] using h
      have hf : (key != call) = false := by simp [hk]
      rw [List.filter_cons, hf, List.lookup_cons, hne]
      exact ih
    · have hf : (key != call) = true := by simp [hk]
      rw [List.filter_cons, hf, if_pos rfl, List.lookup_cons, List.lookup_cons, ih]

theorem conclude_works (call : Nat) (s : Session) : Works call Q calm D s (s.conclude call) := by
  unfold conclude
  split
  · exact .refl s
  · have h : Works call Q calm D s { s with batches := s.batches.filter (·.1 != call) } :=
      { (Works.refl s : Works call Q calm D s s) with
        batches := fun _ ho => lookup_filter_of_ne ho s.batches }
    exact h.trans (concluded_works call _ _)

theorem endAlone_works (call : Nat) (x : Except Failed Unit) (s : Session) :
    Works c Q calm D s (s.endAlone call x) := by
  unfold endAlone
  split
  · exact (publish_works _ s).done call _
  · rename_i x
    have h : Works c Q calm D s (s.judged Classifier.single x).1 := judged_works _ x s
    split <;> rename_i he <;> rw [he] at h
    · exact h.done call _
    · exact (h.trans (publish_works _ _)).done call _

theorem endMember_works (call place : Nat) (x : Except Failed Unit) (s : Session) :
    Works call Q calm D s (s.endMember call place x) := by
  unfold endMember
  split
  · exact memberEnded_works call place .clean s
  · rename_i x
    have h : Works call Q calm D s (s.judged Classifier.batch x).1 := judged_works _ x s
    split <;> rename_i he <;> rw [he] at h
    · exact h.trans (memberEnded_works call place _ _)
    · exact h.trans (memberEnded_works call place _ _)
    · split <;> exact h.trans (memberEnded_works call place _ _)

/-- If a pass ends with a report, its document is in `D`. -/
def Ending.Within (D : String → Prop) (e : Ending) : Prop :=
  ∀ report, e.outcome = .ok report → D e.document.uri

theorem validated_works {d : Document} {outcome : Except Failure (Option Report)}
    (hD : Ending.Within D ⟨d, outcome⟩) (s : Session) :
    Works c Q calm D s (s.validated d outcome).1 := by
  have rebuilt : Works c Q calm D s { s with registry := s.registry.rebuilt d outcome } :=
    .of_eq rfl rfl rfl rfl rfl rfl rfl
  rw [validated_eq]
  split
  · exact rebuilt
  · refine rebuilt.trans (emit_works _ ?_)
    intro uri found hm
    injection List.mem_singleton.mp hm with hu
    cases outcome with
    | error f => contradiction
    | ok report => exact hu ▸ hD report rfl

theorem endPass_works {p : Pass} (hc : p.owner.call = c) (engine : String)
    {outcome : Except Failure (Option Report)} (hD : Ending.Within D ⟨p.document, outcome⟩)
    (s : Session) : Works c Q calm D s (s.endPass p engine outcome) := by
  have h : Works c Q calm D s (s.validated p.document outcome).1 := validated_works hD s
  obtain ⟨d, owner⟩ := p
  subst hc
  simp only [endPass]
  cases owner with
  | alone call => exact h.trans (endAlone_works _ _ _)
  | member call place => exact h.trans (endMember_works _ _ _ _)

theorem skipPass_works {p : Pass} (hc : p.owner.call = c) (s : Session) :
    Works c Q calm D s (s.skipPass p) := by
  obtain ⟨d, owner⟩ := p
  subst hc
  cases owner with
  | alone call => exact done_works _ _ s
  | member call place => exact memberEnded_works _ _ _ s

theorem abandonPass_works {p : Pass} (hc : p.owner.call = c) (s : Session) :
    Works c Q calm D s (s.abandonPass p) := by
  obtain ⟨d, owner⟩ := p
  subst hc
  cases owner with
  | alone call => exact done_works _ _ s
  | member call place => exact memberEnded_works _ _ _ s

/-! ## Lint runs and what waits for an entry -/

/-- A pass may wait and may lint. -/
def Lets (Q : Work → Prop) (p : Pass) : Prop := Q (.waiting p) ∧ Q (.linting p)

theorem awaitLookUp_works (env : Surroundings) (n call : Nat) (s : Session) :
    Works call Q calm D s (s.await env n (.lookUp call)) := by
  unfold await
  split
  · refine wait_works n s rfl ?_
    intro p hp
    cases hp
  all_goals exact done_works call _ s

theorem lookUp_works (env : Surroundings) (uri : String) (call : Nat) (s : Session) :
    Works call Q calm D s (s.awaitFor env uri (.lookUp call)) := by
  unfold awaitFor
  split
  · exact done_works call _ s
  · exact awaitLookUp_works env _ call s

section

variable {env : Surroundings} (mute : env.Mute)
include mute

theorem invoke_works (engine : String) (content : Text) (file : String) (s : Session) :
    Works c Q calm D s (s.invoke env engine content file).1 := by
  refine emitPlain_works s ?_
  intro m hm
  have hn : Effect.messages (.linted engine content file s.settings.options ::
      (env.run engine content file s.settings.options).effects) = [] :=
    mute engine content file s.settings.options
  rw [hn] at hm
  cases hm

theorem lint_works {p : Pass} (hc : p.owner.call = c) (hq : Q (.linting p)) (engine : String)
    (s : Session) (hD : ∀ e, s.lintEnding env p engine = some e → e.Within D) :
    Works c Q calm D s (s.lint env p engine) := by
  cases hpath : p.document.path with
  | error f =>
    simp only [lint, hpath]
    exact endPass_works hc engine (fun report hr => by cases hr) s
  | ok path =>
    have begun : Works c Q calm D s (s.invoke env engine p.document.text path).1 :=
      invoke_works mute engine _ path s
    cases held : (env.run engine p.document.text path s.settings.options).held with
    | none =>
      simp only [lint, hpath, invoke, held]
      refine begun.trans (endPass_works hc engine ?_ _)
      exact hD ⟨_, _⟩ (by simp only [lintEnding, hpath, held]; rfl)
    | some name =>
      simp only [lint, hpath, invoke, held]
      exact begun.trans (keep_works _ _ _ hc fun _ _ => hq)

theorem await_works (n : Nat) {w : Waiter} (hc : w.work.call = c)
    (hq : ∀ p, w = .pass p → Lets Q p) (s : Session)
    (hD : ∀ e, s.awaitEnding env n w = some e → e.Within D) :
    Works c Q calm D s (s.await env n w) := by
  cases w with
  | lookUp call =>
    subst hc
    exact awaitLookUp_works env n call s
  | pass p =>
    cases hs : s.library.futureAt? n with
    | none =>
      simp only [await, hs]
      exact skipPass_works hc s
    | some future =>
      cases future with
      | unset =>
        simp only [await, hs]
        exact wait_works n s hc fun _ _ => (hq p rfl).1
      | set engine =>
        simp only [await, hs]
        cases engine with
        | none => exact skipPass_works hc s
        | some engine =>
          refine lint_works mute hc (hq p rfl).2 _ s fun e he => hD e ?_
          simpa only [awaitEnding, hs] using he
      | cancelled =>
        simp only [await, hs]
        exact abandonPass_works hc s

/-- A pass that asks for the linter of its document begins only if there is an entry. -/
theorem awaitFor_works {p : Pass} (hc : p.owner.call = c)
    (hq : s.library.has p.document.uri = true → Lets Q p)
    (hD : ∀ e, s.passEnding env p = some e → e.Within D) :
    Works c Q calm D s (s.awaitFor env p.document.uri (.pass p)) := by
  cases hn : s.library.number? p.document.uri with
  | none =>
    simp only [awaitFor, hn]
    exact skipPass_works hc s
  | some n =>
    have hh : s.library.has p.document.uri = true := by
      rw [Library.has, Table.has, show Table.get? s.library.entries _ = _ from hn]
      rfl
    simp only [awaitFor, hn]
    refine await_works mute n (w := .pass p) hc ?_ s ?_
    · intro q he
      injection he with he
      exact he ▸ hq hh
    · intro e he
      exact hD e (by simp only [passEnding, hn, Option.bind_some, he])

end

/-! ## Resolutions -/

/-- Whatever waited for an entry is told; it is the same work. -/
theorem settled_works (n : Nat) (outcome : Except Failure Engine) (s : Session) :
    Works c Q calm D s (s.settled n outcome) := by
  refine { (Works.refl s : Works c Q calm D s s) with
    work := ⟨0, ?_, fun k hk => by simp at hk⟩ }
  have hm : ∀ ws : List (Nat × Waiter), (ws.map tell).filterMap Task.work = ws.map (·.2.work) := by
    intro ws
    rw [List.filterMap_map, ← List.filterMap_eq_map]
    rfl
  have hp : ((s.waiters.map (·.2.work) : List Work) : Multiset Work) =
      ((s.waiters.filter (·.1 == n)).map (·.2.work) : List Work) +
        ((s.waiters.filter (fun w => !(w.1 == n))).map (·.2.work) : List Work) := by
    rw [Multiset.coe_add, ← List.map_append, Multiset.coe_eq_coe]
    exact ((List.filter_append_perm _ _).map _).symm
  simp only [settled, List.partition_eq_filter_filter, work_enqueue, hm, add_zero]
  simp only [Session.work, hp, Function.comp_def]
  abel

theorem engineFor_works (env : Surroundings) (path : String) (s : Session) :
    Works c Q calm D s (s.engineFor env path).1 := by
  unfold engineFor
  split
  · exact .refl s
  · split
    · exact .refl s
    · refine .of_emit [.built path] ?_ rfl rfl rfl rfl rfl rfl rfl
      intro uri found hm
      cases hm

theorem loadFailed_works (n : Nat) (uri : String) (f : Failure) (s : Session) :
    Works c Q calm D s (s.loadFailed n uri f) := by
  refine (settled_works n (.error f) s).trans (emitPlain_works _ ?_)
  intro m hm
  rw [List.mem_singleton.mp hm]
  rfl

theorem searchFor_works (env : Surroundings) (n : Nat) (d : Document) (s : Session) :
    Works c Q calm D s (s.searchFor env n d) := by
  have begun : Works c Q calm D s (s.emit [.searched n d.uri]) :=
    emitPlain_works s fun m hm => by cases hm
  simp only [searchFor]
  split
  · exact begun.trans (loadFailed_works n d.uri _ _)
  · rename_i path _
    have h : Works c Q calm D s ((s.emit [.searched n d.uri]).engineFor env path).1 :=
      begun.trans (engineFor_works env path _)
    split <;> rename_i he <;> rw [he] at h
    · exact h.trans (loadFailed_works n d.uri _ _)
    · refine h.trans ((settled_works n _ _).trans (emitPlain_works _ ?_))
      intro m hm
      rw [List.mem_singleton.mp hm]
      rfl

theorem look_works (env : Surroundings) (n : Nat) (s : Session) :
    Works c Q calm D s (s.look env n) := by
  unfold look
  split
  · exact .refl s
  · split
    · exact .of_eq rfl rfl rfl rfl rfl rfl rfl
    · exact searchFor_works env n _ s

theorem goOn_works (env : Surroundings) (n : Nat) (s : Session) :
    Works c Q calm D s (s.goOn env n) := by
  unfold goOn
  split
  · exact .refl s
  · exact searchFor_works env n _ s

/-! ## Batches and probes -/

theorem lookup_append_of_ne {call other : Nat} (h : other ≠ call) (b : Batch)
    (bs : List (Nat × Batch)) : (bs ++ [(call, b)]).lookup other = bs.lookup other := by
  have hne : (other == call) = false := by simpa using h
  rw [List.lookup_append, List.lookup_cons, hne]
  exact Option.or_none

theorem beginBatch_works (call : Nat) (ds : List Document) (s : Session) :
    Works call Q calm D s (s.beginBatch call ds) := by
  simp only [beginBatch]
  split
  · exact concluded_works call _ s
  · have h : ∀ b : Batch, Works call Q calm D s { s with batches := s.batches ++ [(call, b)] } :=
      fun b => { (Works.refl s : Works call Q calm D s s) with
        batches := fun _ ho => lookup_append_of_ne ho b s.batches }
    refine (h _).trans (enqueue_works _ ?_)
    intro k hk
    obtain ⟨t, ht, hk⟩ := List.mem_filterMap.mp hk
    obtain ⟨i, hi, rfl⟩ := List.mem_mapIdx.mp ht
    injection hk with hk
    subst hk
    exact ⟨rfl, fun p hp => by cases hp⟩

theorem beginAll_works (call : Nat) (s : Session) : Works call Q calm D s (s.beginAll call) := by
  unfold beginAll
  split
  · exact beginBatch_works call _ s
  · exact done_works call _ s

theorem endProbe_works (call : Nat) (file : String) (outcome : Except Failure (Option Report))
    (s : Session) : Works c Q calm D s (s.endProbe call file outcome) := by
  unfold endProbe
  split
  · exact (emitPlain_works s fun m hm => by cases hm).done call _
  · exact done_works call _ s

theorem beginProbe_works {env : Surroundings} (mute : env.Mute) (call : Nat)
    (file engine : String) (s : Session) :
    Works call Q calm D s (s.beginProbe env call file engine) := by
  simp only [beginProbe]
  split
  · exact done_works call _ s
  · rename_i name _
    have begun : Works call Q calm D s (s.invoke env engine "" name).1 :=
      invoke_works mute engine _ name s
    split
    · refine begun.trans (keep_works _ _ _ rfl ?_)
      intro p hp
      cases hp
    · exact begun.trans (endProbe_works call file _ _)

theorem has_erase_of_not {α : Type} {entries : List (String × α)} {key : String} (other : String)
    (h : Table.has entries key = false) : Table.has (Table.erase entries other) key = false := by
  by_cases hk : key = other
  · rw [hk, Table.has, Table.get?_erase_self]
    rfl
  · rw [Table.has, Table.get?_erase_of_ne hk]
    exact h

theorem reconsidered_works (hcalm : ¬ calm) (file : String)
    (outcome : Except Failure (Option Report)) (s : Session) :
    Works c Q calm D s (s.reconsidered file outcome) := by
  unfold reconsidered
  split
  · exact emitPlain_works s fun m hm => by cases hm
  · refine Works.trans ?_ (emitPlain_works _ fun m hm => by cases hm)
    refine { (Works.refl s : Works c Q calm D s s) with reported := fun h => ?_ }
    exact .of_forgotten (h.resolve_left hcalm) (fun _ hn => hn) fun _ hb => has_erase_of_not file hb

theorem forgetNoConfig_works (hcalm : ¬ calm) (s : Session) :
    Works c Q calm D s s.forgetNoConfig :=
  { (Works.refl s : Works c Q calm D s s) with
    reported := fun h => .of_forgotten (h.resolve_left hcalm) (fun _ _ => rfl) fun _ hb => hb }

theorem reconsider_works {env : Surroundings} (mute : env.Mute) (hcalm : ¬ calm) (call : Nat)
    (uris : List String) (s : Session) :
    Works call Q calm D s (s.reconsider env call uris) := by
  -- a probe that is held takes the files after it along; one that ends goes on with them
  induction uris generalizing s with
  | nil => exact beginAll_works call s
  | cons uri rest ih =>
    simp only [reconsider]
    split
    · exact done_works call _ s
    · rename_i file _
      split
      · exact ih s
      · rename_i engine name _
        have begun : Works call Q calm D s (s.invoke env engine "" name).1 :=
          invoke_works mute engine _ name s
        split
        · refine begun.trans (keep_works _ _ _ rfl ?_)
          intro p hp
          cases hp
        · exact begun.trans ((reconsidered_works hcalm file _ _).trans (ih _))

/-! ## Tasks -/

/-- The work that a task may leave: its pass was waiting before, or there is an entry for its
document. -/
def Admits (s : Session) (task : Task) : Work → Prop
  | .waiting p | .linting p =>
    task.work = some (.waiting p) ∨ s.library.has p.document.uri = true
  | _ => True

theorem lets_admits {task : Task} {p : Pass}
    (h : task.work = some (.waiting p) ∨ s.library.has p.document.uri = true) :
    Lets (s.Admits task) p := ⟨h, h⟩

theorem waiting_of_admits {task : Task} {k : Work} {p : Pass} (hk : k.begun? = some p)
    (h : s.Admits task k) :
    task.work = some (.waiting p) ∨ s.library.has p.document.uri = true := by
  cases k with
  | waiting q | linting q =>
    cases hk
    exact h
  | _ => cases hk

/-- What a task does, whose work belongs to a call. Only a reconsideration takes back what was
told of, and diagnostics come only from a pass that ends with a report. -/
theorem perform_works {env : Surroundings} (mute : env.Mute) {task : Task}
    (hc : ∀ k, task.work = some k → k.call = c) (s : Session) :
    Works c (s.Admits task) (task.reconsiders = false)
      (fun uri => ∃ e, s.ending env task = some e ∧ e.document.uri = uri ∧
        ∃ report, e.outcome = .ok report)
      s (s.perform env task) := by
  have within : ∀ e, s.ending env task = some e → e.Within fun uri =>
      ∃ e, s.ending env task = some e ∧ e.document.uri = uri ∧ ∃ report, e.outcome = .ok report :=
    fun e he report hr => ⟨e, he, rfl, report, hr⟩
  cases task with
  | look n => exact look_works env n s
  | search n => exact goOn_works env n s
  | start call goal =>
    have hc : call = c := hc _ rfl
    subst hc
    cases goal with
    | lookUp uri => exact lookUp_works env uri call s
    | validate d =>
      exact awaitFor_works mute (p := ⟨d, .alone call⟩) rfl (fun h => lets_admits (.inr h)) within
    | validateMany ds => exact beginBatch_works call ds s
    | validateAll => exact beginAll_works call s
    | reconsider uris =>
      have loud : ¬ (Task.start call (.reconsider uris)).reconsiders = false := by
        simp [Task.reconsiders]
      exact (forgetNoConfig_works loud s).trans (reconsider_works mute loud call uris _)
    | probe file engine => exact beginProbe_works mute call file engine s
  | pass p => exact awaitFor_works mute (hc _ rfl) (fun h => lets_admits (.inr h)) within
  | relay n w =>
    refine enqueueOne_works s rfl (hc _ rfl) fun p hp => ?_
    cases w with
    | lookUp call => cases hp
    | pass q => exact .inl rfl
  | wake n w =>
    refine await_works mute n (hc _ rfl) (fun p hp => ?_) s within
    subst hp
    exact lets_admits (.inl rfl)
  | ended r =>
    obtain ⟨name, purpose, outcome⟩ := r
    cases purpose with
    | pass p engine =>
      exact endPass_works (hc _ rfl) engine (within _ rfl) s
    | probe call file => exact endProbe_works call file outcome s
    | reconsider call file rest =>
      have hc : call = c := hc _ rfl
      subst hc
      have loud : ¬ (Task.ended ⟨name, .reconsider call file rest, outcome⟩).reconsiders =
          false := by simp [Task.reconsiders]
      exact (reconsidered_works loud file outcome s).trans (reconsider_works mute loud call rest _)
  | tally call =>
    have hc : call = c := hc _ rfl
    subst hc
    exact tally_works call s
  | conclude call =>
    have hc : call = c := hc _ rfl
    subst hc
    exact conclude_works call s
  | report f =>
    refine emitPlain_works s fun m hm => ?_
    rw [List.mem_singleton.mp hm]
    rfl

end Session

end LintServer
