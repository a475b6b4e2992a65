/-
  LintServer.Proofs.Interleaving — what can happen to a server, in any order.

  Messages come at any time, also while tasks that became ready together are only partly done.
  A task that was taken in hand is done whole; which one is done next, which lint run ends and
  which resolution goes on, is left open, and so is what the surroundings are at that moment.
  A shutdown drops the work in hand with the rest.
  - `Moment`, `Move`, `Reach`: the states a server can get into, each with what happened on the
    way to it.
  - `Reach.settle`, `Reach.receive`, `Reach.release`: doing all that is ready after each event
    is one of the orders.
-/

import LintServer.Proofs.Messages

namespace LintServer

open Session (Running Task)

/-- A server, and the tasks that were taken in hand and are not done. -/
structure Moment where
  server : Server
  inHand : List Task := []

inductive Move where
  | message (x : Incoming)
  /-- All that is ready is taken in hand. -/
  | take
  /-- The task at a place in hand is done. -/
  | task (env : Surroundings) (place : Nat)
  /-- The lint run at a place ends. -/
  | runEnds (place : Nat)
  /-- The waiting resolution at a place goes on. -/
  | found (place : Nat)
  | signal (n : Int)
  | time (seconds : Delay)

/-- The keys of the documents that are open before a message and not after it. -/
def Server.shutBy (s : Server) (x : Incoming) : List String :=
  (Table.keys s.session.documents).filter (!Table.has (s.handle x).session.documents ·)

namespace Moment

def snapshots (m : Moment) : List Document :=
  m.server.session.snapshots ++ m.inHand.flatMap Task.snapshots

def runs (m : Moment) : List Running := m.server.session.runs ++ m.inHand.filterMap Task.run?

def registry (m : Moment) : FixRegistry := m.server.session.registry

def next (m : Moment) : Move → Moment
  | .message x =>
    if m.server.hears x then
      { server := m.server.handle x
        inHand := match x with
          | .shutdown _ => []
          | _ => m.inHand }
    else m
  | .take =>
    { server := { m.server with session.ready := [] }
      inHand := m.inHand ++ m.server.session.ready }
  | .task env place =>
    match m.inHand[place]? with
    | none => m
    | some t =>
      { server := { m.server with session := m.server.session.perform env t }
        inHand := m.inHand.eraseIdx place }
  | .runEnds place =>
    match m.server.session.running[place]? with
    | none => m
    | some r =>
      let session := m.server.session
      let session := { session with running := session.running.eraseIdx place }
      { m with server := { m.server with session := session.enqueue [.ended r] } }
  | .found place =>
    match m.server.session.waitingSearches[place]? with
    | none => m
    | some n =>
      let session := m.server.session
      let session := { session with waitingSearches := session.waitingSearches.eraseIdx place }
      { m with server := { m.server with session := session.enqueue [.search n] } }
  | .signal n => { m with server := (m.server.signal n).1 }
  | .time seconds => { m with server := (m.server.advance seconds).1 }

/-- What happens in a move, in order. -/
def noted (m : Moment) : Move → List Happening
  | .message x =>
    if m.server.hears x then
      m.server.forgets x ++ (m.server.shutBy x).map (Happening.shut · m.snapshots)
    else []
  | .task env place =>
    match m.inHand[place]? with
    | none => []
    | some t => ((m.server.session.ending env t).map Happening.passed).toList
  | _ => []

/-- Tasks are done in surroundings of a `world`, and messages come from a `client`. -/
def Allowed (world : Surroundings → Prop) (client : Server → Incoming → Prop) (m : Moment) :
    Move → Prop
  | .message x => client m.server x
  | .task env _ => world env
  | _ => True

end Moment

/-- A moment that a server can get into, and what happened until then. -/
inductive Reach (world : Surroundings → Prop) (client : Server → Incoming → Prop) :
    Moment → List Happening → Prop
  | init (config : Config) (exit : Exit) :
      Reach world client { server := { Server.ofConfig config with exit } } []
  | step {m : Moment} {log : List Happening} (h : Reach world client m log) (mv : Move)
      (allowed : m.Allowed world client mv) :
      Reach world client (m.next mv) (log ++ m.noted mv)

namespace Moment

/-- The moment after some moves. -/
def after (m : Moment) (moves : List Move) : Moment := moves.foldl next m

/-- What happens in the course of some moves. -/
def story (m : Moment) : List Move → List Happening
  | [] => []
  | mv :: rest => m.noted mv ++ (m.next mv).story rest

/-- Each of some moves is allowed when it is made. -/
def AllAllowed (world : Surroundings → Prop) (client : Server → Incoming → Prop) (m : Moment) :
    List Move → Prop
  | [] => True
  | mv :: rest => m.Allowed world client mv ∧ (m.next mv).AllAllowed world client rest

end Moment

namespace Reach

variable {world : Surroundings → Prop} {client : Server → Incoming → Prop}

theorem after {m : Moment} {log : List Happening} {moves : List Move}
    (h : Reach world client m log) (allowed : m.AllAllowed world client moves) :
    Reach world client (m.after moves) (log ++ m.story moves) := by
  induction moves generalizing m log with
  | nil =>
    rw [Moment.story, List.append_nil]
    exact h
  | cons mv rest ih =>
    have hr := ih (h.step mv allowed.1) allowed.2
    rwa [List.append_assoc] at hr

/-! ## Doing all that is ready -/

/-- The tasks in hand are done in order. -/
theorem perform {env : Surroundings} (henv : world env) {s : Server} {log : List Happening}
    (ts : List Task) (h : Reach world client ⟨s, ts⟩ log) :
    ∃ more, Reach world client
      ⟨{ s with session := ts.foldl (Session.perform env) s.session }, []⟩ (log ++ more) := by
  induction ts generalizing s log with
  | nil => exact ⟨[], by rwa [List.append_nil]⟩
  | cons t rest ih =>
    -- the task in front is done; what it makes ready is not taken in hand yet
    have first : Reach world client ⟨{ s with session := s.session.perform env t }, rest⟩
        (log ++ Moment.noted ⟨s, t :: rest⟩ (.task env 0)) := h.step (.task env 0) henv
    obtain ⟨more, hr⟩ := ih first
    exact ⟨_, by rwa [List.append_assoc] at hr⟩

theorem round {env : Surroundings} (henv : world env) {s : Server} {log : List Happening}
    (h : Reach world client ⟨s, []⟩ log) :
    ∃ more, Reach world client ⟨{ s with session := s.session.round env }, []⟩ (log ++ more) := by
  have taken : Reach world client ⟨{ s with session.ready := [] }, s.session.ready⟩ log := by
    have ht := h.step .take trivial
    rwa [show Moment.noted _ .take = [] from rfl, List.append_nil] at ht
  exact perform henv s.session.ready taken

theorem settle {env : Surroundings} (henv : world env) {s : Server} {log : List Happening}
    (h : Reach world client ⟨s, []⟩ log) :
    ∃ more, Reach world client ⟨s.settle env, []⟩ (log ++ more) := by
  have rounds : ∀ n, ∃ more, Reach world client
      ⟨{ s with session := Nat.repeat (Session.round env) n s.session }, []⟩ (log ++ more) := by
    intro n
    induction n with
    | zero => exact ⟨[], by rwa [List.append_nil]⟩
    | succ n ih =>
      obtain ⟨more, hm⟩ := ih
      obtain ⟨last, hl⟩ := round henv hm
      exact ⟨_, by rwa [List.append_assoc] at hl⟩
  exact rounds Session.rounds

theorem receive {env : Surroundings} (henv : world env) {s : Server} {log : List Happening}
    (h : Reach world client ⟨s, []⟩ log) {x : Incoming} (hx : client s x) :
    ∃ more, Reach world client ⟨s.receive env x, []⟩ (log ++ more) := by
  have heard := h.step (.message x) hx
  cases hh : s.hears x with
  | false =>
    rw [Server.receive, if_neg (by simp [hh])]
    exact ⟨[], by rwa [List.append_nil]⟩
  | true =>
    have hn : Moment.next ⟨s, []⟩ (.message x) = ⟨s.handle x, []⟩ := by
      simp only [Moment.next, hh, if_true]
      cases x <;> rfl
    rw [hn] at heard
    obtain ⟨more, hm⟩ := settle henv heard
    rw [Server.receive, if_pos hh]
    exact ⟨_, by rwa [List.append_assoc] at hm⟩

/-- Erasing what is found is erasing at its place. -/
theorem eraseP_of_find? {α : Type} {p : α → Bool} {xs : List α} {x : α}
    (h : xs.find? p = some x) : xs.eraseP p = xs.eraseIdx (xs.findIdx p) := by
  have hi := List.findIdx?_eq_some_of_exists
    ⟨x, List.mem_of_find?_eq_some h, List.find?_some h⟩
  simp only [List.eraseP_eq_eraseIdx, hi]

/-- The first run under a name is one of those that can end. -/
theorem release {env : Surroundings} (henv : world env) {s : Server} {log : List Happening}
    (h : Reach world client ⟨s, []⟩ log) (name : String) :
    ∃ more, Reach world client ⟨(s.release env name).1, []⟩ (log ++ more) := by
  have ended : Reach world client ⟨{ s with session := (s.session.release name).1 }, []⟩ log := by
    have hm := h.step (.runEnds (s.session.running.findIdx (·.name == name))) trivial
    rw [show Moment.noted _ (.runEnds _) = [] from rfl, List.append_nil] at hm
    simp only [Moment.next, ← List.find?_eq_getElem?_findIdx] at hm
    unfold Session.release
    cases hf : s.session.running.find? (·.name == name) with
    | none => exact h
    | some r =>
      simp only [hf] at hm
      rw [eraseP_of_find? hf]
      exact hm
  exact settle henv ended

/-- And so with the first resolution of a document that waits. -/
theorem releaseLibrary {env : Surroundings} (henv : world env) {s : Server}
    {log : List Happening} (h : Reach world client ⟨s, []⟩ log) (uri : String) :
    ∃ more, Reach world client ⟨(s.releaseLibrary env uri).1, []⟩ (log ++ more) := by
  let isFor := fun n => ((s.session.library.entry? n).map (·.document.uri)) == some uri
  have goes : Reach world client
      ⟨{ s with session := (s.session.releaseLibrary uri).1 }, []⟩ log := by
    have hm := h.step (.found (s.session.waitingSearches.findIdx isFor)) trivial
    rw [show Moment.noted _ (.found _) = [] from rfl, List.append_nil] at hm
    simp only [Moment.next, ← List.find?_eq_getElem?_findIdx] at hm
    unfold Session.releaseLibrary
    cases hf : s.session.waitingSearches.find? isFor with
    | none => simpa only [isFor, hf] using h
    | some n =>
      have he := eraseP_of_find? hf
      simp only [hf] at hm
      simp only [isFor] at hf he hm
      simp only [hf, he]
      exact hm
  exact settle henv goes

end Reach

/-! ## What a move does -/

namespace Moment

/-- The open documents after a move. -/
def documentsAfter (m : Moment) : Move → Documents
  | .message x => if m.server.hears x then m.server.documentsAfter x else m.server.session.documents
  | _ => m.server.session.documents

/-- All that a move does to documents, fixes and work. A snapshot that was not under way is of a
document open now, a new lint run comes out as `G` allows, and the passes that end were under
way. -/
structure Moves (G : Text → Except Failure (Option Report) → Prop) (m : Moment) (mv : Move) :
    Prop where
  documents : (m.next mv).server.session.documents = m.documentsAfter mv
  registry : (m.next mv).registry = (m.noted mv).foldl Happening.applied m.registry
  snapshots : ∀ d ∈ (m.next mv).snapshots, d ∈ m.snapshots ∨ d ∈ (m.documentsAfter mv).all
  runs : ∀ r ∈ (m.next mv).runs, r ∈ m.runs ∨ r.Says G
  passed : ∀ e, .passed e ∈ m.noted mv → e.document ∈ m.snapshots ∧
    ∀ report, e.outcome = .ok report → G e.document.text (.ok report)

variable {G : Text → Except Failure (Option Report) → Prop} {m : Moment}

theorem mem_snapshots {d : Document} : d ∈ m.snapshots ↔
    d ∈ m.server.session.snapshots ∨ ∃ t ∈ m.inHand, d ∈ t.snapshots := by
  simp only [Moment.snapshots, List.mem_append, List.mem_flatMap]

theorem mem_runs {r : Running} : r ∈ m.runs ↔
    r ∈ m.server.session.runs ∨ ∃ t ∈ m.inHand, t.run? = some r := by
  simp only [Moment.runs, List.mem_append, List.mem_filterMap]

theorem Moves.of_idle {mv : Move} (hn : m.noted mv = [])
    (hd : (m.next mv).server.session.documents = m.documentsAfter mv)
    (hr : (m.next mv).registry = m.registry)
    (hs : ∀ d ∈ (m.next mv).snapshots, d ∈ m.snapshots)
    (hu : ∀ r ∈ (m.next mv).runs, r ∈ m.runs) : Moves G m mv where
  documents := hd
  registry := by
    rw [hn]
    exact hr
  snapshots d h := .inl (hs d h)
  runs r h := .inl (hu r h)
  passed e h := by
    rw [hn] at h
    cases h

/-- A move that begins with a change of documents and fixes and goes on from there. -/
theorem Moves.of_leads {mv : Move} {Q : Document → Prop} {b : Session}
    (hs : b.snapshots = m.server.session.snapshots) (hu : b.runs = m.server.session.runs)
    (hd : b.documents = m.documentsAfter mv)
    (hr : b.registry = (m.noted mv).foldl Happening.applied m.registry)
    (h : Session.Leads Q G b (m.next mv).server.session)
    (hQ : ∀ d, Q d → d ∈ m.snapshots ∨ d ∈ (m.documentsAfter mv).all)
    (hi : ∀ t ∈ (m.next mv).inHand, t ∈ m.inHand)
    (hp : ∀ e, .passed e ∈ m.noted mv → e.document ∈ m.snapshots ∧
      ∀ report, e.outcome = .ok report → G e.document.text (.ok report)) : Moves G m mv := by
  refine ⟨h.documents.trans hd, h.registry.trans hr, ?_, ?_, hp⟩
  · intro d hm
    rcases mem_snapshots.mp hm with hm | ⟨t, ht, hm⟩
    · rcases h.snapshots d hm with hm | hm
      · rw [hs] at hm
        exact .inl (mem_snapshots.mpr (.inl hm))
      · exact hQ d hm
    · exact .inl (mem_snapshots.mpr (.inr ⟨t, hi t ht, hm⟩))
  · intro r hm
    rcases mem_runs.mp hm with hm | ⟨t, ht, hm⟩
    · rcases h.runs r hm with hm | hm
      · rw [hu] at hm
        exact .inl (mem_runs.mpr (.inl hm))
      · exact .inr hm
    · exact .inl (mem_runs.mpr (.inr ⟨t, hi t ht, hm⟩))

theorem Moves.of_emit {mv : Move} (hn : m.noted mv = [])
    (hd : m.documentsAfter mv = m.server.session.documents)
    (hi : (m.next mv).inHand = m.inHand)
    (h : ∃ es, (m.next mv).server.session = m.server.session.emit es) : Moves G m mv := by
  obtain ⟨es, h⟩ := h
  refine .of_leads (Q := fun _ => False) (b := m.server.session) rfl rfl hd.symm ?_ ?_ ?_ ?_ ?_
  · rw [hn]
    rfl
  · rw [h]
    exact Session.emit_leads es _
  · exact fun _ hd => hd.elim
  · rw [hi]
    exact fun _ ht => ht
  · intro e he
    rw [hn] at he
    cases he

/-- What a message takes from the fixes is taken by a close or by a shutdown. -/
theorem mem_forgets {s : Server} {x : Incoming} {h : Happening} (hm : h ∈ s.forgets x) :
    (∃ uri, h = .forgotten uri) ∨ h = .down := by
  cases x with
  | didClose uri =>
    simp only [Server.forgets] at hm
    split at hm
    · exact .inl ⟨uri, List.mem_singleton.mp hm⟩
    · cases hm
  | shutdown id => exact .inr (List.mem_singleton.mp hm)
  | _ => cases hm

theorem not_passed_of_forgets {s : Server} {x : Incoming} {e : Session.Ending} :
    .passed e ∉ s.forgets x := by
  intro h
  rcases mem_forgets h with ⟨uri, h⟩ | h <;> cases h

theorem not_shut_of_forgets {s : Server} {x : Incoming} {key : String} {u : List Document} :
    .shut key u ∉ s.forgets x := by
  intro h
  rcases mem_forgets h with ⟨uri, h⟩ | h <;> cases h

/-- No pass ends with a message. -/
theorem not_passed_of_message {x : Incoming} {e : Session.Ending} :
    .passed e ∉ m.noted (.message x) := by
  intro he
  simp only [noted] at he
  split at he
  · rcases List.mem_append.mp he with he | he
    · exact not_passed_of_forgets he
    · obtain ⟨key, -, hk⟩ := List.mem_map.mp he
      cases hk
  · cases he

/-- A message drops the work in hand or leaves it. -/
theorem message_moves (m : Moment) (x : Incoming) : Moves G m (.message x) := by
  cases hh : m.server.hears x with
  | false =>
    refine .of_emit ?_ ?_ ?_ ⟨[], ?_⟩
    · simp only [noted, hh, Bool.false_eq_true, if_false]
    · simp only [documentsAfter, hh, Bool.false_eq_true, if_false]
    · simp only [next, hh, Bool.false_eq_true, if_false]
    · simp only [next, hh, Bool.false_eq_true, if_false, Session.emit, List.append_nil]
  | true =>
    have hd : m.documentsAfter (.message x) = m.server.documentsAfter x := by
      simp only [documentsAfter, hh, if_true]
    have hs : (m.next (.message x)).server = m.server.handle x := by
      simp only [next, hh, if_true]
    have hn : m.noted (.message x) = m.server.forgets x ++
        (m.server.shutBy x).map (Happening.shut · m.snapshots) := by
      simp only [noted, hh, if_true]
    have shut : ∀ (keys : List String) (r : FixRegistry),
        (keys.map (Happening.shut · m.snapshots)).foldl Happening.applied r = r := by
      intro keys r
      induction keys with
      | nil => rfl
      | cons key keys ih => exact ih
    refine .of_leads (b := m.server.changedBy x) rfl rfl hd.symm ?_ ?_
      (Q := (· ∈ (m.server.documentsAfter x).all)) ?_ ?_ ?_
    · rw [hn, List.foldl_append, shut]
      rfl
    · rw [hs]
      exact Server.handle_leads m.server x fun _ hd => hd
    · rw [hd]
      exact fun _ hd => .inr hd
    · simp only [next, hh, if_true]
      intro t ht
      split at ht
      · cases ht
      · exact ht
    · exact fun e he => absurd he not_passed_of_message

theorem take_moves (m : Moment) : Moves G m .take := by
  refine .of_idle rfl rfl rfl ?_ ?_
  · intro d hd
    rcases mem_snapshots.mp hd with hd | ⟨t, ht, hd⟩
    · refine mem_snapshots.mpr (.inl (Session.mem_snapshots.mpr ?_))
      rcases Session.mem_snapshots.mp hd with hd | hd | ⟨t, ht, _⟩
      · exact .inl hd
      · exact .inr (.inl hd)
      · cases ht
    · rcases List.mem_append.mp ht with ht | ht
      · exact mem_snapshots.mpr (.inr ⟨t, ht, hd⟩)
      · exact mem_snapshots.mpr (.inl (Session.mem_snapshots.mpr (.inr (.inr ⟨t, ht, hd⟩))))
  · intro r hr
    rcases mem_runs.mp hr with hr | ⟨t, ht, hr⟩
    · rcases Session.mem_runs.mp hr with hr | ⟨t, ht, _⟩
      · exact mem_runs.mpr (.inl (Session.mem_runs.mpr (.inl hr)))
      · cases ht
    · rcases List.mem_append.mp ht with ht | ht
      · exact mem_runs.mpr (.inr ⟨t, ht, hr⟩)
      · exact mem_runs.mpr (.inl (Session.mem_runs.mpr (.inr ⟨t, ht, hr⟩)))

theorem task_moves {env : Surroundings}
    (henv : ∀ engine text file options, G text (env.run engine text file options).outcome)
    (m : Moment) (place : Nat) (hr : ∀ r ∈ m.runs, r.Says G) : Moves G m (.task env place) := by
  cases ht : m.inHand[place]? with
  | none =>
    refine .of_emit ?_ rfl ?_ ⟨[], ?_⟩
    · simp only [noted, ht]
    · simp only [next, ht]
    · simp only [next, ht, Session.emit, List.append_nil]
  | some t =>
    have hm : t ∈ m.inHand := List.mem_of_getElem? ht
    have hn : m.noted (.task env place) =
        ((m.server.session.ending env t).map Happening.passed).toList := by
      simp only [noted, ht]
    -- the pass that the task ends rebuilds its fixes first; all else leads on from there
    refine .of_leads (b := m.server.session.after (m.server.session.ending env t))
      (Q := fun d => d ∈ t.snapshots ∨ d ∈ m.server.session.documents.all) ?_ ?_ ?_ ?_ ?_ ?_ ?_ ?_
    · cases m.server.session.ending env t <;> rfl
    · cases m.server.session.ending env t <;> rfl
    · cases m.server.session.ending env t <;> rfl
    · rw [hn]
      cases m.server.session.ending env t <;> rfl
    · simp only [next, ht]
      exact Session.perform_leads henv (fun _ hd => .inl hd) _ fun _ hd => .inr hd
    · intro d hd
      exact hd.imp_left fun hd => mem_snapshots.mpr (.inr ⟨t, hm, hd⟩)
    · simp only [next, ht]
      exact fun u hu => List.mem_of_mem_eraseIdx hu
    · intro e he
      rw [hn, Option.mem_toList, Option.map_eq_some_iff] at he
      obtain ⟨e', he, heq⟩ := he
      injection heq with heq
      rw [heq] at he
      obtain ⟨hd, ho⟩ := Session.ending_spec henv
        (fun r hq => hr r (mem_runs.mpr (.inr ⟨t, hm, hq⟩))) he
      exact ⟨mem_snapshots.mpr (.inr ⟨t, hm, hd⟩), ho⟩

theorem runEnds_moves (m : Moment) (place : Nat) : Moves G m (.runEnds place) := by
  cases hr : m.server.session.running[place]? with
  | none =>
    refine .of_emit rfl rfl ?_ ⟨[], ?_⟩
    · simp only [next, hr]
    · simp only [next, hr, Session.emit, List.append_nil]
  | some r =>
    have hm : r ∈ m.server.session.running := List.mem_of_getElem? hr
    refine .of_idle rfl ?_ ?_ ?_ ?_ <;> simp only [next, hr]
    · rfl
    · rfl
    · intro d hd
      rcases mem_snapshots.mp hd with hd | hd
      · refine mem_snapshots.mpr (.inl (Session.mem_snapshots.mpr ?_))
        rcases Session.mem_snapshots.mp hd with hd | ⟨q, hq, hd⟩ | ⟨t, ht, hd⟩
        · exact .inl hd
        · exact .inr (.inl ⟨q, List.mem_of_mem_eraseIdx hq, hd⟩)
        · rcases List.mem_append.mp ht with ht | ht
          · exact .inr (.inr ⟨t, ht, hd⟩)
          · rw [List.mem_singleton.mp ht] at hd
            exact .inr (.inl ⟨r, hm, hd⟩)
      · exact mem_snapshots.mpr (.inr hd)
    · intro q hq
      rcases mem_runs.mp hq with hq | hq
      · refine mem_runs.mpr (.inl (Session.mem_runs.mpr ?_))
        rcases Session.mem_runs.mp hq with hq | ⟨t, ht, hq⟩
        · exact .inl (List.mem_of_mem_eraseIdx hq)
        · rcases List.mem_append.mp ht with ht | ht
          · exact .inr ⟨t, ht, hq⟩
          · rw [List.mem_singleton.mp ht] at hq
            injection hq with hq
            exact .inl (hq ▸ hm)
      · exact mem_runs.mpr (.inr hq)

theorem found_moves (m : Moment) (place : Nat) : Moves G m (.found place) := by
  cases hp : m.server.session.waitingSearches[place]? with
  | none =>
    refine .of_emit rfl rfl ?_ ⟨[], ?_⟩
    · simp only [next, hp]
    · simp only [next, hp, Session.emit, List.append_nil]
  | some n =>
    have h : Session.Leads (fun _ => False) G m.server.session
        { m.server.session with
          waitingSearches := m.server.session.waitingSearches.eraseIdx place } :=
      .of_eq rfl rfl rfl rfl rfl
    refine .of_leads (b := m.server.session) (Q := fun _ => False) rfl rfl rfl rfl ?_ ?_ ?_ ?_
    · simp only [next, hp]
      refine h.trans (Session.enqueueOne_leads _ ?_ rfl)
      intro d hd
      cases hd
    · exact fun _ hd => hd.elim
    · simp only [next, hp]
      exact fun _ ht => ht
    · intro e he
      cases he

theorem next_moves {world : Surroundings → Prop} {client : Server → Incoming → Prop}
    (hG : ∀ env, world env → ∀ engine text file options,
      G text (env.run engine text file options).outcome)
    {mv : Move} (allowed : m.Allowed world client mv) (hr : ∀ r ∈ m.runs, r.Says G) :
    Moves G m mv := by
  cases mv with
  | message x => exact message_moves m x
  | take => exact take_moves m
  | task env place => exact task_moves (hG env allowed) m place hr
  | runEnds place => exact runEnds_moves m place
  | found place => exact found_moves m place
  -- signals and time are between the server and its exit; only what is said of it stays
  | signal n => exact .of_emit rfl rfl rfl ⟨_, rfl⟩
  | time seconds => exact .of_emit rfl rfl rfl ⟨_, rfl⟩

end Moment

/-! ## A slow engine -/

/-- One problem, to be fixed by writing the linted text in front of itself. -/
def verdictOn (text : String) : Report :=
  { results := [{ problems := [some
      { line := 1, column := 1, severity := 2, rule := .str "semi", message := .str "",
        edit := some ⟨0, 0, .str text⟩ }] }] }

/-- Surroundings in which linters are found at once and every lint run is held. -/
def slowEngine : Surroundings where
  find _ _ := .ok "eslint"
  waits _ := false
  build _ := .ok ()
  run _ text _ _ :=
    { effects := [], held := some text.string, outcome := .ok (some (verdictOn text.string)) }

/-- A server that was just started. -/
def started : Moment := { server := { Server.ofConfig {} with exit := {} } }

/-- A text of the one document of the examples. -/
def draft (version : Int) (text : String) : Document := { uri := "file:///a.js", version, text }

/-- The fixes that the report on a text leaves. -/
def verdictTable (version : Int) (text : String) : FixTable :=
  [("[0,0,0,0]-semi",
    { label := "Fix this semi problem", version, rule := .str "semi",
      edit := ⟨0, 0, .str text⟩ })]

end LintServer
