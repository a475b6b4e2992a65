/-
  LintServer.Proofs.Moments — what a move does to the work under way and to what was told.

  Only a task changes the work of a call that has begun, and only a task of that call. A pass
  begins only over a document that has an entry; an entry goes only with the close of its
  document, which is told that there are no diagnostics; and other diagnostics are told only by a
  pass that ends with a report.
  - `Server.Heard`, `handle_heard`: what a message does.
  - `Moment.Carries`, `next_carries`: what a move does, short of a shutdown.
-/

import LintServer.Proofs.Work

namespace LintServer

open Session (Task Work)

/-! ## Messages -/

def Incoming.isShutdown : Incoming → Bool
  | .shutdown _ => true
  | _ => false

/-- The client asks for no shutdown. -/
def Server.StaysUp (_ : Server) (x : Incoming) : Prop := x.isShutdown = false

namespace Session

/-- What a message leaves of a session when it begins no call and takes no entry away. -/
structure Keeps (s t : Session) : Prop where
  work : t.work = s.work
  listed : ∀ uri, t.library.has uri = false → s.library.has uri = false
  batches : t.batches = s.batches
  reported : t.reported = s.reported
  told : ∃ es, t.history = s.history ++ es ∧
    ∀ m ∈ Effect.messages es, m.isDiagnostics = false

variable {s t u : Session}

theorem emit_keeps (s : Session) {es : List Effect}
    (h : ∀ m ∈ Effect.messages es, m.isDiagnostics = false) : Keeps s (s.emit es) :=
  ⟨rfl, fun _ h => h, rfl, rfl, es, rfl, h⟩

theorem Keeps.of_eq (hw : t.work = s.work) (hl : t.library = s.library)
    (hb : t.batches = s.batches) (hr : t.reported = s.reported) (hh : t.history = s.history) :
    Keeps s t :=
  ⟨hw, fun _ h => hl ▸ h, hb, hr, [], hh.trans (List.append_nil _).symm, fun m hm => by cases hm⟩

theorem Keeps.refl (s : Session) : Keeps s s := .of_eq rfl rfl rfl rfl rfl

theorem Keeps.trans (h : Keeps s t) (h' : Keeps t u) : Keeps s u := by
  obtain ⟨es, he, hes⟩ := h.told
  obtain ⟨fs, hf, hfs⟩ := h'.told
  refine ⟨h'.work.trans h.work, fun uri hu => h.listed uri (h'.listed uri hu),
    h'.batches.trans h.batches, h'.reported.trans h.reported, es ++ fs,
    by rw [hf, he, List.append_assoc], fun m hm => ?_⟩
  rw [Effect.messages_append] at hm
  rcases List.mem_append.mp hm with hm | hm
  · exact hes m hm
  · exact hfs m hm

theorem not_has_of_put {entries : List (String × Nat)} {key uri : String} {n : Nat}
    (h : Table.has (Table.put key n entries) uri = false) : Table.has entries uri = false := by
  by_cases hk : uri = key
  · rw [hk, Table.has, Table.get?_put_self] at h
    cases h
  · rwa [Table.has_put_of_ne hk] at h

/-- To look for a linter is no work of a call. -/
theorem ensure_keeps (d : Document) (s : Session) : Keeps s (s.ensure d) := by
  unfold ensure
  split
  · exact .refl s
  · refine ⟨?_, fun uri hu => not_has_of_put hu, rfl, rfl, [], (List.append_nil _).symm,
      fun m hm => by cases hm⟩
    rw [work_enqueue]
    exact add_zero _

end Session

open Session (Keeps)

namespace Server

/-- What a message that is no shutdown does: it begins at most one call, an entry goes only with
the close of its document, and it tells of no diagnostics but that a closed document has none. -/
structure Heard (x : Incoming) (s t : Server) : Prop where
  work : t.session.work = s.session.work ∧ t.calls = s.calls ∨
    t.session.work = s.session.work + {.errand s.calls} ∧ t.calls = s.calls + 1
  listed : ∀ uri, t.session.library.has uri = false →
    s.session.library.has uri = false ∨ .forgotten uri ∈ s.forgets x
  batches : t.session.batches = s.session.batches
  reported : t.session.reported = s.session.reported
  told : ∃ es, t.session.history = s.session.history ++ es ∧
    (∀ uri found, .diagnostics uri found ∈ Effect.messages es → found = []) ∧
    ∀ uri, .forgotten uri ∈ s.forgets x → .diagnostics uri [] ∈ Effect.messages es

variable {x : Incoming} {s t : Server}

theorem Heard.of_keeps (hf : s.forgets x = []) (h : Keeps s.session t.session)
    (hc : t.calls = s.calls) : Heard x s t where
  work := .inl ⟨h.work, hc⟩
  listed uri hu := .inl (h.listed uri hu)
  batches := h.batches
  reported := h.reported
  told := by
    obtain ⟨es, he, hes⟩ := h.told
    refine ⟨es, he, fun uri found hm => (by cases hes _ hm), fun uri hm => ?_⟩
    rw [hf] at hm
    cases hm

theorem Heard.begin (hf : s.forgets x = []) (h : Keeps s.session t.session)
    (hc : t.calls = s.calls) (goal : Session.Goal) : Heard x s (t.begin goal) := by
  refine { Heard.of_keeps hf h hc with work := .inr ⟨?_, congrArg (· + 1) hc⟩ }
  rw [← h.work, ← hc]
  exact Session.work_enqueue _ t.session

theorem emit_heard (hf : s.forgets x = []) {es : List Effect}
    (h : ∀ m ∈ Effect.messages es, m.isDiagnostics = false) : Heard x s (s.emit es) :=
  .of_keeps hf (Session.emit_keeps _ h) rfl

theorem reply_heard (hf : s.forgets x = []) (id : Json) (result : Except Failure Json) :
    Heard x s (s.reply id result) := by
  unfold reply
  split <;> exact emit_heard hf fun m hm => by cases hm

theorem giveUp_heard (hf : s.forgets x = []) (f : Failure) : Heard x s (s.giveUp f) := by
  refine emit_heard hf fun m hm => ?_
  rw [List.mem_singleton.mp hm]
  rfl

theorem validateOpened_heard (hf : s.forgets x = []) (h : Keeps s.session t.session)
    (hc : t.calls = s.calls) (uri : String) : Heard x s (t.validateOpened uri) := by
  unfold validateOpened
  split
  · exact .of_keeps hf h hc
  · rename_i d _
    have found : Keeps s.session { t with session := t.session.ensure d }.session :=
      h.trans (Session.ensure_keeps d t.session)
    split
    · exact .of_keeps hf h hc
    · simp only
      split
      · exact .begin hf found hc _
      · exact .of_keeps hf found hc

theorem revalidate_heard (hf : s.forgets x = []) (h : Keeps s.session t.session)
    (hc : t.calls = s.calls) (uri : String) (now : Bool) : Heard x s (t.revalidate uri now) := by
  unfold revalidate
  split
  · exact .of_keeps hf h hc
  · split
    · exact .of_keeps hf h hc
    · exact .begin hf h hc _

theorem keep_keeps (key : String) (d : Document) (s : Server) :
    Keeps s.session (s.keep key d).session := .of_eq rfl rfl rfl rfl rfl

theorem setUp_heard (id options : Json) (rootPath rootUri : Option String) (s : Server) :
    Heard (.setUp id options rootPath rootUri) s (s.setUp id options rootPath rootUri) := by
  unfold setUp
  split
  · exact reply_heard rfl id _
  · refine .of_keeps rfl ?_ rfl
    have begun : ∀ search, Keeps s.session
        { s.session with search, documents := [], isOpen := true } :=
      fun _ => .of_eq rfl rfl rfl rfl rfl
    exact ((begun _).trans (Session.emit_keeps _ fun m hm => by cases hm)).trans
      (Session.emit_keeps _ fun m hm => by cases hm)

theorem didOpen_heard (d : Document) (s : Server) :
    Heard (.didOpen d) s (s.whenOpen (didOpen d)) := by
  unfold whenOpen
  split
  · unfold didOpen
    split
    · exact giveUp_heard rfl _
    · exact validateOpened_heard rfl (keep_keeps _ d s) rfl d.uri
  · exact giveUp_heard rfl _

theorem didChange_heard (uri : String) (version : Int) (texts : List Text) (s : Server) :
    Heard (.didChange uri version texts) s (s.whenOpen (didChange uri version texts)) := by
  unfold whenOpen
  split
  · simp only [didChange]
    split
    · exact revalidate_heard rfl (.refl _) rfl uri _
    · split
      · exact giveUp_heard rfl _
      · exact revalidate_heard rfl (keep_keeps _ _ s) rfl uri _
  · exact giveUp_heard rfl _

theorem didSave_heard (uri : String) (s : Server) :
    Heard (.didSave uri) s (s.whenOpen (didSave uri)) := by
  unfold whenOpen
  split
  · exact revalidate_heard rfl (.refl _) rfl uri _
  · exact giveUp_heard rfl _

theorem not_has_of_erase {entries : List (String × Nat)} {key uri : String}
    (h : Table.has (Table.erase entries key) uri = false) :
    Table.has entries uri = false ∨ uri = key := by
  by_cases hk : uri = key
  · exact .inr hk
  · rw [Table.has, Table.get?_erase_of_ne hk] at h
    exact .inl h

/-- The close of a document that has an entry takes the entry away, and the editor is told that
it has no diagnostics. -/
theorem didClose_heard (uri : String) (s : Server) :
    Heard (.didClose uri) s (s.whenOpen (didClose uri)) := by
  cases ho : s.session.isOpen with
  | false =>
    rw [whenOpen, if_neg (by simp [ho])]
    exact giveUp_heard (by simp [forgets, ho]) _
  | true =>
    rw [whenOpen, if_pos ho]
    cases hl : s.session.library.has uri with
    | false =>
      simp only [didClose, hl]
      exact .of_keeps (by simp [forgets, hl]) (.of_eq rfl rfl rfl rfl rfl) rfl
    | true =>
      have hf : s.forgets (.didClose uri) = [.forgotten uri] := by simp [forgets, ho, hl]
      simp only [didClose, hl, if_true]
      refine ⟨.inl ⟨rfl, rfl⟩, ?_, rfl, rfl, [.told (.diagnostics uri [])], rfl, ?_, ?_⟩
      · intro other hu
        rw [hf]
        rcases not_has_of_erase hu with hu | rfl
        · exact .inl hu
        · exact .inr List.mem_cons_self
      · intro other found hm
        injection List.mem_singleton.mp hm
      · intro other hm
        rw [hf] at hm
        injection List.mem_singleton.mp hm with hm
        rw [hm]
        exact List.mem_cons_self

theorem didChangeConfiguration_heard (settings : Json) (s : Server) :
    Heard (.didChangeConfiguration settings) s (s.didChangeConfiguration settings) := by
  have set : Keeps s.session { s.session with settings := .ofClient settings } :=
    .of_eq rfl rfl rfl rfl rfl
  simp only [didChangeConfiguration]
  split
  · exact .begin (t := { s with session.settings := .ofClient settings }) rfl set rfl _
  · exact .of_keeps rfl set rfl

theorem announce_plain (code : Int) (stack : Option String) (e : Exit) :
    ∀ m ∈ Effect.messages (e.announce code stack).2, m.isDiagnostics = false := by
  unfold Exit.announce
  cases e.announced <;> simp [Effect.info, Message.isDiagnostics]

theorem exitCalled_plain (code : Int) (e : Exit) :
    ∀ m ∈ Effect.messages (e.called code).2, m.isDiagnostics = false := by
  unfold Exit.called
  split
  · exact fun m hm => by cases hm
  · intro m hm
    rw [Effect.messages_append] at hm
    rcases List.mem_append.mp hm with hm | hm
    · exact announce_plain code none e m hm
    · cases hm

theorem exitInstall_plain (signals : List Int) (e : Exit) :
    ∀ m ∈ Effect.messages (Exit.install signals e).2, m.isDiagnostics = false := by
  have handled : Effect.messages (signals.map .handled) = [] := by
    rw [Effect.messages, List.filterMap_map]
    exact List.filterMap_eq_nil_iff.mpr fun _ _ => rfl
  unfold Exit.install
  repeat' split
  · exact fun m hm => by cases hm
  · rw [handled]
    exact fun m hm => by cases hm
  · exact fun m hm => by cases hm

theorem leaving_heard (hf : s.forgets x = []) {step : Exit → Exit × List Effect}
    (h : ∀ m ∈ Effect.messages (step s.exit).2, m.isDiagnostics = false) :
    Heard x s (s.leaving step) := .of_keeps hf (Session.emit_keeps _ h) rfl

theorem response_heard (number : Nat) (failure : Option String) (s : Server) :
    Heard (.response number failure) s (s.response number failure) := by
  unfold response
  split
  · exact .of_keeps rfl (.refl _) rfl
  · refine .of_keeps rfl (Session.emit_keeps _ fun m hm => ?_) rfl
    cases failure with
    | none => cases hm
    | some text => cases hm

theorem handle_heard (s : Server) {x : Incoming} (hx : x.isShutdown = false) :
    Heard x s (s.handle x) := by
  cases x with
  | setUp id options rootPath rootUri => exact setUp_heard id options rootPath rootUri s
  | initialized =>
    exact leaving_heard (x := .initialized) rfl (exitInstall_plain [Exit.terminationSignal] s.exit)
  | didOpen d => exact didOpen_heard d s
  | didChange uri version texts => exact didChange_heard uri version texts s
  | didSave uri => exact didSave_heard uri s
  | didClose uri => exact didClose_heard uri s
  | didChangeConfiguration settings => exact didChangeConfiguration_heard settings s
  | didChangeWatchedFiles uris => exact .begin rfl (.refl _) rfl _
  | codeAction id uri keys => exact reply_heard rfl id _
  | allFixes id params => exact reply_heard rfl id _
  | shutdown id => cases hx
  | exit =>
    exact .of_keeps rfl ((Session.emit_keeps _ (exitCalled_plain _ s.exit)).trans
      (Session.emit_keeps _ fun m hm => by cases hm)) rfl
  | execute id command =>
    exact reply_heard (s := s) (x := .execute id command) rfl id (.error _)
  | unknown id method => exact emit_heard rfl fun m hm => by cases hm
  | response number failure => exact response_heard number failure s

end Server

/-! ## Moves -/

namespace Session

/-- A pass that a task ends had begun before, or there is an entry for its document. -/
theorem ending_work {env : Surroundings} {s : Session} {task : Task} {e : Ending}
    (h : s.ending env task = some e) :
    (∃ k p, task.work = some k ∧ k.begun? = some p ∧ p.document = e.document) ∨
      s.library.has e.document.uri = true := by
  have entered : ∀ p, s.passEnding env p = some e → s.library.has e.document.uri = true := by
    intro p hp
    obtain ⟨n, hn, -⟩ := Option.bind_eq_some_iff.mp hp
    rw [(passEnding_spec hp).1, Library.has, Table.has,
      show Table.get? s.library.entries _ = _ from hn]
    rfl
  cases task with
  | start call goal =>
    cases goal with
    | validate d => exact .inr (entered _ h)
    | _ => cases h
  | pass p => exact .inr (entered p h)
  | wake n w =>
    cases w with
    | lookUp call => cases h
    | pass p =>
      have h : s.awaitEnding env n (.pass p) = some e := h
      exact .inl ⟨_, p, rfl, rfl, (List.mem_singleton.mp (awaitEnding_spec h).1).symm⟩
  | ended r =>
    obtain ⟨name, purpose, outcome⟩ := r
    cases purpose with
    | pass p engine =>
      injection h with h
      exact .inl ⟨_, p, rfl, rfl, by rw [← h]⟩
    | probe call file => cases h
    | reconsider call file rest => cases h
  | _ => cases h

end Session

namespace Moment

def work (m : Moment) : Multiset Work :=
  m.server.session.work + (m.inHand.filterMap Task.work : Multiset Work)

/-- A pass has begun and not ended. -/
def HasBegun (m : Moment) (p : Session.Pass) : Prop := ∃ k ∈ m.work, k.begun? = some p

/-- The work of a call. -/
def workOf (call : Nat) (m : Moment) : Multiset Work := m.work.filter (·.call = call)

/-- Whether a move is a task of a call. -/
def isOf (call : Nat) (m : Moment) : Move → Bool
  | .task _ place => (m.inHand[place]?).any fun t => t.work.any (·.call == call)
  | _ => false

/-- Whether a move can make the server forget what it told of. -/
def reconsiders (m : Moment) : Move → Bool
  | .task _ place => (m.inHand[place]?).any Task.reconsiders
  | _ => false

/-- All that a move which is no shutdown does to the work and to what was told. -/
structure Carries (m : Moment) (mv : Move) : Prop where
  begun : ∀ p, (m.next mv).HasBegun p → m.HasBegun p ∨
    m.server.session.library.has p.document.uri = true
  listed : ∀ uri, (m.next mv).server.session.library.has uri = false →
    m.server.session.library.has uri = false ∨ .forgotten uri ∈ m.noted mv
  passed : ∀ e, .passed e ∈ m.noted mv → (∃ p, m.HasBegun p ∧ p.document = e.document) ∨
    m.server.session.library.has e.document.uri = true
  told : ∃ es, (m.next mv).server.session.history = m.server.session.history ++ es ∧
    (∀ uri found, .diagnostics uri found ∈ Effect.messages es → found = [] ∨
      ∃ d report, .passed ⟨d, .ok report⟩ ∈ m.noted mv ∧ d.uri = uri) ∧
    ∀ uri, .forgotten uri ∈ m.noted mv → .diagnostics uri [] ∈ Effect.messages es
  calls : m.server.calls ≤ (m.next mv).server.calls
  others : ∀ call < m.server.calls, m.isOf call mv = false →
    (m.next mv).workOf call = m.workOf call ∧
      (m.next mv).server.session.batches.lookup call = m.server.session.batches.lookup call
  reported : m.reconsiders mv = false ∨ Reported.Alike {} m.server.session.reported →
    m.server.session.reported.Alike (m.next mv).server.session.reported

variable {m : Moment}

/-- A move in which nothing happens and that leaves the work as it is. -/
theorem Carries.of_idle {mv : Move} (hn : m.noted mv = []) (hw : (m.next mv).work = m.work)
    (hl : ∀ uri, (m.next mv).server.session.library.has uri = false →
      m.server.session.library.has uri = false)
    (hb : (m.next mv).server.session.batches = m.server.session.batches)
    (hr : (m.next mv).server.session.reported = m.server.session.reported)
    (hc : (m.next mv).server.calls = m.server.calls)
    (ht : ∃ es, (m.next mv).server.session.history = m.server.session.history ++ es ∧
      ∀ m ∈ Effect.messages es, m.isDiagnostics = false) : Carries m mv where
  begun p hp := .inl (by rwa [HasBegun, hw] at hp)
  listed uri hu := .inl (hl uri hu)
  passed e he := by
    rw [hn] at he
    cases he
  told := by
    obtain ⟨es, he, hes⟩ := ht
    refine ⟨es, he, fun uri found hm => (by cases hes _ hm), fun uri hm => ?_⟩
    rw [hn] at hm
    cases hm
  calls := hc ▸ Nat.le_refl _
  others call _ _ := ⟨by rw [workOf, workOf, hw], by rw [hb]⟩
  reported _ := hr ▸ .refl _

/-- A move that changes nothing but the work in hand and what is ready. -/
theorem Carries.of_silent {mv : Move} (hn : m.noted mv = []) (hw : (m.next mv).work = m.work)
    (hl : (m.next mv).server.session.library = m.server.session.library)
    (hb : (m.next mv).server.session.batches = m.server.session.batches)
    (hr : (m.next mv).server.session.reported = m.server.session.reported)
    (hc : (m.next mv).server.calls = m.server.calls)
    (hh : (m.next mv).server.session.history = m.server.session.history) : Carries m mv :=
  .of_idle hn hw (fun _ h => hl ▸ h) hb hr hc
    ⟨[], hh.trans (List.append_nil _).symm, fun m hm => by cases hm⟩

theorem Carries.of_stays {mv : Move} (hn : m.noted mv = []) (h : m.next mv = m) : Carries m mv :=
  .of_silent hn (by rw [h]) (by rw [h]) (by rw [h]) (by rw [h]) (by rw [h]) (by rw [h])

/-- A message begins at most one call, under a number that is new. -/
theorem message_carries {x : Incoming} (hx : x.isShutdown = false) (m : Moment) :
    Carries m (.message x) := by
  cases hh : m.server.hears x with
  | false => exact .of_stays (by simp [noted, hh]) (by simp [next, hh])
  | true =>
    have heard := Server.handle_heard m.server hx
    have hs : m.next (.message x) = ⟨m.server.handle x, m.inHand⟩ := by
      cases x with
      | shutdown id => cases hx
      | _ => simp only [next, hh, if_true]
    have hn : ∀ uri, .forgotten uri ∈ m.noted (.message x) ↔
        .forgotten uri ∈ m.server.forgets x := by
      intro uri
      simp [noted, hh]
    have hw : (m.next (.message x)).work = m.work ∨
        (m.next (.message x)).work = {.errand m.server.calls} + m.work := by
      rw [hs]
      simp only [work]
      rcases heard.work with ⟨hw, -⟩ | ⟨hw, -⟩
      · exact .inl (by rw [hw])
      · exact .inr (by rw [hw]; abel)
    refine ⟨?_, ?_, ?_, ?_, ?_, ?_, ?_⟩
    · rintro p ⟨k, hk, hp⟩
      rcases hw with hw | hw
      · exact .inl ⟨k, hw ▸ hk, hp⟩
      · rw [hw, Multiset.singleton_add, Multiset.mem_cons] at hk
        rcases hk with rfl | hk
        · cases hp
        · exact .inl ⟨k, hk, hp⟩
    · intro uri hu
      rw [hs] at hu
      exact (heard.listed uri hu).imp_right (hn uri).mpr
    · exact fun e he => absurd he not_passed_of_message
    · rw [hs]
      obtain ⟨es, he, hes, hf⟩ := heard.told
      exact ⟨es, he, fun uri found hm => .inl (hes uri found hm),
        fun uri hm => hf uri ((hn uri).mp hm)⟩
    · rw [hs]
      rcases heard.work with ⟨-, hc⟩ | ⟨-, hc⟩ <;> simp only [hc] <;> omega
    · intro call hc _
      refine ⟨?_, by rw [hs]; exact congrArg (List.lookup call) heard.batches⟩
      rcases hw with hw | hw
      · rw [workOf, workOf, hw]
      · rw [workOf, hw, Multiset.singleton_add, Multiset.filter_cons_of_neg]
        · rfl
        · exact fun he : m.server.calls = call => by omega
    · intro _
      rw [hs]
      exact heard.reported ▸ .refl _

theorem take_carries (m : Moment) : Carries m .take := by
  refine .of_silent rfl ?_ rfl rfl rfl rfl rfl
  simp only [next, work, Session.work, List.filterMap_append, List.filterMap_nil,
    ← Multiset.coe_add, Multiset.coe_nil]
  abel

/-- What is taken out of a place and what is left there. -/
theorem coe_filterMap_eraseIdx {α β : Type} (f : α → Option β) {xs : List α} {i : Nat} {x : α}
    (h : xs[i]? = some x) : ((xs.filterMap f : List β) : Multiset β) =
      ((xs.eraseIdx i).filterMap f : List β) + ((f x).toList : List β) := by
  obtain ⟨hi, hx⟩ := List.getElem?_eq_some_iff.mp h
  have hp : ((xs.eraseIdx i) ++ [x]).Perm xs :=
    (List.perm_append_comm).trans (hx ▸ List.getElem_cons_eraseIdx_perm hi)
  rw [Multiset.coe_add, Multiset.coe_eq_coe]
  refine ((hp.filterMap f).symm).trans ?_
  rw [List.filterMap_append]
  cases hf : f x <;> simp [hf]

theorem runEnds_carries (m : Moment) (place : Nat) : Carries m (.runEnds place) := by
  cases hr : m.server.session.running[place]? with
  | none => exact .of_stays rfl (by simp only [next, hr])
  | some r =>
    refine .of_silent rfl ?_ ?_ ?_ ?_ ?_ ?_ <;> simp only [next, hr]
    · have out := coe_filterMap_eraseIdx (fun r : Session.Running => some r.purpose.work) hr
      simp only [List.filterMap_eq_map', Option.toList_some] at out
      simp only [work, Session.work_enqueue]
      simp only [Session.work, out]
      simp only [List.filterMap_cons, Task.work, List.filterMap_nil]
      abel
    all_goals rfl

theorem found_carries (m : Moment) (place : Nat) : Carries m (.found place) := by
  cases hp : m.server.session.waitingSearches[place]? with
  | none => exact .of_stays rfl (by simp only [next, hp])
  | some n =>
    refine .of_silent rfl ?_ ?_ ?_ ?_ ?_ ?_ <;> simp only [next, hp]
    · simp only [work, Session.work_enqueue]
      exact congrArg (· + _) (add_zero _)
    all_goals rfl

/-- The work in hand is the work of a task and the rest. -/
theorem work_of_inHand {t : Task} {place : Nat} (h : m.inHand[place]? = some t) :
    m.work = m.server.session.work + ((m.inHand.eraseIdx place).filterMap Task.work : List Work) +
      (t.work.toList : List Work) := by
  rw [work, coe_filterMap_eraseIdx Task.work h, add_assoc]

section

variable {env : Surroundings} {place : Nat} {t : Task}

theorem call_of_work (t : Task) :
    ∀ k, t.work = some k → k.call = (t.work.map Work.call).getD 0 := by
  intro k hk
  rw [hk]
  rfl

theorem next_task (ht : m.inHand[place]? = some t) : m.next (.task env place) =
    ⟨{ m.server with session := m.server.session.perform env t }, m.inHand.eraseIdx place⟩ := by
  simp only [next, ht]

/-- The pass of a task goes on, or it lets a pass begin over a document that has an entry. -/
theorem task_begun (mute : env.Mute) (ht : m.inHand[place]? = some t) {p : Session.Pass}
    (h : (m.next (.task env place)).HasBegun p) :
    m.HasBegun p ∨ m.server.session.library.has p.document.uri = true := by
  obtain ⟨k, hk, hp⟩ := h
  obtain ⟨new, hw, hnew⟩ := (Session.perform_works mute (call_of_work t) m.server.session).work
  rw [next_task ht] at hk
  simp only [work, hw] at hk
  rw [HasBegun, work_of_inHand ht]
  rcases Multiset.mem_add.mp hk with hk | hk
  · rcases Multiset.mem_add.mp hk with hk | hk
    · exact .inl ⟨k, by simp [hk], hp⟩
    · -- new work is the task's own pass that goes on, unless a pass begins now
      rcases Session.waiting_of_admits hp ((hnew k hk).2 p hp) with ht | hl
      · exact .inl ⟨.waiting p, by simp [ht], rfl⟩
      · exact .inr hl
  · exact .inl ⟨k, by simp only [Multiset.mem_add, hk, or_true, true_or], hp⟩

/-- A task of another call leaves the work of a call and its batch as they are. -/
theorem task_others (mute : env.Mute) (ht : m.inHand[place]? = some t) {call c : Nat}
    (hc : ∀ k, t.work = some k → k.call = c) (hne : c ≠ call) :
    (m.next (.task env place)).workOf call = m.workOf call ∧
      (m.next (.task env place)).server.session.batches.lookup call =
        m.server.session.batches.lookup call := by
  have works := Session.perform_works mute hc m.server.session
  obtain ⟨new, hw, hnew⟩ := works.work
  refine ⟨?_, by rw [next_task ht]; exact works.batches call (Ne.symm hne)⟩
  have noNew : new.filter (·.call = call) = 0 :=
    Multiset.filter_eq_nil.mpr fun k hk he => hne ((hnew k hk).1.symm.trans he)
  have noOld : ((t.work.toList : List Work) : Multiset Work).filter (·.call = call) = 0 :=
    Multiset.filter_eq_nil.mpr fun k hk he => hne ((hc k (by simpa using hk)).symm.trans he)
  rw [workOf, workOf, work_of_inHand ht, next_task ht]
  simp only [work, hw, Multiset.filter_add, noNew, noOld, add_zero]

end

theorem task_carries {env : Surroundings} (mute : env.Mute) (m : Moment) (place : Nat) :
    Carries m (.task env place) := by
  cases ht : m.inHand[place]? with
  | none => exact .of_stays (by simp only [noted, ht]) (by simp only [next, ht])
  | some t =>
    have hs : m.next (.task env place) = _ := next_task ht
    have hn : m.noted (.task env place) =
        ((m.server.session.ending env t).map Happening.passed).toList := by
      simp only [noted, ht]
    have works := Session.perform_works mute (call_of_work t) m.server.session
    refine ⟨fun p => task_begun mute ht, ?_, ?_, ?_, ?_, ?_, ?_⟩
    · intro uri hu
      rw [hs] at hu
      rw [Library.has, works.entries] at hu
      exact .inl hu
    · intro e he
      rw [hn, Option.mem_toList, Option.map_eq_some_iff] at he
      obtain ⟨e', he, heq⟩ := he
      injection heq with heq
      rw [heq] at he
      rcases Session.ending_work he with ⟨k, p, hk, hp, hd⟩ | hu
      · exact .inl ⟨p, ⟨k, by rw [work_of_inHand ht]; simp [hk], hp⟩, hd⟩
      · exact .inr hu
    · obtain ⟨es, he, hes⟩ := works.told
      refine ⟨es, by rw [hs]; exact he, fun uri found hm => ?_, fun uri hm => ?_⟩
      · obtain ⟨⟨d, outcome⟩, he, hu, report, rfl⟩ := hes uri found hm
        exact .inr ⟨d, report, by rw [hn, he]; exact List.mem_cons_self, hu⟩
      · rw [hn, Option.mem_toList, Option.map_eq_some_iff] at hm
        obtain ⟨e, -, he⟩ := hm
        cases he
    · rw [hs]
    · intro call _ ho
      simp only [isOf, ht, Option.any_some] at ho
      cases hk : t.work with
      | none =>
        exact task_others mute ht (c := call + 1) (fun k hk' => by cases hk.symm.trans hk')
          (Nat.succ_ne_self call)
      | some k =>
        rw [hk] at ho
        refine task_others mute ht (c := k.call) (fun l hl => ?_) (by simpa using ho)
        rw [Option.some.inj (hk.symm.trans hl)]
    · intro h
      rw [hs]
      refine works.reported (h.imp_left fun hr => ?_)
      simpa only [reconsiders, ht, Option.any_some] using hr

/-- Signals and time are between the server and its exit, which tells of no diagnostics. -/
theorem exit_carries {mv : Move} (step : Exit → Exit × List Effect) (hn : m.noted mv = [])
    (hs : m.next mv = { m with server := m.server.leaving step })
    (h : ∀ x ∈ Effect.messages (step m.server.exit).2, x.isDiagnostics = false) :
    Carries m mv := by
  have kept : Keeps m.server.session (m.server.session.emit (step m.server.exit).2) :=
    Session.emit_keeps _ h
  refine .of_idle hn ?_ ?_ ?_ ?_ ?_ ?_ <;> rw [hs]
  · rfl
  · exact kept.listed
  · rfl
  · rfl
  · rfl
  · exact kept.told

theorem request_plain (code : Int) (stack : Option String) (e : Exit) :
    ∀ m ∈ Effect.messages (e.request code stack).1.2, m.isDiagnostics = false := by
  have announced := Server.announce_plain code stack e
  unfold Exit.request
  split
  · exact nofun
  · simp only
    split
    · intro m hm
      rw [Effect.messages_append] at hm
      rcases List.mem_append.mp hm with hm | hm
      · exact announced m hm
      · cases hm
    · exact announced

theorem signal_plain (n : Int) (e : Exit) :
    ∀ m ∈ Effect.messages (e.signal n).1.2, m.isDiagnostics = false := by
  unfold Exit.signal
  split
  · exact request_plain (128 + n) none e
  · exact nofun

theorem reach_plain (now : Delay) (e : Exit) :
    ∀ m ∈ Effect.messages (e.reach now).2, m.isDiagnostics = false := by
  unfold Exit.reach
  split
  · exact nofun
  · split <;> exact nofun

theorem advance_plain (seconds : Delay) (e : Exit) :
    ∀ m ∈ Effect.messages (e.advance seconds).1.2, m.isDiagnostics = false := by
  unfold Exit.advance
  split
  · exact reach_plain _ e
  · exact nofun

/-- Any move does no more than that, if lint runs tell the editor nothing and there is no
shutdown. -/
theorem next_carries {mv : Move} (allowed : m.Allowed Surroundings.Mute Server.StaysUp mv) :
    Carries m mv := by
  cases mv with
  | message x => exact message_carries allowed m
  | take => exact take_carries m
  | task env place => exact task_carries allowed m place
  | runEnds place => exact runEnds_carries m place
  | found place => exact found_carries m place
  | signal n => exact exit_carries (fun e => (e.signal n).1) rfl rfl (signal_plain n _)
  | time seconds => exact exit_carries (fun e => (e.advance seconds).1) rfl rfl (advance_plain _ _)

end Moment

end LintServer
