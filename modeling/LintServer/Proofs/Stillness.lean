/-
  LintServer.Proofs.Stillness — what no engine is called for, and of which nothing is told.

  Engines are called where passes and probes begin, and missing and broken configurations are told
  of where a pass ends. All else is still: it calls no engine, tells of no configuration, and leaves
  what was told of as it is. Messages of the editor are still as they are handled, for what a
  handler begins is left to tasks.
  - `Session.Still`: nothing of that kind has happened from one session to the next.
  - `handle_still`, `next_still`: messages, and all moves that are no tasks.
-/

import LintServer.Proofs.Moments
import LintServer.Proofs.Resolutions

namespace LintServer

/-- Whether a message tells of no configuration, missing or broken. The only warning that does not
is the one that a batch failed as a whole. -/
def Message.isStill : Message → Bool
  | .noConfig .. | .showInfo _ => false
  | .logWarning text => text == Session.allFailed ++ "."
  | _ => true

/-- Whether an effect neither calls an engine nor tells of a configuration. -/
def Effect.isStill : Effect → Bool
  | .linted .. => false
  | .told m => m.isStill
  | _ => true

namespace Session

/-- Nothing happens but still effects, and what was told of stays as it is. -/
structure Still (s t : Session) : Prop where
  reported : t.reported = s.reported
  history : ∃ es, t.history = s.history ++ es ∧ es.all Effect.isStill = true

variable {s t u : Session}

theorem Still.of_eq (hr : t.reported = s.reported) (hh : t.history = s.history) : Still s t :=
  ⟨hr, [], hh.trans (List.append_nil _).symm, rfl⟩

theorem Still.refl (s : Session) : Still s s := .of_eq rfl rfl

theorem Still.trans (h : Still s t) (h' : Still t u) : Still s u := by
  obtain ⟨es, he, hes⟩ := h.history
  obtain ⟨fs, hf, hfs⟩ := h'.history
  refine ⟨h'.reported.trans h.reported, es ++ fs, by rw [hf, he, List.append_assoc], ?_⟩
  rw [List.all_append, hes, hfs]
  rfl

theorem emit_still {es : List Effect} (h : es.all Effect.isStill = true) (s : Session) :
    Still s (s.emit es) := ⟨rfl, es, rfl, h⟩

/-- Still effects after a change of what they do not depend on. -/
theorem Still.emit {es : List Effect} (hr : t.reported = s.reported) (hh : t.history = s.history)
    (h : es.all Effect.isStill = true) : Still s (t.emit es) :=
  (Still.of_eq hr hh).trans (emit_still h t)

/-! ## Calls and batches -/

theorem publish_still (x : Status) (s : Session) : Still s (s.publish x) := .emit rfl rfl rfl

theorem done_still (call : Nat) (r : Except Failure Answer) (s : Session) :
    Still s (s.done call r) := .of_eq rfl rfl

theorem memberEnded_still (call place : Nat) (m : Mark) (s : Session) :
    Still s (s.memberEnded call place m) := .of_eq rfl rfl

theorem tally_still (call : Nat) (s : Session) : Still s (s.tally call) := .of_eq rfl rfl

theorem shown_still (ms : Messages) : ms.shown.all Effect.isStill = true := by
  rw [Messages.shown, List.all_map]
  exact List.all_eq_true.mpr fun _ _ => rfl

theorem concluded_still (call : Nat) (b : Batch) (s : Session) : Still s (s.concluded call b) := by
  unfold concluded
  split
  · split
    · exact done_still call _ s
    · refine ((emit_still ?_ s).trans (publish_still _ _)).trans (done_still call _ _)
      rw [List.all_cons, List.all_append, shown_still]
      simp [Effect.error, Effect.isStill, Message.isStill]
  · exact ((emit_still (shown_still _) s).trans (publish_still _ _)).trans (done_still call _ _)

theorem conclude_still (call : Nat) (s : Session) : Still s (s.conclude call) := by
  unfold conclude
  split
  · exact .refl s
  · have taken : Still s { s with batches := s.batches.filter (·.1 != call) } := .of_eq rfl rfl
    exact taken.trans (concluded_still call _ _)

theorem beginBatch_still (call : Nat) (ds : List Document) (s : Session) :
    Still s (s.beginBatch call ds) := by
  simp only [beginBatch]
  split
  · exact concluded_still call _ s
  · exact .of_eq rfl rfl

theorem beginAll_still (call : Nat) (s : Session) : Still s (s.beginAll call) := by
  unfold beginAll
  split
  · exact beginBatch_still call _ s
  · exact done_still call _ s

theorem endProbe_still (call : Nat) (file : String) (outcome : Except Failure (Option Report))
    (s : Session) : Still s (s.endProbe call file outcome) := by
  unfold endProbe
  split
  · exact (emit_still rfl s).trans (done_still call _ _)
  · exact done_still call _ s

/-! ## Resolutions -/

theorem ensure_still (d : Document) (s : Session) : Still s (s.ensure d) := by
  unfold ensure
  split
  · exact .refl s
  · exact .of_eq rfl rfl

theorem searchFor_still (env : Surroundings) (n : Nat) (d : Document) (s : Session) :
    Still s (s.searchFor env n d) := by
  obtain ⟨library, state, es, hf, heq⟩ := searchFor_found env n d s
  rw [heq]
  exact .emit rfl rfl (by cases hf <;> rfl)

theorem look_still (env : Surroundings) (n : Nat) (s : Session) : Still s (s.look env n) := by
  unfold look
  split
  · exact .refl s
  · split
    · exact .of_eq rfl rfl
    · exact searchFor_still env n _ s

theorem goOn_still (env : Surroundings) (n : Nat) (s : Session) : Still s (s.goOn env n) := by
  unfold goOn
  split
  · exact .refl s
  · exact searchFor_still env n _ s

theorem awaitLookUp_still (env : Surroundings) (n call : Nat) (s : Session) :
    Still s (s.await env n (.lookUp call)) := by
  unfold await
  split
  · exact .of_eq rfl rfl
  all_goals exact done_still call _ s

theorem lookUp_still (env : Surroundings) (uri : String) (call : Nat) (s : Session) :
    Still s (s.awaitFor env uri (.lookUp call)) := by
  unfold awaitFor
  split
  · exact done_still call _ s
  · exact awaitLookUp_still env _ call s

/-- A task that belongs to no call. -/
theorem perform_still (env : Surroundings) {task : Task} (h : task.work = none) (s : Session) :
    Still s (s.perform env task) := by
  cases task with
  | look n => exact look_still env n s
  | search n => exact goOn_still env n s
  | report f => exact emit_still rfl s
  | _ => cases h

end Session

/-! ## Messages -/

open Session (Still)

theorem Exit.announce_still (code : Int) (stack : Option String) (e : Exit) :
    (e.announce code stack).2.all Effect.isStill = true := by
  unfold announce
  split <;> rfl

theorem Exit.called_still (code : Int) (e : Exit) :
    (e.called code).2.all Effect.isStill = true := by
  unfold called
  split
  · rfl
  · rw [List.all_append, announce_still]
    rfl

theorem Exit.install_still (signals : List Int) (e : Exit) :
    (Exit.install signals e).2.all Effect.isStill = true := by
  unfold install
  split
  · rfl
  · split
    · rw [List.all_map]
      exact List.all_eq_true.mpr fun _ _ => rfl
    · rfl

theorem Exit.request_still (code : Int) (stack : Option String) (e : Exit) :
    (e.request code stack).1.2.all Effect.isStill = true := by
  have announced := announce_still code stack e
  unfold request
  split
  · rfl
  · simp only
    split
    · rw [List.all_append, announced]
      rfl
    · exact announced

theorem Exit.signal_still (n : Int) (e : Exit) : (e.signal n).1.2.all Effect.isStill = true := by
  unfold signal
  split
  · exact request_still (128 + n) none e
  · rfl

theorem Exit.reach_still (now : Delay) (e : Exit) :
    (e.reach now).2.all Effect.isStill = true := by
  unfold reach
  split
  · rfl
  · split <;> rfl

theorem Exit.advance_still (seconds : Delay) (e : Exit) :
    (e.advance seconds).1.2.all Effect.isStill = true := by
  unfold advance
  split
  · exact reach_still _ e
  · rfl

namespace Server

theorem reply_still (id : Json) (result : Except Failure Json) (s : Server) :
    Still s.session (s.reply id result).session := by
  unfold reply
  split <;> exact Session.emit_still rfl _

theorem giveUp_still (f : Failure) (s : Server) : Still s.session (s.giveUp f).session :=
  Session.emit_still rfl _

theorem begin_still (goal : Session.Goal) (s : Server) :
    Still s.session (s.begin goal).session := .of_eq rfl rfl

theorem whenOpen_still {handler : Server → Server} {s : Server}
    (h : Still s.session (handler s).session) : Still s.session (s.whenOpen handler).session := by
  unfold whenOpen
  split
  · exact h
  · exact giveUp_still _ s

theorem validateOpened_still (uri : String) (s : Server) :
    Still s.session (s.validateOpened uri).session := by
  unfold validateOpened
  split
  · exact .refl _
  · split
    · exact .refl _
    · rename_i d _ _
      simp only
      split
      · exact (Session.ensure_still d s.session).trans
          (begin_still _ { s with session := s.session.ensure d })
      · exact Session.ensure_still d s.session

theorem revalidate_still (uri : String) (now : Bool) (s : Server) :
    Still s.session (s.revalidate uri now).session := by
  unfold revalidate
  split
  · exact .refl _
  · split
    · exact .refl _
    · exact begin_still _ s

theorem keep_still (key : String) (d : Document) (s : Server) :
    Still s.session (s.keep key d).session := .of_eq rfl rfl

theorem didOpen_still (d : Document) (s : Server) : Still s.session (didOpen d s).session := by
  unfold didOpen
  split
  · exact giveUp_still _ s
  · exact (keep_still _ d s).trans (validateOpened_still _ _)

theorem didChange_still (uri : String) (version : Int) (texts : List Text) (s : Server) :
    Still s.session (didChange uri version texts s).session := by
  simp only [didChange]
  split
  · exact revalidate_still uri _ s
  · split
    · exact giveUp_still _ s
    · exact (keep_still _ _ s).trans (revalidate_still uri _ _)

theorem didClose_still (uri : String) (s : Server) : Still s.session (didClose uri s).session := by
  simp only [didClose]
  split
  · exact .emit rfl rfl rfl
  · exact .of_eq rfl rfl

theorem setUp_still (id options : Json) (rootPath rootUri : Option String) (s : Server) :
    Still s.session (s.setUp id options rootPath rootUri).session := by
  unfold setUp
  split
  · exact reply_still id _ s
  · rename_i root _
    have begun : Still s.session (s.begun options root).session := .emit rfl rfl rfl
    exact begun.trans (reply_still id _ _)

theorem didChangeConfiguration_still (settings : Json) (s : Server) :
    Still s.session (s.didChangeConfiguration settings).session := by
  simp only [didChangeConfiguration]
  split
  · have set : Still s.session { s.session with settings := .ofClient settings } := .of_eq rfl rfl
    exact set.trans (begin_still _ { s with session.settings := .ofClient settings })
  · exact .of_eq rfl rfl

theorem response_still (number : Nat) (failure : Option String) (s : Server) :
    Still s.session (s.response number failure).session := by
  unfold response
  split
  · exact .refl _
  · refine .emit rfl rfl ?_
    cases failure <;> rfl

/-- A message is still, whatever it begins. -/
theorem handle_still (s : Server) {x : Incoming} (hx : x.isShutdown = false) :
    Still s.session (s.handle x).session := by
  cases x with
  | setUp id options rootPath rootUri => exact setUp_still id options rootPath rootUri s
  | initialized => exact .emit rfl rfl (Exit.install_still [Exit.terminationSignal] s.exit)
  | didOpen d => exact whenOpen_still (didOpen_still d s)
  | didChange uri version texts => exact whenOpen_still (didChange_still uri version texts s)
  | didSave uri => exact whenOpen_still (revalidate_still uri _ s)
  | didClose uri => exact whenOpen_still (didClose_still uri s)
  | didChangeConfiguration settings => exact didChangeConfiguration_still settings s
  | didChangeWatchedFiles uris => exact begin_still _ s
  | codeAction id uri keys => exact reply_still id _ s
  | allFixes id params => exact reply_still id _ s
  | shutdown id => cases hx
  | exit =>
    exact (Session.emit_still (Exit.called_still _ s.exit) s.session).trans
      (Session.emit_still rfl _)
  | execute id command => exact reply_still id _ s
  | unknown id method => exact Session.emit_still rfl _
  | response number failure => exact response_still number failure s

end Server

/-! ## Moves -/

namespace Moment

variable {m : Moment}

/-- Whether a move is a task. -/
def isTask : Move → Bool
  | .task .. => true
  | _ => false

/-- All that is no task is still, short of a shutdown. -/
theorem next_still {mv : Move} (ht : isTask mv = false)
    (hx : ∀ x, mv = .message x → x.isShutdown = false) :
    Still m.server.session (m.next mv).server.session := by
  cases mv with
  | message x =>
    simp only [next]
    split
    · exact Server.handle_still m.server (hx x rfl)
    · exact .refl _
  | take => exact .of_eq rfl rfl
  | task env place => cases ht
  | runEnds place =>
    simp only [next]
    split
    · exact .refl _
    · exact .of_eq rfl rfl
  | found place =>
    simp only [next]
    split
    · exact .refl _
    · exact .of_eq rfl rfl
  | signal n => exact Session.emit_still (Exit.signal_still n m.server.exit) _
  | time seconds => exact Session.emit_still (Exit.advance_still seconds m.server.exit) _

end Moment

end LintServer
