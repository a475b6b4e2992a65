/-
  LintServer.Proofs.Disabled — engines while validation is disabled.

  A handler calls engines only in the tasks of the call that it begins, if it begins one. Whether it
  does is up to the settings, as they are after its message: all handlers but one begin nothing while
  validation is disabled. The exception is that watched files have changed, which is followed by
  probes and by a pass over every open document no matter what the settings are.
  - `Moment.invocations`: the engine calls of a handler, in the course of a run.
  - `disabled_handlers_are_silent`: which handlers call none.
  - `watched_files_are_linted`: a run in which one does, disabled throughout.
-/

import LintServer.Proofs.Closing
import LintServer.Proofs.Stillness

namespace LintServer

def Effect.isLinted : Effect → Bool
  | .linted .. => true
  | _ => false

/-- Whether a message says that watched files have changed. -/
def Incoming.isWatched : Incoming → Bool
  | .didChangeWatchedFiles _ => true
  | _ => false

/-! ## What a handler calls -/

namespace Moment

/-- The engine calls of a move. -/
def invoked (m : Moment) (mv : Move) : List Effect :=
  ((m.next mv).server.session.history.drop m.server.session.history.length).filter Effect.isLinted

/-- The engine calls that tasks of a call make in the course of some moves. -/
def invokedBy (call : Nat) (m : Moment) : List Move → List Effect
  | [] => []
  | mv :: rest =>
    (if m.isOf call mv then m.invoked mv else []) ++ (m.next mv).invokedBy call rest

/-- The call that the handler of a message begins. -/
def begunBy (m : Moment) (x : Incoming) : Option Nat :=
  if (m.next (.message x)).server.calls = m.server.calls then none else some m.server.calls

/-- The engine calls of the handler of a message, which comes before some moves. -/
def invocations (m : Moment) (x : Incoming) (moves : List Move) : List Effect :=
  m.invoked (.message x) ++
    match m.begunBy x with
    | none => []
    | some call => (m.next (.message x)).invokedBy call moves

/-- Validation is disabled now and after each of some moves. -/
def DisabledIn (m : Moment) : List Move → Prop
  | [] => m.server.session.settings.enable = false
  | mv :: rest => m.server.session.settings.enable = false ∧ (m.next mv).DisabledIn rest

end Moment

/-! ## Settings and calls -/

namespace Server

theorem onType_of_disabled {s : Settings} (h : s.enable = false) : s.onType = false := by
  rw [Settings.onType, h]
  rfl

theorem onSave_of_disabled {s : Settings} (h : s.enable = false) : s.onSave = false := by
  rw [Settings.onSave, h]
  rfl

theorem ensure_settings (d : Document) (s : Session) : (s.ensure d).settings = s.settings := by
  unfold Session.ensure
  split <;> rfl

/-- A document that was opened is not validated while that is disabled. -/
theorem validateOpened_calls {s : Server} (h : s.session.settings.enable = false) (uri : String) :
    (s.validateOpened uri).calls = s.calls := by
  unfold validateOpened
  split
  · rfl
  · split
    · rfl
    · simp only [ensure_settings, onType_of_disabled h]
      rfl

theorem revalidate_calls (uri : String) (s : Server) :
    (s.revalidate uri false).calls = s.calls := by
  unfold revalidate
  split <;> rfl

theorem whenOpen_calls {handler : Server → Server} {s : Server}
    (h : (handler s).calls = s.calls) : (s.whenOpen handler).calls = s.calls := by
  unfold whenOpen
  split
  · exact h
  · rfl

theorem didOpen_calls {s : Server} (h : s.session.settings.enable = false) (d : Document) :
    (didOpen d s).calls = s.calls := by
  unfold didOpen
  split
  · rfl
  · exact validateOpened_calls (s := s.keep (keyOf d.uri) d) h d.uri

theorem didChange_calls {s : Server} (h : s.session.settings.enable = false) (uri : String)
    (version : Int) (texts : List Text) : (didChange uri version texts s).calls = s.calls := by
  simp only [didChange, onType_of_disabled h]
  split
  · exact revalidate_calls uri s
  · split
    · rfl
    · rename_i d _
      have kept : (s.keep (keyOf uri) (changed version texts d)).session.settings.onType = false :=
        onType_of_disabled h
      rw [kept]
      exact revalidate_calls uri _

theorem didSave_calls {s : Server} (h : s.session.settings.enable = false) (uri : String) :
    (didSave uri s).calls = s.calls := by
  rw [didSave, onSave_of_disabled h]
  exact revalidate_calls uri s

theorem didClose_calls (uri : String) (s : Server) : (didClose uri s).calls = s.calls := by
  simp only [didClose]
  split <;> rfl

theorem reply_calls (id : Json) (result : Except Failure Json) (s : Server) :
    (s.reply id result).calls = s.calls := by
  unfold reply
  split <;> rfl

theorem setUp_calls (id options : Json) (rootPath rootUri : Option String) (s : Server) :
    (s.setUp id options rootPath rootUri).calls = s.calls := by
  unfold setUp
  split
  · exact reply_calls id _ s
  · exact reply_calls id _ _

theorem response_calls (number : Nat) (failure : Option String) (s : Server) :
    (s.response number failure).calls = s.calls := by
  unfold response
  split <;> rfl

/-- All documents are validated with new settings, unless these disable that. -/
theorem didChangeConfiguration_calls (settings : Json) (s : Server)
    (h : (s.didChangeConfiguration settings).session.settings.enable = false) :
    (s.didChangeConfiguration settings).calls = s.calls := by
  simp only [didChangeConfiguration] at h ⊢
  split
  · rename_i enabled
    rw [if_pos enabled] at h
    cases enabled.symm.trans h
  · rfl

theorem validateOpened_settings (uri : String) (s : Server) :
    (s.validateOpened uri).session.settings = s.session.settings := by
  unfold validateOpened
  split
  · rfl
  · split
    · rfl
    · simp only
      split <;> exact ensure_settings _ _

theorem revalidate_settings (uri : String) (now : Bool) (s : Server) :
    (s.revalidate uri now).session.settings = s.session.settings := by
  unfold revalidate
  split
  · rfl
  · split <;> rfl

theorem whenOpen_settings {handler : Server → Server} {s : Server}
    (h : (handler s).session.settings = s.session.settings) :
    (s.whenOpen handler).session.settings = s.session.settings := by
  unfold whenOpen
  split
  · exact h
  · rfl

theorem didOpen_settings (d : Document) (s : Server) :
    (didOpen d s).session.settings = s.session.settings := by
  unfold didOpen
  split
  · rfl
  · exact validateOpened_settings d.uri (s.keep (keyOf d.uri) d)

theorem didChange_settings (uri : String) (version : Int) (texts : List Text) (s : Server) :
    (didChange uri version texts s).session.settings = s.session.settings := by
  simp only [didChange]
  split
  · exact revalidate_settings uri _ s
  · split
    · rfl
    · exact revalidate_settings uri _ (s.keep (keyOf uri) _)

/-- While validation is disabled, only a change of watched files begins a call. -/
theorem handle_calls (s : Server) (x : Incoming)
    (h : (s.handle x).session.settings.enable = false) :
    (s.handle x).calls = if x.isWatched then s.calls + 1 else s.calls := by
  cases x with
  | setUp id options rootPath rootUri => exact setUp_calls id options rootPath rootUri s
  | didOpen d =>
    have hs : (s.whenOpen (didOpen d)).session.settings = s.session.settings :=
      whenOpen_settings (didOpen_settings d s)
    exact whenOpen_calls (didOpen_calls (hs ▸ h) d)
  | didChange uri version texts =>
    have hs : (s.whenOpen (didChange uri version texts)).session.settings = s.session.settings :=
      whenOpen_settings (didChange_settings uri version texts s)
    exact whenOpen_calls (didChange_calls (hs ▸ h) uri version texts)
  | didSave uri =>
    have hs : (s.whenOpen (didSave uri)).session.settings = s.session.settings :=
      whenOpen_settings (revalidate_settings uri _ s)
    exact whenOpen_calls (didSave_calls (hs ▸ h) uri)
  | didClose uri => exact whenOpen_calls (didClose_calls uri s)
  | didChangeConfiguration settings => exact didChangeConfiguration_calls settings s h
  | codeAction id uri keys => exact reply_calls id _ s
  | allFixes id params => exact reply_calls id _ s
  | execute id command => exact reply_calls id _ s
  | response number failure => exact response_calls number failure s
  | _ => rfl

end Server

/-! ## Engine calls -/

open Session (Still Task)

theorem Effect.filter_isLinted_of_still {es : List Effect} (h : es.all isStill = true) :
    es.filter isLinted = [] := by
  rw [List.filter_eq_nil_iff]
  intro e he
  have still := List.all_eq_true.mp h e he
  cases e with
  | linted engine content file options => cases still
  | _ => exact Bool.false_ne_true

namespace Moment

variable {m : Moment}

theorem invoked_of_still {mv : Move} (h : Still m.server.session (m.next mv).server.session) :
    m.invoked mv = [] := by
  obtain ⟨es, he, hes⟩ := h.history
  rw [invoked, he, List.drop_left]
  exact Effect.filter_isLinted_of_still hes

/-- No engine is called while a message is handled. -/
theorem invoked_message (m : Moment) (x : Incoming) : m.invoked (.message x) = [] := by
  cases hx : x.isShutdown with
  | false =>
    refine invoked_of_still (next_still rfl fun y hy => ?_)
    injection hy with hy
    rw [← hy]
    exact hx
  | true =>
    cases x with
    | shutdown id =>
      simp only [invoked, next]
      split
      · show ((m.server.session.history ++ [Effect.answered id .null]).drop _).filter _ = []
        rw [List.drop_left]
        rfl
      · rw [List.drop_length]
        rfl
    | _ => cases hx

/-- Engines are called by tasks of calls only. -/
theorem isOf_of_invoked {mv : Move} (h : m.invoked mv ≠ []) : ∃ call, m.isOf call mv = true := by
  cases mv with
  | message x => exact absurd (invoked_message m x) h
  | task env place =>
    cases ht : m.inHand[place]? with
    | none =>
      have hs : m.next (.task env place) = m := by simp only [next, ht]
      refine absurd (invoked_of_still ?_) h
      rw [hs]
      exact .refl _
    | some t =>
      cases hw : t.work with
      | none =>
        refine absurd (invoked_of_still ?_) h
        rw [next_task ht]
        exact Session.perform_still env hw _
      | some k => exact ⟨k.call, by simp [isOf, ht, hw]⟩
  | take | runEnds place | found place | signal n | time seconds =>
    exact absurd (invoked_of_still (next_still rfl fun y hy => by cases hy)) h

/-- While validation is disabled, no handler calls an engine but the one for watched files, which is
the only one that begins a call; and whatever calls an engine is a task of some call. -/
theorem disabled_handlers_are_silent (m : Moment) (x : Incoming)
    (disabled : (m.next (.message x)).server.session.settings.enable = false) :
    (m.begunBy x = if x.isWatched && m.server.hears x then some m.server.calls else none) ∧
      (x.isWatched = false → ∀ moves, m.invocations x moves = []) ∧
      ∀ mv, m.invoked mv ≠ [] → ∃ call, m.isOf call mv = true := by
  have begun : m.begunBy x =
      if x.isWatched && m.server.hears x then some m.server.calls else none := by
    cases hh : m.server.hears x with
    | false =>
      have hs : m.next (.message x) = m := by simp [next, hh]
      rw [begunBy, hs, if_pos rfl, Bool.and_false]
      rfl
    | true =>
      have hs : (m.next (.message x)).server = m.server.handle x := by simp [next, hh]
      rw [hs] at disabled
      rw [begunBy, hs, m.server.handle_calls x disabled, Bool.and_true]
      cases x.isWatched <;> simp
  refine ⟨begun, fun unwatched moves => ?_, fun mv h => isOf_of_invoked h⟩
  rw [invocations, invoked_message, begun, unwatched]
  rfl

/-- A document is opened and linted, and then validation is disabled. -/
def disabling : List Move :=
  [.message (.setUp .null .null none none), .message (.didOpen (draft 1 "a")), .take,
    .task slowEngine 0, .task slowEngine 0,
    .message (.didChangeConfiguration (.obj [("eslint", .obj [("enable", .bool false)])]))]

/-- The document is saved, and all that is ready is done. -/
theorem disabling_saves_in_silence :
    (((fresh {} {}).after disabling).next (.message (.didSave "file:///a.js"))
      ).server.session.settings.enable = false ∧
      ((fresh {} {}).after disabling).begunBy (.didSave "file:///a.js") = none ∧
      ((fresh {} {}).after disabling).invocations (.didSave "file:///a.js")
        [.take, .task slowEngine 0] = [] := by
  have silent := disabled_handlers_are_silent ((fresh {} {}).after disabling)
    (.didSave "file:///a.js") rfl
  exact ⟨rfl, silent.1, silent.2.1 rfl _⟩

/-- Disabled does not always mean silent: after a change of watched files, open documents are linted
all the same. -/
theorem watched_files_are_linted :
    ¬ ∀ (config : Config) (exit : Exit) (before : List Move) (x : Incoming) (moves : List Move),
      (fresh config exit).AllAllowed Surroundings.Mute Server.StaysUp
          (before ++ .message x :: moves) →
        (((fresh config exit).after before).next (.message x)).DisabledIn moves →
          ((fresh config exit).after before).invocations x moves = [] := by
  intro h
  have silent := h {} {} disabling (.didChangeWatchedFiles [])
    [.take, .task slowEngine 0, .take, .task slowEngine 0]
    ⟨rfl, rfl, trivial, slowEngine_mute, slowEngine_mute, rfl, rfl, trivial, slowEngine_mute,
      trivial, slowEngine_mute, trivial⟩
    ⟨rfl, rfl, rfl, rfl, rfl⟩
  cases silent

end Moment

end LintServer
