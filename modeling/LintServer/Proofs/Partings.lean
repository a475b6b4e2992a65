/-
  LintServer.Proofs.Partings — who speaks of an exit.

  An exit is announced, scheduled and performed by its own operations alone. No task speaks of
  one, and of the editor's messages only those that have to do with leaving bear on it.
  - `Effect.isParting`: what an exit does to the outside.
  - `perform_partings`: tasks leave that as it is, in surroundings whose lint runs are discreet.
  - `Server.Apart`, `handle_apart`: messages that have nothing to do with leaving.
-/

import LintServer.Proofs.Moments
import LintServer.Proofs.Resolutions

namespace LintServer

/-- Whether an exit is announced, scheduled or performed. -/
def Effect.isParting : Effect → Bool
  | .told (.exitCalled ..) | .scheduled _ | .terminated _ => true
  | _ => false

/-- Lint runs do not speak of exits. -/
def Surroundings.Discreet (env : Surroundings) : Prop :=
  ∀ engine content file options,
    (env.run engine content file options).effects.filter Effect.isParting = []

/-- The linter's program does not. -/
theorem Surroundings.ofWorld_discreet (w : World) (slow : List String) :
    (ofWorld w slow).Discreet := by
  intro engine content file options
  simp only [ofWorld, Engine.run]
  repeat' split
  all_goals rfl

namespace Session

/-- All that was done to the outside by exits. -/
def partings (s : Session) : List Effect := s.history.filter Effect.isParting

section

variable {s t : Session}

theorem partings_congr (h : t.history = s.history) : t.partings = s.partings := by
  rw [partings, h, partings]

theorem emit_partings (es : List Effect) (s : Session) :
    (s.emit es).partings = s.partings ++ es.filter Effect.isParting := List.filter_append ..

/-- Effects of another kind leave it as it is. -/
theorem emit_partings_of_none {es : List Effect} (h : es.filter Effect.isParting = [])
    (ht : t.history = s.history) : (t.emit es).partings = s.partings := by
  rw [emit_partings, h, List.append_nil, partings_congr ht]

/-! ## Calls and batches -/

theorem publish_partings (x : Status) (s : Session) : (s.publish x).partings = s.partings :=
  emit_partings_of_none rfl rfl

theorem done_partings (call : Nat) (r : Except Failure Answer) (s : Session) :
    (s.done call r).partings = s.partings := rfl

theorem shown_partings (ms : Messages) : ms.shown.filter Effect.isParting = [] := by
  rw [Messages.shown, List.filter_map, List.map_eq_nil_iff, List.filter_eq_nil_iff]
  exact fun _ _ => by simp [Effect.isParting]

theorem concluded_partings (call : Nat) (b : Batch) (s : Session) :
    (s.concluded call b).partings = s.partings := by
  unfold concluded
  split
  · split
    · rfl
    · rw [done_partings, publish_partings]
      refine emit_partings_of_none ?_ rfl
      rw [List.filter_cons_of_neg (by simp [Effect.error, Effect.isParting]), List.filter_append,
        shown_partings]
      rfl
  · rw [done_partings, publish_partings]
    exact emit_partings_of_none (shown_partings _) rfl

theorem conclude_partings (call : Nat) (s : Session) :
    (s.conclude call).partings = s.partings := by
  unfold conclude
  split
  · rfl
  · exact concluded_partings call _ _

theorem beginBatch_partings (call : Nat) (ds : List Document) (s : Session) :
    (s.beginBatch call ds).partings = s.partings := by
  simp only [beginBatch]
  split
  · exact concluded_partings call _ s
  · rfl

theorem beginAll_partings (call : Nat) (s : Session) :
    (s.beginAll call).partings = s.partings := by
  unfold beginAll
  split
  · exact beginBatch_partings call _ s
  · rfl

/-! ## Passes -/

theorem validated_partings (d : Document) (outcome : Except Failure (Option Report))
    (s : Session) : (s.validated d outcome).1.partings = s.partings := by
  unfold validated
  split
  · rfl
  · simp only
    split
    · rfl
    · exact emit_partings_of_none rfl rfl

theorem telling_partings {r : Reported} {x : Failed} {tell : String → Verdict}
    (h : ∀ text, (tell text).effects.filter Effect.isParting = []) :
    (Classifier.telling r x tell).effects.filter Effect.isParting = [] := by
  unfold Classifier.telling
  split
  · rfl
  · exact h _

theorem judge_partings (c : Classifier) (ds : Documents) (r : Reported) (x : Failed) :
    (c.judge ds r x).effects.filter Effect.isParting = [] := by
  cases c with
  | noConfig =>
    simp only [Classifier.judge, Classifier.judgeNoConfig]
    split
    · rfl
    · split
      · rfl
      · exact telling_partings fun _ => rfl
  | configSyntax =>
    simp only [Classifier.judge, Classifier.judgeConfigSyntax]
    split
    · rfl
    · split
      · rfl
      · refine telling_partings fun text => ?_
        split
        · rfl
        · split <;> rfl
  | generic => exact telling_partings fun _ => rfl

theorem classify_partings (ds : Documents) (r : Reported) (x : Failed)
    (chain : List Classifier) :
    (Classifier.classify ds r x chain).effects.filter Effect.isParting = [] := by
  induction chain with
  | nil => rfl
  | cons c rest ih =>
    have h := judge_partings c ds r x
    simp only [Classifier.classify]
    split
    · exact h
    · rw [List.filter_append, h]
      rfl
    · exact ih

theorem judged_partings (chain : List Classifier) (x : Failed) (s : Session) :
    (s.judged chain x).1.partings = s.partings :=
  emit_partings_of_none (classify_partings ..) rfl

theorem endAlone_partings (call : Nat) (x : Except Failed Unit) (s : Session) :
    (s.endAlone call x).partings = s.partings := by
  unfold endAlone
  split
  · exact publish_partings .ok s
  · rename_i x
    have h := judged_partings Classifier.single x s
    split <;> rename_i heq <;> rw [heq] at h
    · exact h
    · exact (publish_partings _ _).trans h

theorem endMember_partings (call place : Nat) (x : Except Failed Unit) (s : Session) :
    (s.endMember call place x).partings = s.partings := by
  unfold endMember
  split
  · rfl
  · rename_i x
    have h := judged_partings Classifier.batch x s
    split <;> rename_i heq <;> rw [heq] at h
    · exact h
    · exact h
    · split <;> exact h

theorem endPass_partings (p : Pass) (engine : String) (outcome : Except Failure (Option Report))
    (s : Session) : (s.endPass p engine outcome).partings = s.partings := by
  have h := validated_partings p.document outcome s
  simp only [endPass]
  split
  · exact (endAlone_partings _ _ _).trans h
  · exact (endMember_partings _ _ _ _).trans h

theorem skipPass_partings (p : Pass) (s : Session) : (s.skipPass p).partings = s.partings := by
  unfold skipPass
  split <;> rfl

theorem abandonPass_partings (p : Pass) (s : Session) :
    (s.abandonPass p).partings = s.partings := by
  unfold abandonPass
  split <;> rfl

/-! ## Resolutions -/

theorem searchFor_partings (env : Surroundings) (n : Nat) (d : Document) (s : Session) :
    (s.searchFor env n d).partings = s.partings := by
  obtain ⟨library, state, es, hf, heq⟩ := searchFor_found env n d s
  rw [heq]
  exact emit_partings_of_none (by cases hf <;> rfl) rfl

theorem look_partings (env : Surroundings) (n : Nat) (s : Session) :
    (s.look env n).partings = s.partings := by
  unfold look
  split
  · rfl
  · split
    · rfl
    · exact searchFor_partings env n _ s

theorem goOn_partings (env : Surroundings) (n : Nat) (s : Session) :
    (s.goOn env n).partings = s.partings := by
  unfold goOn
  split
  · rfl
  · exact searchFor_partings env n _ s

theorem ensure_partings (d : Document) (s : Session) : (s.ensure d).partings = s.partings := by
  unfold ensure
  split <;> rfl

theorem endProbe_partings (call : Nat) (file : String) (outcome : Except Failure (Option Report))
    (s : Session) : (s.endProbe call file outcome).partings = s.partings := by
  unfold endProbe
  split
  · exact emit_partings_of_none rfl rfl
  · rfl

theorem reconsidered_partings (file : String) (outcome : Except Failure (Option Report))
    (s : Session) : (s.reconsidered file outcome).partings = s.partings := by
  unfold reconsidered
  split <;> exact emit_partings_of_none rfl rfl

/-! ## Lint runs, and the tasks -/

variable {env : Surroundings} (hd : env.Discreet)

include hd

theorem invoke_partings (engine : String) (content : Text) (file : String) (s : Session) :
    (s.invoke env engine content file).1.partings = s.partings :=
  emit_partings_of_none
    ((List.filter_cons_of_neg (by simp [Effect.isParting])).trans (hd ..)) rfl

theorem lint_partings (p : Pass) (engine : String) (s : Session) :
    (s.lint env p engine).partings = s.partings := by
  unfold lint
  split
  · exact endPass_partings p engine _ s
  · have h := invoke_partings hd engine p.document.text ‹String› s
    simp only
    split
    · exact h
    · exact (endPass_partings _ _ _ _).trans h

theorem await_partings (n : Nat) (w : Waiter) (s : Session) :
    (s.await env n w).partings = s.partings := by
  have proceeds : ∀ engine, (s.proceed env w engine).partings = s.partings := by
    intro engine
    unfold proceed
    split
    · rfl
    · split
      · exact lint_partings hd _ _ s
      · exact skipPass_partings _ s
  unfold await
  split
  · rfl
  · exact proceeds _
  · unfold abandon
    split
    · rfl
    · exact abandonPass_partings _ s
  all_goals exact proceeds none

theorem awaitFor_partings (uri : String) (w : Waiter) (s : Session) :
    (s.awaitFor env uri w).partings = s.partings := by
  unfold awaitFor
  split
  · unfold proceed
    split
    · rfl
    · exact skipPass_partings _ s
  · exact await_partings hd _ w s

theorem beginProbe_partings (call : Nat) (file engine : String) (s : Session) :
    (s.beginProbe env call file engine).partings = s.partings := by
  unfold beginProbe
  split
  · rfl
  · rename_i name _
    have h := invoke_partings hd engine "" name s
    simp only
    split
    · exact h
    · exact (endProbe_partings _ _ _ _).trans h

theorem reconsider_partings (call : Nat) (uris : List String) (s : Session) :
    (s.reconsider env call uris).partings = s.partings := by
  induction uris generalizing s with
  | nil => exact beginAll_partings call s
  | cons uri rest ih =>
    unfold reconsider
    split
    · rfl
    · split
      · exact ih s
      · rename_i engine name _
        have h := invoke_partings hd engine "" name s
        simp only
        split
        · exact h
        · exact ((ih _).trans (reconsidered_partings _ _ _)).trans h

theorem runEnded_partings (r : Running) (s : Session) :
    (s.runEnded env r).partings = s.partings := by
  unfold runEnded
  split
  · exact endPass_partings _ _ _ s
  · exact endProbe_partings _ _ _ s
  · exact (reconsider_partings hd _ _ _).trans (reconsidered_partings _ _ s)

theorem start_partings (call : Nat) (goal : Goal) (s : Session) :
    (s.start env call goal).partings = s.partings := by
  cases goal with
  | lookUp uri => exact awaitFor_partings hd uri _ s
  | validate d => exact awaitFor_partings hd d.uri _ s
  | validateMany ds => exact beginBatch_partings call ds s
  | validateAll => exact beginAll_partings call s
  | reconsider uris => exact reconsider_partings hd call uris s.forgetNoConfig
  | probe file engine => exact beginProbe_partings hd call file engine s

/-- A task speaks of no exit. -/
theorem perform_partings (task : Task) (s : Session) :
    (s.perform env task).partings = s.partings := by
  cases task with
  | look n => exact look_partings env n s
  | search n => exact goOn_partings env n s
  | start call goal => exact start_partings hd call goal s
  | pass p => exact awaitFor_partings hd _ _ s
  | relay n w => rfl
  | wake n w => exact await_partings hd n w s
  | ended r => exact runEnded_partings hd r s
  | tally call => rfl
  | conclude call => exact conclude_partings call s
  | report f => exact emit_partings_of_none rfl rfl

end

end Session

/-! ## Messages -/

/-- Whether a message has to do with leaving. -/
def Incoming.isOfExit : Incoming → Bool
  | .initialized | .shutdown _ | .exit => true
  | _ => false

namespace Server

/-- No exit is spoken of, and nothing changes that one depends on. -/
structure Apart (s t : Server) : Prop where
  partings : t.session.partings = s.session.partings
  exit : t.exit = s.exit
  isDown : t.isDown = s.isDown

variable {s t u : Server}

theorem Apart.of_eq (h : t.session.history = s.session.history) (he : t.exit = s.exit)
    (hu : t.isDown = s.isDown) : Apart s t := ⟨Session.partings_congr h, he, hu⟩

theorem Apart.refl (s : Server) : Apart s s := ⟨rfl, rfl, rfl⟩

theorem Apart.trans (h : Apart s t) (h' : Apart t u) : Apart s u :=
  ⟨h'.partings.trans h.partings, h'.exit.trans h.exit, h'.isDown.trans h.isDown⟩

theorem emit_apart {es : List Effect} (h : es.filter Effect.isParting = []) (s : Server) :
    Apart s (s.emit es) := ⟨Session.emit_partings_of_none h rfl, rfl, rfl⟩

theorem giveUp_apart (f : Failure) (s : Server) : Apart s (s.giveUp f) := emit_apart rfl s

theorem reply_apart (id : Json) (result : Except Failure Json) (s : Server) :
    Apart s (s.reply id result) := by
  unfold reply
  split <;> exact emit_apart rfl s

theorem begin_apart (goal : Session.Goal) (s : Server) : Apart s (s.begin goal) :=
  .of_eq rfl rfl rfl

theorem keep_apart (key : String) (d : Document) (s : Server) : Apart s (s.keep key d) :=
  .of_eq rfl rfl rfl

theorem whenOpen_apart {handler : Server → Server} (h : Apart s (handler s)) :
    Apart s (s.whenOpen handler) := by
  unfold whenOpen
  split
  · exact h
  · exact giveUp_apart _ s

theorem setUp_apart (id options : Json) (rootPath rootUri : Option String) (s : Server) :
    Apart s (s.setUp id options rootPath rootUri) := by
  unfold setUp
  split
  · exact reply_apart id _ s
  · rename_i root _
    have begun : Apart s (s.begun options root) :=
      ⟨Session.emit_partings_of_none rfl rfl, rfl, rfl⟩
    exact begun.trans (reply_apart id _ _)

theorem validateOpened_apart (uri : String) (s : Server) : Apart s (s.validateOpened uri) := by
  unfold validateOpened
  split
  · exact .refl s
  · rename_i d _
    split
    · exact .refl s
    · have found : Apart s { s with session := s.session.ensure d } :=
        ⟨Session.ensure_partings d s.session, rfl, rfl⟩
      simp only
      split
      · exact found.trans (begin_apart _ _)
      · exact found

theorem didOpen_apart (d : Document) (s : Server) : Apart s (didOpen d s) := by
  unfold didOpen
  split
  · exact giveUp_apart _ s
  · exact (keep_apart _ d s).trans (validateOpened_apart _ _)

theorem revalidate_apart (uri : String) (now : Bool) (s : Server) :
    Apart s (s.revalidate uri now) := by
  unfold revalidate
  split
  · exact .refl s
  · split
    · exact .refl s
    · exact begin_apart _ s

theorem didChange_apart (uri : String) (version : Int) (texts : List Text) (s : Server) :
    Apart s (didChange uri version texts s) := by
  simp only [didChange]
  split
  · exact revalidate_apart uri _ s
  · split
    · exact giveUp_apart _ s
    · exact (keep_apart _ _ s).trans (revalidate_apart uri _ _)

theorem didClose_apart (uri : String) (s : Server) : Apart s (didClose uri s) := by
  simp only [didClose]
  split
  · exact ⟨Session.emit_partings_of_none rfl rfl, rfl, rfl⟩
  · exact .of_eq rfl rfl rfl

theorem didChangeConfiguration_apart (settings : Json) (s : Server) :
    Apart s (s.didChangeConfiguration settings) := by
  have set : Apart s { s with session.settings := .ofClient settings } := .of_eq rfl rfl rfl
  simp only [didChangeConfiguration]
  split
  · exact set.trans (begin_apart _ _)
  · exact set

theorem response_apart (number : Nat) (failure : Option String) (s : Server) :
    Apart s (s.response number failure) := by
  unfold response
  split
  · exact .refl s
  · refine ⟨Session.emit_partings_of_none ?_ rfl, rfl, rfl⟩
    cases failure <;> rfl

theorem handle_apart (s : Server) {x : Incoming} (hx : x.isOfExit = false) :
    Apart s (s.handle x) := by
  cases x with
  | setUp id options rootPath rootUri => exact setUp_apart id options rootPath rootUri s
  | didOpen d => exact whenOpen_apart (didOpen_apart d s)
  | didChange uri version texts => exact whenOpen_apart (didChange_apart uri version texts s)
  | didSave uri => exact whenOpen_apart (revalidate_apart uri _ s)
  | didClose uri => exact whenOpen_apart (didClose_apart uri s)
  | didChangeConfiguration settings => exact didChangeConfiguration_apart settings s
  | didChangeWatchedFiles uris => exact begin_apart _ s
  | codeAction id uri keys => exact reply_apart id _ s
  | allFixes id params => exact reply_apart id _ s
  | execute id command => exact reply_apart id (.error _) s
  | unknown id method => exact emit_apart rfl s
  | response number failure => exact response_apart number failure s
  | initialized | shutdown id | exit => cases hx

end Server

end LintServer
