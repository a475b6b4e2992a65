/-
  LintServer.Proofs.Tidings — what is told of missing and of broken configurations.

  A failed run whose document has a path is judged the same way alone and in a batch, as far as
  configurations go: a missing one is told of if its document was not told of before, and a broken
  file if that was not; an information is shown with it if no document is kept under its address.
  Only the end of a pass tells of such things and remembers them. Only a reconsideration forgets
  them: the missing ones as it begins, and a broken file when that lints again.
  - `Tidings`, `Session.Reports`: what is told and remembered of what is missing or broken.
  - `classify_tells`, `endPass_reports`: a verdict, and the end of a pass.
  - `perform_reports`, `perform_loosens`: all tasks, but for those that reconsider, and these.
-/

import LintServer.Proofs.Accounts
import LintServer.Proofs.Stillness

namespace LintServer

namespace Message

/-- Whether the editor is told that a document has no configuration. -/
def lacks (uri : String) : Message → Bool
  | .noConfig _ u => u == uri
  | _ => false

/-- Whether it is told of a broken file, in the way this is done. -/
def isTiding : Message → Bool
  | .logWarning _ | .showInfo _ => true
  | _ => false

end Message

/-- Whether a failure over a document says that the configuration for an address is missing. -/
def Failure.lacksFor (f : Failure) (d : Document) (uri : String) : Bool :=
  f.isNoConfig && d.uri == uri

/-- Whether a failure calls a configuration file broken, and not the configuration missing. -/
def Failure.names (f : Failure) (file : String) : Bool :=
  !f.isNoConfig && ConfigMessage.ofFailure? f == some file

/-- What is told of configurations and what is remembered of that, where some documents are
`lacking` one and some files are `breaking`. -/
structure Tidings (lacking breaking : String → Bool) (ds : Documents) (r r' : Reported)
    (told : List Message) : Prop where
  missing : ∀ uri, Table.has r'.noConfig uri = (Table.has r.noConfig uri || lacking uri)
  requests : ∀ uri, told.countP (·.lacks uri) =
    if !Table.has r.noConfig uri && lacking uri then 1 else 0
  broken : ∀ file, (Uri.ofPath file).isOk = true →
    Table.has r'.broken file = (Table.has r.broken file || breaking file)
  warnings : ∀ file address, Uri.ofPath file = .ok address → breaking file = true →
    ∃ text, told.filter Message.isTiding =
      if Table.has r.broken file then []
      else .logWarning text :: if (ds.get? address).isNone then [.showInfo text] else []
  still : (∀ uri, lacking uri = false) → (∀ file, breaking file = false) →
    told.all Message.isStill = true

theorem Message.lacks_of_still {told : List Message} (h : told.all isStill = true) (uri : String) :
    told.countP (·.lacks uri) = 0 := by
  refine List.countP_eq_zero.mpr fun m hm => ?_
  have still := List.all_eq_true.mp h m hm
  cases m with
  | noConfig text u => cases still
  | _ => exact Bool.false_ne_true

/-- Where nothing is missing or broken, nothing is told of it. -/
theorem Tidings.of_still {ds : Documents} {r r' : Reported} {told : List Message}
    (hr : r' = r) (h : told.all Message.isStill = true) :
    Tidings (fun _ => false) (fun _ => false) ds r r' told where
  missing uri := by rw [hr, Bool.or_false]
  requests uri := by
    rw [Message.lacks_of_still h, Bool.and_false]
    rfl
  broken file _ := by rw [hr, Bool.or_false]
  warnings file address _ hb := by cases hb
  still _ _ := h

/-- The statuses that come after it are about no configuration. -/
theorem Tidings.append {lacking breaking : String → Bool} {ds : Documents} {r r' : Reported}
    {told more : List Message} (h : Tidings lacking breaking ds r r' told)
    (hm : ∀ m ∈ more, m.isStatus = true) :
    Tidings lacking breaking ds r r' (told ++ more) := by
  have statuses : ∀ f : Message → Bool, (∀ s, f (.status s) = false) →
      ∀ m ∈ more, ¬ f m = true := by
    intro f hf m hmem
    have status := hm m hmem
    cases m with
    | status s =>
      rw [hf s]
      exact Bool.false_ne_true
    | _ => cases status
  refine { h with requests := fun uri => ?_, warnings := fun file address ha hb => ?_,
                  still := fun hl hb => ?_ }
  · rw [List.countP_append, h.requests uri,
      List.countP_eq_zero.mpr (statuses (·.lacks uri) fun _ => rfl), Nat.add_zero]
  · rw [List.filter_append,
      List.filter_eq_nil_iff.mpr (statuses Message.isTiding fun _ => rfl), List.append_nil]
    exact h.warnings file address ha hb
  · rw [List.all_append, h.still hl hb, Bool.true_and, List.all_eq_true]
    intro m hmem
    simpa using statuses (!·.isStill) (fun _ => rfl) m hmem

/-! ## Verdicts -/

/-- A key is there after a put if it was before, or if it was put. -/
theorem Table.has_put {α : Type} (key other : String) (value : α) (entries : List (String × α)) :
    has (put key value entries) other = (has entries other || key == other) := by
  by_cases h : other = key
  · rw [h, has, get?_put_self, BEq.rfl, Bool.or_true]
    rfl
  · have hne : (key == other) = false := by simpa using fun e => h e.symm
    rw [has_put_of_ne h, hne, Bool.or_false]

namespace Classifier

variable {ds : Documents} {r : Reported} {x : Failed} {rest : List Classifier} {text file : String}

/-- What a verdict on a failed run tells of configurations. -/
def Tells (ds : Documents) (r : Reported) (x : Failed) (v : Verdict) : Prop :=
  Tidings (x.failure.lacksFor x.document) x.failure.names ds r v.reported
    (Effect.messages v.effects)

/-- A classifier that knows a failure decides, and the record of that tells the editor nothing. -/
theorem classify_head {c : Classifier} (hs : (c.judge ds r x).status ≠ .ok none)
    (h : Tells ds r x (c.judge ds r x)) : Tells ds r x (classify ds r x (c :: rest)) := by
  simp only [classify]
  split
  · exact h
  · unfold Tells
    rw [messages_decided]
    exact h
  · rename_i none
    exact absurd none hs

theorem classify_skip {c : Classifier} (h : c.judge ds r x = unrecognised r) :
    classify ds r x (c :: rest) = classify ds r x rest := by
  simp only [classify, h]
  rfl

theorem names_of_lacking {f : Failure} (h : f.isNoConfig = true) (file : String) :
    f.names file = false := by
  rw [Failure.names, h]
  rfl

section

variable (ht : userMessage x = .ok text)

include ht

theorem judgeNoConfig_eq (hn : x.failure.isNoConfig = true) : judgeNoConfig r x =
    if Table.has r.noConfig x.document.uri then ⟨r, [], .ok (some .warn)⟩
    else ⟨{ r with noConfig := Table.put x.document.uri x.engine r.noConfig },
      [.told (.noConfig text x.document.uri)], .ok (some .warn)⟩ := by
  simp [judgeNoConfig, hn, telling, ht]

/-- A missing configuration is told of once for a document. -/
theorem judgeNoConfig_tells (ds : Documents) (r : Reported) (hn : x.failure.isNoConfig = true) :
    (judgeNoConfig r x).status = .ok (some .warn) ∧ Tells ds r x (judgeNoConfig r x) := by
  have unnamed : ∀ file, x.failure.names file = false := names_of_lacking hn
  have lacking : ∀ uri, x.failure.lacksFor x.document uri = (x.document.uri == uri) := by
    intro uri
    rw [Failure.lacksFor, hn, Bool.true_and]
  rw [judgeNoConfig_eq ht hn]
  split
  · rename_i told
    refine ⟨rfl, fun uri => ?_, fun uri => ?_, fun file _ => ?_, fun file _ _ hf => ?_,
      fun _ _ => rfl⟩
    · rw [lacking]
      by_cases hu : x.document.uri = uri
      · simp [← hu, told]
      · simp [hu]
    · rw [lacking]
      by_cases hu : x.document.uri = uri
      · simp [← hu, told]
      · simp [hu]
    · rw [unnamed, Bool.or_false]
    · cases (unnamed file).symm.trans hf
  · rename_i untold
    refine ⟨rfl, fun uri => ?_, fun uri => ?_, fun file _ => ?_, fun file _ _ hf => ?_,
      fun hl _ => ?_⟩
    · rw [lacking]
      exact Table.has_put _ _ _ _
    · rw [lacking]
      by_cases hu : x.document.uri = uri
      · simp [← hu, untold, Message.lacks]
      · simp [hu, Message.lacks]
    · rw [unnamed, Bool.or_false]
    · cases (unnamed file).symm.trans hf
    · have own := hl x.document.uri
      rw [lacking, BEq.rfl] at own
      cases own

theorem judgeConfigSyntax_eq (hf : ConfigMessage.ofFailure? x.failure = some file) :
    judgeConfigSyntax ds r x =
      if Table.has r.broken file then ⟨r, [], .ok (some .warn)⟩
      else match Uri.ofPath file with
        | .error f => ⟨r, [.warning text, .told (.logWarning text)], .error f⟩
        | .ok uri =>
          ⟨{ r with broken := Table.put file x.engine r.broken },
            .warning text :: .told (.logWarning text) ::
              if (ds.get? uri).isNone then [.told (.showInfo text)] else [],
            .ok (some .warn)⟩ := by
  simp only [judgeConfigSyntax, hf, telling, ht]
  rfl

/-- A broken file is told of once, if it has an address. -/
theorem judgeConfigSyntax_tells (ds : Documents) (r : Reported)
    (hn : x.failure.isNoConfig = false) (hf : ConfigMessage.ofFailure? x.failure = some file) :
    (judgeConfigSyntax ds r x).status ≠ .ok none ∧ Tells ds r x (judgeConfigSyntax ds r x) := by
  have lacking : ∀ uri, x.failure.lacksFor x.document uri = false := by
    intro uri
    rw [Failure.lacksFor, hn, Bool.false_and]
  have named : ∀ other, x.failure.names other = (file == other) := by
    intro other
    simp [Failure.names, hn, hf]
  have own : ¬ ∀ other, x.failure.names other = false := by
    intro h
    have hs := h file
    rw [named, BEq.rfl] at hs
    cases hs
  rw [judgeConfigSyntax_eq ht hf]
  split
  · rename_i told
    refine ⟨by simp, fun uri => ?_, fun uri => ?_, fun other _ => ?_, fun other _ _ ho => ?_,
      fun _ h => absurd h own⟩
    · rw [lacking, Bool.or_false]
    · rw [lacking, Bool.and_false]
      rfl
    · rw [named]
      by_cases h : file = other
      · simp [← h, told]
      · simp [h]
    · rw [named, beq_iff_eq] at ho
      exact ⟨text, by simp [← ho, told]⟩
  · rename_i untold
    split
    · rename_i f ha
      -- the warning is given, but a file without an address is not remembered
      refine ⟨by simp, fun uri => ?_, fun uri => ?_, fun other hok => ?_, fun other _ ho hb => ?_,
        fun _ h => absurd h own⟩
      · rw [lacking, Bool.or_false]
      · rw [lacking, Bool.and_false]
        rfl
      · have hne : (file == other) = false := by
          refine beq_false_of_ne ?_
          rintro rfl
          rw [ha] at hok
          cases hok
        rw [named, hne, Bool.or_false]
      · rw [named, beq_iff_eq] at hb
        rw [← hb, ha] at ho
        cases ho
    · rename_i address ha
      refine ⟨by simp, fun uri => ?_, fun uri => ?_, fun other _ => ?_, fun other a ho hb => ?_,
        fun _ h => absurd h own⟩
      · rw [lacking, Bool.or_false]
      · rw [lacking, Bool.and_false]
        cases (ds.get? address).isNone <;> rfl
      · rw [named]
        exact Table.has_put _ _ _ _
      · rw [named, beq_iff_eq] at hb
        rw [← hb, ha] at ho
        injection ho with ho
        refine ⟨text, ?_⟩
        rw [← hb, if_neg untold, ← ho]
        cases (ds.get? address).isNone <;> rfl

end

/-- A failure that no classifier of a batch knows is told of in other words, if at all. -/
theorem unknown_tells {v : Verdict} (hn : x.failure.isNoConfig = false)
    (hf : ConfigMessage.ofFailure? x.failure = none) (hr : v.reported = r)
    (hm : (Effect.messages v.effects).all Message.isStill = true) : Tells ds r x v := by
  have lacking : x.failure.lacksFor x.document = fun _ => false := by
    funext uri
    rw [Failure.lacksFor, hn, Bool.false_and]
  have named : x.failure.names = fun _ => false := by
    funext file
    rw [Failure.names, hf]
    exact Bool.and_false _
  unfold Tells
  rw [lacking, named]
  exact .of_still hr hm

theorem userMessage_of_path (hp : x.document.path.isOk = true) :
    ∃ text, userMessage x = .ok text := by
  unfold userMessage
  cases hd : x.document.path with
  | error f =>
    rw [hd] at hp
    cases hp
  | ok path => exact ⟨_, rfl⟩

/-- What is told of configurations does not depend on whether there is a classifier for the rest. -/
theorem classify_tells (hp : x.document.path.isOk = true)
    (hrest : (classify ds r x rest).reported = r ∧
      (Effect.messages (classify ds r x rest).effects).all Message.isStill = true) :
    Tells ds r x (classify ds r x (.noConfig :: .configSyntax :: rest)) := by
  obtain ⟨text, ht⟩ := userMessage_of_path hp
  cases hn : x.failure.isNoConfig with
  | true =>
    obtain ⟨hs, tells⟩ := judgeNoConfig_tells ht ds r hn
    exact classify_head (c := .noConfig) (by simp [judge, hs]) tells
  | false =>
    rw [classify_skip (c := .noConfig) (by simp [judge, judgeNoConfig, hn])]
    cases hf : ConfigMessage.ofFailure? x.failure with
    | some file =>
      obtain ⟨hs, tells⟩ := judgeConfigSyntax_tells ht ds r hn hf
      exact classify_head (c := .configSyntax) hs tells
    | none =>
      rw [classify_skip (c := .configSyntax) (by simp [judge, judgeConfigSyntax, hf])]
      exact unknown_tells hn hf hrest.1 hrest.2

theorem classify_batch_tells (ds : Documents) (r : Reported) (hp : x.document.path.isOk = true) :
    Tells ds r x (classify ds r x batch) := classify_tells hp ⟨rfl, rfl⟩

theorem classify_single_tells (ds : Documents) (r : Reported) (hp : x.document.path.isOk = true) :
    Tells ds r x (classify ds r x single) := by
  obtain ⟨text, ht⟩ := userMessage_of_path hp
  refine classify_tells hp ?_
  simp only [classify, judge, judgeGeneric, telling, ht]
  exact ⟨trivial, rfl⟩

end Classifier

/-! ## Ends of passes -/

namespace Session

/-- The failure that a pass ends with: its run failed, or the report cannot be converted. -/
def Ending.failure? (e : Ending) : Option Failure :=
  match e.outcome >>= Report.diagnostics with
  | .error f => some f
  | .ok _ => none

/-- Whether a pass ends for want of a configuration for an address. -/
def Ending.lacksFor (e : Ending) (uri : String) : Bool :=
  e.failure?.any (·.lacksFor e.document uri)

/-- Whether a pass ends with a failure that calls a configuration file broken. -/
def Ending.names (e : Ending) (file : String) : Bool := e.failure?.any (·.names file)

/-- From one session to the next, what is told of configurations is what is new of those that are
`lacking` or `breaking`. -/
def Reports (lacking breaking : String → Bool) (s t : Session) : Prop :=
  ∃ es, t.history = s.history ++ es ∧
    Tidings lacking breaking s.documents s.reported t.reported (Effect.messages es)

variable {lacking breaking : String → Bool} {s t u : Session}

theorem messages_still {es : List Effect} (h : es.all Effect.isStill = true) :
    (Effect.messages es).all Message.isStill = true := by
  refine List.all_eq_true.mpr fun m hm => ?_
  obtain ⟨e, he, hmsg⟩ := List.mem_filterMap.mp hm
  have still := List.all_eq_true.mp h e he
  cases e with
  | told m' =>
    injection hmsg with hmsg
    exact hmsg ▸ still
  | loaded path | unloaded uri f | gaveUp f =>
    injection hmsg with hmsg
    rw [← hmsg]
    rfl
  | _ => cases hmsg

theorem Still.reports (h : Still s t) : Reports (fun _ => false) (fun _ => false) s t := by
  obtain ⟨es, hh, hes⟩ := h.history
  exact ⟨es, hh, .of_still h.reported (messages_still hes)⟩

/-- What tells the editor nothing can come before. -/
theorem Reports.after_emit {es : List Effect} (he : Effect.messages es = [])
    (h : Reports lacking breaking (s.emit es) t) : Reports lacking breaking s t := by
  obtain ⟨fs, hh, tidings⟩ := h
  refine ⟨es ++ fs, hh.trans (List.append_assoc _ _ _), ?_⟩
  rw [Effect.messages_append, he, List.nil_append]
  exact tidings

/-- What is published after it is about no configuration. -/
theorem Reports.published (h : Reports lacking breaking s t) (es : List Effect)
    (hes : ∀ m ∈ Effect.messages es, m.isStatus = true) (hr : u.reported = t.reported)
    (hh : u.history = t.history ++ es) : Reports lacking breaking s u := by
  obtain ⟨fs, hf, tidings⟩ := h
  refine ⟨fs ++ es, by rw [hh, hf, List.append_assoc], ?_⟩
  rw [hr, Effect.messages_append]
  exact tidings.append hes

section

variable {p : Pass} {engine : String} {outcome : Except Failure (Option Report)} {x : Failed}

theorem judged_reports {chain : List Classifier}
    (h : Classifier.Tells s.documents s.reported x
      (Classifier.classify s.documents s.reported x chain)) :
    Reports (x.failure.lacksFor x.document) x.failure.names s (s.judged chain x).1 := ⟨_, rfl, h⟩

theorem endAlone_reports (call : Nat) (hp : x.document.path.isOk = true) (s : Session) :
    Reports (x.failure.lacksFor x.document) x.failure.names s (s.endAlone call (.error x)) := by
  have told := judged_reports (Classifier.classify_single_tells s.documents s.reported hp)
  unfold endAlone
  simp only
  split <;> rename_i he <;> rw [he] at told
  · exact told.published [] (fun m hm => by cases hm) rfl (List.append_nil _).symm
  · refine told.published [.told (.status _)] (fun m hm => ?_) rfl rfl
    rw [List.mem_singleton.mp hm]
    rfl

theorem endMember_reports (call place : Nat) (hp : x.document.path.isOk = true) (s : Session) :
    Reports (x.failure.lacksFor x.document) x.failure.names s
      (s.endMember call place (.error x)) := by
  have told := judged_reports (Classifier.classify_batch_tells s.documents s.reported hp)
  rw [endMember_eq]
  exact told.published [] (fun m hm => by cases hm) rfl (List.append_nil _).symm

/-- The end of a pass tells of the failure that it ends with, if it does. -/
theorem endPass_reports (engine : String) (hp : p.document.path.isOk = true) (s : Session) :
    Reports (Ending.lacksFor ⟨p.document, outcome⟩) (Ending.names ⟨p.document, outcome⟩) s
      (s.endPass p engine outcome) := by
  obtain ⟨d, owner⟩ := p
  cases hf : outcome >>= Report.diagnostics with
  | error f =>
    have failed : Ending.failure? ⟨d, outcome⟩ = some f := by simp only [Ending.failure?, hf]
    have lacking : Ending.lacksFor ⟨d, outcome⟩ = f.lacksFor d := by
      funext uri
      rw [Ending.lacksFor, failed]
      rfl
    have named : Ending.names ⟨d, outcome⟩ = f.names := by
      funext file
      rw [Ending.names, failed]
      rfl
    rw [lacking, named]
    simp only [endPass, validated_eq, hf]
    cases owner with
    | alone call => exact endAlone_reports (x := ⟨d, engine, f⟩) call hp _
    | member call place => exact endMember_reports (x := ⟨d, engine, f⟩) call place hp _
  | ok found =>
    have lacking : Ending.lacksFor ⟨d, outcome⟩ = fun _ => false := by
      funext uri
      simp only [Ending.lacksFor, Ending.failure?, hf, Option.any_none]
    have named : Ending.names ⟨d, outcome⟩ = fun _ => false := by
      funext file
      simp only [Ending.names, Ending.failure?, hf, Option.any_none]
    rw [lacking, named]
    refine Still.reports ?_
    simp only [endPass, validated_eq, hf]
    have rebuilt : Still s ({ s with registry := s.registry.rebuilt d outcome }.emit
        [.told (.diagnostics d.uri found)]) := .emit rfl rfl rfl
    cases owner with
    | alone call => exact rebuilt.trans ((publish_still _ _).trans (done_still call _ _))
    | member call place => exact rebuilt.trans (memberEnded_still call place _ _)

end

/-! ## Tasks -/

/-- The end of a pass that an attempt is. -/
def Attempt.ending? (d : Document) : Attempt → Option Ending
  | .ran _ outcome => some ⟨d, outcome⟩
  | _ => none

section

variable {env : Surroundings}

theorem lintEnding_eq (p : Pass) (engine : String) (s : Session) :
    s.lintEnding env p engine = (s.lintAttempt env p engine).bind (·.ending? p.document) := by
  unfold lintEnding lintAttempt
  cases p.document.path with
  | error f => rfl
  | ok path =>
    simp only
    split <;> rfl

theorem awaitEnding_eq (n : Nat) (p : Pass) (s : Session) :
    s.awaitEnding env n (.pass p) = (s.awaitAttempt env n p).bind (·.ending? p.document) := by
  unfold awaitEnding awaitAttempt
  cases s.library.futureAt? n with
  | none => rfl
  | some future =>
    cases future with
    | set engine =>
      cases engine with
      | none => rfl
      | some engine => exact lintEnding_eq p engine.path s
    | _ => rfl

theorem passEnding_eq (p : Pass) (s : Session) :
    s.passEnding env p = (s.passAttempt env p).bind (·.ending? p.document) := by
  unfold passEnding passAttempt
  cases s.library.number? p.document.uri with
  | none => rfl
  | some n => exact awaitEnding_eq n p s

/-- What a session reports when a pass may have ended. -/
def ReportsEnd (e : Option Ending) (s t : Session) : Prop :=
  Reports (fun uri => e.any (·.lacksFor uri)) (fun file => e.any (·.names file)) s t

theorem Goes.reports {p : Pass} {a : Option Attempt} (h : Goes p a s t)
    (hp : p.document.path.isOk = true) :
    ReportsEnd (a.bind (·.ending? p.document)) s t := by
  cases a with
  | none =>
    obtain ⟨es, hh, hes⟩ := h.told
    exact ⟨es, hh, .of_still h.reported (by rw [hes]; rfl)⟩
  | some a =>
    obtain ⟨es, hes, rfl⟩ := h
    refine Reports.after_emit hes ?_
    cases a with
    | ran engine outcome => exact endPass_reports engine hp (s.emit es)
    | unserved =>
      refine Still.reports ?_
      simp only [endedAs, skipPass]
      split
      · exact done_still _ _ _
      · exact memberEnded_still _ _ _ _
    | cancelled =>
      refine Still.reports ?_
      simp only [endedAs, abandonPass]
      split
      · exact done_still _ _ _
      · exact memberEnded_still _ _ _ _

variable (mute : env.Mute)
include mute

/-- A call of an engine tells the editor nothing. -/
theorem linted_mute (engine : String) (content : Text) (file : String) (options : List (String × Json)) :
    Effect.messages (.linted engine content file options ::
      (env.run engine content file options).effects) = [] :=
  mute engine content file options

theorem beginProbe_reports (call : Nat) (file engine : String) (s : Session) :
    ReportsEnd none s (s.beginProbe env call file engine) := by
  unfold beginProbe
  split
  · exact (done_still call _ s).reports
  · rename_i name _
    refine Reports.after_emit (linted_mute mute engine "" name s.settings.options) ?_
    simp only [invoke]
    split
    · exact Still.reports (.of_eq rfl rfl)
    · exact (endProbe_still call file _ _).reports

/-- A task that does not reconsider tells of what the pass that it ends lacks or calls broken, and
of nothing if it ends none. -/
theorem perform_reports {task : Task} (hr : task.reconsiders = false)
    (hp : ∀ d ∈ task.snapshots, d.path.isOk = true) (s : Session) :
    ReportsEnd (s.ending env task) s (s.perform env task) := by
  have idle : ∀ {t : Session}, Still s t → ReportsEnd none s t := Still.reports
  cases task with
  | look n => exact idle (look_still env n s)
  | search n => exact idle (goOn_still env n s)
  | start call goal =>
    cases goal with
    | lookUp uri => exact idle (lookUp_still env uri call s)
    | validate d =>
      simp only [ending, passEnding_eq]
      exact (awaitFor_goes mute ⟨d, .alone call⟩ s).reports (hp d List.mem_cons_self)
    | validateMany ds => exact idle (beginBatch_still call ds s)
    | validateAll => exact idle (beginAll_still call s)
    | reconsider uris => cases hr
    | probe file engine => exact beginProbe_reports mute call file engine s
  | pass p =>
    simp only [ending, passEnding_eq]
    exact (awaitFor_goes mute p s).reports (hp p.document List.mem_cons_self)
  | relay n w => exact idle (.of_eq rfl rfl)
  | wake n w =>
    cases w with
    | lookUp call => exact idle (awaitLookUp_still env n call s)
    | pass p =>
      simp only [ending, awaitEnding_eq]
      exact (await_goes mute n p s).reports (hp p.document List.mem_cons_self)
  | ended r =>
    obtain ⟨name, purpose, outcome⟩ := r
    cases purpose with
    | pass p engine => exact endPass_reports engine (hp p.document List.mem_cons_self) s
    | probe call file => exact idle (endProbe_still call file outcome s)
    | reconsider call file rest => cases hr
  | tally call => exact idle (tally_still call s)
  | conclude call => exact idle (conclude_still call s)
  | report f => exact idle (emit_still rfl s)

end

/-! ## Reconsiderations -/

/-- Whether a task makes the server forget which documents it told of. -/
def Task.resets : Task → Bool
  | .start _ (.reconsider _) => true
  | _ => false

theorem Task.not_resets {task : Task} (h : task.reconsiders = false) : task.resets = false := by
  cases task with
  | start call goal =>
    cases goal with
    | reconsider uris => cases h
    | _ => rfl
  | _ => rfl

/-- Nothing is told of configurations, and of the broken files some may be forgotten. -/
structure Loosens (s t : Session) : Prop where
  noConfig : t.reported.noConfig = s.reported.noConfig
  broken : ∀ file, Table.has s.reported.broken file = false →
    Table.has t.reported.broken file = false
  history : ∃ es, t.history = s.history ++ es ∧
    (Effect.messages es).all Message.isStill = true

theorem Still.loosens (h : Still s t) : Loosens s t := by
  obtain ⟨es, hh, hes⟩ := h.history
  exact ⟨by rw [h.reported], fun file hf => h.reported ▸ hf, es, hh, messages_still hes⟩

theorem Loosens.trans (h : Loosens s t) (h' : Loosens t u) : Loosens s u := by
  obtain ⟨es, he, hes⟩ := h.history
  obtain ⟨fs, hf, hfs⟩ := h'.history
  refine ⟨h'.noConfig.trans h.noConfig, fun file hb => h'.broken file (h.broken file hb), es ++ fs,
    by rw [hf, he, List.append_assoc], ?_⟩
  rw [Effect.messages_append, List.all_append, hes, hfs]
  rfl

/-- A file is forgotten if it lints again. -/
theorem reconsidered_loosens (file : String) (outcome : Except Failure (Option Report))
    (s : Session) : Loosens s (s.reconsidered file outcome) := by
  unfold reconsidered
  split
  · exact (emit_still rfl s).loosens
  · exact ⟨rfl, fun _ ho => has_erase_of_not file ho, _, rfl, rfl⟩

section

variable {env : Surroundings} (mute : env.Mute)
include mute

theorem invoke_loosens (engine : String) (content : Text) (file : String) (s : Session) :
    Loosens s (s.invoke env engine content file).1 := by
  refine ⟨rfl, fun _ h => h, _, rfl, ?_⟩
  rw [linted_mute mute engine content file s.settings.options]
  rfl

theorem reconsider_loosens (call : Nat) (uris : List String) (s : Session) :
    Loosens s (s.reconsider env call uris) := by
  induction uris generalizing s with
  | nil => exact (beginAll_still call s).loosens
  | cons uri rest ih =>
    simp only [reconsider]
    split
    · exact (done_still call _ s).loosens
    · split
      · exact ih s
      · rename_i engine name _
        have invoked := invoke_loosens mute engine "" name s
        split
        · exact invoked.trans (Still.loosens (.of_eq rfl rfl))
        · exact (invoked.trans (reconsidered_loosens _ _ _)).trans (ih _)

/-- A task that reconsiders ends no pass; the one that begins to do so forgets all documents that
were told of. -/
theorem perform_loosens {task : Task} (hr : task.reconsiders = true) (s : Session) :
    s.ending env task = none ∧
      Loosens (if task.resets then s.forgetNoConfig else s) (s.perform env task) := by
  cases task with
  | start call goal =>
    cases goal with
    | reconsider uris => exact ⟨rfl, reconsider_loosens mute call uris _⟩
    | _ => cases hr
  | ended r =>
    obtain ⟨name, purpose, outcome⟩ := r
    cases purpose with
    | reconsider call file rest =>
      exact ⟨rfl, (reconsidered_loosens file outcome s).trans
        (reconsider_loosens mute call rest _)⟩
    | _ => cases hr
  | _ => cases hr

end

end Session

end LintServer
