/-
  LintServer.Proofs.Verdicts — what classifiers make of a failed run.

  The user is told of a failed run at most once and in one message. To tell of it takes a path
  for the document, and for a broken configuration file an address as well, unless it was told
  before; where one is missing, judging the failure fails itself.
  - `Classifier.recognised`, `Classifier.tellable`: which failures the classifiers of a batch
    know, and which can be told of.
  - `classify_plain`: what every verdict has in common, whatever the chain.
  - `classify_batch_unknown`, `classify_batch_known`, `classify_single`: the verdicts themselves.
  - `tellable_of_alike`: which failures can be told of is settled before any is told of.
-/

import LintServer.Proofs.Addresses
import LintServer.Validation.Classify

namespace LintServer

/-! ## Kinds of messages -/

namespace Message

def isStatus : Message → Bool
  | .status _ => true
  | _ => false

def isDiagnostics : Message → Bool
  | .diagnostics .. => true
  | _ => false

def isError : Message → Bool
  | .showError _ => true
  | _ => false

/-- Whether the user is shown something. -/
def isNotice : Message → Bool
  | .noConfig .. | .showInfo _ | .showError _ => true
  | _ => false

end Message

/-- What effects tell the editor, in order. -/
def Effect.messages (es : List Effect) : List Message := es.filterMap Effect.message?

@[simp] theorem Effect.messages_append (es fs : List Effect) :
    messages (es ++ fs) = messages es ++ messages fs := List.filterMap_append

@[simp] theorem Effect.messages_nil : messages [] = [] := rfl

@[simp] theorem Effect.messages_told (m : Message) (es : List Effect) :
    messages (.told m :: es) = m :: messages es := rfl

@[simp] theorem Effect.messages_logged (level : Level) (text : String) (es : List Effect) :
    messages (.logged level text :: es) = messages es := rfl

/-! ## What was told of before -/

/-- What was told of differs at most in documents with a path and files with an address. -/
structure Reported.Alike (r r' : Reported) : Prop where
  noConfig : ∀ uri, (Uri.toPath uri).isOk = false →
    Table.has r'.noConfig uri = Table.has r.noConfig uri
  broken : ∀ file, (Uri.ofPath file).isOk = false →
    Table.has r'.broken file = Table.has r.broken file

theorem Reported.Alike.refl (r : Reported) : r.Alike r := ⟨fun _ _ => rfl, fun _ _ => rfl⟩

theorem Reported.Alike.trans {a b c : Reported} (h : a.Alike b) (h' : b.Alike c) : a.Alike c :=
  ⟨fun uri hu => (h'.noConfig uri hu).trans (h.noConfig uri hu),
    fun file hf => (h'.broken file hf).trans (h.broken file hf)⟩

/-- Where all that was told of had an address, forgetting some of it changes nothing else. -/
theorem Reported.Alike.of_forgotten {r r' : Reported} (h : Reported.Alike {} r)
    (hn : ∀ uri, Table.has r.noConfig uri = false → Table.has r'.noConfig uri = false)
    (hb : ∀ file, Table.has r.broken file = false → Table.has r'.broken file = false) :
    r.Alike r' := by
  refine ⟨fun uri hu => ?_, fun file hf => ?_⟩
  · have none : Table.has r.noConfig uri = false := h.noConfig uri hu
    rw [none, hn uri none]
  · have none : Table.has r.broken file = false := h.broken file hf
    rw [none, hb file none]

theorem Table.has_put_of_ne {α : Type} {key other : String} (h : other ≠ key) (value : α)
    (entries : List (String × α)) : has (put key value entries) other = has entries other := by
  rw [has, has, get?_put_of_ne h]

namespace Classifier

/-- Whether one of the classifiers of a batch knows a failure. -/
def recognised (f : Failure) : Bool := f.isNoConfig || (ConfigMessage.ofFailure? f).isSome

/-- Whether the user can be told of a failed run, or has been told of it. -/
def tellable (r : Reported) (x : Failed) : Bool :=
  if x.failure.isNoConfig then Table.has r.noConfig x.document.uri || x.document.path.isOk
  else match ConfigMessage.ofFailure? x.failure with
    | some file => Table.has r.broken file || (x.document.path.isOk && (Uri.ofPath file).isOk)
    | none => x.document.path.isOk

variable {ds : Documents} {r : Reported} {x : Failed}

/-! ## What every verdict has in common -/

/-- A verdict tells of no status and no diagnostics, shows the user at most one message and none
if it fails, and is never that all is well. -/
structure Plain (r : Reported) (v : Verdict) : Prop where
  quiet : ∀ m ∈ Effect.messages v.effects, m.isStatus = false ∧ m.isDiagnostics = false
  notices : (Effect.messages v.effects).countP Message.isNotice ≤ 1
  stuck : ∀ f, v.status = .error f →
    (Effect.messages v.effects).countP Message.isNotice = 0 ∧ f.isCancelled = false
  worse : v.status ≠ .ok (some .ok)
  alike : r.Alike v.reported

theorem unrecognised_plain (r : Reported) : Plain r (unrecognised r) where
  quiet m hm := by cases hm
  notices := Nat.zero_le 1
  stuck f hf := by cases hf
  worse h := by cases h
  alike := .refl r

theorem known_plain (r : Reported) : Plain r ⟨r, [], .ok (some .warn)⟩ where
  quiet m hm := by cases hm
  notices := Nat.zero_le 1
  stuck f hf := by cases hf
  worse h := by cases h
  alike := .refl r

theorem userMessage_eq_error {f : Failure} (h : userMessage x = .error f) :
    x.document.path = .error f := by
  unfold userMessage at h
  cases hp : x.document.path with
  | error g =>
    rw [hp] at h
    injection h with h
    rw [h]
  | ok path =>
    rw [hp] at h
    cases h

/-- A verdict that has to tell the user something. -/
theorem telling_plain {tell : String → Verdict}
    (h : x.document.path.isOk = true → ∀ text, Plain r (tell text)) :
    Plain r (telling r x tell) := by
  unfold telling
  cases hm : userMessage x with
  | error f =>
    have hp := userMessage_eq_error hm
    refine ⟨fun m hm => (by cases hm), Nat.zero_le 1, ?_, fun h => (by cases h), .refl r⟩
    intro g hg
    injection hg with hg
    obtain ⟨why, hf, -⟩ := Uri.toPath_refused hp
    rw [← hg, hf]
    exact ⟨rfl, rfl⟩
  | ok text =>
    refine h ?_ text
    cases hp : x.document.path with
    | ok path => rfl
    | error f =>
      rw [userMessage, hp] at hm
      cases hm

theorem judgeNoConfig_plain (r : Reported) (x : Failed) : Plain r (judgeNoConfig r x) := by
  simp only [judgeNoConfig]
  split
  · exact unrecognised_plain r
  · split
    · exact known_plain r
    · refine telling_plain fun hp text => ⟨?_, ?_, ?_, ?_, ?_, ?_⟩
      · simp [Message.isStatus, Message.isDiagnostics]
      · simp [Message.isNotice]
      · intro f hf
        cases hf
      · simp
      · intro uri hu
        refine Table.has_put_of_ne ?_ _ _
        rintro rfl
        rw [← Document.path, hp] at hu
        cases hu
      · exact fun _ _ => rfl

theorem judgeConfigSyntax_plain (ds : Documents) (r : Reported) (x : Failed) :
    Plain r (judgeConfigSyntax ds r x) := by
  unfold judgeConfigSyntax
  split
  · exact unrecognised_plain r
  · rename_i file _
    split
    · exact known_plain r
    · refine telling_plain fun _ text => ?_
      simp only
      split
      · rename_i f hf
        refine ⟨?_, ?_, ?_, fun h => (by cases h), .refl r⟩
        · simp [Effect.warning, Message.isStatus, Message.isDiagnostics]
        · simp [Effect.warning, Message.isNotice]
        · intro g hg
          injection hg with hg
          subst hg
          exact ⟨rfl, Uri.ofPath_refused hf⟩
      · rename_i uri hf
        refine ⟨?_, ?_, fun f hf => (by cases hf), fun h => (by cases h), fun _ _ => rfl, ?_⟩
        · split <;> simp [Effect.warning, Message.isStatus, Message.isDiagnostics]
        · split <;> simp [Effect.warning, Message.isNotice]
        · intro other ho
          refine Table.has_put_of_ne ?_ _ _
          rintro rfl
          rw [hf] at ho
          cases ho

theorem judgeGeneric_plain (r : Reported) (x : Failed) : Plain r (judgeGeneric r x) := by
  refine telling_plain fun _ text => ⟨?_, ?_, ?_, ?_, .refl r⟩
  · simp [Effect.error, Message.isStatus, Message.isDiagnostics]
  · simp [Effect.error, Message.isNotice]
  · intro f hf
    cases hf
  · simp

theorem judge_plain (c : Classifier) (ds : Documents) (r : Reported) (x : Failed) :
    Plain r (c.judge ds r x) := by
  cases c with
  | noConfig => exact judgeNoConfig_plain r x
  | configSyntax => exact judgeConfigSyntax_plain ds r x
  | generic => exact judgeGeneric_plain r x

theorem messages_decided (es : List Effect) (c : Classifier) (d : Document) (s : Status) :
    Effect.messages (es ++ [decided c d s]) = Effect.messages es := by
  rw [Effect.messages_append]
  exact List.append_nil _

theorem classify_plain (ds : Documents) (r : Reported) (x : Failed) (chain : List Classifier) :
    Plain r (classify ds r x chain) := by
  induction chain with
  | nil => exact unrecognised_plain r
  | cons c rest ih =>
    have h := judge_plain c ds r x
    simp only [classify]
    split
    · exact h
    · refine ⟨?_, ?_, ?_, h.worse, h.alike⟩
      · rw [messages_decided]
        exact h.quiet
      · rw [messages_decided]
        exact h.notices
      · intro f hf
        rw [messages_decided]
        exact h.stuck f hf
    · exact ih

/-- The classifiers of a batch show no errors. -/
theorem judge_no_error (ds : Documents) (r : Reported) (x : Failed) {c : Classifier}
    (hc : c ≠ .generic) : ∀ m ∈ Effect.messages (c.judge ds r x).effects, m.isError = false := by
  have told : ∀ {tell : String → Verdict},
      (∀ text, ∀ m ∈ Effect.messages (tell text).effects, m.isError = false) →
      ∀ m ∈ Effect.messages (telling r x tell).effects, m.isError = false := by
    intro tell h
    unfold telling
    split
    · simp
    · exact h _
  cases c with
  | generic => exact absurd rfl hc
  | noConfig =>
    simp only [judge, judgeNoConfig]
    split
    · simp [unrecognised]
    · split
      · simp
      · refine told fun text => ?_
        simp [Message.isError]
  | configSyntax =>
    simp only [judge, judgeConfigSyntax]
    split
    · simp [unrecognised]
    · split
      · simp
      · refine told fun text => ?_
        split
        · simp [Effect.warning, Message.isError]
        · split <;> simp [Effect.warning, Message.isError]

theorem classify_no_error {chain : List Classifier} (hc : .generic ∉ chain) :
    ∀ m ∈ Effect.messages (classify ds r x chain).effects, m.isError = false := by
  induction chain with
  | nil => simp [classify, unrecognised]
  | cons c rest ih =>
    have h := judge_no_error ds r x (c := c) fun e => hc (e ▸ List.mem_cons_self)
    simp only [classify]
    split
    · exact h
    · rw [messages_decided]
      exact h
    · exact ih fun hm => hc (List.mem_cons_of_mem c hm)

/-! ## The verdicts -/

/-- A failure that neither classifier of a batch knows is left alone. -/
theorem classify_batch_unknown (h : recognised x.failure = false) :
    classify ds r x batch = unrecognised r := by
  simp only [recognised, Bool.or_eq_false_iff, Option.isSome_eq_false_iff,
    Option.isNone_iff_eq_none] at h
  simp [batch, classify, judge, judgeNoConfig, judgeConfigSyntax, h.1, h.2, unrecognised]

theorem telling_of_path (h : x.document.path.isOk = true) {tell : String → Verdict}
    {P : Verdict → Prop} (ht : ∀ text, P (tell text)) : P (telling r x tell) := by
  unfold telling userMessage
  cases hp : x.document.path with
  | error f =>
    rw [hp] at h
    cases h
  | ok path => exact ht _

theorem telling_status_of_no_path (h : x.document.path.isOk = false) (tell : String → Verdict) :
    ∃ f, (telling r x tell).status = .error f := by
  unfold telling userMessage
  cases hp : x.document.path with
  | error f => exact ⟨f, rfl⟩
  | ok path =>
    rw [hp] at h
    cases h

theorem judgeNoConfig_status (hn : x.failure.isNoConfig = true) :
    (tellable r x = true → (judgeNoConfig r x).status = .ok (some .warn)) ∧
      (tellable r x = false → ∃ f, (judgeNoConfig r x).status = .error f) := by
  simp only [tellable, hn, if_true, judgeNoConfig, Bool.not_true, Bool.false_eq_true, if_false]
  cases ht : Table.has r.noConfig x.document.uri with
  | true => simp
  | false =>
    simp only [Bool.false_or, Bool.false_eq_true, if_false]
    refine ⟨fun hp => ?_, fun hp => telling_status_of_no_path hp _⟩
    exact telling_of_path (P := fun v => v.status = .ok (some .warn)) hp fun _ => rfl

theorem judgeConfigSyntax_status (ds : Documents) (r : Reported)
    (hn : x.failure.isNoConfig = false) {file : String}
    (hf : ConfigMessage.ofFailure? x.failure = some file) :
    (tellable r x = true → (judgeConfigSyntax ds r x).status = .ok (some .warn)) ∧
      (tellable r x = false → ∃ f, (judgeConfigSyntax ds r x).status = .error f) := by
  simp only [tellable, hn, Bool.false_eq_true, if_false, hf, judgeConfigSyntax]
  cases ht : Table.has r.broken file with
  | true => simp
  | false =>
    simp only [Bool.false_or, Bool.false_eq_true, if_false]
    cases hp : x.document.path.isOk with
    | false =>
      simp only [Bool.false_and, Bool.false_eq_true, false_implies, true_and, true_implies]
      exact telling_status_of_no_path hp _
    | true =>
      cases ha : Uri.ofPath file with
      | error f =>
        refine ⟨fun h => (by cases h), fun _ => ⟨f, ?_⟩⟩
        exact telling_of_path (P := fun v => v.status = .error f) hp fun _ => rfl
      | ok uri =>
        refine ⟨fun _ => ?_, fun h => (by cases h)⟩
        exact telling_of_path (P := fun v => v.status = .ok (some .warn)) hp fun _ => rfl

/-- A failure that one of the classifiers of a batch knows is a warning, if it can be told of. -/
theorem classify_batch_known (ds : Documents) (r : Reported) (h : recognised x.failure = true) :
    (tellable r x = true → (classify ds r x batch).status = .ok (some .warn)) ∧
      (tellable r x = false → ∃ f, (classify ds r x batch).status = .error f) := by
  cases hn : x.failure.isNoConfig with
  | true =>
    have hs := judgeNoConfig_status (r := r) hn
    simp only [batch, classify, judge]
    refine ⟨fun ht => ?_, fun ht => ?_⟩
    · rw [hs.1 ht]
    · obtain ⟨f, hf⟩ := hs.2 ht
      rw [hf]
      exact ⟨f, hf⟩
  | false =>
    have hj : judgeNoConfig r x = unrecognised r := by simp [judgeNoConfig, hn]
    cases hf : ConfigMessage.ofFailure? x.failure with
    | none =>
      rw [recognised, hn, hf] at h
      cases h
    | some file =>
      have hs := judgeConfigSyntax_status ds r hn hf
      simp only [batch, classify, judge, hj, unrecognised]
      refine ⟨fun ht => ?_, fun ht => ?_⟩
      · rw [hs.1 ht]
      · obtain ⟨f, hf⟩ := hs.2 ht
        rw [hf]
        exact ⟨f, hf⟩

/-- The first part of a chain decides, or leaves it to the rest. -/
theorem classify_append (ds : Documents) (r : Reported) (x : Failed) (a b : List Classifier) :
    ((classify ds r x a).status = .ok none → classify ds r x (a ++ b) = classify ds r x b) ∧
      ((classify ds r x a).status ≠ .ok none →
        classify ds r x (a ++ b) = classify ds r x a) := by
  induction a with
  | nil => exact ⟨fun _ => rfl, fun h => absurd rfl h⟩
  | cons c rest ih =>
    simp only [List.cons_append, classify]
    obtain ⟨told, effects, status⟩ := c.judge ds r x
    cases status with
    | error f => simp
    | ok status =>
      cases status with
      | some s => simp
      | none => exact ih

theorem tellable_of_unknown (h : recognised x.failure = false) :
    tellable r x = x.document.path.isOk := by
  simp only [recognised, Bool.or_eq_false_iff, Option.isSome_eq_false_iff,
    Option.isNone_iff_eq_none] at h
  simp [tellable, h.1, h.2]

/-- The chain for one document gives every failure that can be told of a status. -/
theorem classify_single (ds : Documents) (r : Reported) (x : Failed) :
    (tellable r x = true → ∃ s, (classify ds r x single).status = .ok (some s)) ∧
      (tellable r x = false → ∃ f, (classify ds r x single).status = .error f) := by
  have hs := classify_append ds r x batch [.generic]
  rw [show single = batch ++ [.generic] from rfl]
  cases hr : recognised x.failure with
  | true =>
    have hk := classify_batch_known ds r hr
    refine ⟨fun ht => ?_, fun ht => ?_⟩
    · rw [hs.2 (by simp [hk.1 ht])]
      exact ⟨.warn, hk.1 ht⟩
    · obtain ⟨f, hf⟩ := hk.2 ht
      rw [hs.2 (by simp [hf])]
      exact ⟨f, hf⟩
  | false =>
    rw [hs.1 (by rw [classify_batch_unknown hr]; rfl), tellable_of_unknown hr]
    simp only [classify, judge]
    refine ⟨fun hp => ?_, fun hp => ?_⟩
    · have hg : (judgeGeneric r x).status = .ok (some .error) :=
        telling_of_path (P := fun v => v.status = .ok (some .error)) hp fun _ => rfl
      rw [hg]
      exact ⟨.error, rfl⟩
    · obtain ⟨f, hf⟩ : ∃ f, (judgeGeneric r x).status = .error f := telling_status_of_no_path hp _
      rw [hf]
      exact ⟨f, hf⟩

/-! ## Telling of one failure changes nothing for another -/

/-- Whether a run can be told of does not depend on what else was told of: if the document has
no path, its run failed for that. -/
theorem tellable_of_alike {r' : Reported} (h : r.Alike r')
    (hx : x.document.path.isOk = false → x.document.path = .error x.failure) :
    tellable r' x = tellable r x := by
  cases hp : x.document.path.isOk with
  | true =>
    simp only [tellable, hp, Bool.or_true, Bool.true_and]
    split
    · rfl
    · split
      · rename_i file _
        cases ha : (Uri.ofPath file).isOk with
        | true => rw [Bool.or_true, Bool.or_true]
        | false => rw [h.broken file ha]
      · rfl
  | false =>
    have hf : ConfigMessage.ofFailure? x.failure = none :=
      ofFailure?_of_refused (Uri.toPath_refused (hx hp))
    simp only [tellable, hf, h.noConfig x.document.uri hp]

end Classifier

end LintServer
