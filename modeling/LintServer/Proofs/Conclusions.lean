/-
  LintServer.Proofs.Conclusions — what a batch makes of the attempts that ended.

  Each attempt of a batch counts for something: a failure that no classifier of a batch knows is an
  error with a message, one that cannot be told of is an error without, any other is a warning.
  What an attempt counts for does not depend on the attempts before it, so the marks a batch holds
  are those of its attempts one by one, and so is what it tells in the end.
  - `Batch.Holds`, `Batch.Holds.marked`: the marks of the attempts that ended, and of one more.
  - `conclusion_of_holds`: what a batch with the marks of some attempts tells at its end.
-/

import LintServer.Proofs.Attempts
import Mathlib.Data.List.Induction

namespace LintServer

namespace Session

/-! ## What an attempt counts for -/

namespace Attempt

def isFailure (d : Document) (a : Attempt) : Bool := (a.failed? d).isSome

/-- Whether judging the failure fails itself, with what the user was told of. -/
def raises (r : Reported) (d : Document) (a : Attempt) : Bool :=
  (a.failed? d).any fun x => !Classifier.tellable r x

/-- Whether neither classifier of a batch knows the failure, or judging it fails. -/
def isError (r : Reported) (d : Document) (a : Attempt) : Bool :=
  (a.failed? d).any fun x => !Classifier.recognised x.failure || !Classifier.tellable r x

/-- The message for the user of a failure that neither classifier knows. -/
def text? (d : Document) (a : Attempt) : Option String :=
  (a.failed? d).bind fun x =>
    if Classifier.recognised x.failure then none else (Classifier.userMessage x).toOption

/-- The status that a failure leaves in its batch, if it can be told of. -/
def status? (r : Reported) (d : Document) (a : Attempt) : Option Status :=
  (a.failed? d).bind fun x =>
    if Classifier.tellable r x then
      some (if Classifier.recognised x.failure then .warn else .error)
    else none

theorem mark_eq (ds : Documents) (r : Reported) (d : Document) {a : Attempt}
    (h : a ≠ .cancelled) : a.mark ds r d = ((a.failed? d).map (markOf ds r)).getD .clean := by
  cases a with
  | cancelled => exact absurd rfl h
  | _ => rfl

end Attempt

/-- A batch with the marks of some attempts. -/
structure Batch.Holds (r : Reported) (log : List (Pass × Attempt)) (b : Batch) : Prop where
  statuses : b.statuses = log.filterMap fun x => x.2.status? r x.1.document
  messages : b.messages = (log.filterMap fun x => x.2.text? x.1.document).eraseDups
  escaped : (∃ f, some f ∈ b.escaped) ↔ ∃ x ∈ log, x.2.raises r x.1.document = true
  uncancelled : ∀ f, some f ∈ b.escaped → f.isCancelled = false

theorem add_eraseDups (texts : List String) (text : String) :
    Messages.add texts.eraseDups text = (texts ++ [text]).eraseDups := by
  rw [List.eraseDups_append, Messages.add]
  by_cases h : text ∈ texts
  · simp [List.removeAll, h]
  · simp [List.removeAll, h, List.eraseDups_cons]

section

variable {r : Reported} {log : List (Pass × Attempt)} {b : Batch} {p : Pass} {a : Attempt}
  {x : Failed}

/-- An attempt that does not fail leaves the batch as it is. -/
theorem Batch.Holds.clean (h : b.Holds r log) (hx : a.failed? p.document = none) :
    b.Holds r (log ++ [(p, a)]) := by
  refine ⟨?_, ?_, ?_, h.uncancelled⟩
  · simp [Attempt.status?, hx, h.statuses]
  · simp [Attempt.text?, hx, h.messages]
  · simp [Attempt.raises, hx, h.escaped]

theorem Batch.Holds.stuck (h : b.Holds r log) (hx : a.failed? p.document = some x)
    (ht : Classifier.tellable r x = false) {place : Nat} (hp : place < b.escaped.length)
    {f : Failure} (hf : f.isCancelled = false) :
    (b.marked place (.escaped f)).Holds r (log ++ [(p, a)]) := by
  -- a failure that no classifier knows has a message whenever it can be told of
  have silent : a.text? p.document = none := by
    cases hr : Classifier.recognised x.failure with
    | true => simp [Attempt.text?, hx, hr]
    | false =>
      rw [Classifier.tellable_of_unknown hr] at ht
      cases hd : x.document.path with
      | error g =>
        simp [Attempt.text?, hx, hr, Classifier.userMessage, hd, Except.map, Except.toOption]
      | ok path =>
        rw [hd] at ht
        cases ht
  refine ⟨?_, ?_, ?_, ?_⟩
  · simp [Attempt.status?, hx, ht, Batch.marked, h.statuses]
  · simp [silent, Batch.marked, h.messages]
  · refine ⟨fun _ => ⟨(p, a), by simp, by simp [Attempt.raises, hx, ht]⟩, fun _ => ⟨f, ?_⟩⟩
    exact List.mem_set hp (some f)
  · intro g hg
    rcases List.mem_or_eq_of_mem_set hg with hg | hg
    · exact h.uncancelled g hg
    · cases hg
      exact hf

theorem Batch.Holds.known (h : b.Holds r log) (hx : a.failed? p.document = some x)
    (ht : Classifier.tellable r x = true) (hr : Classifier.recognised x.failure = true)
    (place : Nat) : (b.marked place (.failed .warn none)).Holds r (log ++ [(p, a)]) := by
  refine ⟨?_, ?_, ?_, h.uncancelled⟩
  · simp [Attempt.status?, hx, ht, hr, Batch.marked, h.statuses]
  · simp [Attempt.text?, hx, hr, Batch.marked, h.messages]
  · simp [Attempt.raises, hx, ht, Batch.marked, h.escaped]

theorem Batch.Holds.unknown (h : b.Holds r log) (hx : a.failed? p.document = some x)
    (ht : Classifier.tellable r x = true) (hr : Classifier.recognised x.failure = false)
    {text : String} (hm : Classifier.userMessage x = .ok text) (place : Nat) :
    (b.marked place (.failed .error (some text))).Holds r (log ++ [(p, a)]) := by
  have spoken : a.text? p.document = some text := by
    simp [Attempt.text?, hx, hr, hm, Except.toOption]
  refine ⟨?_, ?_, ?_, h.uncancelled⟩
  · simp [Attempt.status?, hx, ht, hr, Batch.marked, h.statuses]
  · simp [spoken, Batch.marked, h.messages, add_eraseDups]
  · simp [Attempt.raises, hx, ht, Batch.marked, h.escaped]

/-- The mark of an attempt counts for what the attempt counted for when the batch began. -/
theorem Batch.Holds.marked (h : b.Holds r log) {now : Reported} (alike : r.Alike now)
    (ds : Documents) {place : Nat} (hp : place < b.escaped.length) (fits : a.Fits p.document)
    (hc : a ≠ .cancelled) :
    (b.marked place (a.mark ds now p.document)).Holds r (log ++ [(p, a)]) := by
  rw [Attempt.mark_eq ds now p.document hc]
  cases hx : a.failed? p.document with
  | none => exact h.clean hx
  | some x =>
    have told : Classifier.tellable now x = Classifier.tellable r x :=
      Classifier.tellable_of_alike alike (fits x hx)
    obtain ⟨stuck, known, unknown⟩ := markOf_spec ds now x
    rw [told] at stuck known unknown
    simp only [Option.map_some, Option.getD_some]
    cases ht : Classifier.tellable r x with
    | false =>
      obtain ⟨f, he, hf⟩ := stuck ht
      rw [he]
      exact h.stuck hx ht hp hf
    | true =>
      cases hr : Classifier.recognised x.failure with
      | true =>
        rw [known ht hr]
        exact h.known hx ht hr place
      | false =>
        obtain ⟨text, hm, he⟩ := unknown ht hr
        rw [he]
        exact h.unknown hx ht hr hm place

end

/-! ## The conclusion -/

/-- The status of a batch, by how its attempts ended. -/
def verdict (r : Reported) (log : List (Pass × Attempt)) : Status :=
  if log.any fun x => x.2.isError r x.1.document then .error
  else if log.any fun x => x.2.isFailure x.1.document then .warn
  else .ok

/-- The errors that a batch shows, in the order its attempts ended. -/
def errors (log : List (Pass × Attempt)) : List String :=
  (log.filterMap fun x => x.2.text? x.1.document).eraseDups

/-- All that is told at the end of a batch: the errors, a warning if judging failed, the
status. -/
def conclusion (r : Reported) (log : List (Pass × Attempt)) : List Message :=
  (errors log).map .showError ++
    (if log.any fun x => x.2.raises r x.1.document then [.logWarning (allFailed ++ ".")] else []) ++
    [.status (verdict r log)]

theorem worst_eq (ss : List Status) : Status.worst .ok ss =
    if .error ∈ ss then .error else if .warn ∈ ss then .warn else .ok := by
  have worse : ∀ (ss : List Status) (s : Status), ss.foldl Status.max s =
      if .error ∈ s :: ss then .error else if .warn ∈ s :: ss then .warn else .ok := by
    intro ss
    induction ss with
    | nil => intro s; cases s <;> rfl
    | cons t ss ih =>
      intro s
      rw [List.foldl_cons, ih]
      cases s <;> cases t <;> simp [Status.max, Status.code]
  cases ss with
  | nil => rfl
  | cons s ss => exact worse ss s

/-- Where every failure can be told of, the status left is an error just if it is one, and a
warning for any other failure. -/
theorem status?_spec {r : Reported} {d : Document} {a : Attempt} (h : a.raises r d = false) :
    (a.status? r d = some .error ↔ a.isError r d = true) ∧
      (a.status? r d = some .warn ↔ a.isFailure d = true ∧ a.isError r d = false) := by
  unfold Attempt.raises at h
  unfold Attempt.status? Attempt.isError Attempt.isFailure
  cases hx : a.failed? d with
  | none => simp
  | some x =>
    have ht : Classifier.tellable r x = true := by simpa [hx] using h
    cases hr : Classifier.recognised x.failure <;> simp [ht, hr]

theorem worst_of_statuses {r : Reported} {log : List (Pass × Attempt)}
    (h : ∀ x ∈ log, x.2.raises r x.1.document = false) :
    Status.worst .ok (log.filterMap fun x => x.2.status? r x.1.document) = verdict r log := by
  have hasError : .error ∈ (log.filterMap fun x => x.2.status? r x.1.document) ↔
      (log.any fun x => x.2.isError r x.1.document) = true := by
    rw [List.mem_filterMap, List.any_eq_true]
    exact exists_congr fun x => and_congr_right fun hx => (status?_spec (h x hx)).1
  rw [worst_eq, verdict]
  by_cases he : (log.any fun x => x.2.isError r x.1.document) = true
  · rw [if_pos (hasError.mpr he), if_pos he]
  · rw [if_neg (fun hm => he (hasError.mp hm)), if_neg he]
    have fine : ∀ x ∈ log, x.2.isError r x.1.document = false := by
      intro x hx
      simpa using fun hm => he (List.any_eq_true.mpr ⟨x, hx, hm⟩)
    have hasWarning : .warn ∈ (log.filterMap fun x => x.2.status? r x.1.document) ↔
        (log.any fun x => x.2.isFailure x.1.document) = true := by
      rw [List.mem_filterMap, List.any_eq_true]
      refine exists_congr fun x => and_congr_right fun hx => ?_
      rw [(status?_spec (h x hx)).2, fine x hx]
      simp
    simp only [hasWarning]

/-- To judge the failure of an attempt fails just if its mark is that of what escaped. -/
theorem raises_iff_escapes (ds : Documents) {r : Reported} {d : Document} {a : Attempt}
    (hc : a ≠ .cancelled) : a.raises r d = true ↔ ∃ f, a.mark ds r d = .escaped f := by
  rw [Attempt.mark_eq ds r d hc, Attempt.raises]
  cases hx : a.failed? d with
  | none => simp
  | some x =>
    obtain ⟨stuck, known, unknown⟩ := markOf_spec ds r x
    simp only [Option.any_some, Bool.not_eq_true', Option.map_some, Option.getD_some]
    cases ht : Classifier.tellable r x with
    | false =>
      obtain ⟨f, he, -⟩ := stuck ht
      exact ⟨fun _ => ⟨f, he⟩, fun _ => rfl⟩
    | true =>
      refine ⟨fun h => (by cases h), ?_⟩
      rintro ⟨f, hf⟩
      cases hr : Classifier.recognised x.failure with
      | true =>
        rw [known ht hr] at hf
        cases hf
      | false =>
        obtain ⟨text, -, he⟩ := unknown ht hr
        rw [he] at hf
        cases hf

theorem isError_of_raises {r : Reported} {d : Document} {a : Attempt} (h : a.raises r d = true) :
    a.isError r d = true := by
  unfold Attempt.raises at h
  unfold Attempt.isError
  cases hx : a.failed? d with
  | none =>
    rw [hx] at h
    cases h
  | some x =>
    rw [hx] at h
    simp only [Option.any_some] at h ⊢
    rw [h, Bool.or_true]

theorem conclusion_of_holds {r : Reported} {log : List (Pass × Attempt)} {b : Batch}
    (h : b.Holds r log) : b.conclusion = conclusion r log := by
  unfold Batch.conclusion conclusion errors
  rw [← h.messages]
  cases hf : b.escaped.findSome? id with
  | some f =>
    obtain ⟨g, hg, he⟩ := List.exists_of_findSome?_eq_some hf
    have hm : some f ∈ b.escaped := by rwa [← show g = some f from he]
    obtain ⟨x, hx, hr⟩ := h.escaped.mp ⟨f, hm⟩
    have raised : (log.any fun x => x.2.raises r x.1.document) = true :=
      List.any_eq_true.mpr ⟨x, hx, hr⟩
    have failed : verdict r log = .error := by
      rw [verdict, if_pos (List.any_eq_true.mpr ⟨x, hx, isError_of_raises hr⟩)]
    simp [h.uncancelled f hm, raised, failed]
  | none =>
    have none : ∀ x ∈ log, x.2.raises r x.1.document = false := by
      intro x hx
      cases hr : x.2.raises r x.1.document with
      | false => rfl
      | true =>
        obtain ⟨f, hm⟩ := h.escaped.mpr ⟨x, hx, hr⟩
        cases List.findSome?_eq_none_iff.mp hf _ hm
    have quiet : (log.any fun x => x.2.raises r x.1.document) = false :=
      List.any_eq_false.mpr fun x hx => by simp [none x hx]
    rw [h.statuses, worst_of_statuses none]
    simp [quiet]

/-! ## The order of the attempts -/

section

variable {r : Reported} {log log' : List (Pass × Attempt)}

theorem verdict_perm (h : log.Perm log') : verdict r log = verdict r log' := by
  simp only [verdict, h.any_eq]

/-- Only the order of the errors depends on the order of the attempts. -/
theorem conclusion_perm (h : log.Perm log') : conclusion r log =
    (errors log).map .showError ++
      (if log'.any fun x => x.2.raises r x.1.document then [.logWarning (allFailed ++ ".")]
        else []) ++
      [.status (verdict r log')] := by
  rw [conclusion, verdict_perm h, h.any_eq]

/-- Each error is shown once. -/
theorem nodup_errors (log : List (Pass × Attempt)) : (errors log).Nodup := by
  unfold errors
  generalize (log.filterMap fun x => x.2.text? x.1.document) = texts
  induction texts using List.reverseRecOn with
  | nil => exact List.nodup_nil
  | append_singleton texts text ih =>
    rw [← add_eraseDups, Messages.add]
    split
    · exact ih
    · rename_i hn
      refine List.nodup_append.mpr ⟨ih, List.nodup_singleton text, ?_⟩
      rintro x hx y hy rfl
      rw [List.mem_singleton.mp hy] at hx
      exact hn (List.contains_iff_mem.mpr hx)

theorem mem_errors {text : String} :
    text ∈ errors log ↔ ∃ x ∈ log, x.2.text? x.1.document = some text := by
  rw [errors, List.mem_eraseDups, List.mem_filterMap]

end

end Session

end LintServer
