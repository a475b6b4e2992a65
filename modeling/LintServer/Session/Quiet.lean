/-
  LintServer.Session.Quiet — after an event, a session comes to rest.

  Tasks have ranks: resolutions, calls and ended runs stand above the beginnings of passes and
  what is yet to be told, these above what goes on, that above the counting of passes, that above
  the ends of batches, and those above reports of failures. Whatever a task makes ready has a
  lower rank than the task itself, so each round lowers the highest rank there is.
  - `perform_adds`: what a task makes ready ranks below it.
  - `round_below`: a round takes the bound on the ranks down by one.
  - `settle_quiet`: after all rounds nothing is ready.
-/

import LintServer.Session.Step

namespace LintServer.Session

def Task.rank : Task → Nat
  | .look _ | .search _ | .start .. | .ended _ => 5
  | .pass _ | .relay .. => 4
  | .wake .. => 3
  | .tally _ => 2
  | .conclude _ => 1
  | .report _ => 0

/-- The second session has the ready tasks of the first and then only tasks ranked below `k`. -/
def Adds (k : Nat) (s t : Session) : Prop :=
  ∃ new, t.ready = s.ready ++ new ∧ ∀ u ∈ new, u.rank < k

def Below (k : Nat) (s : Session) : Prop := ∀ u ∈ s.ready, u.rank < k

theorem Adds.of_eq {k : Nat} {s t : Session} (h : t.ready = s.ready) : Adds k s t :=
  ⟨[], by simp [h], by simp⟩

theorem Adds.refl (k : Nat) (s : Session) : Adds k s s := .of_eq rfl

theorem Adds.trans {k : Nat} {s t u : Session} (h : Adds k s t) (h' : Adds k t u) : Adds k s u := by
  obtain ⟨a, ha, ra⟩ := h
  obtain ⟨b, hb, rb⟩ := h'
  refine ⟨a ++ b, by rw [hb, ha, List.append_assoc], ?_⟩
  intro x hx
  rcases List.mem_append.mp hx with h | h
  · exact ra x h
  · exact rb x h

theorem Adds.mono {j k : Nat} (hjk : j ≤ k) {s t : Session} (h : Adds j s t) : Adds k s t := by
  obtain ⟨a, ha, ra⟩ := h
  exact ⟨a, ha, fun u hu => Nat.lt_of_lt_of_le (ra u hu) hjk⟩

/-! ## What leaves the ready tasks alone -/

@[simp] theorem emit_ready (es : List Effect) (s : Session) : (s.emit es).ready = s.ready := rfl

@[simp] theorem publish_ready (x : Status) (s : Session) : (s.publish x).ready = s.ready := rfl

@[simp] theorem keep_ready (name : String) (p : Purpose) (run : Engine.Run) (s : Session) :
    (s.keep name p run).ready = s.ready := rfl

@[simp] theorem invoke_ready (env : Surroundings) (engine : String) (content : Text) (file : String) (s : Session) :
    (s.invoke env engine content file).1.ready = s.ready := rfl

@[simp] theorem judged_ready (chain : List Classifier) (x : Failed) (s : Session) :
    (s.judged chain x).1.ready = s.ready := rfl

@[simp] theorem validated_ready (d : Document) (outcome : Except Failure (Option Report))
    (s : Session) : (s.validated d outcome).1.ready = s.ready := by
  cases outcome with
  | error f => rfl
  | ok report =>
    simp only [validated]
    split <;> rfl

@[simp] theorem reconsidered_ready (file : String) (outcome : Except Failure (Option Report))
    (s : Session) : (s.reconsidered file outcome).ready = s.ready := by
  unfold reconsidered
  split <;> rfl

@[simp] theorem engineFor_ready (env : Surroundings) (path : String) (s : Session) :
    (s.engineFor env path).1.ready = s.ready := by
  unfold engineFor
  repeat' split
  all_goals rfl

/-! ## The end of a call makes at most its report ready -/

theorem done_adds (call : Nat) (r : Except Failure Answer) (s : Session) :
    Adds 1 s (s.done call r) := by
  refine ⟨reports r, rfl, ?_⟩
  intro u hu
  unfold reports at hu
  split at hu
  · split at hu
    · cases hu
    · rw [List.mem_singleton.mp hu]; exact Nat.zero_lt_one
  · cases hu

theorem done_adds_of_eq {s t : Session} (h : t.ready = s.ready) (call : Nat)
    (r : Except Failure Answer) : Adds 1 s (t.done call r) :=
  (Adds.of_eq h).trans (done_adds call r t)

theorem concluded_adds (call : Nat) (b : Batch) (s : Session) :
    Adds 1 s (s.concluded call b) := by
  unfold concluded
  repeat' split
  all_goals exact done_adds_of_eq rfl call _

theorem endProbe_adds (call : Nat) (file : String) (outcome : Except Failure (Option Report))
    (s : Session) : Adds 1 s (s.endProbe call file outcome) := by
  unfold endProbe
  split <;> exact done_adds_of_eq rfl call _

/-! ## Passes have at most themselves counted -/

theorem memberEnded_adds (call place : Nat) (m : Mark) (s : Session) :
    Adds 3 s (s.memberEnded call place m) := by
  refine ⟨[.tally call], rfl, ?_⟩
  intro u hu
  rw [List.mem_singleton.mp hu]
  exact Nat.lt_succ_self 2

theorem tally_adds (call : Nat) (s : Session) : Adds 2 s (s.tally call) := by
  refine ⟨_, rfl, ?_⟩
  intro u hu
  split at hu
  · rw [List.mem_singleton.mp hu]; exact Nat.lt_succ_self 1
  · cases hu

theorem endAlone_adds (call : Nat) (x : Except Failed Unit) (s : Session) :
    Adds 1 s (s.endAlone call x) := by
  unfold endAlone
  split
  · exact done_adds_of_eq rfl call _
  · rename_i x
    have h := judged_ready Classifier.single x s
    split <;> rename_i he <;> rw [he] at h <;> exact done_adds_of_eq h call _

theorem endMember_adds (call place : Nat) (x : Except Failed Unit) (s : Session) :
    Adds 3 s (s.endMember call place x) := by
  unfold endMember
  split
  · exact memberEnded_adds call place .clean s
  · rename_i x
    have h := judged_ready Classifier.batch x s
    split <;> rename_i he <;> rw [he] at h
    · exact (Adds.of_eq h).trans (memberEnded_adds call place _ _)
    · exact (Adds.of_eq h).trans (memberEnded_adds call place _ _)
    · split <;> exact (Adds.of_eq h).trans (memberEnded_adds call place _ _)

theorem endPass_adds (p : Pass) (engine : String) (outcome : Except Failure (Option Report))
    (s : Session) : Adds 3 s (s.endPass p engine outcome) := by
  have h : Adds 3 s (s.validated p.document outcome).1 := .of_eq (validated_ready _ _ s)
  simp only [endPass]
  split
  · exact h.trans ((endAlone_adds _ _ _).mono (by decide))
  · exact h.trans (endMember_adds _ _ _ _)

theorem skipPass_adds (p : Pass) (s : Session) : Adds 3 s (s.skipPass p) := by
  unfold skipPass
  split
  · exact (done_adds _ _ s).mono (by decide)
  · exact memberEnded_adds _ _ _ s

theorem abandonPass_adds (p : Pass) (s : Session) : Adds 3 s (s.abandonPass p) := by
  unfold abandonPass
  split
  · exact (done_adds _ _ s).mono (by decide)
  · exact memberEnded_adds _ _ _ s

theorem lint_adds (env : Surroundings) (p : Pass) (engine : String) (s : Session) :
    Adds 3 s (s.lint env p engine) := by
  simp only [lint]
  split
  · exact endPass_adds p engine _ s
  · rename_i path _
    have h : Adds 3 s (s.invoke env engine p.document.text path).1 := .of_eq rfl
    split
    · exact .of_eq rfl
    · exact h.trans (endPass_adds p engine _ _)

theorem proceed_adds (env : Surroundings) (w : Waiter) (engine : Option Engine) (s : Session) :
    Adds 3 s (s.proceed env w engine) := by
  unfold proceed
  split
  · exact (done_adds _ _ s).mono (by decide)
  · split
    · exact lint_adds env _ _ s
    · exact skipPass_adds _ s

theorem abandon_adds (w : Waiter) (s : Session) : Adds 3 s (s.abandon w) := by
  unfold abandon
  split
  · exact (done_adds _ _ s).mono (by decide)
  · exact abandonPass_adds _ s

theorem await_adds (env : Surroundings) (n : Nat) (w : Waiter) (s : Session) :
    Adds 3 s (s.await env n w) := by
  unfold await
  split
  · exact .of_eq rfl
  · exact proceed_adds env w _ s
  · exact abandon_adds w s
  all_goals exact proceed_adds env w _ s

theorem awaitFor_adds (env : Surroundings) (uri : String) (w : Waiter) (s : Session) :
    Adds 3 s (s.awaitFor env uri w) := by
  unfold awaitFor
  split
  · exact proceed_adds env w _ s
  · exact await_adds env _ w s

/-! ## Resolutions and calls make passes ready -/

theorem settled_adds (n : Nat) (outcome : Except Failure Engine) (s : Session) :
    Adds 5 s (s.settled n outcome) := by
  refine ⟨_, rfl, ?_⟩
  intro u hu
  obtain ⟨w, -, rfl⟩ := List.mem_map.mp hu
  exact Nat.lt_succ_self 4

theorem searchFor_adds (env : Surroundings) (n : Nat) (d : Document) (s : Session) :
    Adds 5 s (s.searchFor env n d) := by
  simp only [searchFor]
  split
  · rename_i f _
    exact settled_adds n (.error f) s
  · rename_i path _
    have h := engineFor_ready env path (s.emit [.searched n d.uri])
    split <;> rename_i he <;> rw [he] at h
    · exact (Adds.of_eq h).trans (settled_adds n _ _)
    · exact (Adds.of_eq h).trans (settled_adds n _ _)

theorem beginBatch_adds (call : Nat) (ds : List Document) (s : Session) :
    Adds 5 s (s.beginBatch call ds) := by
  simp only [beginBatch]
  split
  · exact (concluded_adds call _ s).mono (by decide)
  · refine ⟨_, rfl, ?_⟩
    intro u hu
    obtain ⟨i, _, rfl⟩ := List.mem_mapIdx.mp hu
    exact Nat.lt_succ_self 4

theorem beginAll_adds (call : Nat) (s : Session) : Adds 5 s (s.beginAll call) := by
  unfold beginAll
  split
  · exact beginBatch_adds call _ s
  · exact (done_adds call _ s).mono (by decide)

theorem reconsider_adds (env : Surroundings) (call : Nat) (uris : List String) (s : Session) :
    Adds 5 s (s.reconsider env call uris) := by
  induction uris generalizing s with
  | nil => exact beginAll_adds call s
  | cons uri rest ih =>
    simp only [reconsider]
    split
    · exact (done_adds call _ s).mono (by decide)
    · split
      · exact ih s
      · split
        · exact .of_eq rfl
        · refine Adds.trans (.of_eq ?_) (ih _)
          rw [reconsidered_ready, invoke_ready]

theorem beginProbe_adds (env : Surroundings) (call : Nat) (file engine : String) (s : Session) :
    Adds 1 s (s.beginProbe env call file engine) := by
  simp only [beginProbe]
  split
  · exact done_adds call _ s
  · split
    · exact .of_eq rfl
    · exact Adds.trans (.of_eq rfl) (endProbe_adds call file _ _)

theorem start_adds (env : Surroundings) (call : Nat) (goal : Goal) (s : Session) :
    Adds 5 s (s.start env call goal) := by
  cases goal with
  | lookUp uri => exact (awaitFor_adds env uri _ s).mono (by decide)
  | validate d => exact (awaitFor_adds env d.uri _ s).mono (by decide)
  | validateMany ds => exact beginBatch_adds call ds s
  | validateAll => exact beginAll_adds call s
  | reconsider uris => exact Adds.trans (.of_eq rfl) (reconsider_adds env call uris _)
  | probe file engine => exact (beginProbe_adds env call file engine s).mono (by decide)

theorem perform_adds (env : Surroundings) (s : Session) (t : Task) :
    Adds t.rank s (s.perform env t) := by
  cases t with
  | look n =>
    simp only [perform, look]
    split
    · exact .refl 5 s
    · split
      · exact .of_eq rfl
      · exact searchFor_adds env n _ s
  | search n =>
    simp only [perform, goOn]
    split
    · exact .refl 5 s
    · exact searchFor_adds env n _ s
  | start call goal => exact start_adds env call goal s
  | pass p => exact (awaitFor_adds env _ _ s).mono (Nat.le_succ 3)
  | relay n w =>
    refine ⟨[.wake n w], rfl, ?_⟩
    intro u hu
    rw [List.mem_singleton.mp hu]
    exact Nat.lt_succ_self 3
  | wake n w => exact await_adds env n w s
  | ended r =>
    simp only [perform, runEnded]
    split
    · exact (endPass_adds _ _ _ s).mono (Nat.le_add_right 3 2)
    · exact (endProbe_adds _ _ _ s).mono (Nat.le_add_right 1 4)
    · exact Adds.trans (.of_eq (reconsidered_ready _ _ s)) (reconsider_adds env _ _ _)
  | tally call => exact tally_adds call s
  | conclude call =>
    simp only [perform, conclude]
    split
    · exact .refl 1 s
    · exact Adds.trans (.of_eq rfl) (concluded_adds call _ _)
  | report f => exact .of_eq rfl

/-! ## Rounds -/

theorem foldl_perform_adds (env : Surroundings) {k : Nat} (ts : List Task) (s : Session)
    (h : ∀ t ∈ ts, t.rank ≤ k) : Adds k s (ts.foldl (perform env) s) := by
  induction ts generalizing s with
  | nil => exact .refl k s
  | cons t rest ih =>
    have ht : Adds k s (s.perform env t) := (perform_adds env s t).mono (h t (by simp))
    exact ht.trans (ih _ fun u hu => h u (by simp [hu]))

theorem round_below (env : Surroundings) {k : Nat} {s : Session} (h : s.Below (k + 1)) :
    (s.round env).Below k := by
  obtain ⟨new, hn, hr⟩ := foldl_perform_adds env (k := k) s.ready { s with ready := [] }
    fun t ht => Nat.le_of_lt_succ (h t ht)
  intro u hu
  have hu' : u ∈ [] ++ new := hn ▸ hu
  exact hr u (by simpa using hu')

theorem rank_lt_rounds (t : Task) : t.rank < rounds := by
  cases t <;> simp [Task.rank, rounds]

theorem repeat_round_below (env : Surroundings) (n : Nat) {s : Session} (h : s.Below n) :
    (Nat.repeat (round env) n s).Below 0 := by
  have shift : ∀ k m : Nat, ∀ t : Session, t.Below (m + k) →
      (Nat.repeat (round env) k t).Below m := by
    intro k
    induction k with
    | zero => exact fun m t ht => ht
    | succ k ih => exact fun m t ht => round_below env (ih (m + 1) t (by rwa [Nat.succ_add_eq_add_succ]))
  exact shift n 0 s (by rwa [Nat.zero_add])

/-- After all rounds nothing is ready. -/
theorem settle_quiet (env : Surroundings) (s : Session) : (s.settle env).ready = [] := by
  have h : (s.settle env).Below 0 := repeat_round_below env rounds fun t _ => rank_lt_rounds t
  exact List.eq_nil_iff_forall_not_mem.mpr fun u hu => Nat.not_lt_zero _ (h u hu)

end LintServer.Session
