/-
  LintServer.Proofs.Accounts — how the work of a batch adds up.

  A batch begins with a pass for each document that is not ignored. From then on every pass of it
  is under way or has ended, and each that has ended is counted once; the last to be counted brings
  the conclusion. None of this depends on the order in which the passes end.
  - `beginBatch_nil`, `beginBatch_cons`: how a batch begins.
  - `Accounts`: how its work adds up until the conclusion, with what a pass that goes on, one that
    ends and one that is counted do to it.
-/

import LintServer.Proofs.Conclusions

namespace LintServer

namespace Session

/-- What was told between two sessions. -/
def toldSince (s t : Session) : List Message := Effect.messages (t.history.drop s.history.length)

theorem toldSince_eq {s t : Session} {es : List Effect} (h : t.history = s.history ++ es) :
    s.toldSince t = Effect.messages es := by
  rw [toldSince, h, List.drop_left]

/-! ## The beginning -/

/-- The passes of a batch over some documents. -/
def members (call : Nat) (ds : List Document) (s : Session) : List Pass :=
  (ds.filter (!s.ignores ·)).mapIdx fun place d => ⟨d, .member call place⟩

/-- How some passes end. -/
def outcomes (assigned : Pass → Attempt) (passes : List Pass) : List (Pass × Attempt) :=
  passes.map fun p => (p, assigned p)

theorem place_of_members {call : Nat} {ds : List Document} {s : Session} {p : Pass}
    (h : p ∈ s.members call ds) :
    ∃ place < (s.members call ds).length, p.owner = .member call place := by
  obtain ⟨place, hp, rfl⟩ := List.mem_mapIdx.mp h
  exact ⟨place, by simpa [members] using hp, rfl⟩

/-- A batch without passes is concluded at once. -/
theorem beginBatch_nil {call : Nat} {ds : List Document} {s : Session}
    (h : s.members call ds = []) :
    (s.beginBatch call ds).work = s.work ∧ (s.beginBatch call ds).reported = s.reported ∧
      s.toldSince (s.beginBatch call ds) = [.status .ok] := by
  have he : ds.filter (!s.ignores ·) = [] := by simpa [members] using h
  obtain ⟨hw, -, hr, es, hh, ht⟩ := concluded_spec call { left := 0 } s
  have hs : s.beginBatch call ds = s.concluded call { left := 0 } := by
    simp only [beginBatch, he]
    rfl
  rw [hs]
  exact ⟨hw, hr, (toldSince_eq hh).trans ht⟩

/-- The batch as it begins. -/
def Batch.ofMembers (passes : List Pass) : Batch :=
  { left := passes.length, escaped := passes.map fun _ => none }

theorem beginBatch_cons {call : Nat} {ds : List Document} {s : Session}
    (h : s.members call ds ≠ []) :
    (s.beginBatch call ds).work = s.work + ((s.members call ds).map .asked : List Work) ∧
      (s.beginBatch call ds).batches =
        s.batches ++ [(call, Batch.ofMembers (s.members call ds))] ∧
      (s.beginBatch call ds).reported = s.reported ∧
      s.toldSince (s.beginBatch call ds) = [] := by
  have he : (ds.filter (!s.ignores ·)).isEmpty = false := by simpa [members] using h
  have hs : s.beginBatch call ds =
      { s with batches := s.batches ++ [(call, Batch.ofMembers (s.members call ds))] }.enqueue
        ((s.members call ds).map .pass) := by
    simp only [beginBatch, he, Batch.ofMembers, members, List.mapIdx_eq_zipIdx_map, List.map_map]
    simp [Function.comp_def]
  rw [hs]
  refine ⟨?_, rfl, rfl, (toldSince_eq (List.append_nil _).symm).trans rfl⟩
  rw [work_enqueue, List.filterMap_map, ← List.filterMap_eq_map]
  rfl

theorem reported_beginBatch (call : Nat) (ds : List Document) (s : Session) :
    (s.beginBatch call ds).reported = s.reported := by
  by_cases h : s.members call ds = []
  · exact (beginBatch_nil h).2.1
  · exact (beginBatch_cons h).2.2.1

/-! ## The accounts of a batch -/

def Work.isTally : Work → Bool
  | .tally _ => true
  | _ => false

def Work.isConclude : Work → Bool
  | .conclude _ => true
  | _ => false

/-- How the work of a batch adds up until its conclusion: every pass of it is under way or has
ended, once; what is left to count is under way or about to be counted; and when nothing is left,
the batch is about to be concluded, once. -/
structure Accounts (call : Nat) (passes past : List Pass) (left : Nat) (w : Multiset Work) :
    Prop where
  ends : w.filterMap Work.pass? + (past : Multiset Pass) = passes
  kinds : ∀ k ∈ w, (∃ p, k.pass? = some p) ∨ k = .tally call ∨ k = .conclude call
  uncounted : left = (w.filterMap Work.pass?).card + w.countP (·.isTally = true)
  concludes : w.countP (·.isConclude = true) = if left = 0 then 1 else 0
  linting : ∀ p, .linting p ∈ w → p.document.path.isOk = true

section

variable {call left : Nat} {passes past : List Pass} {w : Multiset Work} {k l : Work} {p : Pass}

theorem Work.not_counting (h : k.pass? = some p) :
    ¬ k.isTally = true ∧ ¬ k.isConclude = true := by
  cases k with
  | tally call => cases h
  | conclude call => cases h
  | _ => exact ⟨Bool.false_ne_true, Bool.false_ne_true⟩

theorem Work.tallies_tally (call : Nat) (w : Multiset Work) :
    (.tally call ::ₘ w).countP (·.isTally = true) = w.countP (·.isTally = true) + 1 :=
  Multiset.countP_cons_of_pos w rfl

theorem Work.conclusions_conclude (call : Nat) (w : Multiset Work) :
    (.conclude call ::ₘ w).countP (·.isConclude = true) = w.countP (·.isConclude = true) + 1 :=
  Multiset.countP_cons_of_pos w rfl

theorem Work.call_of_pass? (h : k.pass? = some p) : k.call = p.owner.call := by
  cases k <;> cases h <;> rfl

theorem Accounts.mem_passes (h : Accounts call passes past left (k ::ₘ w))
    (hk : k.pass? = some p) : p ∈ passes := by
  have hm : p ∈ (passes : Multiset Pass) := by
    rw [← h.ends, Multiset.filterMap_cons_some _ _ _ hk]
    exact Multiset.mem_add.mpr (.inl (Multiset.mem_cons_self p _))
  exact hm

theorem Accounts.start (call : Nat) {passes : List Pass} (h : passes ≠ []) :
    Accounts call passes [] passes.length ((passes.map .asked : List Work) : Multiset Work) := by
  have asked : ∀ k ∈ passes.map Work.asked, ∃ p, k = .asked p := by
    intro k hk
    obtain ⟨p, -, rfl⟩ := List.mem_map.mp hk
    exact ⟨p, rfl⟩
  have ends : (passes.map Work.asked).filterMap Work.pass? = passes := by
    rw [List.filterMap_map]
    exact List.filterMap_some
  have none : ∀ f : Work → Bool, (∀ p, f (.asked p) = false) →
      ((passes.map .asked : List Work) : Multiset Work).countP (f · = true) = 0 := by
    intro f hf
    refine Multiset.countP_eq_zero.mpr fun k hk => ?_
    obtain ⟨p, rfl⟩ := asked k hk
    rw [hf p]
    exact Bool.false_ne_true
  refine ⟨?_, ?_, ?_, ?_, ?_⟩
  · rw [Multiset.filterMap_coe, ends]
    exact add_zero _
  · intro k hk
    obtain ⟨p, rfl⟩ := asked k hk
    exact .inl ⟨p, rfl⟩
  · rw [Multiset.filterMap_coe, ends, none Work.isTally fun _ => rfl]
    rfl
  · rw [none Work.isConclude fun _ => rfl, if_neg]
    exact fun hl => h (List.length_eq_zero_iff.mp hl)
  · intro p hp
    obtain ⟨q, hq⟩ := asked _ hp
    cases hq

/-- A pass goes on. -/
theorem Accounts.paused (h : Accounts call passes past left (k ::ₘ w)) (hk : k.pass? = some p)
    (hl : l.pass? = some p) (path : l = .linting p → p.document.path.isOk = true) :
    Accounts call passes past left (l ::ₘ w) := by
  have passed : (l ::ₘ w).filterMap Work.pass? = (k ::ₘ w).filterMap Work.pass? := by
    rw [Multiset.filterMap_cons_some _ _ _ hk, Multiset.filterMap_cons_some _ _ _ hl]
  obtain ⟨kt, kc⟩ := Work.not_counting hk
  obtain ⟨lt, lc⟩ := Work.not_counting hl
  refine ⟨passed ▸ h.ends, ?_, ?_, ?_, ?_⟩
  · intro x hx
    rcases Multiset.mem_cons.mp hx with rfl | hx
    · exact .inl ⟨p, hl⟩
    · exact h.kinds x (Multiset.mem_cons_of_mem hx)
  · rw [passed, Multiset.countP_cons_of_neg w lt, ← Multiset.countP_cons_of_neg w kt]
    exact h.uncounted
  · rw [Multiset.countP_cons_of_neg w lc, ← Multiset.countP_cons_of_neg w kc]
    exact h.concludes
  · intro q hq
    rcases Multiset.mem_cons.mp hq with hq | hq
    · subst hq
      cases hl
      exact path rfl
    · exact h.linting q (Multiset.mem_cons_of_mem hq)

/-- A pass has ended and is about to be counted. -/
theorem Accounts.ended (h : Accounts call passes past left (k ::ₘ w)) (hk : k.pass? = some p) :
    Accounts call passes (past ++ [p]) left (.tally call ::ₘ w) := by
  have ends := h.ends
  have hl := h.uncounted
  have concludes := h.concludes
  obtain ⟨kt, kc⟩ := Work.not_counting hk
  rw [Multiset.filterMap_cons_some _ _ _ hk] at ends hl
  rw [Multiset.card_cons, Multiset.countP_cons_of_neg w kt] at hl
  rw [Multiset.countP_cons_of_neg w kc] at concludes
  refine ⟨?_, ?_, ?_, ?_, ?_⟩
  · rw [Multiset.filterMap_cons_none _ _ rfl, ← ends, ← Multiset.coe_add, Multiset.coe_singleton,
      ← Multiset.singleton_add]
    abel
  · intro x hx
    rcases Multiset.mem_cons.mp hx with rfl | hx
    · exact .inr (.inl rfl)
    · exact h.kinds x (Multiset.mem_cons_of_mem hx)
  · rw [Multiset.filterMap_cons_none _ _ rfl, hl, Work.tallies_tally]
    omega
  · rw [Multiset.countP_cons_of_neg w Bool.false_ne_true]
    exact concludes
  · intro q hq
    rcases Multiset.mem_cons.mp hq with hq | hq
    · cases hq
    · exact h.linting q (Multiset.mem_cons_of_mem hq)

/-- A pass is counted. -/
theorem Accounts.counted (h : Accounts call passes past left (.tally call ::ₘ w)) :
    Accounts call passes past (left - 1)
      ((if left - 1 = 0 then {.conclude call} else 0) + w) := by
  have ends := h.ends
  have hl := h.uncounted
  have concludes := h.concludes
  rw [Multiset.filterMap_cons_none _ _ rfl] at ends hl
  rw [Work.tallies_tally] at hl
  -- the pass that is being counted is one that is left, so no conclusion is under way yet
  rw [Multiset.countP_cons_of_neg w Bool.false_ne_true, if_neg (by omega)] at concludes
  have kinds : ∀ k ∈ w, (∃ p, k.pass? = some p) ∨ k = .tally call ∨ k = .conclude call :=
    fun k hk => h.kinds k (Multiset.mem_cons_of_mem hk)
  have linting : ∀ p, .linting p ∈ w → p.document.path.isOk = true :=
    fun p hp => h.linting p (Multiset.mem_cons_of_mem hp)
  by_cases last : left - 1 = 0
  · rw [if_pos last, Multiset.singleton_add]
    refine ⟨?_, ?_, ?_, ?_, ?_⟩
    · rwa [Multiset.filterMap_cons_none _ _ rfl]
    · intro x hx
      rcases Multiset.mem_cons.mp hx with rfl | hx
      · exact .inr (.inr rfl)
      · exact kinds x hx
    · rw [Multiset.filterMap_cons_none _ _ rfl, Multiset.countP_cons_of_neg w Bool.false_ne_true]
      omega
    · rw [Work.conclusions_conclude, concludes, if_pos last]
    · intro q hq
      rcases Multiset.mem_cons.mp hq with hq | hq
      · cases hq
      · exact linting q hq
  · rw [if_neg last, zero_add]
    exact ⟨ends, kinds, by omega, by rw [concludes, if_neg last], linting⟩

/-- A batch is concluded when every pass of it has ended and was counted. -/
theorem Accounts.concluded (h : Accounts call passes past left (.conclude call ::ₘ w)) :
    w = 0 ∧ past.Perm passes := by
  have ends := h.ends
  have hl := h.uncounted
  have concludes := h.concludes
  rw [Multiset.filterMap_cons_none _ _ rfl] at ends hl
  rw [Multiset.countP_cons_of_neg w Bool.false_ne_true] at hl
  rw [Work.conclusions_conclude] at concludes
  -- a conclusion is under way only when nothing is left, and then no other work is
  have none : left = 0 := by
    by_contra hne
    rw [if_neg hne] at concludes
    omega
  rw [if_pos none] at concludes
  have noPass : w.filterMap Work.pass? = 0 := Multiset.card_eq_zero.mp (by omega)
  have noTally : w.countP (·.isTally = true) = 0 := by omega
  have noConclude : w.countP (·.isConclude = true) = 0 := by omega
  refine ⟨Multiset.eq_zero_of_forall_notMem fun k hk => ?_, ?_⟩
  · rcases h.kinds k (Multiset.mem_cons_of_mem hk) with ⟨p, hp⟩ | rfl | rfl
    · have hm := (Multiset.mem_filterMap Work.pass? w).mpr ⟨k, hk, hp⟩
      rw [noPass] at hm
      exact Multiset.notMem_zero p hm
    · exact Multiset.countP_eq_zero.mp noTally _ hk rfl
    · exact Multiset.countP_eq_zero.mp noConclude _ hk rfl
  · rw [noPass, zero_add] at ends
    exact Multiset.coe_eq_coe.mp ends

/-- A batch with nothing left to count is about to be concluded. -/
theorem Accounts.conclude_mem (h : Accounts call passes past 0 w) : .conclude call ∈ w := by
  have some : 0 < w.countP (·.isConclude = true) := by
    rw [h.concludes, if_pos rfl]
    exact Nat.one_pos
  obtain ⟨k, hk, hc⟩ := Multiset.countP_pos.mp some
  rcases h.kinds k hk with ⟨p, hp⟩ | rfl | rfl
  · exact absurd hc (Work.not_counting hp).2
  · cases hc
  · exact hk

/-- When all passes have ended, what is left is about to be counted. -/
theorem Accounts.tally_mem (h : Accounts call passes past (left + 1) w) (all : past.Perm passes) :
    .tally call ∈ w := by
  have ends := h.ends
  rw [Multiset.coe_eq_coe.mpr all, add_eq_right] at ends
  have some : 0 < w.countP (·.isTally = true) := by
    have hl := h.uncounted
    rw [ends, Multiset.card_zero] at hl
    omega
  obtain ⟨k, hk, ht⟩ := Multiset.countP_pos.mp some
  rcases h.kinds k hk with ⟨p, hp⟩ | rfl | rfl
  · exact absurd ht (Work.not_counting hp).1
  · exact hk
  · cases ht

end

end Session

end LintServer
