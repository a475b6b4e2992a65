/-
  LintServer.Proofs.Selection — which fixes are taken together.

  The scan compares a fix with the one it took last only. The fixes come ordered by where they
  start, and that is all that is used of the order: whatever was taken before the last ends at
  or before the start of what came after it, so nothing taken earlier can end later than the
  last one allows. Ranges may be negative or inverted.
  - `select_ordered`: of the fixes taken, an earlier one ends before a later one starts.
  - `exists_places`: where the taken fixes stand, and the rule for standing there.
  - `overlapFree_taken_iff`: the rule for all fixes of a document.
-/

import LintServer.Fix.Selection

namespace LintServer.FixTable

/-! ## The order -/

theorem before_trans (a b c : Fix) (hab : before a b = true) (hbc : before b c = true) :
    before a c = true := by
  unfold before at *
  grind

theorem before_total (a b : Fix) : (before a b || before b a) = true := by
  unfold before
  grind

theorem start_le_of_before {a b : Fix} (h : before a b = true) : a.edit.start ≤ b.edit.start := by
  unfold before at h
  split at h
  · exact Int.le_of_lt (of_decide_eq_true h)
  · rename_i he
    have : a.edit.start = b.edit.start := by simpa using he
    omega

/-- Every fix starts at or after those that stand before it. -/
def ByStart (fixes : List Fix) : Prop := fixes.Pairwise fun a b => a.edit.start ≤ b.edit.start

theorem sorted_perm (t : FixTable) : (sorted t).Perm (Table.values t) :=
  List.mergeSort_perm _ before

theorem sorted_pairwise (t : FixTable) : (sorted t).Pairwise fun a b => before a b = true :=
  List.pairwise_mergeSort before_trans before_total (Table.values t)

theorem sorted_byStart (t : FixTable) : ByStart (sorted t) :=
  (sorted_pairwise t).imp start_le_of_before

theorem ByStart.filter {fixes : List Fix} (h : ByStart fixes) (p : Fix → Bool) :
    ByStart (fixes.filter p) := List.Pairwise.filter p h

/-! ## What the scan takes -/

@[simp] theorem overlaps_none (f : Fix) : overlaps none f = false := rfl

@[simp] theorem overlaps_some (g f : Fix) :
    overlaps (some g) f = false ↔ g.edit.stop ≤ f.edit.start := by
  simp [overlaps]

/-- What does not overlap a fix does not overlap one that starts later. -/
theorem overlaps_later {last : Option Fix} {f g : Fix} (h : overlaps last f = false)
    (hs : f.edit.start ≤ g.edit.start) : overlaps last g = false := by
  cases last with
  | none => rfl
  | some l =>
    rw [overlaps_some] at h ⊢
    omega

theorem select_sublist (last : Option Fix) (fixes : List Fix) :
    (select last fixes).Sublist fixes := by
  induction fixes generalizing last with
  | nil => exact List.Sublist.refl _
  | cons f rest ih =>
    unfold select
    split
    · exact (ih last).cons f
    · exact (ih (some f)).cons_cons f

theorem mem_values_of_overlapFree {t : FixTable} {f : Fix} (h : f ∈ overlapFree t) :
    f ∈ Table.values t := (sorted_perm t).mem_iff.mp ((select_sublist none _).subset h)

theorem overlapFree_eq_nil_iff {t : FixTable} : overlapFree t = [] ↔ t = [] := by
  have ht : sorted t = [] ↔ t = [] := by
    rw [← List.length_eq_zero_iff, (sorted_perm t).length_eq, List.length_eq_zero_iff, Table.values,
      List.map_eq_nil_iff]
  rw [← ht, overlapFree]
  cases sorted t with
  | nil => exact Iff.rfl
  | cons f rest =>
    rw [select, if_neg (by simp)]
    simp

theorem mem_values_of_sameRule {t : FixTable} {rule : Json} {f : Fix} (h : f ∈ sameRule t rule) :
    f ∈ Table.values t :=
  (sorted_perm t).mem_iff.mp (List.mem_filter.mp ((select_sublist none _).subset h)).1

theorem mem_values_of_inScope {t : FixTable} {keys : List String} {f : Fix}
    (h : f ∈ inScope t keys) : f ∈ Table.values t := by
  obtain ⟨key, -, hk⟩ := List.mem_filterMap.mp h
  exact List.mem_map.mpr ⟨(key, f), Table.mem_of_get? hk, rfl⟩

/-- The fixes taken after `last` start where nothing of it is left. -/
theorem select_after {last : Option Fix} {fixes : List Fix} (hs : ByStart fixes) :
    ∀ g ∈ select last fixes, overlaps last g = false := by
  induction fixes generalizing last with
  | nil => intro g hg; cases hg
  | cons f rest ih =>
    obtain ⟨hf, hrest⟩ := List.pairwise_cons.mp hs
    intro g hg
    unfold select at hg
    split at hg
    · exact ih hrest g hg
    · rename_i ho
      have hof : overlaps last f = false := by simpa using ho
      rcases List.mem_cons.mp hg with rfl | hg
      · exact hof
      · exact overlaps_later hof (hf g ((select_sublist _ _).subset hg))

/-- Of the fixes taken, an earlier one ends at or before the start of a later one. -/
theorem select_ordered {last : Option Fix} {fixes : List Fix} (hs : ByStart fixes) :
    (select last fixes).Pairwise fun a b => a.edit.stop ≤ b.edit.start := by
  induction fixes generalizing last with
  | nil => exact List.Pairwise.nil
  | cons f rest ih =>
    have hrest : ByStart rest := (List.pairwise_cons.mp hs).2
    unfold select
    split
    · exact ih hrest
    · refine List.pairwise_cons.mpr ⟨?_, ih hrest⟩
      intro g hg
      exact (overlaps_some f g).mp (select_after hrest g hg)

theorem overlapFree_ordered (t : FixTable) :
    (overlapFree t).Pairwise fun a b => a.edit.stop ≤ b.edit.start :=
  select_ordered (sorted_byStart t)

theorem sameRule_ordered (t : FixTable) (rule : Json) :
    (sameRule t rule).Pairwise fun a b => a.edit.stop ≤ b.edit.start :=
  select_ordered ((sorted_byStart t).filter _)

/-! ## Where the taken fixes stand -/

/-- The places of the fixes that the scan takes after `last`: going up, and each taken exactly
if neither `last` nor a fix taken before it ends after its start. -/
structure Places (last : Option Fix) (fixes : List Fix) (places : List Nat) : Prop where
  up : places.Pairwise (· < ·)
  at_places : places.map (fun i => fixes[i]?) = (select last fixes).map some
  taken_iff : ∀ j f, fixes[j]? = some f → (j ∈ places ↔ overlaps last f = false ∧
    ∀ i g, i ∈ places → i < j → fixes[i]? = some g → g.edit.stop ≤ f.edit.start)

theorem succ_mem_map_succ {i : Nat} {places : List Nat} :
    i + 1 ∈ places.map (· + 1) ↔ i ∈ places := by
  simp

theorem zero_notMem_map_succ (places : List Nat) : 0 ∉ places.map (· + 1) := by
  simp

theorem map_succ_up {places : List Nat} (h : places.Pairwise (· < ·)) :
    (places.map (· + 1)).Pairwise (· < ·) :=
  List.Pairwise.map _ (fun _ _ hab => Nat.succ_lt_succ hab) h

theorem Places.skip {last : Option Fix} {f : Fix} {rest : List Fix} {places : List Nat}
    (h : Places last rest places) (ho : overlaps last f = true) :
    Places last (f :: rest) (places.map (· + 1)) where
  up := map_succ_up h.up
  at_places := by
    have hs : select last (f :: rest) = select last rest := by rw [select, if_pos ho]
    rw [hs, ← h.at_places, List.map_map]
    rfl
  taken_iff := by
    intro j g hg
    cases j with
    | zero =>
      have hfg : f = g := by simpa using hg
      subst hfg
      simp [ho]
    | succ j =>
      rw [succ_mem_map_succ, h.taken_iff j g (by simpa using hg)]
      refine and_congr_right fun _ => ⟨?_, ?_⟩
      · intro hall i k hi hij hk
        cases i with
        | zero => exact absurd hi (zero_notMem_map_succ places)
        | succ i =>
          exact hall i k (succ_mem_map_succ.mp hi) (Nat.lt_of_succ_lt_succ hij) (by simpa using hk)
      · intro hall i k hi hij hk
        exact hall (i + 1) k (succ_mem_map_succ.mpr hi) (Nat.succ_lt_succ hij) (by simpa using hk)

theorem Places.take {last : Option Fix} {f : Fix} {rest : List Fix} {places : List Nat}
    (h : Places (some f) rest places) (ho : overlaps last f = false)
    (hf : ∀ g ∈ rest, f.edit.start ≤ g.edit.start) :
    Places last (f :: rest) (0 :: places.map (· + 1)) where
  up := by
    refine List.pairwise_cons.mpr ⟨?_, map_succ_up h.up⟩
    intro i hi
    obtain ⟨k, -, rfl⟩ := List.mem_map.mp hi
    exact Nat.succ_pos k
  at_places := by
    have hs : select last (f :: rest) = f :: select (some f) rest := by
      rw [select, if_neg (by simp [ho])]
    rw [hs, List.map_cons, List.map_cons, ← h.at_places, List.map_map]
    rfl
  taken_iff := by
    intro j g hg
    cases j with
    | zero =>
      have hfg : f = g := by simpa using hg
      subst hfg
      simp [ho]
    | succ j =>
      have hg' : rest[j]? = some g := by simpa using hg
      -- `last` ends before `f` starts, so it is `f` that decides about what comes later
      have hlast : overlaps last g = false := overlaps_later ho (hf g (List.mem_of_getElem? hg'))
      have hmem : j + 1 ∈ 0 :: places.map (· + 1) ↔ j ∈ places := by simp
      rw [hmem, h.taken_iff j g hg', overlaps_some]
      refine ⟨fun ⟨hfg, hall⟩ => ⟨hlast, ?_⟩, fun ⟨_, hall⟩ => ⟨?_, ?_⟩⟩
      · intro i k hi hij hk
        cases i with
        | zero =>
          have hfk : f = k := by simpa using hk
          exact hfk ▸ hfg
        | succ i => exact hall i k (by simpa using hi) (Nat.lt_of_succ_lt_succ hij) (by simpa using hk)
      · exact hall 0 f List.mem_cons_self (Nat.succ_pos j) rfl
      · intro i k hi hij hk
        exact hall (i + 1) k (by simpa using hi) (Nat.succ_lt_succ hij) (by simpa using hk)

theorem exists_places (last : Option Fix) {fixes : List Fix} (hs : ByStart fixes) :
    ∃ places, Places last fixes places := by
  induction fixes generalizing last with
  | nil => exact ⟨[], .nil, rfl, fun j f hf => by simp at hf⟩
  | cons f rest ih =>
    obtain ⟨hf, hrest⟩ := List.pairwise_cons.mp hs
    by_cases ho : overlaps last f = true
    · obtain ⟨places, h⟩ := ih last hrest
      exact ⟨_, h.skip ho⟩
    · obtain ⟨places, h⟩ := ih (some f) hrest
      exact ⟨_, h.take (by simpa using ho) hf⟩

/-- A fix left out starts inside one that was taken before it. -/
theorem Places.left_out {fixes : List Fix} {places : List Nat} (h : Places none fixes places)
    (hs : ByStart fixes) {j : Nat} {f : Fix} (hf : fixes[j]? = some f) (hj : j ∉ places) :
    ∃ i g, i ∈ places ∧ i < j ∧ fixes[i]? = some g ∧
      g.edit.start ≤ f.edit.start ∧ f.edit.start < g.edit.stop := by
  have start_le : ∀ {i g}, i < j → fixes[i]? = some g → g.edit.start ≤ f.edit.start := by
    intro i g hij hg
    obtain ⟨hi', rfl⟩ := List.getElem?_eq_some_iff.mp hg
    obtain ⟨hj', rfl⟩ := List.getElem?_eq_some_iff.mp hf
    exact List.pairwise_iff_getElem.mp hs i j hi' hj' hij
  apply Classical.byContradiction
  intro hn
  refine hj ((h.taken_iff j f hf).mpr ⟨rfl, ?_⟩)
  intro i g hi hij hg
  exact Int.not_lt.mp fun hlt => hn ⟨i, g, hi, hij, hg, start_le hij hg, hlt⟩

/-- The fixes of a document that are applied together are some of all its fixes in their order:
exactly those before which no fix was taken that ends after their start. So all of them are
apart, not only neighbours, and whatever was left out starts inside one that was taken. -/
theorem overlapFree_taken_iff (t : FixTable) :
    (sorted t).Perm (Table.values t) ∧ (sorted t).Pairwise (fun a b => before a b = true) ∧
    (overlapFree t).Sublist (sorted t) ∧
    ∃ places : List Nat, places.Pairwise (· < ·) ∧
      places.map (fun i => (sorted t)[i]?) = (overlapFree t).map some ∧
      (∀ j f, (sorted t)[j]? = some f →
        (j ∈ places ↔
          ¬ ∃ i g, i ∈ places ∧ i < j ∧ (sorted t)[i]? = some g ∧ f.edit.start < g.edit.stop)) ∧
      (overlapFree t).Pairwise (fun a b => a.edit.stop ≤ b.edit.start) ∧
      ∀ j f, (sorted t)[j]? = some f → j ∉ places →
        ∃ i g, i ∈ places ∧ i < j ∧ (sorted t)[i]? = some g ∧
          g.edit.start ≤ f.edit.start ∧ f.edit.start < g.edit.stop := by
  have hs := sorted_byStart t
  obtain ⟨places, h⟩ := exists_places none hs
  refine ⟨sorted_perm t, sorted_pairwise t, select_sublist none _, places, h.up, h.at_places, ?_,
    select_ordered hs, fun j f hf hj => h.left_out hs hf hj⟩
  intro j f hf
  rw [h.taken_iff j f hf]
  constructor
  · rintro ⟨-, hall⟩ ⟨i, g, hi, hij, hg, hlt⟩
    exact Int.not_lt.mpr (hall i g hi hij hg) hlt
  · intro hn
    refine ⟨rfl, fun i g hi hij hg => ?_⟩
    exact Int.not_lt.mp fun hlt => hn ⟨i, g, hi, hij, hg, hlt⟩

end LintServer.FixTable
