/-
  LintServer.Proofs.Stability — the order in which fixes are recorded makes no difference.

  The order of fixes looks at their bounds alone, and no two different bounds can stand either
  way round. So bounds have one order only, whichever way the fixes were recorded, and recording
  decides about fixes with the same bounds and nothing else: these keep their order. The scan
  looks at bounds alone too.
  - `sorted_bounds`, `sorted_eq`: one order for the same bounds, and for the same fixes.
  - `filter_ordered_bounds`: fixes with the same bounds stay in the order they came in.
  - `ordered_unique`, `filter_ordered`: that fixes the order entirely, so that leaving fixes out
    before or after they are ordered is the same.
  - `select_eq_self`: the scan takes everything that it left over.
  - `selection_of_any_order`: all of that for the fixes of a document.
-/

import LintServer.Proofs.Selection
import Mathlib.Data.List.Permutation

namespace LintServer

/-- Where the edit of a fix starts and ends. -/
def Fix.bounds (f : Fix) : Int × Int := (f.edit.start, f.edit.stop)

namespace FixTable

/-! ## One order -/

theorem before_self (a : Fix) : before a a = true := by
  simpa using before_total a a

theorem bounds_eq_of_before {a b : Fix} (hab : before a b = true) (hba : before b a = true) :
    a.bounds = b.bounds := by
  unfold before at hab hba
  have hs : a.edit.start = b.edit.start := by grind
  have he : a.edit.stop = b.edit.stop := by grind
  rw [Fix.bounds, Fix.bounds, hs, he]

theorem before_congr {a b c d : Fix} (hac : a.bounds = c.bounds) (hbd : b.bounds = d.bounds) :
    before a b = before c d := by
  obtain ⟨has, hae⟩ := Prod.mk.inj hac
  obtain ⟨hbs, hbe⟩ := Prod.mk.inj hbd
  rw [before, before, has, hae, hbs, hbe]

/-- Fixes in order. -/
def InOrder (fixes : List Fix) : Prop := fixes.Pairwise fun a b => before a b = true

theorem ordered_inOrder (fixes : List Fix) : InOrder (ordered fixes) :=
  List.pairwise_mergeSort before_trans before_total fixes

theorem ordered_perm (fixes : List Fix) : (ordered fixes).Perm fixes := List.mergeSort_perm _ before

theorem ordered_eq_self {fixes : List Fix} (h : InOrder fixes) : ordered fixes = fixes :=
  List.mergeSort_of_pairwise h

/-- The order of two pairs of bounds. -/
def boundsBefore (x y : Int × Int) : Prop :=
  ∃ a b : Fix, a.bounds = x ∧ b.bounds = y ∧ before a b = true

theorem InOrder.bounds {fixes : List Fix} (h : InOrder fixes) :
    (fixes.map Fix.bounds).Pairwise boundsBefore :=
  List.Pairwise.map Fix.bounds (fun a b hab => ⟨a, b, rfl, rfl, hab⟩) h

theorem boundsBefore_antisymm {x y : Int × Int} (hxy : boundsBefore x y) (hyx : boundsBefore y x) :
    x = y := by
  obtain ⟨a, b, rfl, rfl, hab⟩ := hxy
  obtain ⟨c, d, hc, hd, hcd⟩ := hyx
  rw [before_congr hc hd] at hcd
  exact bounds_eq_of_before hab hcd

/-- The same bounds come in one order. -/
theorem InOrder.bounds_eq {fixes fixes' : List Fix} (h : InOrder fixes) (h' : InOrder fixes')
    (hp : (fixes.map Fix.bounds).Perm (fixes'.map Fix.bounds)) :
    fixes.map Fix.bounds = fixes'.map Fix.bounds :=
  hp.eq_of_pairwise (fun _ _ _ _ => boundsBefore_antisymm) h.bounds h'.bounds

theorem sorted_bounds {t t' : FixTable}
    (hp : ((Table.values t).map Fix.bounds).Perm ((Table.values t').map Fix.bounds)) :
    (sorted t).map Fix.bounds = (sorted t').map Fix.bounds :=
  InOrder.bounds_eq (sorted_pairwise t) (sorted_pairwise t')
    (((sorted_perm t).map _).trans (hp.trans ((sorted_perm t').map _).symm))

/-- The same fixes come in one order, if their bounds tell them apart. -/
theorem sorted_eq {t t' : FixTable} (hp : (Table.values t).Perm (Table.values t'))
    (hn : ((Table.values t).map Fix.bounds).Nodup) : sorted t = sorted t' := by
  have hs := sorted_perm t
  have hs' := (sorted_perm t').trans hp.symm
  refine (hs.trans hs'.symm).eq_of_pairwise ?_ (sorted_pairwise t) (sorted_pairwise t')
  intro a b ha hb hab hba
  exact List.inj_on_of_nodup_map hn (hs.mem_iff.mp ha) (hs'.mem_iff.mp hb)
    (bounds_eq_of_before hab hba)

/-! ## Fixes with the same bounds -/

/-- Those of the fixes that have the given bounds. -/
def within (b : Int × Int) (fixes : List Fix) : List Fix := fixes.filter (·.bounds == b)

theorem within_inOrder (b : Int × Int) (fixes : List Fix) : InOrder (within b fixes) := by
  refine List.pairwise_iff_forall_sublist.mpr fun {x y} h => ?_
  have bounds : ∀ z ∈ [x, y], z.bounds = b := fun z hz => by
    simpa using (List.mem_filter.mp (h.subset hz)).2
  have hxy : x.bounds = y.bounds := (bounds x (by simp)).trans (bounds y (by simp)).symm
  rw [before_congr hxy rfl]
  exact before_self y

/-- Fixes with the same bounds keep the order they came in. -/
theorem filter_ordered_bounds (fixes : List Fix) (b : Int × Int) :
    within b (ordered fixes) = within b fixes := by
  have hsub : (within b fixes).Sublist (ordered fixes) :=
    List.sublist_mergeSort before_trans before_total (within_inOrder b fixes) List.filter_sublist
  have hclass : (within b fixes).Sublist (within b (ordered fixes)) := by
    simpa only [within, List.filter_filter, Bool.and_self] using hsub.filter (·.bounds == b)
  exact (hclass.eq_of_length ((ordered_perm fixes).filter _).length_eq.symm).symm

theorem mem_of_within {fixes fixes' : List Fix} {f : Fix}
    (hw : within f.bounds fixes = within f.bounds fixes') (h : f ∈ fixes) : f ∈ fixes' := by
  have hm : f ∈ within f.bounds fixes := List.mem_filter.mpr ⟨h, beq_self_eq_true _⟩
  rw [hw] at hm
  exact (List.mem_filter.mp hm).1

/-- Fixes are in one order only when those with the same bounds are. -/
theorem ordered_unique {fixes fixes' : List Fix} (h : InOrder fixes) (h' : InOrder fixes')
    (hw : ∀ b, within b fixes = within b fixes') : fixes = fixes' := by
  induction fixes generalizing fixes' with
  | nil =>
    cases fixes' with
    | nil => rfl
    | cons g rest' => exact absurd (hw g.bounds) (by simp [within])
  | cons f rest ih =>
    cases fixes' with
    | nil => exact absurd (hw f.bounds) (by simp [within])
    | cons g rest' =>
      obtain ⟨hf, hrest⟩ := List.pairwise_cons.mp h
      obtain ⟨hg, hrest'⟩ := List.pairwise_cons.mp h'
      -- each first one is somewhere in the other list too, and so the first one there is before it
      have hfm : f ∈ g :: rest' := mem_of_within (hw f.bounds) List.mem_cons_self
      have hgm : g ∈ f :: rest := mem_of_within (hw g.bounds).symm List.mem_cons_self
      have hgf : before g f = true := by
        rcases List.mem_cons.mp hfm with rfl | hm
        · exact before_self _
        · exact hg f hm
      have hfg : before f g = true := by
        rcases List.mem_cons.mp hgm with rfl | hm
        · exact before_self _
        · exact hf g hm
      have hb : f.bounds = g.bounds := bounds_eq_of_before hfg hgf
      have hfirst : f = g ∧ within f.bounds rest = within f.bounds rest' := by
        simpa [within, hb] using hw f.bounds
      obtain ⟨rfl, -⟩ := hfirst
      refine congrArg (f :: ·) (ih hrest hrest' fun b => ?_)
      have hb := hw b
      simp only [within, List.filter_cons] at hb ⊢
      split at hb
      · exact (List.cons.inj hb).2
      · exact hb

/-- Fixes can be left out before they are ordered. -/
theorem filter_ordered (p : Fix → Bool) (fixes : List Fix) :
    (ordered fixes).filter p = ordered (fixes.filter p) := by
  refine ordered_unique ((ordered_inOrder fixes).filter p) (ordered_inOrder _) fun b => ?_
  rw [filter_ordered_bounds]
  have swap : ∀ l : List Fix, within b (l.filter p) = (within b l).filter p := fun l =>
    List.filter_comm _ _ l
  rw [swap, swap, filter_ordered_bounds]

/-! ## The scan -/

/-- The scan looks at bounds alone. -/
theorem select_bounds {last last' : Option Fix} {fixes fixes' : List Fix}
    (hl : last.map Fix.bounds = last'.map Fix.bounds)
    (h : fixes.map Fix.bounds = fixes'.map Fix.bounds) :
    (select last fixes).map Fix.bounds = (select last' fixes').map Fix.bounds := by
  induction fixes generalizing last last' fixes' with
  | nil =>
    obtain rfl : fixes' = [] := by simpa using h.symm
    rfl
  | cons f rest ih =>
    cases fixes' with
    | nil => cases h
    | cons g rest' =>
      obtain ⟨hfg, hrest⟩ := List.cons.inj h
      have ho : overlaps last f = overlaps last' g := by
        cases last <;> cases last' <;> simp_all [overlaps, Fix.bounds]
      unfold select
      rw [ho]
      split
      · exact ih hl hrest
      · have hlast : (some f).map Fix.bounds = (some g).map Fix.bounds := congrArg some hfg
        rw [List.map_cons, List.map_cons, hfg, ih hlast hrest]

/-- The scan takes all of the fixes that are apart. -/
theorem select_eq_self {last : Option Fix} {fixes : List Fix}
    (hl : ∀ f ∈ fixes, overlaps last f = false)
    (h : fixes.Pairwise fun a b => a.edit.stop ≤ b.edit.start) : select last fixes = fixes := by
  induction fixes generalizing last with
  | nil => rfl
  | cons f rest ih =>
    obtain ⟨hf, hrest⟩ := List.pairwise_cons.mp h
    have hof : ¬ overlaps last f = true := by simp [hl f List.mem_cons_self]
    rw [select, if_neg hof, ih (fun g hg => (overlaps_some f g).mpr (hf g hg)) hrest]

theorem overlapFree_inOrder (t : FixTable) : InOrder (overlapFree t) :=
  List.Pairwise.sublist (select_sublist none _) (sorted_pairwise t)

/-- What fixes are applied together does not depend on the order they were recorded in: the same
bounds lead to the same bounds, and the same fixes to the same fixes if their bounds tell them
apart. Fixes with the same bounds keep the order they were recorded in, and what was selected is
selected again. -/
theorem selection_of_any_order (t t' : FixTable) :
    (((Table.values t).map Fix.bounds).Perm ((Table.values t').map Fix.bounds) →
      (sorted t).map Fix.bounds = (sorted t').map Fix.bounds ∧
        (overlapFree t).map Fix.bounds = (overlapFree t').map Fix.bounds) ∧
    ((Table.values t).Perm (Table.values t') → ((Table.values t).map Fix.bounds).Nodup →
      overlapFree t = overlapFree t' ∧ ∀ rule, sameRule t rule = sameRule t' rule) ∧
    (∀ b, (sorted t).filter (·.bounds == b) = (Table.values t).filter (·.bounds == b)) ∧
    (Table.values t' = overlapFree t → overlapFree t' = overlapFree t) := by
  refine ⟨fun hp => ?_, fun hp hn => ?_, filter_ordered_bounds _, fun hv => ?_⟩
  · have hs := sorted_bounds hp
    exact ⟨hs, select_bounds rfl hs⟩
  · have hs := sorted_eq hp hn
    exact ⟨by rw [overlapFree, hs, overlapFree], fun rule => by rw [sameRule, hs, sameRule]⟩
  · have hs : sorted t' = overlapFree t := by
      rw [sorted, hv, ordered_eq_self (overlapFree_inOrder t)]
    rw [overlapFree, hs]
    exact select_eq_self (fun _ _ => rfl) (select_ordered (sorted_byStart t))

/-- Fixes of which two start at one offset, and one of the two ends at offset 0. -/
def zeroEnd : FixTable :=
  let fix := fun (start stop : Int) (text : String) =>
    ({ label := "", version := 1, rule := .str "semi", edit := ⟨start, stop, .str text⟩ } : Fix)
  [("c", fix 0 0 ";"), ("b", fix (-5) (-3) "x"), ("a", fix (-5) 0 "")]

/-- Recorded the other way round, the fixes are ordered and selected as before. -/
theorem zeroEnd_reversed :
    (Table.values zeroEnd).Perm (Table.values zeroEnd.reverse) ∧
    ((Table.values zeroEnd).map Fix.bounds).Nodup ∧
    (sorted zeroEnd).map Fix.bounds = [(-5, 0), (-5, -3), (0, 0)] ∧
    (sorted zeroEnd.reverse).map Fix.bounds = [(-5, 0), (-5, -3), (0, 0)] ∧
    (overlapFree zeroEnd.reverse).map Fix.bounds = [(-5, 0), (0, 0)] ∧
    overlapFree zeroEnd = overlapFree zeroEnd.reverse := by
  have hp : (Table.values zeroEnd).Perm (Table.values zeroEnd.reverse) :=
    (List.reverse_perm _).symm
  have hn : ((Table.values zeroEnd).map Fix.bounds).Nodup := by decide
  obtain ⟨hbounds, hfixes, -, -⟩ := selection_of_any_order zeroEnd zeroEnd.reverse
  obtain ⟨hs, ho⟩ := hbounds (hp.map _)
  have hsorted : (sorted zeroEnd).map Fix.bounds = [(-5, 0), (-5, -3), (0, 0)] := by cbv
  have hfree : (overlapFree zeroEnd).map Fix.bounds = [(-5, 0), (0, 0)] := by cbv
  exact ⟨hp, hn, hsorted, hs.symm.trans hsorted, ho.symm.trans hfree, (hfixes hp hn).1⟩

end FixTable

end LintServer
