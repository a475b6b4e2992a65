/-
  LintServer.Proofs.Outcomes — steps that can fail, one after another.

  What comes of several steps is there when it is there of each of them. The results of a step
  taken for every member of a list stand in the order of the members.
  - `bind_eq_ok_iff`: two steps, the second with what comes of the first.
  - `mapM_eq_ok_iff`, `forM_eq_ok_iff`: one step for every member.
  - `findM?_eq`: a question about each member, up to the first that is not answered with no.
-/

import LintServer.Failure
import Mathlib.Data.List.Forall2

namespace LintServer

variable {ε α β : Type}

theorem bind_eq_ok_iff {x : Except ε α} {f : α → Except ε β} {b : β} :
    (x >>= f) = .ok b ↔ ∃ a, x = .ok a ∧ f a = .ok b := by
  cases x with
  | error e =>
    constructor
    · intro h
      cases h
    · rintro ⟨a, ha, -⟩
      cases ha
  | ok a =>
    constructor
    · intro h
      exact ⟨a, rfl, h⟩
    · rintro ⟨a', ha, h⟩
      obtain rfl := Except.ok.inj ha
      exact h

theorem bind_eq_ok {x : Except ε α} {f : α → Except ε β} {b : β}
    (h : (x >>= f) = .ok b) : ∃ a, x = .ok a ∧ f a = .ok b := bind_eq_ok_iff.mp h

theorem then_eq_ok_iff {x y : Except ε Unit} :
    (x >>= fun _ => y) = .ok () ↔ x = .ok () ∧ y = .ok () := by
  rw [bind_eq_ok_iff]
  exact ⟨fun ⟨_, hx, hy⟩ => ⟨hx, hy⟩, fun ⟨hx, hy⟩ => ⟨(), hx, hy⟩⟩

theorem map_eq_ok {x : Except ε α} {f : α → β} {b : β} (h : x.map f = .ok b) :
    ∃ a, x = .ok a ∧ f a = b := by
  cases x with
  | error e => cases h
  | ok a => exact ⟨a, rfl, Except.ok.inj h⟩

theorem mapM_eq_ok_iff {f : α → Except Failure β} {xs : List α} {ys : List β} :
    xs.mapM f = .ok ys ↔ List.Forall₂ (fun x y => f x = .ok y) xs ys := by
  induction xs generalizing ys with
  | nil =>
    rw [List.forall₂_nil_left_iff, List.mapM_nil]
    exact ⟨fun h => (Except.ok.inj h).symm, fun h => h ▸ rfl⟩
  | cons x xs ih =>
    rw [List.mapM_cons, List.forall₂_cons_left_iff]
    constructor
    · intro h
      obtain ⟨z, hz, h⟩ := bind_eq_ok h
      obtain ⟨zs, hzs, h⟩ := bind_eq_ok h
      exact ⟨z, zs, hz, ih.mp hzs, (Except.ok.inj h).symm⟩
    · rintro ⟨z, zs, hz, hzs, rfl⟩
      exact bind_eq_ok_iff.mpr ⟨z, hz, bind_eq_ok_iff.mpr ⟨zs, ih.mpr hzs, rfl⟩⟩

theorem mapM_eq_ok {f : α → Except Failure β} {g : α → β} {xs : List α}
    (h : ∀ x ∈ xs, f x = .ok (g x)) : xs.mapM f = .ok (xs.map g) := by
  rw [mapM_eq_ok_iff, List.forall₂_map_right_iff, List.forall₂_same]
  exact h

theorem exists_of_forall₂ {R : α → β → Prop} {xs : List α} {ys : List β}
    (h : List.Forall₂ R xs ys) : ∀ y ∈ ys, ∃ x ∈ xs, R x y := by
  induction h with
  | nil => simp
  | cons hxy _ ih =>
    rw [List.forall_mem_cons]
    refine ⟨⟨_, List.mem_cons_self, hxy⟩, fun y hy => ?_⟩
    obtain ⟨x, hx, h⟩ := ih y hy
    exact ⟨x, List.mem_cons_of_mem _ hx, h⟩

/-- Every result is that of a member. -/
theorem mem_of_mapM {f : α → Except Failure β} {xs : List α} {ys : List β}
    (h : xs.mapM f = .ok ys) : ∀ y ∈ ys, ∃ x ∈ xs, f x = .ok y :=
  exists_of_forall₂ (mapM_eq_ok_iff.mp h)

/-- Every member has a result. -/
theorem result_of_mapM {f : α → Except Failure β} {xs : List α} {ys : List β}
    (h : xs.mapM f = .ok ys) : ∀ x ∈ xs, ∃ y ∈ ys, f x = .ok y := by
  have hflip : List.Forall₂ (fun y x => f x = .ok y) ys xs := (mapM_eq_ok_iff.mp h).flip
  exact exists_of_forall₂ hflip

/-- There are results just if every member has one. -/
theorem mapM_succeeds_iff {f : α → Except Failure β} {xs : List α} :
    (∃ ys, xs.mapM f = .ok ys) ↔ ∀ x ∈ xs, ∃ y, f x = .ok y := by
  constructor
  · rintro ⟨ys, h⟩ x hx
    obtain ⟨y, -, hy⟩ := result_of_mapM h x hx
    exact ⟨y, hy⟩
  · intro h
    induction xs with
    | nil => exact ⟨[], rfl⟩
    | cons x xs ih =>
      rw [List.forall_mem_cons] at h
      obtain ⟨y, hy⟩ := h.1
      obtain ⟨ys, hys⟩ := ih h.2
      refine ⟨y :: ys, ?_⟩
      rw [mapM_eq_ok_iff] at hys ⊢
      exact .cons hy hys

/-- When a step has one result only, all of them are known. -/
theorem mapM_eq_ok_iff_map {f : α → Except Failure β} {g : α → β}
    (hg : ∀ x y, f x = .ok y → y = g x) {xs : List α} {ys : List β} :
    xs.mapM f = .ok ys ↔ (∀ x ∈ xs, f x = .ok (g x)) ∧ ys = xs.map g := by
  constructor
  · intro h
    have hall : ∀ x ∈ xs, f x = .ok (g x) := by
      intro x hx
      obtain ⟨y, -, hy⟩ := result_of_mapM h x hx
      rw [hy, hg x y hy]
    exact ⟨hall, Except.ok.inj (h.symm.trans (mapM_eq_ok hall))⟩
  · rintro ⟨hall, rfl⟩
    exact mapM_eq_ok hall

theorem forM_eq_ok_iff {check : α → Except Failure Unit} {xs : List α} :
    xs.forM check = .ok () ↔ ∀ x ∈ xs, check x = .ok () := by
  induction xs with
  | nil =>
    refine ⟨fun _ x hx => ?_, fun _ => rfl⟩
    cases hx
  | cons x rest ih =>
    show (check x >>= fun _ => rest.forM check) = .ok () ↔ _
    rw [then_eq_ok_iff, List.forall_mem_cons, ih]

/-! ## Questions -/

/-- A question is settled when it is not answered with no, which ends a search. -/
def settles : Except ε Bool → Bool
  | .ok false => false
  | _ => true

theorem settles_eq_false_iff {x : Except ε Bool} : settles x = false ↔ x = .ok false := by
  cases x with
  | error e => exact ⟨nofun, nofun⟩
  | ok b => cases b <;> simp [settles]

/-- A search ends with the first member about which the question is settled. -/
theorem findM?_eq {α : Type} {ask : α → Except ε Bool} (xs : List α) : xs.findM? ask =
    match xs.find? fun x => settles (ask x) with
    | none => .ok none
    | some x => (ask x).map fun _ => some x := by
  induction xs with
  | nil => rfl
  | cons x xs ih =>
    rw [List.findM?, List.find?_cons]
    cases hx : ask x with
    | error e => simp [settles, bind, Except.bind, Except.map, hx]
    | ok b =>
      cases b with
      | true => simp [settles, bind, Except.bind, Except.map, hx, pure, Except.pure]
      | false => simpa [settles, bind, Except.bind] using ih

end LintServer
