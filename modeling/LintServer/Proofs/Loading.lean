/-
  LintServer.Proofs.Loading — linters asked for and found, in any order.

  Entries are made, forgotten and asked for at any time; a task that was taken in hand is done
  whole, and which one is done next, or which resolution goes on, is left open, and so is what the
  surroundings are then. An entry that was forgotten lives on for its resolution and for those that
  wait for it, also when its document has a new one.
  - `Loading`, `Loading.Move`: the states and what leads from one to the next.
  - `Followed`: where each call is that asked for a linter.
  - `Sound.next`, `Sound.after`: what a move preserves, and what all moves do.
-/

import LintServer.Proofs.Resolutions
import Mathlib.Data.List.Perm.Basic

namespace LintServer

namespace Session

def Waiter.isFor (call : Nat) : Waiter → Bool
  | .lookUp c => c == call
  | .pass _ => false

/-- Whether a call that asks for a linter is yet to begin. -/
def Task.asks (call : Nat) : Task → Bool
  | .start c (.lookUp _) => c == call
  | _ => false

/-- Whether a call is to learn of the end of a resolution. -/
def Task.follows (call : Nat) : Task → Bool
  | .relay _ w | .wake _ w => w.isFor call
  | _ => false

@[simp] theorem Waiter.isFor_lookUp (call c : Nat) : (Waiter.lookUp c).isFor call = (c == call) :=
  rfl

@[simp] theorem Task.asks_start (call c : Nat) (uri : String) :
    (Task.start c (.lookUp uri)).asks call = (c == call) := rfl

@[simp] theorem Task.asks_wake (call n : Nat) (w : Waiter) : (Task.wake n w).asks call = false := rfl

@[simp] theorem Task.asks_relay (call n : Nat) (w : Waiter) : (Task.relay n w).asks call = false :=
  rfl

@[simp] theorem Task.follows_start (call c : Nat) (goal : Goal) :
    (Task.start c goal).follows call = false := rfl

@[simp] theorem Task.follows_wake (call n : Nat) (w : Waiter) :
    (Task.wake n w).follows call = w.isFor call := rfl

@[simp] theorem Task.follows_relay (call n : Nat) (w : Waiter) :
    (Task.relay n w).follows call = w.isFor call := rfl

/-- The tasks there are where only linters are asked for; a call is told only of the entry that it
found. -/
def Task.Fits (looked : List (Nat × Option Nat)) : Task → Prop
  | .look _ | .search _ | .start _ (.lookUp _) => True
  | .relay n (.lookUp c) | .wake n (.lookUp c) => (c, some n) ∈ looked
  | _ => False

theorem Task.Fits.mono {looked more : List (Nat × Option Nat)} {t : Task} (h : t.Fits looked) :
    t.Fits (looked ++ more) := by
  unfold Task.Fits at h ⊢
  split at h
  · trivial
  · trivial
  · trivial
  · exact List.mem_append_left more h
  · exact List.mem_append_left more h
  · exact h.elim

/-- The entry that a call finds as it begins. -/
def looks (s : Session) : Task → List (Nat × Option Nat)
  | .start call (.lookUp uri) => [(call, s.library.number? uri)]
  | _ => []

end Session

/-- The answer to a call that found an entry, or none. -/
def Library.valueOf? (l : Library) : Option Nat → Option (Option Engine)
  | none => some none
  | some n => (l.futureAt? n).bind Future.value?

namespace Session

/-- Every call that asked for a linter has yet to begin, or found an entry or none as it began; and
then it waits for the future of that entry while it is unset, is told that it is done, or has ended
with its value. -/
structure Followed (tasks : List Task) (waiters : List (Nat × Waiter))
    (finished : List (Nat × Except Failure Answer)) (library : Library) (calls : Nat)
    (looked : List (Nat × Option Nat)) : Prop where
  fits : ∀ t ∈ tasks, t.Fits looked
  listed : ∀ uri n, library.number? uri = some n →
    ∃ e, library.entry? n = some e ∧ e.document.uri = uri
  made : ∀ call n, (call, some n) ∈ looked → n < library.made.length
  asked : ∀ call, tasks.countP (·.asks call) + looked.countP (·.1 == call) =
    if call < calls then 1 else 0
  followed : ∀ call, tasks.countP (·.follows call) + waiters.countP (·.2.isFor call) +
    finished.countP (·.1 == call) = looked.countP (·.1 == call)
  waiting : ∀ n w, (n, w) ∈ waiters →
    library.futureAt? n = some .unset ∧ ∃ call, w = .lookUp call ∧ (call, some n) ∈ looked
  answered : ∀ call r, (call, r) ∈ finished → ∃ k v, (call, k) ∈ looked ∧
    library.valueOf? k = some v ∧ r = .ok (.engine v)

namespace Followed

variable {tasks : List Task} {waiters : List (Nat × Waiter)}
  {finished : List (Nat × Except Failure Answer)} {library : Library} {calls n call : Nat}
  {looked : List (Nat × Option Nat)}

theorem empty : Followed [] [] [] {} 0 [] where
  fits t h := by cases h
  listed uri n h := by cases h
  made call n h := by cases h
  asked call := rfl
  followed call := rfl
  waiting n w h := by cases h
  answered call r h := by cases h

/-- What a change of the library, of the tasks and of those that wait has to keep. -/
theorem of_lasting {library' : Library} {tasks' : List Task} {waiters' : List (Nat × Waiter)}
    (h : Followed tasks waiters finished library calls looked)
    (hl : Library.Lasting library library')
    (hlisted : ∀ uri n, library'.number? uri = some n →
      ∃ e, library'.entry? n = some e ∧ e.document.uri = uri)
    (hf : ∀ t ∈ tasks', t.Fits looked)
    (ha : ∀ call, tasks'.countP (·.asks call) = tasks.countP (·.asks call))
    (hw : ∀ call, tasks'.countP (·.follows call) + waiters'.countP (·.2.isFor call) =
      tasks.countP (·.follows call) + waiters.countP (·.2.isFor call))
    (hp : ∀ n w, (n, w) ∈ waiters' → (n, w) ∈ waiters ∧ library'.futureAt? n = some .unset) :
    Followed tasks' waiters' finished library' calls looked where
  fits := hf
  listed := hlisted
  made c n hm := Nat.lt_of_lt_of_le (h.made c n hm) hl.length_le
  asked c := by
    rw [ha]
    exact h.asked c
  followed c := by
    rw [hw]
    exact h.followed c
  waiting n w hm := ⟨(hp n w hm).2, (h.waiting n w (hp n w hm).1).2⟩
  answered c r hr := by
    obtain ⟨k, v, hk, hv, hr⟩ := h.answered c r hr
    refine ⟨k, v, hk, ?_, hr⟩
    cases k with
    | none => exact hv
    | some n => exact hl.value? hv

/-- Other tasks, as far as calls are concerned the same. -/
theorem congr {tasks' : List Task} (h : Followed tasks waiters finished library calls looked)
    (hf : ∀ t ∈ tasks', t.Fits looked)
    (ha : ∀ call, tasks'.countP (·.asks call) = tasks.countP (·.asks call))
    (hw : ∀ call, tasks'.countP (·.follows call) = tasks.countP (·.follows call)) :
    Followed tasks' waiters finished library calls looked :=
  h.of_lasting (.refl library) h.listed hf ha (fun c => by rw [hw])
    fun n w hm => ⟨hm, (h.waiting n w hm).1⟩

theorem perm {tasks' : List Task} (h : Followed tasks waiters finished library calls looked)
    (hp : tasks'.Perm tasks) : Followed tasks' waiters finished library calls looked :=
  h.congr (fun t ht => h.fits t (hp.mem_iff.mp ht)) (fun _ => hp.countP_eq _)
    fun _ => hp.countP_eq _

/-- A resolution is no call. -/
theorem resolution {t : Task} (h : Followed tasks waiters finished library calls looked)
    (ht : t.isResolution = true) : Followed (tasks ++ [t]) waiters finished library calls looked := by
  cases t with
  | look n | search n =>
    refine h.congr (fun t ht => ?_) (fun call => ?_) (fun call => ?_)
    · rcases List.mem_append.mp ht with ht | ht
      · exact h.fits t ht
      · rw [List.mem_singleton.mp ht]
        trivial
    · rw [List.countP_append]
      rfl
    · rw [List.countP_append]
      rfl
  | _ => cases ht

theorem of_resolution {t : Task} (h : Followed (t :: tasks) waiters finished library calls looked)
    (ht : t.isResolution = true) : Followed tasks waiters finished library calls looked := by
  cases t with
  | look n | search n =>
    refine h.congr (fun t ht => h.fits t (List.mem_cons_of_mem _ ht)) (fun call => ?_)
      (fun call => ?_)
    · rw [List.countP_cons]
      rfl
    · rw [List.countP_cons]
      rfl
  | _ => cases ht

/-- A new call. -/
theorem asks (h : Followed tasks waiters finished library calls looked) (uri : String) :
    Followed (tasks ++ [.start calls (.lookUp uri)]) waiters finished library (calls + 1) looked where
  fits t ht := by
    rcases List.mem_append.mp ht with ht | ht
    · exact h.fits t ht
    · rw [List.mem_singleton.mp ht]
      trivial
  listed := h.listed
  made := h.made
  asked call := by
    have hasked := h.asked call
    rw [List.countP_append, List.countP_singleton]
    show _ + (if (calls == call) = true then 1 else 0) + _ = _
    by_cases hc : calls = call
    · subst hc
      rw [if_neg (Nat.lt_irrefl _)] at hasked
      rw [if_pos BEq.rfl, if_pos (Nat.lt_succ_self _)]
      omega
    · rw [if_neg (by simp [hc])]
      split <;> split at hasked <;> omega
  followed call := by
    rw [List.countP_append]
    exact h.followed call
  waiting := h.waiting
  answered := h.answered

/-- A call begins and finds an entry: that is as if it was told of it. -/
theorem begins {uri : String}
    (h : Followed (.start call (.lookUp uri) :: tasks) waiters finished library calls looked)
    (hn : library.number? uri = some n) :
    Followed (.wake n (.lookUp call) :: tasks) waiters finished library calls
      (looked ++ [(call, some n)]) where
  fits t ht := by
    rcases List.mem_cons.mp ht with rfl | ht
    · exact List.mem_append_right _ List.mem_cons_self
    · exact (h.fits t (List.mem_cons_of_mem _ ht)).mono
  listed := h.listed
  made c m hm := by
    rcases List.mem_append.mp hm with hm | hm
    · exact h.made c m hm
    · obtain ⟨e, he, -⟩ := h.listed uri n hn
      obtain rfl : m = n := by simpa using (Prod.mk.inj (List.mem_singleton.mp hm)).2
      exact (List.getElem?_eq_some_iff.mp he).1
  asked c := by
    have hasked := h.asked c
    by_cases hc : call = c <;> simp [hc] at hasked ⊢ <;> omega
  followed c := by
    have hfollowed := h.followed c
    by_cases hc : call = c <;> simp [hc] at hfollowed ⊢ <;> omega
  waiting m w hw := by
    obtain ⟨hp, c, hc, hl⟩ := h.waiting m w hw
    exact ⟨hp, c, hc, List.mem_append_left _ hl⟩
  answered c r hr := by
    obtain ⟨k, v, hk, hv⟩ := h.answered c r hr
    exact ⟨k, v, List.mem_append_left _ hk, hv⟩

/-- A call begins and finds no entry. -/
theorem finds_none {uri : String}
    (h : Followed (.start call (.lookUp uri) :: tasks) waiters finished library calls looked) :
    Followed tasks waiters (finished ++ [(call, .ok (.engine none))]) library calls
      (looked ++ [(call, none)]) where
  fits t ht := (h.fits t (List.mem_cons_of_mem _ ht)).mono
  listed := h.listed
  made c m hm := by
    rcases List.mem_append.mp hm with hm | hm
    · exact h.made c m hm
    · cases (Prod.mk.inj (List.mem_singleton.mp hm)).2
  asked c := by
    have hasked := h.asked c
    by_cases hc : call = c <;> simp [hc] at hasked ⊢ <;> omega
  followed c := by
    have hfollowed := h.followed c
    by_cases hc : call = c <;> simp [hc] at hfollowed ⊢ <;> omega
  waiting m w hw := by
    obtain ⟨hp, c, hc, hl⟩ := h.waiting m w hw
    exact ⟨hp, c, hc, List.mem_append_left _ hl⟩
  answered c r hr := by
    rcases List.mem_append.mp hr with hr | hr
    · obtain ⟨k, v, hk, hv⟩ := h.answered c r hr
      exact ⟨k, v, List.mem_append_left _ hk, hv⟩
    · obtain ⟨rfl, rfl⟩ := Prod.mk.inj (List.mem_singleton.mp hr)
      exact ⟨none, none, List.mem_append_right _ List.mem_cons_self, rfl, rfl⟩

section

variable (h : Followed (.wake n (.lookUp call) :: tasks) waiters finished library calls looked)

include h

theorem looked_mem : (call, some n) ∈ looked := h.fits _ List.mem_cons_self

/-- A call waits for the entry it found. -/
theorem waits (hp : library.futureAt? n = some .unset) :
    Followed tasks (waiters ++ [(n, .lookUp call)]) finished library calls looked where
  fits t ht := h.fits t (List.mem_cons_of_mem _ ht)
  listed := h.listed
  made := h.made
  asked c := by
    have hasked := h.asked c
    rwa [List.countP_cons_of_neg (by simp)] at hasked
  followed c := by
    have hfollowed := h.followed c
    by_cases hc : call = c <;> simp [hc] at hfollowed ⊢ <;> omega
  waiting m w hw := by
    rcases List.mem_append.mp hw with hw | hw
    · exact h.waiting m w hw
    · obtain ⟨rfl, rfl⟩ := Prod.mk.inj (List.mem_singleton.mp hw)
      exact ⟨hp, call, rfl, h.looked_mem⟩
  answered := h.answered

/-- A call ends with the answer of the entry it found. -/
theorem finishes {v : Option Engine} (hv : library.valueOf? (some n) = some v) :
    Followed tasks waiters (finished ++ [(call, .ok (.engine v))]) library calls looked where
  fits t ht := h.fits t (List.mem_cons_of_mem _ ht)
  listed := h.listed
  made := h.made
  asked c := by
    have hasked := h.asked c
    rwa [List.countP_cons_of_neg (by simp)] at hasked
  followed c := by
    have hfollowed := h.followed c
    by_cases hc : call = c <;> simp [hc] at hfollowed ⊢ <;> omega
  waiting := h.waiting
  answered c r hr := by
    rcases List.mem_append.mp hr with hr | hr
    · exact h.answered c r hr
    · obtain ⟨rfl, rfl⟩ := Prod.mk.inj (List.mem_singleton.mp hr)
      exact ⟨some n, v, h.looked_mem, hv, rfl⟩

end

/-- A call that was told of the end is woken one turn later. -/
theorem relays {w : Waiter}
    (h : Followed (.relay n w :: tasks) waiters finished library calls looked) :
    Followed (tasks ++ [.wake n w]) waiters finished library calls looked := by
  refine h.congr (fun t ht => ?_) (fun c => ?_) (fun c => ?_)
  · rcases List.mem_append.mp ht with ht | ht
    · exact h.fits t (List.mem_cons_of_mem _ ht)
    · have hfit := h.fits _ List.mem_cons_self
      rw [List.mem_singleton.mp ht]
      cases w with
      | lookUp c => exact hfit
      | pass p => exact hfit.elim
  · simp
  · rw [List.countP_append, List.countP_singleton, List.countP_cons]
    rfl

/-- The library changes, but not for those that wait. -/
theorem of_waiting {library' : Library} (h : Followed tasks waiters finished library calls looked)
    (hl : Library.Lasting library library')
    (hlisted : ∀ uri n, library'.number? uri = some n →
      ∃ e, library'.entry? n = some e ∧ e.document.uri = uri)
    (hp : ∀ n, library.futureAt? n = some .unset → library'.futureAt? n = some .unset) :
    Followed tasks waiters finished library' calls looked :=
  h.of_lasting hl hlisted h.fits (fun _ => rfl) (fun _ => rfl)
    fun n w hm => ⟨hm, hp n (h.waiting n w hm).1⟩

theorem ensure (h : Followed tasks waiters finished library calls looked) (d : Document) :
    Followed tasks waiters finished (library.add d) calls looked := by
  refine h.of_waiting (.add _ d) (fun uri n hn => ?_) (fun n hn => ?_)
  · rw [Library.entry?_add]
    by_cases hu : uri = d.uri
    · have hput : (library.add d).number? d.uri = some library.made.length :=
        Table.get?_put_self _ _ _
      rw [hu, hput] at hn
      rw [if_pos (Option.some.inj hn).symm]
      exact ⟨_, rfl, hu.symm⟩
    · have hold : (library.add d).number? uri = library.number? uri := Table.get?_put_of_ne hu _ _
      obtain ⟨e, he, hd⟩ := h.listed uri n (hold ▸ hn)
      have hlt : n < library.made.length := (List.getElem?_eq_some_iff.mp he).1
      rw [if_neg (Nat.ne_of_lt hlt)]
      exact ⟨e, he, hd⟩
  · rw [Library.futureAt?_add]
    split
    · rfl
    · exact hn

theorem forget (h : Followed tasks waiters finished library calls looked) (uri : String) :
    Followed tasks waiters finished (library.forget uri) calls looked := by
  refine h.of_waiting (.of_made rfl) (fun other n hn => ?_) (fun n hn => hn)
  by_cases hu : other = uri
  · have herased : (library.forget uri).number? uri = none := Table.get?_erase_self _ _
    rw [hu, herased] at hn
    cases hn
  · have hold : (library.forget uri).number? other = library.number? other :=
      Table.get?_erase_of_ne hu _
    exact h.listed other n (hold ▸ hn)

/-- A resolution ends: who waited for its entry is told. -/
theorem ends {library' : Library} (h : Followed tasks waiters finished library calls looked)
    (hm : library'.made = library.made) (he : library'.entries = library.entries)
    (hn : library.futureAt? n = some .unset) (outcome : Except Failure Engine) :
    Followed (tasks ++ (waiters.filter (·.1 == n)).map tell) (waiters.filter (!·.1 == n)) finished
      (library'.settle n outcome) calls looked := by
  have hfuture := Library.futureAt?_congr hm
  have hn' := (hfuture n).trans hn
  have hlasting : Library.Lasting library (library'.settle n outcome) :=
    (Library.Lasting.of_made hm).trans (.settle hn' outcome)
  refine h.of_lasting hlasting ?_ ?_ ?_ ?_ ?_
  · intro uri m hu
    have hold : library.number? uri = some m := by
      rw [← hu]
      exact congrArg (Table.get? · uri) he.symm
    obtain ⟨e, hentry, hd⟩ := h.listed uri m hold
    obtain ⟨e', hentry', hd', -⟩ := hlasting m e hentry
    exact ⟨e', hentry', hd' ▸ hd⟩
  · intro t ht
    rcases List.mem_append.mp ht with ht | ht
    · exact h.fits t ht
    · obtain ⟨⟨m, w⟩, hw, rfl⟩ := List.mem_map.mp ht
      obtain ⟨-, c, rfl, hc⟩ := h.waiting m w (List.mem_filter.mp hw).1
      exact hc
  · intro c
    rw [List.countP_append, List.countP_map]
    have hnone : (waiters.filter (·.1 == n)).countP ((Task.asks c ·) ∘ tell) = 0 :=
      List.countP_eq_zero.mpr fun w _ => Bool.false_ne_true
    rw [hnone, Nat.add_zero]
  · intro c
    rw [List.countP_append, List.countP_map,
      List.countP_eq_countP_filter_add waiters (·.2.isFor c) (·.1 == n), Nat.add_assoc]
    rfl
  · intro m w hw
    obtain ⟨hw, hne⟩ := List.mem_filter.mp hw
    refine ⟨hw, ?_⟩
    rw [Library.futureAt?_settle outcome hn', if_neg (by simpa using hne), hfuture]
    exact (h.waiting m w hw).1

end Followed

/-! ## Tasks -/

theorem settled_waiters (n : Nat) (outcome : Except Failure Engine) (s : Session) :
    (s.settled n outcome).waiters = s.waiters.filter (!·.1 == n) := by
  unfold settled
  rw [List.partition_eq_filter_filter]
  rfl

theorem settled_ready (n : Nat) (outcome : Except Failure Engine) (s : Session) :
    (s.settled n outcome).ready = s.ready ++ (s.waiters.filter (·.1 == n)).map tell := by
  unfold settled
  rw [List.partition_eq_filter_filter]
  rfl

/-- What holds of a session and of the tasks that are yet to be done, where only linters are asked
for. -/
structure Sound (tasks : List Task) (s : Session) (calls : Nat) (looked : List (Nat × Option Nat)) :
    Prop where
  once : Once tasks s.waitingSearches s.history s.library
  shared : Shared s.history s.library
  followed : Followed tasks s.waiters s.finished s.library calls looked

namespace Sound

variable {tasks : List Task} {s : Session} {calls n call : Nat} {looked : List (Nat × Option Nat)}
  {env : Surroundings}

theorem perm {tasks' : List Task} (h : Sound tasks s calls looked) (hp : tasks'.Perm tasks) :
    Sound tasks' s calls looked :=
  ⟨h.once.perm hp, h.shared, h.followed.perm hp⟩

/-- The resolution of an entry is done: it waits for its release, or it ends. -/
inductive Resolved (env : Surroundings) (s : Session) (n : Nat) : Session → Prop
  | waits : Resolved env s n { s with waitingSearches := s.waitingSearches ++ [n] }
  | ends {e : Library.Entry} {library : Library} {outcome : Except Failure Engine}
      {es : List Effect} (he : s.library.entry? n = some e) (unset : e.future = .unset)
      (hf : Found env s n e.document library outcome es) :
      Resolved env s n (({ s with library }.settled n outcome).emit es)

theorem has_entry {t : Task} (h : Sound (t :: tasks) s calls looked) (ht : t.resolves n = true) :
    ∃ e, s.library.entry? n = some e ∧ e.future = .unset :=
  Option.map_eq_some_iff.mp (h.once.unset ht)

theorem look_resolved (h : Sound (.look n :: tasks) s calls looked) :
    Resolved env s n (s.look env n) := by
  obtain ⟨e, he, hunset⟩ := h.has_entry BEq.rfl
  unfold look
  rw [he]
  dsimp only
  split
  · exact .waits
  · obtain ⟨library, outcome, es, hf, heq⟩ := searchFor_found env n e.document s
    rw [heq]
    exact .ends he hunset hf

theorem goOn_resolved (h : Sound (.search n :: tasks) s calls looked) :
    Resolved env s n (s.goOn env n) := by
  obtain ⟨e, he, hunset⟩ := h.has_entry BEq.rfl
  unfold goOn
  rw [he]
  obtain ⟨library, outcome, es, hf, heq⟩ := searchFor_found env n e.document s
  dsimp only
  rw [heq]
  exact .ends he hunset hf

/-- The end of a resolution leaves a session sound. -/
theorem ends {t : Task} {e : Library.Entry} {library : Library}
    {outcome : Except Failure Engine} {es : List Effect} (h : Sound (t :: tasks) s calls looked)
    (hr : t.isResolution = true) (ht : ∀ m, t.resolves m = (n == m))
    (hf : Found env s n e.document library outcome es) :
    Sound (tasks ++ (s.waiters.filter (·.1 == n)).map tell)
      (({ s with library }.settled n outcome).emit es) calls looked := by
  have hn := h.once.unset ((ht n).trans BEq.rfl)
  have hwoken : ∀ m, (tasks ++ (s.waiters.filter (·.1 == n)).map tell).countP (·.resolves m) =
      tasks.countP (·.resolves m) := by
    intro m
    have hnone : (s.waiters.filter (·.1 == n)).countP ((Task.resolves m ·) ∘ tell) = 0 :=
      List.countP_eq_zero.mpr fun w _ => Bool.false_ne_true
    rw [List.countP_append, List.countP_map, hnone, Nat.add_zero]
  refine ⟨?_, h.shared.ends hn hf, ?_⟩
  · refine ((h.once.ends ht outcome hf.searches).library_congr ?_).congr hwoken
    show library.made.modify n _ = s.library.made.modify n _
    rw [hf.made]
  · show Followed _ ({ s with library }.settled n outcome).waiters _ _ _ _
    rw [settled_waiters]
    exact (h.followed.of_resolution hr).ends hf.made hf.entries hn outcome

/-- A call that was told of the entry it found waits for its future, or ends with its value. -/
theorem await (h : Sound (.wake n (.lookUp call) :: tasks) s calls looked) (env : Surroundings) :
    (s.await env n (.lookUp call)).ready = s.ready ∧
      (s.await env n (.lookUp call)).library = s.library ∧
      Sound tasks (s.await env n (.lookUp call)) calls looked := by
  have honce : Once tasks s.waitingSearches s.history s.library :=
    h.once.congr fun m => (List.countP_cons_of_neg Bool.false_ne_true).symm
  have hmade := h.followed.made call n h.followed.looked_mem
  have hfinishes : ∀ {v}, s.library.valueOf? (some n) = some v →
      Sound tasks (s.done call (.ok (.engine v))) calls looked :=
    fun hv => ⟨honce, h.shared, h.followed.finishes hv⟩
  unfold Session.await
  cases hs : s.library.futureAt? n with
  | none =>
    have hout := Library.futureAt?_eq_none.mp hs
    omega
  | some future =>
    cases future with
    | unset => exact ⟨rfl, rfl, honce, h.shared, h.followed.waits hs⟩
    | set engine =>
      have hv : s.library.valueOf? (some n) = some engine := by
        rw [Library.valueOf?, hs]
        rfl
      exact ⟨List.append_nil _, rfl, hfinishes hv⟩
    | cancelled => exact absurd hs (h.once.uncancelled n)

/-- What a task does: what it makes ready is appended to what is, and the rest stays sound. The
library changes only where a resolution ends. -/
structure Does (env : Surroundings) (t : Task) (tasks : List Task) (s : Session) (calls : Nat)
    (looked : List (Nat × Option Nat)) (s' : Session) : Prop where
  ready : ∃ new, s'.ready = s.ready ++ new ∧ Sound (tasks ++ new) s' calls (looked ++ s.looks t)
  library : s'.library = s.library ∨ ∃ n, Resolved env s n s'

theorem resolves {t : Task} {s' : Session} (h : Sound (t :: tasks) s calls looked)
    (hr : t.isResolution = true) (ht : ∀ m, t.resolves m = (n == m))
    (hlooks : s.looks t = []) (hs : Resolved env s n s') : Does env t tasks s calls looked s' := by
  refine ⟨?_, .inr ⟨n, hs⟩⟩
  rw [hlooks, List.append_nil]
  cases hs with
  | waits =>
    refine ⟨[], (List.append_nil _).symm, ?_⟩
    rw [List.append_nil]
    exact ⟨h.once.waits ht, h.shared, h.followed.of_resolution hr⟩
  | ends he hunset hf =>
    refine ⟨_, ?_, h.ends hr ht hf⟩
    exact settled_ready n _ _

theorem perform {t : Task} (h : Sound (t :: tasks) s calls looked) (env : Surroundings) :
    Does env t tasks s calls looked (s.perform env t) := by
  have hfit := h.followed.fits t List.mem_cons_self
  unfold Task.Fits at hfit
  split at hfit
  · exact h.resolves rfl (fun _ => rfl) rfl h.look_resolved
  · exact h.resolves rfl (fun _ => rfl) rfl h.goOn_resolved
  · rename_i call uri
    show Does env _ tasks s calls looked (s.awaitFor env uri (.lookUp call))
    unfold awaitFor
    cases hn : s.library.number? uri with
    | none =>
      refine ⟨⟨[], rfl, ?_⟩, .inl rfl⟩
      rw [List.append_nil, looks, hn]
      exact ⟨h.once.congr fun _ => rfl, h.shared, h.followed.finds_none⟩
    | some n =>
      have hwake : Sound (.wake n (.lookUp call) :: tasks) s calls (looked ++ [(call, some n)]) :=
        ⟨h.once.congr fun _ => rfl, h.shared, h.followed.begins hn⟩
      obtain ⟨hready, hlib, hsound⟩ := hwake.await env
      refine ⟨⟨[], by rw [List.append_nil]; exact hready, ?_⟩, .inl hlib⟩
      rw [List.append_nil, looks, hn]
      exact hsound
  · rename_i n call
    refine ⟨⟨[.wake n (.lookUp call)], rfl, ?_⟩, .inl rfl⟩
    rw [show s.looks (.relay n (.lookUp call)) = [] from rfl, List.append_nil]
    refine ⟨h.once.congr fun m => ?_, h.shared, h.followed.relays⟩
    rw [List.countP_append]
    rfl
  · rename_i n call
    obtain ⟨hready, hlib, hsound⟩ := h.await env
    refine ⟨⟨[], by rw [List.append_nil]; exact hready, ?_⟩, .inl hlib⟩
    rw [List.append_nil, show s.looks (.wake n (.lookUp call)) = [] from rfl, List.append_nil]
    exact hsound
  · exact hfit.elim

end Sound

end Session

/-! ## Moves -/

open Session

/-- A session in which linters are asked for, the tasks that were taken in hand, how many calls there
were, and the entry that each of them found as it began. -/
structure Loading where
  session : Session
  inHand : List Task := []
  calls : Nat := 0
  looked : List (Nat × Option Nat) := []

namespace Loading

inductive Move where
  | ensure (d : Document)
  | forget (uri : String)
  /-- The linter of a document is asked for. -/
  | get (uri : String)
  /-- All that is ready is taken in hand. -/
  | take
  /-- The task at a place in hand is done. -/
  | task (env : Surroundings) (place : Nat)
  /-- The waiting resolution at a place goes on. -/
  | found (place : Nat)

/-- Nothing was asked for yet. -/
def fresh (search : Search) : Loading := { session := { search } }

def library (l : Loading) : Library := l.session.library

/-- All that is yet to be done. -/
def tasks (l : Loading) : List Task := l.inHand ++ l.session.ready

def next (l : Loading) : Move → Loading
  | .ensure d => { l with session := l.session.ensure d }
  | .forget uri => { l with session := l.session.forgotten uri }
  | .get uri =>
    { l with session := l.session.call l.calls (.lookUp uri), calls := l.calls + 1 }
  | .take => { l with session.ready := [], inHand := l.inHand ++ l.session.ready }
  | .task env place =>
    match l.inHand[place]? with
    | none => l
    | some t =>
      { l with
        session := l.session.perform env t
        inHand := l.inHand.eraseIdx place
        looked := l.looked ++ l.session.looks t }
  | .found place =>
    match l.session.waitingSearches[place]? with
    | none => l
    | some n =>
      let session := l.session
      let session := { session with waitingSearches := session.waitingSearches.eraseIdx place }
      { l with session := session.enqueue [.search n] }

/-- The state after some moves. -/
def after (l : Loading) (moves : List Move) : Loading := moves.foldl next l

def Sound (l : Loading) : Prop := Session.Sound l.tasks l.session l.calls l.looked

variable {l : Loading}

theorem fresh_sound (search : Search) : (fresh search).Sound :=
  ⟨.empty, .empty, .empty⟩

/-- A task at a place in hand, and the others. -/
theorem tasks_perm {t : Task} {place : Nat} (ht : l.inHand[place]? = some t) :
    (t :: (l.inHand.eraseIdx place ++ l.session.ready)).Perm l.tasks := by
  obtain ⟨hlt, rfl⟩ := List.getElem?_eq_some_iff.mp ht
  exact (List.getElem_cons_eraseIdx_perm hlt).append_right _

theorem Sound.next (h : l.Sound) (mv : Move) : (l.next mv).Sound := by
  cases mv with
  | ensure d =>
    show Session.Sound (l.inHand ++ (l.session.ensure d).ready) (l.session.ensure d) _ _
    unfold Session.ensure
    split
    · exact h
    · have hlook : Session.Sound (l.tasks ++ [.look l.session.library.made.length])
          { l.session with library := l.session.library.add d } l.calls l.looked := by
        refine ⟨h.once.ensure d, ?_, (h.followed.ensure d).resolution rfl⟩
        refine h.shared.congr rfl fun m engine hm => ?_
        rw [Library.futureAt?_add] at hm
        split at hm
        · cases hm
        · exact hm
      rw [Loading.tasks, List.append_assoc] at hlook
      exact ⟨hlook.once, hlook.shared, hlook.followed⟩
  | forget uri =>
    exact ⟨h.once.library_congr rfl, h.shared.congr rfl fun _ _ hm => hm, h.followed.forget uri⟩
  | get uri =>
    show Session.Sound (l.inHand ++ (l.session.ready ++ [_])) _ _ _
    rw [← List.append_assoc]
    refine ⟨h.once.congr fun m => ?_, h.shared, h.followed.asks uri⟩
    rw [List.countP_append]
    rfl
  | take =>
    show Session.Sound (l.inHand ++ l.session.ready ++ []) _ _ _
    rw [List.append_nil]
    exact ⟨h.once, h.shared, h.followed⟩
  | task env place =>
    simp only [Loading.next]
    split
    · exact h
    · rename_i t ht
      obtain ⟨new, hready, hsound⟩ := (Session.Sound.perm h (tasks_perm ht)).perform env |>.ready
      show Session.Sound (l.inHand.eraseIdx place ++ (l.session.perform env t).ready) _ _ _
      rw [hready, ← List.append_assoc]
      exact hsound
  | found place =>
    simp only [Loading.next]
    split
    · exact h
    · rename_i n hn
      obtain ⟨hlt, rfl⟩ := List.getElem?_eq_some_iff.mp hn
      have hp := List.getElem_cons_eraseIdx_perm hlt
      show Session.Sound (l.inHand ++ (l.session.ready ++ [_])) _ _ _
      rw [← List.append_assoc]
      exact ⟨h.once.released hp, h.shared, h.followed.resolution rfl⟩

theorem Sound.after (h : l.Sound) (moves : List Move) : (l.after moves).Sound := by
  induction moves generalizing l with
  | nil => exact h
  | cons mv rest ih => exact ih (h.next mv)

/-! ## Doing all that is ready -/

/-- The tasks in hand can be done in order. -/
theorem perform_is_run (env : Surroundings) (ts : List Task) (l : Loading) (hl : l.inHand = ts) :
    ∃ moves looked, l.after moves =
      { l with session := ts.foldl (Session.perform env) l.session, inHand := [], looked } := by
  induction ts generalizing l with
  | nil =>
    refine ⟨[], l.looked, ?_⟩
    show l = { l with inHand := [] }
    rw [← hl]
  | cons t rest ih =>
    have hfirst : l.next (.task env 0) =
        { l with session := l.session.perform env t, inHand := rest
                 looked := l.looked ++ l.session.looks t } := by
      simp only [Loading.next, hl]
      rfl
    obtain ⟨moves, looked, h⟩ := ih (l.next (.task env 0)) (by rw [hfirst])
    rw [hfirst] at h
    refine ⟨.task env 0 :: moves, looked, ?_⟩
    show (l.next (.task env 0)).after moves = _
    rw [hfirst, h]
    rfl

/-- Doing all that is ready, round after round, is one of the orders. -/
theorem settle_is_run (env : Surroundings) (l : Loading) (hl : l.inHand = []) :
    ∃ moves looked, l.after moves = { l with session := l.session.settle env, looked } := by
  have rounds : ∀ n, ∃ moves looked, l.after moves =
      { l with session := Nat.repeat (Session.round env) n l.session, looked } := by
    intro n
    induction n with
    | zero => exact ⟨[], l.looked, rfl⟩
    | succ n ih =>
      obtain ⟨moves, looked, h⟩ := ih
      obtain ⟨more, looked', h'⟩ :=
        perform_is_run env (l.after moves).session.ready ((l.after moves).next .take)
          (by rw [h]; simp only [Loading.next, hl]; rfl)
      refine ⟨moves ++ .take :: more, looked', ?_⟩
      rw [after, List.foldl_append]
      show ((l.after moves).next .take).after more = _
      rw [h', h]
      simp only [Loading.next, hl]
      rfl
  exact rounds Session.rounds

/-! ## Entries -/

/-- The library after a resolution was done has the entries it had, one of them perhaps with its
future set. -/
theorem library_of_resolved {env : Surroundings} {s s' : Session} {n : Nat}
    (h : Session.Sound.Resolved env s n s') : Library.Lasting s.library s'.library ∧
      s'.library.made.length = s.library.made.length := by
  cases h with
  | waits => exact ⟨.refl _, rfl⟩
  | @ends e library outcome es he hunset hf =>
    have hn : library.futureAt? n = some .unset :=
      (Library.futureAt?_congr hf.made n).trans (Option.map_eq_some_iff.mpr ⟨e, he, hunset⟩)
    refine ⟨(Library.Lasting.of_made hf.made).trans (.settle hn _), ?_⟩
    show (Library.settle _ n _).made.length = _
    rw [Library.length_settle, hf.made]

/-- A move makes an entry only for a document without one, and leaves those there are. -/
theorem Sound.entries (h : l.Sound) (mv : Move) : Library.Lasting l.library (l.next mv).library ∧
    ((l.next mv).library.made.length = l.library.made.length ∨
      ∃ d, mv = .ensure d ∧ l.library.has d.uri = false ∧
        (l.next mv).library = l.library.add d) := by
  cases mv with
  | ensure d =>
    cases hd : l.library.has d.uri with
    | true =>
      have hsame : (l.next (.ensure d)).library = l.library :=
        congrArg Session.library (if_pos hd : l.session.ensure d = l.session)
      exact ⟨.of_made (congrArg _ hsame), .inl (congrArg (·.made.length) hsame)⟩
    | false =>
      have hadd : (l.next (.ensure d)).library = l.library.add d := by
        show (l.session.ensure d).library = _
        unfold Session.ensure
        rw [if_neg (by rw [show l.session.library.has d.uri = false from hd]; simp)]
        rfl
      rw [hadd]
      exact ⟨.add _ d, .inr ⟨d, rfl, hd, rfl⟩⟩
  | forget uri => exact ⟨.of_made rfl, .inl rfl⟩
  | get uri => exact ⟨.refl _, .inl rfl⟩
  | take => exact ⟨.refl _, .inl rfl⟩
  | task env place =>
    simp only [Loading.next]
    split
    · exact ⟨.refl _, .inl rfl⟩
    · rename_i t ht
      rcases (Session.Sound.perm h (tasks_perm ht)).perform env |>.library with hl | ⟨n, hr⟩
      · exact ⟨.of_made (congrArg _ hl), .inl (congrArg (·.made.length) hl)⟩
      · obtain ⟨hlasting, hlen⟩ := library_of_resolved hr
        exact ⟨hlasting, .inl hlen⟩
  | found place =>
    simp only [Loading.next]
    split <;> exact ⟨.refl _, .inl rfl⟩

theorem Sound.lasting (h : l.Sound) (moves : List Move) :
    Library.Lasting l.library (l.after moves).library := by
  induction moves generalizing l with
  | nil => exact .refl _
  | cons mv rest ih => exact (h.entries mv).1.trans (ih (h.next mv))

theorem finds_of_resolved {env : Surroundings} {s s' : Session} {n m : Nat} {engine : Engine}
    (hs : Shared s.history s.library) (h : Session.Sound.Resolved env s m s')
    (hn : s.library.futureAt? n = some .unset)
    (hr : s'.library.futureAt? n = some (.set (some engine))) :
    ∃ e, s.library.entry? n = some e ∧ env.find s.search e.document = .ok engine.path := by
  cases h with
  | waits => cases hn.symm.trans hr
  | @ends e library outcome es he hunset hf =>
    have hr : (library.settle m outcome).futureAt? n = some (.set (some engine)) := hr
    have hold : library.futureAt? n = some .unset := (Library.futureAt?_congr hf.made n).trans hn
    by_cases hnm : n = m
    · subst hnm
      rw [Library.futureAt?_settle outcome hold, if_pos rfl] at hr
      cases outcome with
      | error f => cases hr
      | ok found =>
        obtain rfl : found = engine := by simpa [Except.toOption] using hr
        exact ⟨e, he, (hs.resolves hf).1⟩
    · rw [Library.futureAt?, Library.entry?_settle, if_neg hnm] at hr
      cases hold.symm.trans hr

/-- An entry gets the engine of the executable that was found for its document. -/
theorem Sound.finds (h : l.Sound) {env : Surroundings} {place n : Nat} {engine : Engine}
    (hn : l.library.futureAt? n = some .unset)
    (hr : (l.next (.task env place)).library.futureAt? n = some (.set (some engine))) :
    ∃ e, l.library.entry? n = some e ∧ env.find l.session.search e.document = .ok engine.path := by
  simp only [Loading.next] at hr
  split at hr
  · cases hn.symm.trans hr
  · rename_i t ht
    rcases (Session.Sound.perm h (tasks_perm ht)).perform env |>.library with hl | ⟨m, hm⟩
    · have hr : (l.session.perform env t).library.futureAt? n = some (.set (some engine)) := hr
      rw [hl] at hr
      cases hn.symm.trans hr
    · exact finds_of_resolved h.shared hm hn hr

/-! ## Calls -/

theorem eq_of_countP_le_one {α : Type} {xs : List (Nat × α)} {c : Nat} {a b : α}
    (h : xs.countP (·.1 == c) ≤ 1) (ha : (c, a) ∈ xs) (hb : (c, b) ∈ xs) : a = b := by
  induction xs with
  | nil => cases ha
  | cons x rest ih =>
    rw [List.countP_cons] at h
    rcases List.mem_cons.mp ha with rfl | ha'
    · rcases List.mem_cons.mp hb with hb | hb
      · exact ((Prod.mk.inj hb).2).symm
      · have hpos : 0 < rest.countP (·.1 == c) := List.countP_pos_iff.mpr ⟨_, hb, BEq.rfl⟩
        rw [if_pos BEq.rfl] at h
        omega
    · have hpos : 0 < rest.countP (·.1 == c) := List.countP_pos_iff.mpr ⟨_, ha', BEq.rfl⟩
      rcases List.mem_cons.mp hb with rfl | hb
      · rw [if_pos BEq.rfl] at h
        omega
      · exact ih (by omega) ha' hb

theorem Sound.looked_once (h : l.Sound) (call : Nat) : l.looked.countP (·.1 == call) ≤ 1 := by
  have hasked := h.followed.asked call
  split at hasked <;> omega

/-- A call that has ended has the value of the future it found. -/
theorem Sound.answer (h : l.Sound) {call n : Nat} {r : Except Failure Answer}
    (hc : (call, some n) ∈ l.looked) (hr : (call, r) ∈ l.session.finished) :
    ∃ v, (l.library.futureAt? n).bind Library.Future.value? = some v ∧ r = .ok (.engine v) := by
  obtain ⟨k, v, hk, hv, hrv⟩ := h.followed.answered call r hr
  obtain rfl := eq_of_countP_le_one (h.looked_once call) hk hc
  exact ⟨v, hv, hrv⟩

/-- A call that found a future that is done has ended once nothing is left to do. -/
theorem Sound.returns (h : l.Sound) (hrest : l.tasks = []) {call n : Nat}
    (hc : (call, some n) ∈ l.looked) (hn : l.library.futureAt? n ≠ some .unset) :
    ∃ r, (call, r) ∈ l.session.finished := by
  have hfollowed := h.followed.followed call
  rw [hrest, List.countP_nil, Nat.zero_add] at hfollowed
  have hpos : 0 < l.looked.countP (·.1 == call) :=
    List.countP_pos_iff.mpr ⟨_, hc, BEq.rfl⟩
  have hwaits : l.session.waiters.countP (·.2.isFor call) = 0 := by
    refine List.countP_eq_zero.mpr fun ⟨m, w⟩ hw hfor => ?_
    obtain ⟨hp, c, rfl, hm⟩ := h.followed.waiting m w hw
    obtain rfl : c = call := by simpa using hfor
    obtain hmn := eq_of_countP_le_one (h.looked_once c) hm hc
    exact hn (Option.some.inj hmn ▸ hp)
  obtain ⟨⟨c, r⟩, hr, hcall⟩ := List.countP_pos_iff.mp
    (show 0 < l.session.finished.countP (·.1 == call) by omega)
  obtain rfl : c = call := by simpa using hcall
  exact ⟨r, hr⟩

/-! ## All runs -/

/-- What holds of every library that is not cleared. -/
structure Kept (l : Loading) : Prop where
  /-- An entry is pending and its future unset, it is resolved and its future holds an engine, or it
  has failed and its future holds none. -/
  states : ∀ n e, l.library.entry? n = some e → e.Agrees
  /-- An entry that is not pending stays as it is, whatever happens next. -/
  stays : ∀ n e, l.library.entry? n = some e → e.state ≠ .pending →
    ∀ more, Library.entry? (l.after more).library n = some e
  /-- An entry is looked for once at most, and once if it is not pending. -/
  searched : ∀ n e, l.library.entry? n = some e →
    l.session.history.countP (·.searches n) ≤ 1 ∧
      (e.state ≠ .pending → l.session.history.countP (·.searches n) = 1)
  /-- An entry is made only for a document that has none. -/
  created : ∀ mv, (l.next mv).library.made.length = l.library.made.length ∨
    ∃ d, mv = .ensure d ∧ l.library.has d.uri = false ∧ (l.next mv).library = l.library.add d
  /-- One engine at most is built for an executable. -/
  built : ∀ path, l.session.history.countP (·.builds path) ≤ 1
  /-- An entry gets the engine of the executable that was found for its document. -/
  found : ∀ env place n engine, l.library.stateAt? n = some .pending →
    (l.next (.task env place)).library.futureAt? n = some (.set (some engine)) →
    ∃ e, l.library.entry? n = some e ∧ env.find l.session.search e.document = .ok engine.path
  /-- Entries with an executable in common have its engine in common. -/
  shared : ∀ n m engine other, l.library.futureAt? n = some (.set (some engine)) →
    l.library.futureAt? m = some (.set (some other)) → engine.path = other.path → engine = other
  /-- Calls that found the same entry end with the same answer, the value of its future. -/
  alike : ∀ n call other r r', (call, some n) ∈ l.looked → (other, some n) ∈ l.looked →
    (call, r) ∈ l.session.finished → (other, r') ∈ l.session.finished →
    r = r' ∧ ∃ v, (l.library.futureAt? n).bind Library.Future.value? = some v ∧ r = .ok (.engine v)
  /-- Once nothing is left to do, no call waits for an entry that is not pending. -/
  returns : l.tasks = [] → ∀ n call, (call, some n) ∈ l.looked →
    l.library.stateAt? n ≠ some .pending → ∃ r, (call, r) ∈ l.session.finished

/-- Entries asked for, forgotten and resolved in any order settle once, share engines and answer all
who found them alike. -/
theorem entries_settle_once (search : Search) (moves : List Move) :
    ((fresh search).after moves).Kept := by
  have h := (fresh_sound search).after moves
  generalize (fresh search).after moves = l at h
  have hdone : ∀ n e, l.library.entry? n = some e → e.state ≠ .pending → e.future.isDone = true :=
    fun n e he => (h.once.agrees n e he).isDone_iff.mpr
  exact {
    states := h.once.agrees
    stays := by
      intro n e he hne more
      obtain ⟨e', he', -, hsame⟩ := h.lasting more n e he
      rw [he', hsame (hdone n e he hne)]
    searched := by
      intro n e he
      have hs := h.once.searched n
      rw [show l.session.library.futureAt? n = some e.future by
        rw [Library.futureAt?, show l.session.library.entry? n = some e from he]; rfl] at hs
      rw [hs]
      refine ⟨Bool.toNat_le _, fun hne => ?_⟩
      rw [Option.any_some, hdone n e he hne]
      rfl
    created := fun mv => (h.entries mv).2
    built := h.shared.built_le_one
    found := fun env place n engine hn hr => h.finds ((h.once.pending_iff n).mp hn) hr
    shared := fun n m engine other hn hm hp => h.shared.engine_eq hn hm hp
    alike := by
      intro n call other r r' hc ho hr hr'
      obtain ⟨v, hv, rfl⟩ := h.answer hc hr
      obtain ⟨v', hv', rfl⟩ := h.answer ho hr'
      obtain rfl : v = v' := Option.some.inj (hv.symm.trans hv')
      exact ⟨rfl, v, hv, rfl⟩
    returns := fun hrest n call hc hn =>
      h.returns hrest hc fun hunset => hn ((h.once.pending_iff n).mpr hunset) }

end Loading

end LintServer
