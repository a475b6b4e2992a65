/-
  LintServer.Proofs.Resolutions — how a resolution ends, and what it does to the library.

  A resolution ends at once: the executable is looked for, the engine is taken from those there
  are or built, the entry gets its state, and who waited for it is told.
  - `Library.Entry.Agrees`: what the state of an entry says of its future.
  - `Session.Found`: the ways in which it can end, with all that is done then.
  - `Library.Lasting`: entries whose future is done stay as they are.
  - `Session.Once`: each entry that was made is looked for once, its future is unset until then,
    and its state agrees with it.
  - `Session.Shared`: there is one engine for an executable, and entries have no other.
-/

import LintServer.Session.Step

namespace LintServer

/-! ## Entries, their states and their futures -/

namespace Library

/-- The value a future was set to: an engine, or none. -/
def Future.value? : Future → Option (Option Engine)
  | .set engine => some engine
  | .unset | .cancelled => none

theorem Future.isDone_of_value? {future : Future} {v : Option Engine}
    (h : future.value? = some v) : future.isDone = true := by
  cases future with
  | unset => cases h
  | set engine => rfl
  | cancelled => rfl

namespace Entry

/-- What the state of an entry says of its future: while it is pending, the future is unset; when it
is resolved, the future holds an engine; and when it has failed, with a failure, it holds none. -/
inductive Agrees (e : Entry) : Prop
  | pending (state : e.state = .pending) (future : e.future = .unset)
  | resolved (engine : Engine) (state : e.state = .resolved)
      (future : e.future = .set (some engine))
  | failed (f : Failure) (state : e.state = .failed) (future : e.future = .set none)
      (failure : e.failure = some f)

variable {e : Entry}

theorem Agrees.isDone_iff (h : e.Agrees) : e.future.isDone = true ↔ e.state ≠ .pending := by
  cases h with
  | pending state future => simp [state, future, Future.isDone]
  | resolved engine state future => simp [state, future, Future.isDone]
  | failed f state future failure => simp [state, future, Future.isDone]

theorem future_ended (h : e.future = .unset) (outcome : Except Failure Engine) :
    (e.ended outcome).future = .set outcome.toOption := by
  cases outcome <;> simp only [ended, h] <;> rfl

theorem agrees_ended (h : e.future = .unset) (outcome : Except Failure Engine) :
    (e.ended outcome).Agrees := by
  cases outcome with
  | ok engine => exact .resolved engine rfl (future_ended h (.ok engine))
  | error f => exact .failed f rfl (future_ended h (.error f)) rfl

theorem document_ended (outcome : Except Failure Engine) (e : Entry) :
    (e.ended outcome).document = e.document := by
  cases outcome <;> rfl

end Entry

theorem entry?_eq_none {l : Library} {n : Nat} : l.entry? n = none ↔ l.made.length ≤ n :=
  List.getElem?_eq_none_iff

theorem entry?_add (l : Library) (d : Document) (n : Nat) :
    Library.entry? (l.add d) n = if n = l.made.length then some { document := d } else l.entry? n := by
  show (l.made ++ [_])[n]? = _
  split
  · rename_i h
    rw [h, List.getElem?_concat_length]
  · rename_i h
    by_cases hn : n < l.made.length
    · exact List.getElem?_append_left hn
    · rw [entry?_eq_none.mpr (Nat.le_of_not_lt hn), List.getElem?_eq_none]
      rw [List.length_append, List.length_singleton]
      omega

theorem entry?_settle (l : Library) (n : Nat) (outcome : Except Failure Engine) (m : Nat) :
    Library.entry? (l.settle n outcome) m =
      if m = n then (l.entry? m).map (Entry.ended outcome) else l.entry? m := by
  show (l.made.modify n _)[m]? = _
  rw [List.getElem?_modify]
  split
  · rename_i h
    rw [if_pos h.symm]
    rfl
  · rename_i h
    rw [if_neg fun he => h he.symm]
    show Option.map id _ = _
    rw [Option.map_id]
    rfl

theorem futureAt?_add (l : Library) (d : Document) (n : Nat) :
    (l.add d).futureAt? n = if n = l.made.length then some .unset else l.futureAt? n := by
  unfold futureAt?
  rw [entry?_add]
  split <;> rfl

/-- The end of a resolution sets the future of its entry, where it is unset. -/
theorem futureAt?_settle {l : Library} {n : Nat} (outcome : Except Failure Engine)
    (hn : l.futureAt? n = some .unset) (m : Nat) :
    (l.settle n outcome).futureAt? m =
      if m = n then some (.set outcome.toOption) else l.futureAt? m := by
  obtain ⟨e, he, hp⟩ := Option.map_eq_some_iff.mp hn
  unfold futureAt?
  rw [entry?_settle]
  split
  · rename_i hm
    rw [hm, he, Option.map_some, Option.map_some, Entry.future_ended hp]
  · rfl

theorem futureAt?_eq_none {l : Library} {n : Nat} : l.futureAt? n = none ↔ l.made.length ≤ n := by
  unfold futureAt?
  rw [Option.map_eq_none_iff, entry?_eq_none]

theorem futureAt?_congr {l l' : Library} (h : l'.made = l.made) (n : Nat) :
    l'.futureAt? n = l.futureAt? n := by
  rw [futureAt?, entry?, h]
  rfl

theorem length_settle (l : Library) (n : Nat) (outcome : Except Failure Engine) :
    (l.settle n outcome).made.length = l.made.length := List.length_modify _ _ _

/-- Entries whose future is done stay as they are, and none is taken away. -/
def Lasting (l l' : Library) : Prop :=
  ∀ n e, l.entry? n = some e →
    ∃ e', l'.entry? n = some e' ∧ e'.document = e.document ∧
      (e.future.isDone = true → e' = e)

namespace Lasting

theorem refl (l : Library) : Lasting l l := fun _ e h => ⟨e, h, rfl, fun _ => rfl⟩

theorem of_made {l l' : Library} (h : l'.made = l.made) : Lasting l l' := by
  intro n e he
  refine ⟨e, ?_, rfl, fun _ => rfl⟩
  unfold entry? at he ⊢
  rw [h]
  exact he

theorem trans {a b c : Library} (hab : Lasting a b) (hbc : Lasting b c) : Lasting a c := by
  intro n e he
  obtain ⟨e', he', hd, hs⟩ := hab n e he
  obtain ⟨e'', he'', hd', hs'⟩ := hbc n e' he'
  refine ⟨e'', he'', hd'.trans hd, fun hp => ?_⟩
  obtain rfl := hs hp
  exact hs' hp

theorem add (l : Library) (d : Document) : Lasting l (l.add d) := by
  intro n e he
  have hn : n ≠ l.made.length := by
    rintro rfl
    rw [entry?_eq_none.mpr (Nat.le_refl _)] at he
    cases he
  exact ⟨e, by rw [entry?_add, if_neg hn]; exact he, rfl, fun _ => rfl⟩

theorem settle {l : Library} {n : Nat} (hn : l.futureAt? n = some .unset)
    (outcome : Except Failure Engine) : Lasting l (l.settle n outcome) := by
  intro m e he
  rw [entry?_settle]
  split
  · rename_i hm
    refine ⟨_, by rw [he]; rfl, Entry.document_ended outcome e, fun hdone => ?_⟩
    rw [← hm, futureAt?, he] at hn
    have hunset : e.future = .unset := Option.some.inj hn
    rw [hunset] at hdone
    cases hdone
  · exact ⟨e, he, rfl, fun _ => rfl⟩

/-- The value of an entry's future is its value from then on. -/
theorem value? {l l' : Library} (h : Lasting l l') {n : Nat} {v : Option Engine}
    (hv : (l.futureAt? n).bind Future.value? = some v) :
    (l'.futureAt? n).bind Future.value? = some v := by
  obtain ⟨future, hs, hv⟩ := Option.bind_eq_some_iff.mp hv
  obtain ⟨e, he, rfl⟩ := Option.map_eq_some_iff.mp hs
  obtain ⟨e', he', -, hsame⟩ := h n e he
  rw [hsame (Future.isDone_of_value? hv)] at he'
  rw [futureAt?, he']
  exact hv

theorem length_le {l l' : Library} (h : Lasting l l') : l.made.length ≤ l'.made.length := by
  refine Nat.le_of_not_lt fun hlast => ?_
  obtain ⟨e', he', -⟩ := h l'.made.length _ (List.getElem?_eq_getElem hlast)
  rw [entry?_eq_none.mpr (Nat.le_refl _)] at he'
  cases he'

end Lasting

end Library

/-! ## The end of a resolution -/

namespace Session

/-- How the resolution of an entry can end: the library then, apart from the entry, the engine that
was found or why there is none, and what is done. -/
inductive Found (env : Surroundings) (s : Session) (n : Nat) (d : Document) :
    Library → Except Failure Engine → List Effect → Prop
  | failed (f : Failure) : Found env s n d s.library (.error f)
      [.searched n d.uri, .warning ("Failed to load ESLint for " ++ d.uri ++ ": " ++ f.text),
        .unloaded d.uri f]
  | shared (engine : Engine) (path : String) (hfind : env.find s.search d = .ok path)
      (hengine : Table.get? s.library.engines path = some engine) :
      Found env s n d s.library (.ok engine)
        [.searched n d.uri, .info ("ESLint library loaded from: " ++ path), .loaded path]
  | first (path : String) (hfind : env.find s.search d = .ok path)
      (hnone : Table.get? s.library.engines path = none) :
      Found env s n d (s.library.build path).1 (.ok (s.library.build path).2)
        [.searched n d.uri, .built path, .info ("ESLint library loaded from: " ++ path),
          .loaded path]

theorem searchFor_found (env : Surroundings) (n : Nat) (d : Document) (s : Session) :
    ∃ library outcome es, Found env s n d library outcome es ∧
      s.searchFor env n d = ({ s with library }.settled n outcome).emit es := by
  unfold searchFor engineFor
  dsimp only [emit]
  cases hf : env.find s.search d with
  | error f =>
    refine ⟨_, _, _, .failed f, ?_⟩
    simp only [loadFailed, settled, emit, enqueue, List.append_assoc]
    rfl
  | ok path =>
    dsimp only
    cases he : Table.get? s.library.engines path with
    | some engine =>
      refine ⟨_, _, _, .shared engine path hf he, ?_⟩
      simp only [settled, enqueue, List.append_assoc]
      rfl
    | none =>
      dsimp only
      cases hb : env.build path with
      | error f =>
        refine ⟨_, _, _, .failed f, ?_⟩
        simp only [loadFailed, settled, emit, enqueue, List.append_assoc]
        rfl
      | ok _ =>
        refine ⟨_, _, _, .first path hf he, ?_⟩
        simp only [settled, enqueue, List.append_assoc]
        rfl

/-- Whether a task is the resolution of an entry. -/
def Task.resolves (n : Nat) : Task → Bool
  | .look m | .search m => m == n
  | _ => false

@[simp] theorem Task.resolves_look (n m : Nat) : (Task.look m).resolves n = (m == n) := rfl

@[simp] theorem Task.resolves_search (n m : Nat) : (Task.search m).resolves n = (m == n) := rfl

end Session

/-- Whether the linter of an entry was looked for. -/
def Effect.searches (n : Nat) : Effect → Bool
  | .searched m _ => m == n
  | _ => false

/-- Whether an engine was built for an executable. -/
def Effect.builds (path : String) : Effect → Bool
  | .built p => p == path
  | _ => false

namespace Session

section

variable {env : Surroundings} {s : Session} {n : Nat} {d : Document} {library : Library}
  {outcome : Except Failure Engine} {es : List Effect}

theorem Found.made (h : Found env s n d library outcome es) : library.made = s.library.made := by
  cases h <;> rfl

theorem Found.entries (h : Found env s n d library outcome es) :
    library.entries = s.library.entries := by
  cases h <;> rfl

theorem Found.searches (h : Found env s n d library outcome es) (m : Nat) :
    es.countP (·.searches m) = if m = n then 1 else 0 := by
  by_cases hm : m = n
  · subst hm
    cases h <;> simp [Effect.searches, Effect.warning, Effect.info]
  · have hn : n ≠ m := fun h => hm h.symm
    cases h <;> simp [Effect.searches, Effect.warning, Effect.info, hm, hn]

end

/-! ## Each entry is looked for once -/

/-- Each entry that was made has one resolution that is still to end, among the tasks or those that
wait for their release, or was looked for once; its future is unset as long as it was not, and its
state agrees with that. -/
structure Once (tasks : List Task) (waiting : List Nat) (history : List Effect)
    (library : Library) : Prop where
  tokens : ∀ n, tasks.countP (·.resolves n) + waiting.count n + history.countP (·.searches n) =
    if n < library.made.length then 1 else 0
  searched : ∀ n, history.countP (·.searches n) =
    ((library.futureAt? n).any (·.isDone)).toNat
  agrees : ∀ n e, library.entry? n = some e → e.Agrees

namespace Once

variable {tasks : List Task} {waiting : List Nat} {history : List Effect} {library : Library}
  {n : Nat}

theorem empty : Once [] [] [] {} where
  tokens n := by simp
  searched n := rfl
  agrees n e h := by cases h

theorem congr {tasks' : List Task} (h : Once tasks waiting history library)
    (ht : ∀ n, tasks'.countP (·.resolves n) = tasks.countP (·.resolves n)) :
    Once tasks' waiting history library where
  tokens n := by
    rw [ht]
    exact h.tokens n
  searched := h.searched
  agrees := h.agrees

/-- The future of a pending entry is unset, and no other. -/
theorem pending_iff (h : Once tasks waiting history library) (n : Nat) :
    library.stateAt? n = some .pending ↔ library.futureAt? n = some .unset := by
  unfold Library.stateAt? Library.futureAt?
  cases he : library.entry? n with
  | none => exact ⟨nofun, nofun⟩
  | some e =>
    cases h.agrees n e he with
    | pending state future => simp [state, future]
    | resolved engine state future => simp [state, future]
    | failed f state future failure => simp [state, future]

theorem uncancelled (h : Once tasks waiting history library) (n : Nat) :
    library.futureAt? n ≠ some .cancelled := by
  intro hn
  obtain ⟨e, he, hc⟩ := Option.map_eq_some_iff.mp hn
  cases h.agrees n e he with
  | pending state future => cases future.symm.trans hc
  | resolved engine state future => cases future.symm.trans hc
  | failed f state future failure => cases future.symm.trans hc

theorem perm {tasks' : List Task} (h : Once tasks waiting history library)
    (hp : tasks'.Perm tasks) : Once tasks' waiting history library :=
  h.congr fun _ => hp.countP_eq _

theorem library_congr {library' : Library} (h : Once tasks waiting history library)
    (hm : library'.made = library.made) : Once tasks waiting history library' where
  tokens n := by
    rw [hm]
    exact h.tokens n
  searched n := by
    rw [Library.futureAt?_congr hm]
    exact h.searched n
  agrees n e he := h.agrees n e (by rwa [Library.entry?, hm] at he)

/-- The future of an entry with a resolution that is still to end is unset. -/
theorem unset {t : Task} (h : Once (t :: tasks) waiting history library)
    (ht : t.resolves n = true) : library.futureAt? n = some .unset := by
  have htok := h.tokens n
  have hsearch := h.searched n
  rw [List.countP_cons_of_pos ht] at htok
  cases hs : library.futureAt? n with
  | none =>
    rw [if_neg (Nat.not_lt.mpr (Library.futureAt?_eq_none.mp hs))] at htok
    omega
  | some future =>
    have hnone : history.countP (·.searches n) = 0 := by
      split at htok <;> omega
    rw [hnone, hs] at hsearch
    cases future with
    | unset => rfl
    | set engine => cases hsearch
    | cancelled => cases hsearch

theorem ensure (h : Once tasks waiting history library) (d : Document) :
    Once (tasks ++ [.look library.made.length]) waiting history (library.add d) where
  tokens n := by
    have htok := h.tokens n
    have hlen : (library.add d).made.length = library.made.length + 1 := List.length_append
    rw [List.countP_append, List.countP_singleton, hlen]
    by_cases hn : n = library.made.length
    · subst hn
      rw [if_neg (Nat.lt_irrefl _)] at htok
      rw [if_pos (by simp), if_pos (Nat.lt_succ_self _)]
      omega
    · have hne : library.made.length ≠ n := fun h => hn h.symm
      rw [if_neg (by simp [hne])]
      split <;> split at htok <;> omega
  searched n := by
    rw [Library.futureAt?_add]
    split
    · rename_i hn
      have hnone := h.searched n
      rw [Library.futureAt?_eq_none.mpr (Nat.le_of_eq hn.symm)] at hnone
      exact hnone
    · exact h.searched n
  agrees n e he := by
    rw [Library.entry?_add] at he
    split at he
    · obtain rfl := Option.some.inj he
      exact .pending rfl rfl
    · exact h.agrees n e he

theorem waits {t : Task} (h : Once (t :: tasks) waiting history library)
    (ht : ∀ m, t.resolves m = (n == m)) : Once tasks (waiting ++ [n]) history library where
  tokens m := by
    have htok := h.tokens m
    rw [List.countP_cons] at htok
    rw [List.count_append, List.count_singleton, ← htok, ht]
    by_cases hm : n = m
    · simp only [hm, BEq.rfl, if_true]
      omega
    · simp [hm]
  searched := h.searched
  agrees := h.agrees

theorem released {rest : List Nat} (h : Once tasks waiting history library)
    (hp : (n :: rest).Perm waiting) : Once (tasks ++ [.search n]) rest history library where
  tokens m := by
    have htok := h.tokens m
    rw [← hp.count_eq, List.count_cons] at htok
    rw [List.countP_append, List.countP_singleton, ← htok, Task.resolves_search]
    by_cases hm : n = m
    · simp only [hm, BEq.rfl, if_true]
      omega
    · simp [hm]
  searched := h.searched
  agrees := h.agrees

/-- A resolution ends: its task is done, and the entry was looked for. -/
theorem ends {es : List Effect} {t : Task} (h : Once (t :: tasks) waiting history library)
    (ht : ∀ m, t.resolves m = (n == m)) (outcome : Except Failure Engine)
    (hes : ∀ m, es.countP (·.searches m) = if m = n then 1 else 0) :
    Once tasks waiting (history ++ es) (library.settle n outcome) where
  tokens m := by
    have htok := h.tokens m
    rw [List.countP_cons, ht] at htok
    rw [List.countP_append, hes, Library.length_settle, ← htok]
    by_cases hm : m = n
    · subst hm
      simp only [BEq.rfl, if_true]
      omega
    · have hn : (n == m) = false := by simpa using fun h => hm h.symm
      simp only [hn, hm, if_false, Bool.false_eq_true]
      omega
  searched m := by
    have hunset := h.unset ((ht n).trans BEq.rfl)
    rw [List.countP_append, hes, Library.futureAt?_settle outcome hunset, h.searched m]
    by_cases hm : m = n
    · subst hm
      rw [if_pos rfl, if_pos rfl, hunset]
      rfl
    · rw [if_neg hm, if_neg hm]
      rfl
  agrees m e he := by
    rw [Library.entry?_settle] at he
    split at he
    · rename_i hm
      obtain ⟨old, hold, rfl⟩ := Option.map_eq_some_iff.mp he
      have hunset := h.unset ((ht n).trans BEq.rfl)
      rw [← hm, Library.futureAt?, hold] at hunset
      exact Library.Entry.agrees_ended (Option.some.inj hunset) outcome
    · exact h.agrees m e he

end Once

/-! ## One engine for an executable -/

/-- Engines stand under their executables, one was built for each that has one and no other, and
the entries have no other engines. -/
structure Shared (history : List Effect) (library : Library) : Prop where
  path : ∀ path engine, Table.get? library.engines path = some engine → engine.path = path
  built : ∀ path, history.countP (·.builds path) = (Table.has library.engines path).toNat
  resolved : ∀ n engine, library.futureAt? n = some (.set (some engine)) →
    Table.get? library.engines engine.path = some engine

namespace Shared

variable {history : List Effect} {library : Library} {n : Nat}

theorem empty : Shared [] {} where
  path _ _ h := by cases h
  built _ := rfl
  resolved _ _ h := by cases h

/-- Entries are made and forgotten without engines. -/
theorem congr {library' : Library} (h : Shared history library)
    (he : library'.engines = library.engines)
    (hs : ∀ m engine, library'.futureAt? m = some (.set (some engine)) →
      library.futureAt? m = some (.set (some engine))) : Shared history library' where
  path := he ▸ h.path
  built := he ▸ h.built
  resolved m engine hm := he ▸ h.resolved m engine (hs m engine hm)

variable {env : Surroundings} {s : Session} {d : Document} {outcome : Except Failure Engine}
  {es : List Effect}

/-- No engine is lost when a resolution ends. -/
theorem keeps (hf : Found env s n d library outcome es) {path : String} {engine : Engine}
    (h : Table.get? s.library.engines path = some engine) :
    Table.get? library.engines path = some engine := by
  cases hf with
  | failed f => exact h
  | shared engine path hfind hengine => exact h
  | first new hfind hnone =>
    have hne : path ≠ new := by
      rintro rfl
      rw [hnone] at h
      cases h
    exact (Table.get?_put_of_ne hne _ _).trans h

theorem builds (hf : Found env s n d library outcome es) (path : String) :
    (Table.has s.library.engines path).toNat + es.countP (·.builds path) =
      (Table.has library.engines path).toNat := by
  cases hf with
  | failed f => simp [Effect.builds, Effect.warning]
  | shared engine p hfind hengine => simp [Effect.builds, Effect.info]
  | first new hfind hnone =>
    show _ = (Table.has (Table.put new _ s.library.engines) path).toNat
    by_cases hp : path = new
    · subst hp
      simp [Effect.builds, Effect.info, Table.has, hnone]
    · have hne : new ≠ path := fun h => hp h.symm
      rw [Table.has, Table.has, Table.get?_put_of_ne hp]
      simp [Effect.builds, Effect.info, hne]

/-- The engine that an entry gets is the one for the executable that was found. -/
theorem resolves (h : Shared s.history s.library) {engine : Engine}
    (hf : Found env s n d library (.ok engine) es) :
    env.find s.search d = .ok engine.path ∧
      Table.get? library.engines engine.path = some engine := by
  cases hf with
  | shared engine path hfind hengine =>
    rw [h.path path engine hengine]
    exact ⟨hfind, hengine⟩
  | first path hfind hnone => exact ⟨hfind, Table.get?_put_self _ _ _⟩

theorem ends (h : Shared s.history s.library) (hp : s.library.futureAt? n = some .unset)
    (hf : Found env s n d library outcome es) :
    Shared (s.history ++ es) (library.settle n outcome) where
  path path engine he := by
    cases hf with
    | failed f => exact h.path path engine he
    | shared g p hfind hengine => exact h.path path engine he
    | first new hfind hnone =>
      have he : Table.get? (Table.put new (s.library.build new).2 s.library.engines) path =
        some engine := he
      by_cases hpath : path = new
      · rw [hpath, Table.get?_put_self] at he
        obtain rfl := Option.some.inj he
        exact hpath.symm
      · rw [Table.get?_put_of_ne hpath] at he
        exact h.path path engine he
  built path := by
    rw [List.countP_append, h.built path]
    exact builds hf path
  resolved m engine hm := by
    have hs := Library.futureAt?_congr hf.made
    rw [Library.futureAt?_settle outcome ((hs n).trans hp), hs] at hm
    split at hm
    · cases outcome with
      | error f => cases hm
      | ok found =>
        obtain rfl : found = engine := by simpa [Except.toOption] using hm
        exact (resolves h hf).2
    · exact keeps hf (h.resolved m engine hm)

/-- At most one engine is built for an executable. -/
theorem built_le_one (h : Shared history library) (path : String) :
    history.countP (·.builds path) ≤ 1 := by
  rw [h.built path]
  exact Bool.toNat_le _

/-- Entries with an executable in common have its engine in common. -/
theorem engine_eq (h : Shared history library) {m : Nat} {engine other : Engine}
    (hn : library.futureAt? n = some (.set (some engine)))
    (hm : library.futureAt? m = some (.set (some other))) (hp : engine.path = other.path) :
    engine = other := by
  have he := h.resolved n engine hn
  rw [hp, h.resolved m other hm] at he
  exact (Option.some.inj he).symm

end Shared

end Session

end LintServer
