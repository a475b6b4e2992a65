/-
  LintServer.Proofs.Filings — the fixes of a document are what was recorded since they were last
  taken away.

  The registry is changed in three ways: a problem is recorded with its diagnostic, the fixes of one
  document are cleared, or all are. A table of fixes comes to be with the first of them and grows
  entry by entry, where a key keeps the place it first got; a clearing takes the whole table, so the
  next one starts over. Of a history only the recordings behind the last clearing count therefore,
  and of those the ones with a fix.
  - `lookup_applied_of_clears`, `lookup_applied_of_recorded?`, `lookup_applied_of_none`: what one
    change does to the fixes of an address.
  - `lookup_after`: what a history leaves there.
  - `fixes_are_what_was_recorded`: the registry read off its history.
  - `registry_eq_after`: nothing else changes the registry of the server.
-/

import LintServer.Proofs.Joining
import Mathlib.Data.List.DropRight
import Mathlib.Data.Set.Card

namespace LintServer

/-! ## Histories -/

/-- A problem of a document, recorded with a diagnostic. -/
structure Recording where
  document : Document
  diagnostic : Diagnostic
  problem : Problem

namespace Recording

def key (e : Recording) : String := e.diagnostic.key

/-- Whether there is a fix to file: the problem comes with an edit, and its rule is given and not
empty. -/
def hasFix (e : Recording) : Bool := e.problem.edit.isSome && e.problem.rule.isTruthy

end Recording

/-- What a fix takes from the recording it is of. -/
structure Fix.IsOf (fix : Fix) (e : Recording) : Prop where
  edit : e.problem.edit = some fix.edit
  rule : fix.rule = e.problem.rule
  version : fix.version = e.document.version
  label : fix.label = labelFor e.problem.rule

/-- One change of the fixes of all documents. -/
inductive Filing where
  | record (e : Recording)
  | clear (uri : String)
  | clearAll

namespace Filing

def applied (r : FixRegistry) : Filing → FixRegistry
  | .record e => r.record e.document e.diagnostic e.problem
  | .clear uri => r.clear uri
  | .clearAll => []

/-- Whether it is about the fixes of an address. -/
def concerns (uri : String) : Filing → Bool
  | .record e => e.document.uri == uri
  | .clear cleared => cleared == uri
  | .clearAll => true

def clears (uri : String) : Filing → Bool
  | .record _ => false
  | .clear cleared => cleared == uri
  | .clearAll => true

/-- The recording of a fix for an address. -/
def recorded? (uri : String) : Filing → Option Recording
  | .record e => if e.document.uri = uri ∧ e.hasFix = true then some e else none
  | _ => none

/-- The recordings of a fix for an address, since its fixes were last taken away. -/
def standing (uri : String) (log : List Filing) : List Recording :=
  (log.rtakeWhile fun f => !f.clears uri).filterMap (recorded? uri)

end Filing

/-- The fixes after a history, from none on. -/
def FixRegistry.after (log : List Filing) : FixRegistry := log.foldl Filing.applied []

/-! ## Recordings and their fixes -/

namespace Recording

/-- The entry that a recording makes in the table of its document. -/
def filed? (e : Recording) : Option (String × Fix) :=
  (Fix.ofProblem? e.document e.problem).map (e.key, ·)

variable {e : Recording}

theorem filed?_eq_some {entry : String × Fix} (h : e.filed? = some entry) :
    entry.1 = e.key ∧ entry.2.IsOf e := by
  obtain ⟨fix, hf, rfl⟩ := Option.map_eq_some_iff.mp h
  refine ⟨rfl, ?_⟩
  unfold Fix.ofProblem? at hf
  split at hf
  · rename_i edit he
    split at hf
    · obtain rfl := Option.some.inj hf
      exact ⟨he, rfl, rfl, rfl⟩
    · cases hf
  · cases hf

theorem isSome_filed? : e.filed?.isSome = e.hasFix := by
  rw [filed?, Option.isSome_map, hasFix, Fix.ofProblem?]
  cases e.problem.edit with
  | none => rfl
  | some edit => cases e.problem.rule.isTruthy <;> rfl

theorem filed?_of_hasFix (h : e.hasFix = true) : ∃ fix, e.filed? = some (e.key, fix) := by
  rw [← isSome_filed?] at h
  obtain ⟨⟨key, fix⟩, he⟩ := Option.isSome_iff_exists.mp h
  obtain rfl : key = e.key := (filed?_eq_some he).1
  exact ⟨fix, he⟩

variable {es : List Recording}

theorem keys_entries (h : ∀ e ∈ es, e.hasFix = true) :
    Table.keys (es.filterMap filed?) = es.map key := by
  rw [Table.keys, List.map_filterMap, ← List.filterMap_eq_map]
  refine List.filterMap_congr fun e he => ?_
  obtain ⟨fix, hf⟩ := filed?_of_hasFix (h e he)
  rw [hf]
  rfl

/-- What stands in a table under a key is the entry of the last recording under it. -/
theorem last_of_mem_table (h : ∀ e ∈ es, e.hasFix = true) {entry : String × Fix}
    (hm : entry ∈ Table.ofPairs (es.filterMap filed?)) :
    ∃ e, es.findRev? (·.key == entry.1) = some e ∧ entry.2.IsOf e := by
  obtain ⟨key, fix⟩ := entry
  have hkey : es.reverse.find? (fun e => e.filed?.any (·.1 == key)) =
      es.reverse.find? (·.key == key) :=
    List.find?_congr fun e he => by
      obtain ⟨fix, hf⟩ := filed?_of_hasFix (h e (List.mem_reverse.mp he))
      rw [hf, Option.any_some]
  have hget := Table.get?_of_mem (Table.nodup_ofPairs _) hm
  rw [Table.get?_ofPairs, List.findRev?_eq_find?_reverse, ← List.filterMap_reverse,
    List.find?_filterMap, hkey, ← List.findRev?_eq_find?_reverse] at hget
  obtain ⟨entry, hentry, rfl⟩ := Option.map_eq_some_iff.mp hget
  obtain ⟨e, hlast, he⟩ := Option.bind_eq_some_iff.mp hentry
  exact ⟨e, hlast, (filed?_eq_some he).2⟩

end Recording

/-! ## One change -/

namespace Filing

variable {f : Filing} {uri : String}

theorem lookup_applied_of_clears (h : f.clears uri = true) (r : FixRegistry) :
    (f.applied r).lookup uri = none := by
  cases f with
  | record e => cases h
  | clear cleared =>
    rw [← eq_of_beq h]
    exact FixRegistry.lookup_clear_self r cleared
  | clearAll => rfl

theorem recorded?_eq_some {e : Recording} (h : f.recorded? uri = some e) :
    f = .record e ∧ e.document.uri = uri ∧ e.hasFix = true := by
  unfold recorded? at h
  split at h
  · split at h
    · rename_i he
      obtain rfl := Option.some.inj h
      exact ⟨rfl, he⟩
    · cases h
  · cases h

theorem lookup_applied_of_recorded? {e : Recording} (h : f.recorded? uri = some e)
    {entry : String × Fix} (he : e.filed? = some entry) (r : FixRegistry) :
    (f.applied r).lookup uri = some (Table.put entry.1 entry.2 ((r.lookup uri).getD [])) := by
  obtain ⟨rfl, rfl, -⟩ := recorded?_eq_some h
  obtain ⟨fix, hf, rfl⟩ := Option.map_eq_some_iff.mp he
  rw [applied, FixRegistry.lookup_record_self, hf]
  rfl

theorem lookup_applied_of_none (hc : f.clears uri = false) (h : f.recorded? uri = none)
    (r : FixRegistry) : (f.applied r).lookup uri = r.lookup uri := by
  cases f with
  | record e =>
    by_cases hu : e.document.uri = uri
    · -- the recording is for this address, so it is without a fix
      have hno : e.filed? = none := by
        rw [← Option.not_isSome_iff_eq_none, Recording.isSome_filed?]
        simpa [recorded?, hu] using h
      rw [applied, ← hu, FixRegistry.lookup_record_self, Option.map_eq_none_iff.mp hno]
    · exact FixRegistry.lookup_record_of_ne (Ne.symm hu) r _ _
  | clear cleared => exact FixRegistry.lookup_clear_of_ne (Ne.symm (ne_of_beq_false hc)) r
  | clearAll => cases hc

theorem nodup_applied {r : FixRegistry} (h : (Table.keys r).Nodup) (f : Filing) :
    (Table.keys (f.applied r)).Nodup := by
  cases f with
  | record e =>
    simp only [applied, FixRegistry.record]
    split
    · exact h
    · exact Table.nodup_put h _ _
  | clear cleared => exact Table.nodup_erase h cleared
  | clearAll => exact List.nodup_nil

/-! ## What stands after a history -/

theorem standing_concat (log : List Filing) (f : Filing) :
    standing uri (log ++ [f]) =
      if f.clears uri then [] else standing uri log ++ (f.recorded? uri).toList := by
  rw [standing, List.rtakeWhile_concat]
  cases f.clears uri with
  | true => rfl
  | false =>
    rw [Bool.not_false, if_pos rfl, List.filterMap_append, ← standing]
    cases h : f.recorded? uri <;> simp [h]

theorem hasFix_of_standing {log : List Filing} {e : Recording} (h : e ∈ standing uri log) :
    e.hasFix = true := by
  obtain ⟨f, -, hf⟩ := List.mem_filterMap.mp h
  exact (recorded?_eq_some hf).2.2

/-- A change that is not about an address neither clears its fixes nor records one. -/
theorem of_not_concerns (h : f.concerns uri = false) :
    f.clears uri = false ∧ f.recorded? uri = none := by
  cases f with
  | record e => exact ⟨rfl, if_neg fun he => ne_of_beq_false h he.1⟩
  | clear cleared => exact ⟨h, rfl⟩
  | clearAll => cases h

theorem standing_filter (log : List Filing) :
    standing uri (log.filter (·.concerns uri)) = standing uri log := by
  induction log using List.reverseRecOn with
  | nil => rfl
  | append_singleton log f ih =>
    rw [List.filter_append, standing_concat]
    cases h : f.concerns uri with
    | true => rw [List.filter_singleton, h, cond_true, standing_concat, ih]
    | false =>
      obtain ⟨hc, hr⟩ := of_not_concerns h
      rw [List.filter_singleton, h, cond_false, List.append_nil, ih, hc, hr]
      simp

end Filing

namespace FixRegistry

open Filing (standing)

variable {uri : String}

theorem after_concat (log : List Filing) (f : Filing) :
    after (log ++ [f]) = f.applied (after log) := List.foldl_append

/-- An address has the table of what stands for it, and none while nothing does. -/
theorem lookup_after (log : List Filing) (uri : String) :
    (after log).lookup uri =
      if standing uri log = [] then none
      else some (Table.ofPairs ((standing uri log).filterMap Recording.filed?)) := by
  -- from the last change back, since what stands is told by the end of the history
  induction log using List.reverseRecOn with
  | nil => rfl
  | append_singleton log f ih =>
    rw [after_concat, Filing.standing_concat]
    cases hc : f.clears uri with
    | true => exact Filing.lookup_applied_of_clears hc _
    | false =>
      cases hr : f.recorded? uri with
      | none =>
        rw [Filing.lookup_applied_of_none hc hr, ih]
        simp
      | some e =>
        obtain ⟨fix, he⟩ := Recording.filed?_of_hasFix (Filing.recorded?_eq_some hr).2.2
        have htable : ((after log).lookup uri).getD [] =
            Table.ofPairs ((standing uri log).filterMap Recording.filed?) := by
          rw [ih]
          split
          · rename_i hnil
            rw [hnil]
            rfl
          · rfl
        rw [Filing.lookup_applied_of_recorded? hr he, htable]
        simp [List.filterMap_append, he, Table.ofPairs_concat]

theorem lookup_after_eq_none_iff {log : List Filing} :
    (after log).lookup uri = none ↔ standing uri log = [] := by
  rw [lookup_after]
  split <;> simp [*]

theorem table_of_lookup_after {log : List Filing} {t : FixTable}
    (h : (after log).lookup uri = some t) :
    standing uri log ≠ [] ∧
      t = Table.ofPairs ((standing uri log).filterMap Recording.filed?) := by
  rw [lookup_after] at h
  split at h
  · cases h
  · rename_i hne
    exact ⟨hne, (Option.some.inj h).symm⟩

theorem keys_of_lookup_after {log : List Filing} {t : FixTable}
    (h : (after log).lookup uri = some t) :
    Table.keys t = ((standing uri log).map Recording.key).eraseDups := by
  rw [(table_of_lookup_after h).2, Table.keys_ofPairs,
    Recording.keys_entries fun _ => Filing.hasFix_of_standing]

/-- A document with an entry has a fix. -/
theorem lookup_after_ne_nil (log : List Filing) (uri : String) :
    (after log).lookup uri ≠ some [] := by
  intro h
  have hkeys := keys_of_lookup_after h
  obtain ⟨e, es, hes⟩ := List.exists_cons_of_ne_nil (table_of_lookup_after h).1
  rw [hes, List.map_cons, List.eraseDups_cons] at hkeys
  cases hkeys

theorem nodup_after (log : List Filing) : (Table.keys (after log)).Nodup := by
  induction log using List.reverseRecOn with
  | nil => exact List.nodup_nil
  | append_singleton log f ih =>
    rw [after_concat]
    exact Filing.nodup_applied ih f

/-- There is one entry for each document that has fixes. -/
theorem encard_of_nodup {r : FixRegistry} (h : (Table.keys r).Nodup) :
    {uri | r.lookup uri ≠ none}.encard = r.length := by
  have hset : {uri | r.lookup uri ≠ none} = ((Table.keys r).toFinset : Set String) := by
    ext uri
    rw [Set.mem_ofPred_eq, List.coe_toFinset, Set.mem_ofPred_eq]
    exact Table.get?_eq_none_iff.not.trans not_not
  rw [hset, Set.encard_coe_eq_coe_finsetCard, List.toFinset_card_of_nodup h, Table.keys,
    List.length_map]

end FixRegistry

/-- After any history an address has no fixes just if none was recorded for it since its fixes were
last taken away, and never an empty table. Else its table has the keys of those recordings, each
once and where it first came, and under each key the fix of the last recording under it. What was
done to other addresses has no part in that. The registry has as many entries as there are addresses
with fixes. -/
theorem fixes_are_what_was_recorded (log : List Filing) :
    (∀ uri,
      let recorded := Filing.standing uri log
      let found := (FixRegistry.after log).lookup uri
      (found = none ↔ recorded = []) ∧ found ≠ some [] ∧
      (∀ t, found = some t →
        Table.keys t = (recorded.map Recording.key).eraseDups ∧
        ∀ entry ∈ t, ∃ e, recorded.findRev? (·.key == entry.1) = some e ∧ entry.2.IsOf e) ∧
      (FixRegistry.after (log.filter (·.concerns uri))).lookup uri = found) ∧
    {uri | (FixRegistry.after log).lookup uri ≠ none}.encard = (FixRegistry.after log).length := by
  refine ⟨fun uri => ⟨FixRegistry.lookup_after_eq_none_iff,
    FixRegistry.lookup_after_ne_nil log uri, ?_, ?_⟩,
    FixRegistry.encard_of_nodup (FixRegistry.nodup_after log)⟩
  · intro t ht
    refine ⟨FixRegistry.keys_of_lookup_after ht, fun entry hentry => ?_⟩
    rw [(FixRegistry.table_of_lookup_after ht).2] at hentry
    exact Recording.last_of_mem_table (fun _ => Filing.hasFix_of_standing) hentry
  · rw [FixRegistry.lookup_after, Filing.standing_filter, ← FixRegistry.lookup_after]

/-- A fix of a rule for the start of a document. -/
def Filing.atStart (rule : String) (edit : Edit) : Filing :=
  .record {
    document := draft 1 "a"
    diagnostic := { range := ⟨⟨0, 0⟩, ⟨0, 0⟩⟩, message := "", severity := .error, code := .str rule }
    problem := misplaced 1 1 (.str rule) (some edit) }

-- a fix that is replaced keeps its place, and loses it when the document is cleared
example :
    let places (log : List Filing) := ((FixRegistry.after log).lookup (draft 1 "a").uri).map
      (·.map fun entry => (entry.1, entry.2.edit.start))
    let replaced : List Filing :=
      [.atStart "a" ⟨0, 0, .null⟩, .atStart "b" ⟨1, 1, .null⟩, .atStart "a" ⟨2, 2, .null⟩]
    places replaced = some [("[0,0,0,0]-a", 2), ("[0,0,0,0]-b", 1)] ∧
      places (replaced ++ [.clear (draft 1 "a").uri, .atStart "b" ⟨3, 3, .null⟩,
        .atStart "a" ⟨4, 4, .null⟩]) = some [("[0,0,0,0]-b", 3), ("[0,0,0,0]-a", 4)] := by
  decide +kernel

/-! ## The registry of the server -/

/-- What a pass records: its problems in order, up to the first that makes no diagnostic. -/
def Filing.ofProblems (d : Document) : List Problem → List Filing
  | [] => []
  | p :: ps =>
    match Diagnostic.ofProblem p with
    | .error _ => []
    | .ok x => .record ⟨d, x, p⟩ :: ofProblems d ps

/-- The changes of the fixes that something comes to. -/
def Happening.filings : Happening → List Filing
  | .passed ⟨d, .error _⟩ => [.clear d.uri]
  | .passed ⟨d, .ok report⟩ =>
    .clear d.uri :: Filing.ofProblems d ((report.map Report.problems).getD [])
  | .forgotten uri => [.clear uri]
  | .down => [.clearAll]
  | .shut .. => []

theorem FixRegistry.collect_eq_foldl (d : Document) (ps : List Problem) (r : FixRegistry) :
    (collect d ps r).1 = (Filing.ofProblems d ps).foldl Filing.applied r := by
  induction ps generalizing r with
  | nil => rfl
  | cons p ps ih =>
    rw [collect, Filing.ofProblems]
    cases Diagnostic.ofProblem p with
    | error f => rfl
    | ok x => exact ih _

theorem Happening.applied_eq_foldl (x : Happening) (r : FixRegistry) :
    x.applied r = x.filings.foldl Filing.applied r := by
  cases x with
  | passed e =>
    obtain ⟨d, outcome⟩ := e
    cases outcome with
    | error f => rfl
    | ok report => exact FixRegistry.collect_eq_foldl d _ _
  | forgotten uri => rfl
  | down => rfl
  | shut key under => rfl

section Server

variable {world : Surroundings → Prop} {client : Server → Incoming → Prop} {m : Moment}
  {log : List Happening}

/-- In every state that can be reached, the registry is what the recordings and clearings of all that
happened left, in their order. -/
theorem registry_eq_after (h : Reach world client m log) :
    m.registry = FixRegistry.after (log.flatMap Happening.filings) := by
  rw [registry_replay h, FixRegistry.after, List.foldl_flatMap]
  exact congrArg (fun next => log.foldl next [])
    (funext₂ fun r x => x.applied_eq_foldl r)

/-- So no document is ever left with a table that has no fix in it. -/
theorem lookup_registry_ne_nil (h : Reach world client m log) (uri : String) :
    m.registry.lookup uri ≠ some [] := by
  rw [registry_eq_after h]
  exact FixRegistry.lookup_after_ne_nil _ uri

end Server

end LintServer
