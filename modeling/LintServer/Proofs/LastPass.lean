/-
  LintServer.Proofs.LastPass — the pass that ended last decides what fixes a document has.

  Passes over one document can overlap and end in any order, each taking away what the others
  left. The fixes are the replay of what happened, and what happened last to a document is all
  that counts of it.
  - `lookup_replay`: a replay leaves each document what its latest happening gives it.
  - `registry_next`, `registry_replay`: each move is a piece of replay, hence each run is.
  - `last_pass_wins`: the fixes of every address, in every state that can be reached.
-/

import LintServer.Proofs.Interleaving

namespace LintServer

namespace FixRegistry

variable {r r' : FixRegistry} {d : Document}

/-! ## Recording -/

theorem lookup_clear_self (r : FixRegistry) (uri : String) : (r.clear uri).lookup uri = none :=
  Table.get?_erase_self r uri

theorem lookup_clear_of_ne {uri other : String} (h : other ≠ uri) (r : FixRegistry) :
    (r.clear uri).lookup other = r.lookup other := Table.get?_erase_of_ne h r

theorem lookup_record_self (r : FixRegistry) (d : Document) (x : Diagnostic) (p : Problem) :
    (r.record d x p).lookup d.uri =
      match Fix.ofProblem? d p with
      | none => r.lookup d.uri
      | some fix => some (Table.put x.key fix ((r.lookup d.uri).getD [])) := by
  cases hf : Fix.ofProblem? d p with
  | none => rw [record, hf]
  | some fix =>
    rw [record, hf]
    exact Table.get?_put_self d.uri _ r

theorem lookup_record_of_ne {uri : String} (h : uri ≠ d.uri) (r : FixRegistry) (x : Diagnostic)
    (p : Problem) : (r.record d x p).lookup uri = r.lookup uri := by
  unfold record
  split
  · rfl
  · exact Table.get?_put_of_ne h _ r

theorem lookup_collect_of_ne {uri : String} (h : uri ≠ d.uri) (ps : List Problem)
    (r : FixRegistry) : (collect d ps r).1.lookup uri = r.lookup uri := by
  induction ps generalizing r with
  | nil => rfl
  | cons p ps ih =>
    simp only [collect]
    split
    · rfl
    · rename_i x _
      exact (ih (r.record d x p)).trans (lookup_record_of_ne h r x p)

/-- Of the fixes there were, recording reads those of its own document only. -/
theorem lookup_collect_congr (ps : List Problem) (h : r.lookup d.uri = r'.lookup d.uri) :
    (collect d ps r).1.lookup d.uri = (collect d ps r').1.lookup d.uri := by
  induction ps generalizing r r' with
  | nil => exact h
  | cons p ps ih =>
    simp only [collect]
    split
    · exact h
    · rename_i x _
      refine ih ?_
      rw [lookup_record_self, lookup_record_self, h]

theorem mem_record {r : FixRegistry} {x : Diagnostic} {p : Problem} {entry : String × Fix}
    (h : entry ∈ ((r.record d x p).lookup d.uri).getD []) :
    entry ∈ (r.lookup d.uri).getD [] ∨ Fix.ofProblem? d p = some entry.2 := by
  rw [lookup_record_self] at h
  split at h
  · exact .inl h
  · rename_i fix hf
    rcases Table.mem_put h with rfl | h
    · exact .inr hf
    · exact .inl h

/-- Every fix was there, or comes with one of the problems. -/
theorem mem_collect {ps : List Problem} {r : FixRegistry} {entry : String × Fix}
    (h : entry ∈ ((collect d ps r).1.lookup d.uri).getD []) :
    entry ∈ (r.lookup d.uri).getD [] ∨ ∃ p ∈ ps, Fix.ofProblem? d p = some entry.2 := by
  induction ps generalizing r with
  | nil => exact .inl h
  | cons p ps ih =>
    simp only [collect] at h
    split at h
    · exact .inl h
    · rcases ih h with h | ⟨q, hq, h⟩
      · rcases mem_record h with h | h
        · exact .inl h
        · exact .inr ⟨p, List.mem_cons_self, h⟩
      · exact .inr ⟨q, List.mem_cons_of_mem p hq, h⟩

end FixRegistry

theorem Fix.ofProblem?_version {d : Document} {p : Problem} {fix : Fix}
    (h : Fix.ofProblem? d p = some fix) : fix.version = d.version := by
  unfold Fix.ofProblem? at h
  split at h
  · split at h
    · injection h with h
      rw [← h]
    · cases h
  · cases h

/-! ## Replay -/

namespace Happening

/-- Whether something bears on the fixes filed under an address. -/
def touches (uri : String) : Happening → Bool
  | .passed e => e.document.uri == uri
  | .forgotten closed => closed == uri
  | .down => true
  | .shut .. => false

/-- The fixes that the document it touches is left with: those of a report alone, as if there
never were others, and else none. -/
def entry : Happening → Option FixTable
  | .passed ⟨d, .ok report⟩ => (FixRegistry.collectReport [] d report).1.lookup d.uri
  | _ => none

/-- What touched an address last. -/
def latest (uri : String) (log : List Happening) : Option Happening :=
  (log.filter (touches uri)).getLast?

theorem lookup_rebuilt_self (r : FixRegistry) (d : Document)
    (outcome : Except Failure (Option Report)) :
    (r.rebuilt d outcome).lookup d.uri = (passed ⟨d, outcome⟩).entry := by
  cases outcome with
  | error f => exact FixRegistry.lookup_clear_self r d.uri
  | ok report => exact FixRegistry.lookup_collect_congr _ (FixRegistry.lookup_clear_self r d.uri)

theorem lookup_rebuilt_of_ne {d : Document} {uri : String} (h : uri ≠ d.uri) (r : FixRegistry)
    (outcome : Except Failure (Option Report)) : (r.rebuilt d outcome).lookup uri = r.lookup uri := by
  cases outcome with
  | error f => exact FixRegistry.lookup_clear_of_ne h r
  | ok report =>
    exact (FixRegistry.lookup_collect_of_ne h _ _).trans (FixRegistry.lookup_clear_of_ne h r)

theorem lookup_applied_of_touches {x : Happening} {uri : String} (h : x.touches uri = true)
    (r : FixRegistry) : (x.applied r).lookup uri = x.entry := by
  cases x with
  | passed e =>
    rw [← eq_of_beq h]
    exact lookup_rebuilt_self r e.document e.outcome
  | forgotten closed =>
    rw [← eq_of_beq h]
    exact FixRegistry.lookup_clear_self r closed
  | down => rfl
  | shut key under => cases h

theorem lookup_applied_of_not_touches {x : Happening} {uri : String} (h : x.touches uri = false)
    (r : FixRegistry) : (x.applied r).lookup uri = r.lookup uri := by
  cases x with
  | passed e => exact lookup_rebuilt_of_ne (Ne.symm (by simpa [touches] using h)) r e.outcome
  | forgotten closed =>
    exact FixRegistry.lookup_clear_of_ne (Ne.symm (by simpa [touches] using h)) r
  | down => cases h
  | shut key under => rfl

/-- After a replay an address has what its latest happening left it, or what it had. -/
theorem lookup_replay (log : List Happening) (r : FixRegistry) (uri : String) :
    (log.foldl applied r).lookup uri =
      match latest uri log with
      | some x => x.entry
      | none => r.lookup uri := by
  induction log generalizing r with
  | nil => rfl
  | cons x log ih =>
    -- the rest starts from what the first happening left, and forgets it if it touches the address
    rw [List.foldl_cons, ih]
    cases ht : x.touches uri with
    | false =>
      rw [lookup_applied_of_not_touches ht]
      simp only [latest, List.filter_cons, ht, Bool.false_eq_true, if_false]
    | true =>
      rw [lookup_applied_of_touches ht]
      simp only [latest, List.filter_cons, ht, if_true, List.getLast?_cons]
      cases (log.filter (touches uri)).getLast? <;> rfl

end Happening

/-! ## Runs -/

open Happening (latest)

/-- Every outcome is allowed. -/
def anyOutcome : Text → Except Failure (Option Report) → Prop := fun _ _ => True

variable {world : Surroundings → Prop} {client : Server → Incoming → Prop} {m : Moment}
  {log : List Happening}

theorem registry_next {mv : Move} (allowed : m.Allowed world client mv) :
    (m.next mv).registry = (m.noted mv).foldl Happening.applied m.registry :=
  (Moment.next_moves (G := anyOutcome) (fun _ _ _ _ _ _ => trivial) allowed
    fun _ _ _ _ _ => trivial).registry

theorem registry_replay (h : Reach world client m log) :
    m.registry = log.foldl Happening.applied [] := by
  induction h with
  | init config exit => rfl
  | step h mv allowed ih => rw [registry_next allowed, ih, List.foldl_append]

theorem lookup_eq_entry (h : Reach world client m log) (uri : String) :
    m.registry.lookup uri = (latest uri log).bind Happening.entry := by
  rw [registry_replay h, Happening.lookup_replay]
  cases latest uri log <;> rfl

/-- A document has fixes only by a report on it, each of them for a problem of the report. -/
theorem passed_of_lookup (h : Reach world client m log) {uri : String} {t : FixTable}
    (ht : m.registry.lookup uri = some t) :
    ∃ d report, latest uri log = some (.passed ⟨d, .ok report⟩) ∧
      ∀ entry ∈ t, ∃ p ∈ (report.map Report.problems).getD [],
        Fix.ofProblem? d p = some entry.2 := by
  rw [lookup_eq_entry h] at ht
  obtain ⟨x, hx, ht⟩ := Option.bind_eq_some_iff.mp ht
  cases x with
  | passed e =>
    obtain ⟨d, outcome⟩ := e
    cases outcome with
    | error f => cases ht
    | ok report =>
      refine ⟨d, report, hx, fun entry he => ?_⟩
      have hm : entry ∈ ((FixRegistry.collectReport [] d report).1.lookup d.uri).getD [] := by
        rw [show (FixRegistry.collectReport [] d report).1.lookup d.uri = some t from ht]
        exact he
      rcases FixRegistry.mem_collect hm with hm | hm
      · cases hm
      · exact hm
  | forgotten closed => cases ht
  | down => cases ht
  | shut key under => cases ht

/-- In every state that can be reached, the fixes of an address are what the latest of the
happenings that touch it left: of a report what is made of it from nothing, and else none. All of
them are against one version, and a move in which nothing touches the address leaves them. -/
theorem last_pass_wins (h : Reach world client m log) (uri : String) :
    m.registry.lookup uri = (latest uri log).bind Happening.entry ∧
      (∀ t, m.registry.lookup uri = some t → ∃ version, ∀ entry ∈ t, entry.2.version = version) ∧
      ∀ mv, m.Allowed world client mv → (∀ x ∈ m.noted mv, x.touches uri = false) →
        (m.next mv).registry.lookup uri = m.registry.lookup uri := by
  refine ⟨lookup_eq_entry h uri, ?_, ?_⟩
  · intro t ht
    obtain ⟨d, report, -, hp⟩ := passed_of_lookup h ht
    refine ⟨d.version, fun entry he => ?_⟩
    obtain ⟨p, -, hf⟩ := hp entry he
    exact Fix.ofProblem?_version hf
  · intro mv allowed hn
    have none : latest uri (m.noted mv) = none := by
      have hf : (m.noted mv).filter (Happening.touches uri) = [] :=
        List.filter_eq_nil_iff.mpr fun x hx => by simp [hn x hx]
      rw [latest, hf]
      rfl
    rw [registry_next allowed, Happening.lookup_replay, none]

/-- A document is changed while its first pass is under way; the second pass ends before it. -/
def overlappingPasses : List Move :=
  [.message (.setUp .null .null none none), .message (.didOpen (draft 1 "a")), .take,
    .task slowEngine 0, .task slowEngine 0, .message (.didChange (draft 1 "a").uri 2 ["b"]), .take,
    .task slowEngine 0, .runEnds 1, .take, .task slowEngine 0, .runEnds 0, .take,
    .task slowEngine 0]

theorem overlappingPasses_last_pass_wins :
    Reach (· = slowEngine) (fun _ _ => True) (started.after overlappingPasses)
        (started.story overlappingPasses) ∧
      latest "file:///a.js" (started.story overlappingPasses) =
        some (.passed ⟨draft 1 "a", .ok (some (verdictOn "a"))⟩) ∧
      (started.after overlappingPasses).registry.lookup "file:///a.js" =
        some (verdictTable 1 "a") := by
  have h : Reach (· = slowEngine) (fun _ _ => True) (started.after overlappingPasses)
      (started.story overlappingPasses) := by
    refine (Reach.init {} {}).after ?_
    simp [overlappingPasses, Moment.AllAllowed, Moment.Allowed]
  have hl : latest "file:///a.js" (started.story overlappingPasses) =
      some (.passed ⟨draft 1 "a", .ok (some (verdictOn "a"))⟩) := rfl
  refine ⟨h, hl, (last_pass_wins h "file:///a.js").1.trans ?_⟩
  rw [hl]
  rfl

end LintServer
