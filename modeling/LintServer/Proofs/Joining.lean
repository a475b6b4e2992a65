/-
  LintServer.Proofs.Joining — diagnostics and the fixes they are joined with.

  The editor gives diagnostics back, and their fixes are found under their keys: texts made of the
  range and the code. Ranges and codes of any text can be read off a key again, since a number ends
  where its digits do. Every problem with a fix puts it under the key of its diagnostic, so what is
  found there is the fix of the last problem with that range and that rule.
  - `keyOf_inj`: a key stands for one range and one code.
  - `get?_ofPairs`, `keys_ofPairs`: what was put under a key last is found there, where the key first
    came.
  - `table_of_collect`: the fixes of a document are the entries of its problems, put in in order.
  - `fixes_join_diagnostics`: so each diagnostic finds the fix that was meant for it.
-/

import LintServer.Proofs.FailedPass
import LintServer.Proofs.Outcomes
import Mathlib.Data.List.Find
import Mathlib.Data.List.Induction
import Mathlib.Data.List.TakeWhile

namespace LintServer

/-! ## Keys -/

/-- Where a number is followed by something that is no digit, both can be read off again. -/
theorem digits_append_inj {m n : Nat} {sep : Char} (hsep : sep.isDigit = false) {cs ds : List Char}
    (h : Nat.toDigits 10 m ++ sep :: cs = Nat.toDigits 10 n ++ sep :: ds) : m = n ∧ cs = ds := by
  have front (k : Nat) (rest : List Char) :
      (Nat.toDigits 10 k ++ sep :: rest).takeWhile Char.isDigit = Nat.toDigits 10 k := by
    have hdigit : ∀ c ∈ Nat.toDigits 10 k, c.isDigit = true := fun c hc =>
      Nat.isDigit_of_mem_toDigits (by decide) (by decide) hc
    rw [List.takeWhile_append_of_pos hdigit, List.takeWhile_cons, hsep]
    simp
  have hdigits : Nat.toDigits 10 m = Nat.toDigits 10 n := by rw [← front m cs, h, front n ds]
  rw [hdigits] at h
  refine ⟨?_, (List.cons.inj (List.append_cancel_left h)).2⟩
  calc m = Nat.ofDigitChars 10 (Nat.toDigits 10 m) 0 := Nat.ofDigitChars_ten_toDigits.symm
    _ = Nat.ofDigitChars 10 (Nat.toDigits 10 n) 0 := by rw [hdigits]
    _ = n := Nat.ofDigitChars_ten_toDigits

namespace Diagnostic

theorem toList_keyOf (range : Range) (code : Json) :
    (keyOf range code).toList =
      '[' :: (Nat.toDigits 10 range.start.line ++ ',' ::
        (Nat.toDigits 10 range.start.character ++ ',' ::
          (Nat.toDigits 10 range.stop.line ++ ',' ::
            (Nat.toDigits 10 range.stop.character ++ ']' :: '-' :: code.text.toList)))) := by
  simp [keyOf, String.toList_append, Nat.toString_eq_repr, Nat.toList_repr]

/-- A key stands for one range and the text of one code. -/
theorem keyOf_inj {range range' : Range} {code code' : Json}
    (h : keyOf range code = keyOf range' code') : range = range' ∧ code.text = code'.text := by
  obtain ⟨⟨sl, sc⟩, ⟨el, ec⟩⟩ := range
  obtain ⟨⟨sl', sc'⟩, ⟨el', ec'⟩⟩ := range'
  have h := congrArg String.toList h
  rw [toList_keyOf, toList_keyOf] at h
  obtain ⟨hsl : sl = sl', h⟩ := digits_append_inj (by decide) (List.cons.inj h).2
  obtain ⟨hsc : sc = sc', h⟩ := digits_append_inj (by decide) h
  obtain ⟨hel : el = el', h⟩ := digits_append_inj (by decide) h
  obtain ⟨hec : ec = ec', h⟩ := digits_append_inj (by decide) h
  rw [hsl, hsc, hel, hec]
  exact ⟨rfl, String.toList_inj.mp (List.cons.inj h).2⟩

theorem code_of_ofProblem {p : Problem} {x : Diagnostic} (h : ofProblem p = .ok x) :
    x.code = p.rule := by
  obtain ⟨startLine, -, h⟩ := bind_eq_ok h
  obtain ⟨startCharacter, -, h⟩ := bind_eq_ok h
  obtain ⟨endLine, -, h⟩ := bind_eq_ok h
  obtain ⟨endCharacter, -, h⟩ := bind_eq_ok h
  obtain ⟨start, -, h⟩ := bind_eq_ok h
  obtain ⟨stop, -, h⟩ := bind_eq_ok h
  split at h
  · rw [← Except.ok.inj h]
  · cases h

end Diagnostic

/-! ## What was put in -/

namespace Table

variable {α : Type}

theorem ofPairs_concat (pairs : List (String × α)) (e : String × α) :
    ofPairs (pairs ++ [e]) = put e.1 e.2 (ofPairs pairs) := List.foldl_append

/-- Under a key is found what was put there last. -/
theorem get?_ofPairs (pairs : List (String × α)) (key : String) :
    get? (ofPairs pairs) key = (pairs.findRev? (·.1 == key)).map (·.2) := by
  induction pairs using List.reverseRecOn with
  | nil => rfl
  | append_singleton pairs e ih =>
    rw [ofPairs_concat, List.findRev?_eq_find?_reverse, List.reverse_append, List.reverse_singleton,
      List.singleton_append, List.find?_cons]
    by_cases hk : e.1 = key
    · rw [hk, get?_put_self, beq_self_eq_true]
      rfl
    · rw [get?_put_of_ne (Ne.symm hk), ih, List.findRev?_eq_find?_reverse, beq_false_of_ne hk]

theorem nodup_ofPairs (pairs : List (String × α)) : (keys (ofPairs pairs)).Nodup := by
  induction pairs using List.reverseRecOn with
  | nil => exact List.nodup_nil
  | append_singleton pairs e ih =>
    rw [ofPairs_concat]
    exact nodup_put ih e.1 e.2

/-- The keys of a table are those of the pairs put in, each where it came first. -/
theorem keys_ofPairs (pairs : List (String × α)) :
    keys (ofPairs pairs) = (keys pairs).eraseDups := by
  induction pairs using List.reverseRecOn with
  | nil => rfl
  | append_singleton pairs e ih =>
    have hkeys : keys (pairs ++ [e]) = keys pairs ++ [e.1] := List.map_append
    rw [ofPairs_concat, keys_put, ih, hkeys, List.eraseDups_append]
    by_cases hmem : e.1 ∈ keys pairs <;> simp [hmem, List.removeAll, List.eraseDups_cons]

theorem mem_keys_ofPairs {pairs : List (String × α)} {key : String}
    (h : key ∈ keys (ofPairs pairs)) : key ∈ keys pairs :=
  List.mem_eraseDups.mp (keys_ofPairs pairs ▸ h)

end Table

/-- The fixes of one diagnostic: the one under its key, if there is any. -/
theorem FixTable.inScope_singleton (t : FixTable) (key : String) :
    inScope t [key] = (Table.get? t key).toList := by
  rw [inScope, List.filterMap_cons]
  cases Table.get? t key <;> rfl

/-- The entry that a problem makes among the fixes of a document. -/
def Fix.entryOf (d : Document) (p : Problem) : Option (String × Fix) :=
  match Diagnostic.ofProblem p with
  | .error _ => none
  | .ok x => (Fix.ofProblem? d p).map (x.key, ·)

namespace FixRegistry

variable {d : Document}

theorem table_of_record (r : FixRegistry) (p : Problem) {x : Diagnostic}
    (hp : Diagnostic.ofProblem p = .ok x) :
    ((r.record d x p).lookup d.uri).getD [] =
      (Fix.entryOf d p).toList.foldl (fun t e => Table.put e.1 e.2 t)
        ((r.lookup d.uri).getD []) := by
  rw [lookup_record_self, Fix.entryOf, hp]
  cases Fix.ofProblem? d p <;> rfl

/-- The fixes of a document are those there were with the entries of the problems put in. -/
theorem table_of_collect {ps : List Problem} (hps : ∀ p ∈ ps, ∃ x, Diagnostic.ofProblem p = .ok x)
    (r : FixRegistry) :
    ((collect d ps r).1.lookup d.uri).getD [] =
      (ps.filterMap (Fix.entryOf d)).foldl (fun t e => Table.put e.1 e.2 t)
        ((r.lookup d.uri).getD []) := by
  induction ps generalizing r with
  | nil => rfl
  | cons p ps ih =>
    obtain ⟨⟨x, hx⟩, hps⟩ := List.forall_mem_cons.mp hps
    have hcons : (p :: ps).filterMap (Fix.entryOf d) =
        (Fix.entryOf d p).toList ++ ps.filterMap (Fix.entryOf d) := by
      rw [List.filterMap_cons]
      cases Fix.entryOf d p <;> rfl
    rw [hcons, List.foldl_append, ← table_of_record r p hx, ← ih hps]
    simp only [collect, hx]

end FixRegistry

/-! ## Which problem a fix is of -/

/-- Whether a problem has a fix for the diagnostics with a range and a rule: it comes with an edit,
its rule is that one and has a name, and its own diagnostic has that range. -/
def Problem.hasFixFor (range : Range) (name : String) (p : Problem) : Bool :=
  p.edit.isSome && p.rule.text? == some name && name != "" &&
    (Diagnostic.ofProblem p).toOption.any (·.range == range)

theorem Problem.hasFixFor_iff {range : Range} {name : String} {p : Problem} :
    p.hasFixFor range name = true ↔ (∃ edit, p.edit = some edit) ∧ p.rule = .str name ∧
      name ≠ "" ∧ ∃ x, Diagnostic.ofProblem p = .ok x ∧ x.range = range := by
  have hrule : p.rule.text? = some name ↔ p.rule = .str name := by
    cases p.rule <;> simp [Json.text?]
  have hrange : (Diagnostic.ofProblem p).toOption.any (·.range == range) = true ↔
      ∃ x, Diagnostic.ofProblem p = .ok x ∧ x.range = range := by
    cases Diagnostic.ofProblem p <;> simp [Except.toOption]
  unfold hasFixFor
  rw [Bool.and_eq_true, Bool.and_eq_true, Bool.and_eq_true, hrange, Option.isSome_iff_exists,
    beq_iff_eq, hrule, bne_iff_ne, and_assoc, and_assoc]

namespace Fix

variable {d : Document} {p : Problem} {range : Range} {name : String}

theorem ofProblem?_eq_some {edit : Edit} (he : p.edit = some edit) (hr : p.rule = .str name)
    (hn : name ≠ "") : ofProblem? d p =
      some { label := labelFor (.str name), version := d.version, rule := .str name, edit } := by
  have ht : (Json.str name).isTruthy = true := by simp [Json.isTruthy, hn]
  rw [ofProblem?, he, hr]
  exact if_pos ht

/-- A problem has no fix just if it has no edit or no name of a rule. -/
theorem ofProblem?_eq_none_iff (hr : p.rule = .null ∨ ∃ s, p.rule = .str s) :
    ofProblem? d p = none ↔ p.edit = none ∨ p.rule = .null ∨ p.rule = .str "" := by
  cases he : p.edit with
  | none => simp [ofProblem?, he]
  | some edit =>
    rcases hr with hr | ⟨s, hr⟩
    · simp [ofProblem?, he, hr, Json.isTruthy]
    · by_cases hs : s = ""
      · simp [ofProblem?, he, hr, hs, Json.isTruthy]
      · simp [ofProblem?_eq_some he hr hs, hr, hs]

theorem entryOf_of_hasFixFor (h : p.hasFixFor range name = true) :
    ∃ edit, p.edit = some edit ∧ entryOf d p = some (Diagnostic.keyOf range (.str name),
      { label := labelFor (.str name), version := d.version, rule := .str name, edit }) := by
  obtain ⟨⟨edit, he⟩, hr, hn, x, hx, rfl⟩ := Problem.hasFixFor_iff.mp h
  refine ⟨edit, he, ?_⟩
  simp only [entryOf, hx, ofProblem?_eq_some he hr hn, Option.map_some]
  rw [Diagnostic.key, Diagnostic.code_of_ofProblem hx, hr]

/-- The entries under the key of a diagnostic are those of the problems with a fix for it. -/
theorem entryOf_any_iff (hr : p.rule = .null ∨ ∃ s, p.rule = .str s) :
    (entryOf d p).any (·.1 == Diagnostic.keyOf range (.str name)) = p.hasFixFor range name := by
  rw [Bool.eq_iff_iff]
  constructor
  · intro h
    obtain ⟨e, hp, hkey⟩ := (Option.any_eq_true _ _).mp h
    unfold entryOf at hp
    split at hp
    · cases hp
    · rename_i x hx
      obtain ⟨fix, hf, rfl⟩ := Option.map_eq_some_iff.mp hp
      have hcode := Diagnostic.code_of_ofProblem hx
      obtain ⟨hrange, htext⟩ := Diagnostic.keyOf_inj (eq_of_beq hkey)
      -- a fix was recorded, so there is an edit and the rule has a name
      have hsome : ¬ (p.edit = none ∨ p.rule = .null ∨ p.rule = .str "") := by
        rw [← ofProblem?_eq_none_iff hr, hf]
        exact Option.some_ne_none fix
      have hname : p.rule = .str name := by
        rcases hr with hr | ⟨s, hr⟩
        · exact absurd (Or.inr (Or.inl hr)) hsome
        · rw [hcode, hr] at htext
          rw [hr, show s = name from htext]
      refine Problem.hasFixFor_iff.mpr ⟨?_, hname, ?_, x, hx, hrange⟩
      · exact Option.ne_none_iff_exists'.mp fun he => hsome (Or.inl he)
      · rintro rfl
        exact hsome (Or.inr (Or.inr hname))
  · intro h
    obtain ⟨edit, -, he⟩ := entryOf_of_hasFixFor (d := d) h
    rw [he]
    exact beq_self_eq_true _

end Fix

namespace FixRegistry

variable {d : Document} {ps : List Problem}

/-- From no fixes on, recording leaves the table of the problems' entries. -/
theorem table_of_problems (hps : ∀ p ∈ ps, ∃ x, Diagnostic.ofProblem p = .ok x) :
    ((collect d ps []).1.lookup d.uri).getD [] =
      Table.ofPairs (ps.filterMap (Fix.entryOf d)) := table_of_collect hps []

/-- Under the key of a range and a rule is found the fix of the last problem with both. -/
theorem get?_of_problems (hps : ∀ p ∈ ps, ∃ x, Diagnostic.ofProblem p = .ok x)
    (hrules : ∀ p ∈ ps, p.rule = .null ∨ ∃ name, p.rule = .str name) (range : Range)
    (name : String) :
    Table.get? (((collect d ps []).1.lookup d.uri).getD []) (Diagnostic.keyOf range (.str name)) =
      ((ps.findRev? (Problem.hasFixFor range name)).bind (Fix.entryOf d)).map (·.2) := by
  have hmatch : ps.reverse.find? (fun p => (Fix.entryOf d p).any
      (·.1 == Diagnostic.keyOf range (.str name))) = ps.reverse.find? (·.hasFixFor range name) :=
    List.find?_congr fun p hp => Fix.entryOf_any_iff (hrules p (List.mem_reverse.mp hp))
  rw [table_of_problems hps, Table.get?_ofPairs, List.findRev?_eq_find?_reverse,
    List.findRev?_eq_find?_reverse, ← List.filterMap_reverse, List.find?_filterMap, hmatch]

/-- The fix of a diagnostic with a text for its code is that of the last problem with its range and
its rule. -/
theorem inScope_of_problems (hps : ∀ p ∈ ps, ∃ x, Diagnostic.ofProblem p = .ok x)
    (hrules : ∀ p ∈ ps, p.rule = .null ∨ ∃ name, p.rule = .str name) {x : Diagnostic}
    {name : String} (hx : x.code = .str name) :
    match ps.findRev? (Problem.hasFixFor x.range name) with
    | none => FixTable.inScope (((collect d ps []).1.lookup d.uri).getD []) [x.key] = []
    | some p => ∃ edit, p.edit = some edit ∧
      FixTable.inScope (((collect d ps []).1.lookup d.uri).getD []) [x.key] =
        [{ label := Fix.labelFor (.str name), version := d.version, rule := .str name, edit }] := by
  have hget := get?_of_problems (d := d) hps hrules x.range name
  rw [← hx] at hget
  rw [FixTable.inScope_singleton, Diagnostic.key, hget]
  cases hlast : ps.findRev? (Problem.hasFixFor x.range name) with
  | none => rfl
  | some p =>
    rw [List.findRev?_eq_find?_reverse] at hlast
    obtain ⟨edit, he, hentry⟩ := Fix.entryOf_of_hasFixFor (d := d) (List.find?_some hlast)
    refine ⟨edit, he, ?_⟩
    rw [Option.bind_some, hentry]
    rfl

/-- There are no fixes if each problem is without an edit or the name of a rule. -/
theorem lookup_of_problems_eq_none_iff (hps : ∀ p ∈ ps, ∃ x, Diagnostic.ofProblem p = .ok x)
    (hrules : ∀ p ∈ ps, p.rule = .null ∨ ∃ name, p.rule = .str name) :
    (collect d ps []).1.lookup d.uri = none ↔
      ∀ p ∈ ps, p.edit = none ∨ p.rule = .null ∨ p.rule = .str "" := by
  have hall : ps.takeWhile (fun p => (Diagnostic.ofProblem p).isOk) = ps := by
    refine List.takeWhile_eq_self_iff.mpr fun p hp => ?_
    obtain ⟨x, hx⟩ := hps p hp
    rw [hx]
    rfl
  rw [lookup_collect_eq_none_iff, hall]
  refine (and_iff_right rfl).trans ?_
  exact forall₂_congr fun p hp => Fix.ofProblem?_eq_none_iff (hrules p hp)

end FixRegistry

/-- The diagnostics of a report are those of its problems in their order. A diagnostic with a text
for its code finds the fix of the last problem that has one, and that range and that rule; or
nothing, where there is no such problem. The document has fixes just if there is a problem with an
edit and the name of a rule. -/
theorem fixes_join_diagnostics (d : Document) (report : Option Report) (found : List Diagnostic)
    (hrules : ∀ p ∈ (report.map Report.problems).getD [],
      p.rule = .null ∨ ∃ name, p.rule = .str name)
    (hfound : (FixRegistry.collectReport [] d report).2 = .ok found) :
    let problems := (report.map Report.problems).getD []
    let fixes := (FixRegistry.collectReport [] d report).1.lookup d.uri
    List.Forall₂ (fun p x => Diagnostic.ofProblem p = .ok x) problems found ∧
    (∀ (x : Diagnostic) (name : String), x.code = .str name →
      match problems.findRev? (Problem.hasFixFor x.range name) with
      | none => FixTable.inScope (fixes.getD []) [x.key] = []
      | some p => ∃ edit, p.edit = some edit ∧
        FixTable.inScope (fixes.getD []) [x.key] =
          [{ label := Fix.labelFor (.str name), version := d.version, rule := .str name, edit }]) ∧
    (fixes = none ↔ ∀ p ∈ problems, p.edit = none ∨ p.rule = .null ∨ p.rule = .str "") := by
  intro problems fixes
  have hmade : problems.mapM Diagnostic.ofProblem = .ok found := by
    rw [← FixRegistry.collect_result d problems []]
    exact hfound
  have hps : ∀ p ∈ problems, ∃ x, Diagnostic.ofProblem p = .ok x := by
    intro p hp
    obtain ⟨x, -, hx⟩ := result_of_mapM hmade p hp
    exact ⟨x, hx⟩
  exact ⟨mapM_eq_ok_iff.mp hmade, fun x name hx => FixRegistry.inScope_of_problems hps hrules hx,
    FixRegistry.lookup_of_problems_eq_none_iff hps hrules⟩

/-- A problem of a rule with a fix or without one, at a place that may lie before the first. -/
def misplaced (line column : Int) (rule : Json) (edit : Option Edit) : Problem :=
  { line, column, severity := 2, rule, message := .str "", edit }

/-- A report of five problems that all get the range at the start: two with fixes of one rule, one
with a fix and no rule, one of a rule called None and one of the first rule, both without a fix. -/
def collidingReport : Report :=
  { results := [{ problems := [
      some (misplaced 1 1 (.str "a,1]-b") (some ⟨0, 1, .str ""⟩)),
      some (misplaced 0 1 (.str "a,1]-b") (some ⟨2, 3, .str ";"⟩)),
      some (misplaced 1 0 .null (some ⟨4, 5, .str "x"⟩)),
      some (misplaced 1 1 (.str "None") none),
      some (misplaced 1 1 (.str "a,1]-b") none)] }] }

/-- The first fix of a rule gives way to the second, and the one of no rule is nobody's. -/
theorem collidingReport_joins :
    let fixes := (FixRegistry.collectReport [] (draft 1 "a") collidingReport).1.lookup
      (draft 1 "a").uri
    (∀ x : Diagnostic, x.range = ⟨⟨0, 0⟩, ⟨0, 0⟩⟩ → x.code = .str "a,1]-b" →
      (FixTable.inScope (fixes.getD []) [x.key]).map Fix.edit = [⟨2, 3, .str ";"⟩]) ∧
    (∀ x : Diagnostic, x.range = ⟨⟨0, 0⟩, ⟨0, 0⟩⟩ → x.code = .str "None" →
      FixTable.inScope (fixes.getD []) [x.key] = []) ∧
    fixes ≠ none := by
  have hrules : ∀ p ∈ collidingReport.problems, p.rule = .null ∨ ∃ name, p.rule = .str name := by
    simp [collidingReport, Report.problems, misplaced]
  obtain ⟨-, hjoin, hnone⟩ := fixes_join_diagnostics (draft 1 "a") collidingReport _ hrules rfl
  refine ⟨fun x hx hc => ?_, fun x hx hc => ?_, fun h => ?_⟩
  · have h := hjoin x "a,1]-b" hc
    rw [hx] at h
    obtain ⟨edit, he, h⟩ := h
    rw [h, List.map_singleton, ← Option.some.inj he]
  · have h := hjoin x "None" hc
    rw [hx] at h
    exact h
  · have hfirst := hnone.mp h (misplaced 1 1 (.str "a,1]-b") (some ⟨0, 1, .str ""⟩)) (.head _)
    simp [misplaced] at hfirst

end LintServer
