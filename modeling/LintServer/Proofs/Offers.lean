/-
  LintServer.Proofs.Offers — the commands that are offered, and the edits that are asked for.

  Fixes are made into edits in two ways: for the commands offered with the diagnostics under the
  cursor, and when all fixes of the document are asked for. A fix makes at most one edit, so
  commands and answers are known once it is known which fixes make one.
  - `editOf_eq_ok_iff` and its like, up to `forDocument_eq_ok_iff` and `ofTable_eq_ok_iff`: when
    there are commands and answers, and which.
  - `sameRule_eq_overlapFree`: the fixes of one rule can be picked out before the scan, or after
    they are ordered.
  - `offers_agree`: so a command for several fixes makes the edits that are asked for at once.
-/

import LintServer.Fix.Command
import LintServer.Proofs.Outcomes
import LintServer.Proofs.Stability

namespace LintServer

def Fix.newText (f : Fix) : String := f.edit.text.text?.getD ""

theorem Fix.eq_newText {f : Fix} {s : String} (h : f.edit.text.orElse (.str "") = .str s) :
    s = f.newText := by
  unfold Fix.newText
  unfold Json.orElse at h
  split at h
  · rw [h]
    rfl
  · rename_i hf
    obtain rfl : "" = s := Json.str.inj h
    cases ht : f.edit.text with
    | str r =>
      rw [ht] at hf
      simpa [Json.isTruthy, Json.text?] using hf
    | _ => rfl

theorem Fix.orElse_text {f : Fix} {s : String} (h : f.edit.text = .str s) :
    f.edit.text.orElse (.str "") = .str f.newText := by
  rw [Fix.newText, h, Json.orElse]
  by_cases he : s = ""
  · subst he
    rfl
  · simp [Json.isTruthy, he, Json.text?]

theorem Document.eq_of_place {d : Document} {offset : Int} {p : Position}
    (h : d.place offset = .ok p) : p = d.positionAt offset := by
  obtain ⟨_, -, h⟩ := bind_eq_ok h
  unfold Position.checked at h
  split at h
  · cases h
  · split at h
    · cases h
    · exact (Except.ok.inj h).symm

namespace Command

variable {d : Document}

/-! ## Edits -/

/-- The edit that a fix becomes when nothing is wrong with it. -/
def edited (d : Document) (f : Fix) : TextEdit :=
  { range := ⟨d.positionAt f.edit.start, d.positionAt f.edit.stop⟩, newText := f.newText }

/-- All of the fixes make edits. -/
def Made (d : Document) (fixes : List Fix) : Prop := ∀ f ∈ fixes, editOf d f = .ok (edited d f)

theorem eq_edited {f : Fix} {e : TextEdit} (h : editOf d f = .ok e) : e = edited d f := by
  obtain ⟨start, hstart, h⟩ := bind_eq_ok h
  obtain ⟨stop, hstop, h⟩ := bind_eq_ok h
  rw [Document.eq_of_place hstart, Document.eq_of_place hstop] at h
  split at h
  · rename_i s hs
    rw [← Except.ok.inj h, edited, Fix.eq_newText hs]
  · cases h

theorem editOf_eq_edited {f : Fix} (hstart : d.place f.edit.start = .ok (d.positionAt f.edit.start))
    (hstop : d.place f.edit.stop = .ok (d.positionAt f.edit.stop))
    (ht : ∃ s, f.edit.text = .str s) : editOf d f = .ok (edited d f) := by
  obtain ⟨s, hs⟩ := ht
  unfold editOf
  rw [hstart, hstop, Fix.orElse_text hs]
  rfl

theorem editsOf_eq_ok_iff {fixes : List Fix} {edits : List TextEdit} :
    editsOf d fixes = .ok edits ↔ Made d fixes ∧ edits = fixes.map (edited d) :=
  mapM_eq_ok_iff_map fun _ _ => eq_edited

/-! ## Commands -/

/-- The command for one fix when nothing is wrong with it. -/
def alone (d : Document) (f : Fix) : Command :=
  { title := f.label, command := applySingle, uri := d.uri, version := f.version,
    edits := [edited d f] }

/-- The command for several fixes when nothing is wrong with them. -/
def bundle (d : Document) (title command : String) (version : Int) (fixes : List Fix) :
    List Command :=
  if fixes.length ≤ 1 then []
  else [{ title, command, uri := d.uri, version, edits := fixes.map (edited d) }]

/-- The commands for all fixes of the rule of `last` and for all fixes there are. -/
def bundles (d : Document) (t : FixTable) (last : Fix) : List Command :=
  if last.rule.isNull then []
  else bundle d ("Fix all " ++ last.rule.text ++ " problems") applySame last.version
      (FixTable.sameRule t last.rule) ++
    bundle d "Fix all auto-fixable problems" applyAll last.version (FixTable.overlapFree t)

/-- The commands that are offered for the fixes in scope when nothing is wrong: one for each of
them, and then those with the last one. -/
def offers (d : Document) (t : FixTable) (scope : List Fix) : List Command :=
  scope.map (alone d) ++ (scope.getLast?.map (bundles d t)).getD []

theorem mem_bundle {title command : String} {version : Int} {fixes : List Fix} {c : Command}
    (h : c ∈ bundle d title command version fixes) :
    c.command = command ∧ c.version = version ∧ c.edits = fixes.map (edited d) := by
  unfold bundle at h
  split at h
  · cases h
  · rw [List.mem_singleton.mp h]
    exact ⟨rfl, rfl, rfl⟩

theorem exists_mem_bundle (d : Document) (title command : String) (version : Int) {fixes : List Fix}
    (h : 1 < fixes.length) : ∃ c ∈ bundle d title command version fixes, c.command = command := by
  rw [bundle, if_neg (Nat.not_le.mpr h)]
  exact ⟨_, List.mem_cons_self, rfl⟩

theorem mem_bundles {t : FixTable} {last : Fix} {c : Command} (h : c ∈ bundles d t last) :
    c.version = last.version ∧
      ((c.command = applySame ∧ c.edits = (FixTable.sameRule t last.rule).map (edited d)) ∨
        (c.command = applyAll ∧ c.edits = (FixTable.overlapFree t).map (edited d))) := by
  unfold bundles at h
  split at h
  · cases h
  · rcases List.mem_append.mp h with h | h
    · obtain ⟨hc, hv, he⟩ := mem_bundle h
      exact ⟨hv, Or.inl ⟨hc, he⟩⟩
    · obtain ⟨hc, hv, he⟩ := mem_bundle h
      exact ⟨hv, Or.inr ⟨hc, he⟩⟩

/-- A command that is offered is for one fix in scope, or comes with the last of them. -/
theorem mem_offers {t : FixTable} {scope : List Fix} {c : Command} (h : c ∈ offers d t scope) :
    (∃ f ∈ scope, c = alone d f) ∨
      ∃ last, scope.getLast? = some last ∧ c ∈ bundles d t last := by
  rcases List.mem_append.mp h with h | h
  · obtain ⟨f, hf, rfl⟩ := List.mem_map.mp h
    exact Or.inl ⟨f, hf, rfl⟩
  · cases hlast : scope.getLast? with
    | none =>
      rw [hlast] at h
      cases h
    | some last =>
      rw [hlast] at h
      exact Or.inr ⟨last, rfl, h⟩

/-- A command that is offered for several fixes is one of the two bundles. -/
theorem mem_offered {t : FixTable} {scope : List Fix} {c : Command} (h : c ∈ offers d t scope)
    (hc : c.command ≠ applySingle) : ∃ last, scope.getLast? = some last ∧
      ((c.command = applySame ∧ c.edits = (FixTable.sameRule t last.rule).map (edited d)) ∨
        (c.command = applyAll ∧ c.edits = (FixTable.overlapFree t).map (edited d))) := by
  rcases mem_offers h with ⟨f, -, rfl⟩ | ⟨last, hlast, h⟩
  · exact absurd rfl hc
  · exact ⟨last, hlast, (mem_bundles h).2⟩

theorem version_of_offered {t : FixTable} {scope : List Fix} {c : Command}
    (h : c ∈ offers d t scope) : ∃ f ∈ scope, c.version = f.version := by
  rcases mem_offers h with ⟨f, hf, rfl⟩ | ⟨last, hlast, h⟩
  · exact ⟨f, hf, rfl⟩
  · exact ⟨last, List.mem_of_getLast? hlast, (mem_bundles h).1⟩

theorem single_eq_ok_iff {f : Fix} {c : Command} :
    single d f = .ok c ↔ editOf d f = .ok (edited d f) ∧ c = alone d f := by
  unfold single
  rw [bind_eq_ok_iff]
  constructor
  · rintro ⟨e, he, h⟩
    obtain rfl := eq_edited he
    exact ⟨he, (Except.ok.inj h).symm⟩
  · rintro ⟨he, rfl⟩
    exact ⟨edited d f, he, rfl⟩

theorem singles_eq_ok_iff {fixes : List Fix} {commands : List Command} :
    fixes.mapM (single d) = .ok commands ↔ Made d fixes ∧ commands = fixes.map (alone d) := by
  rw [mapM_eq_ok_iff_map fun f c h => (single_eq_ok_iff.mp h).2]
  refine and_congr_left fun _ => forall₂_congr fun f _ => ?_
  rw [single_eq_ok_iff]
  exact and_iff_left rfl

theorem several_eq_ok_iff {title command : String} {version : Int} {fixes : List Fix}
    {commands : List Command} :
    several d title command version fixes = .ok commands ↔
      (1 < fixes.length → Made d fixes) ∧ commands = bundle d title command version fixes := by
  unfold several bundle
  by_cases hl : fixes.length ≤ 1
  · rw [if_pos hl, if_pos hl]
    refine ⟨fun h => ⟨fun h1 => absurd hl (by omega), (Except.ok.inj h).symm⟩, ?_⟩
    rintro ⟨-, rfl⟩
    rfl
  · rw [if_neg hl, if_neg hl, bind_eq_ok_iff]
    constructor
    · rintro ⟨edits, he, h⟩
      obtain ⟨hm, rfl⟩ := editsOf_eq_ok_iff.mp he
      exact ⟨fun _ => hm, (Except.ok.inj h).symm⟩
    · rintro ⟨hm, rfl⟩
      exact ⟨_, editsOf_eq_ok_iff.mpr ⟨hm (by omega), rfl⟩, rfl⟩

/-- The fixes that go into the commands with `last` all make edits, where several are needed. -/
structure BundlesMade (d : Document) (t : FixTable) (last : Fix) : Prop where
  same : 1 < (FixTable.sameRule t last.rule).length → Made d (FixTable.sameRule t last.rule)
  all : 1 < (FixTable.overlapFree t).length → Made d (FixTable.overlapFree t)

/-- The commands for single fixes, and behind them those for several. -/
def withSeveral (d : Document) (t : FixTable) (last : Fix) (singles : List Command) :
    Except Failure (List Command) :=
  if last.rule.isNull then return singles
  else do
    let same ← several d ("Fix all " ++ last.rule.text ++ " problems") applySame last.version
      (FixTable.sameRule t last.rule)
    let all ← several d "Fix all auto-fixable problems" applyAll last.version
      (FixTable.overlapFree t)
    return singles ++ same ++ all

theorem withSeveral_eq_ok_iff {t : FixTable} {last : Fix} {singles commands : List Command} :
    withSeveral d t last singles = .ok commands ↔
      (last.rule.isNull = false → BundlesMade d t last) ∧
        commands = singles ++ bundles d t last := by
  unfold withSeveral bundles
  cases last.rule.isNull with
  | true =>
    refine ⟨fun h => ⟨fun hf => (by cases hf), ?_⟩, ?_⟩
    · rw [← Except.ok.inj h, if_pos rfl, List.append_nil]
    · rintro ⟨-, rfl⟩
      rw [if_pos rfl, if_pos rfl, List.append_nil]
      rfl
  | false =>
    simp only [Bool.false_eq_true, if_false, bind_eq_ok_iff, several_eq_ok_iff, forall_const]
    constructor
    · rintro ⟨_, ⟨hsame, rfl⟩, _, ⟨hall, rfl⟩, h⟩
      exact ⟨⟨hsame, hall⟩, by rw [← Except.ok.inj h, List.append_assoc]⟩
    · rintro ⟨hmade, rfl⟩
      exact ⟨_, ⟨hmade.same, rfl⟩, _, ⟨hmade.all, rfl⟩, by rw [← List.append_assoc]; rfl⟩

/-- There are commands if the fixes in scope make edits, and those that go into the commands for
several fixes: one command for each in scope, and then those with the last one. -/
theorem offered_eq_ok_iff {t : FixTable} {keys : List String} {commands : List Command} :
    offered d t keys = .ok commands ↔ Made d (FixTable.inScope t keys) ∧
      (∀ last, (FixTable.inScope t keys).getLast? = some last → last.rule.isNull = false →
        BundlesMade d t last) ∧
      commands = offers d t (FixTable.inScope t keys) := by
  rw [offered, bind_eq_ok_iff]
  simp only [singles_eq_ok_iff, offers]
  cases (FixTable.inScope t keys).getLast? with
  | none =>
    constructor
    · rintro ⟨_, ⟨hm, rfl⟩, h⟩
      refine ⟨hm, fun last hl => (by cases hl), ?_⟩
      rw [← Except.ok.inj h, Option.map_none, Option.getD_none, List.append_nil]
    · rintro ⟨hm, -, rfl⟩
      refine ⟨_, ⟨hm, rfl⟩, ?_⟩
      rw [Option.map_none, Option.getD_none, List.append_nil]
      rfl
  | some last =>
    show (∃ singles, _ ∧ withSeveral d t last singles = .ok commands) ↔ _
    simp only [withSeveral_eq_ok_iff]
    constructor
    · rintro ⟨_, ⟨hm, rfl⟩, hmade, rfl⟩
      refine ⟨hm, ?_, rfl⟩
      rintro _ ⟨⟩
      exact hmade
    · rintro ⟨hm, hmade, rfl⟩
      exact ⟨_, ⟨hm, rfl⟩, hmade last rfl, rfl⟩

theorem forDocument_eq_ok_iff {t : FixTable} {keys : List String} {commands : List Command} :
    forDocument (some d) (some t) keys = .ok commands ↔ Made d (FixTable.inScope t keys) ∧
      (∀ last, (FixTable.inScope t keys).getLast? = some last → last.rule.isNull = false →
        BundlesMade d t last) ∧
      commands = offers d t (FixTable.inScope t keys) := by
  rw [← offered_eq_ok_iff]
  cases t with
  | nil =>
    have hn : FixTable.inScope [] keys = [] := by simp [FixTable.inScope, Table.get?]
    rw [forDocument, offered, hn]
    rfl
  | cons e rest => rfl

end Command

namespace AllFixes

variable {d : Document} {t : FixTable}

/-- There is an answer if the selected fixes make edits. -/
theorem ofTable_eq_ok_iff {all : Option AllFixes} :
    ofTable (some d) (some t) = .ok all ↔ Command.Made d (FixTable.overlapFree t) ∧
      all = t.head?.map fun e =>
        ⟨e.2.version, (FixTable.overlapFree t).map (Command.edited d)⟩ := by
  cases t with
  | nil =>
    refine ⟨fun h => ⟨fun f hf => ?_, (Except.ok.inj h).symm⟩, fun ⟨_, h⟩ => h ▸ rfl⟩
    cases FixTable.mem_values_of_overlapFree hf
  | cons e rest =>
    show (FixTable.version (e :: rest) >>= fun version =>
      Command.editsOf d (FixTable.overlapFree (e :: rest)) >>= fun edits =>
        Except.ok (some (AllFixes.mk version edits))) = .ok all ↔ _
    simp only [bind_eq_ok_iff, Command.editsOf_eq_ok_iff]
    constructor
    · rintro ⟨_, ⟨⟩, _, ⟨hm, rfl⟩, h⟩
      exact ⟨hm, (Except.ok.inj h).symm⟩
    · rintro ⟨hm, rfl⟩
      exact ⟨e.2.version, rfl, _, ⟨hm, rfl⟩, rfl⟩

end AllFixes

/-! ## Both ways agree -/

theorem Json.agrees_str (v : Json) (name : String) :
    v.agrees (.str name) = (v.text? == some name) := by
  cases v <;> simp [Json.agrees, Json.asNumber, Json.numbersAgree, Json.isNull, Json.text?]

namespace FixTable

/-- The fixes of one rule, in the order they were recorded. -/
def ofRule (t : FixTable) (name : String) : FixTable := t.filter (·.2.rule.text? == some name)

theorem values_ofRule (t : FixTable) (name : String) :
    Table.values (ofRule t name) = (Table.values t).filter (·.rule.agrees (.str name)) := by
  simp only [Json.agrees_str]
  rw [Table.values, Table.values, List.filter_map]
  rfl

/-- Whether the fixes of other rules are left out before the fixes are ordered or after makes no
difference to the scan. -/
theorem sameRule_eq_overlapFree (t : FixTable) (name : String) :
    sameRule t (.str name) = overlapFree (ofRule t name) := by
  rw [sameRule, overlapFree, sorted, sorted, values_ofRule, filter_ordered]

end FixTable

namespace Command

variable {d : Document} {t : FixTable}

/-- The command for the edits that were asked for, if they are several. -/
def withAnswer (d : Document) (title command : String) (version : Int)
    (asked : Except Failure (Option AllFixes)) : List Command :=
  match asked with
  | .ok (some a) =>
    if 2 ≤ a.edits.length then [{ title, command, uri := d.uri, version, edits := a.edits }] else []
  | _ => []

theorem withAnswer_edited (title command : String) (version v : Int) (fixes : List Fix) :
    withAnswer d title command version (.ok (some ⟨v, fixes.map (edited d)⟩)) =
      bundle d title command version fixes := by
  unfold withAnswer bundle
  simp only [List.length_map]
  by_cases hl : fixes.length ≤ 1
  · rw [if_pos hl, if_neg (by omega)]
  · rw [if_neg hl, if_pos (by omega)]

/-- A command for all selected fixes makes the edits that are asked for all at once. -/
theorem bundle_eq_withAnswer {title command : String} {version : Int}
    (hm : 1 < (FixTable.overlapFree t).length → Made d (FixTable.overlapFree t)) :
    bundle d title command version (FixTable.overlapFree t) =
      withAnswer d title command version (AllFixes.ofTable (some d) (some t)) := by
  cases hasked : AllFixes.ofTable (some d) (some t) with
  | error e =>
    -- without an answer not all selected fixes make edits, so there are not several
    have hl : (FixTable.overlapFree t).length ≤ 1 := by
      apply Nat.not_lt.mp
      intro hl
      rw [AllFixes.ofTable_eq_ok_iff.mpr ⟨hm hl, rfl⟩] at hasked
      cases hasked
    rw [bundle, if_pos hl]
    rfl
  | ok all =>
    obtain ⟨-, rfl⟩ := AllFixes.ofTable_eq_ok_iff.mp hasked
    cases t with
    | nil =>
      rw [FixTable.overlapFree_eq_nil_iff.mpr rfl]
      rfl
    | cons e rest => exact (withAnswer_edited title command version e.2.version _).symm

theorem bundles_eq_withAnswer {last : Fix} {name : String} (hrule : last.rule = .str name)
    (hm : BundlesMade d t last) :
    bundles d t last =
      withAnswer d ("Fix all " ++ name ++ " problems") applySame last.version
          (AllFixes.ofTable (some d) (some (FixTable.ofRule t name))) ++
        withAnswer d "Fix all auto-fixable problems" applyAll last.version
          (AllFixes.ofTable (some d) (some t)) := by
  obtain ⟨hsame, hall⟩ := hm
  rw [hrule, FixTable.sameRule_eq_overlapFree] at hsame
  rw [bundles, hrule, FixTable.sameRule_eq_overlapFree, bundle_eq_withAnswer hsame,
    bundle_eq_withAnswer hall]
  rfl

open FixTable in
/-- The commands that are offered and the edits that are asked for agree. There are commands where
there are edits for the fixes in scope and answers for all fixes and for those of the rule that came
last. The commands are one for each fix in scope, and then, if there are such fixes, one with
the answer for the fixes of that rule alone and one with the answer for all, each if that has
several edits. They are for the version of the answer, if there is only one version. -/
theorem offers_agree (d : Document) (t : FixTable) (keys : List String)
    (hrules : ∀ e ∈ t, ∃ name, e.2.rule = .str name) :
    ((∀ f ∈ inScope t keys, ∃ e, editOf d f = .ok e) →
      (∀ last, (inScope t keys).getLast? = some last →
        ∃ same, AllFixes.ofTable (some d) (some (ofRule t last.rule.text)) = .ok same) →
      (∃ all, AllFixes.ofTable (some d) (some t) = .ok all) →
      ∃ commands, forDocument (some d) (some t) keys = .ok commands) ∧
    ∀ commands, forDocument (some d) (some t) keys = .ok commands →
      commands = (keys.filterMap (Table.get? t)).map (alone d) ++
        (match (keys.filterMap (Table.get? t)).getLast? with
          | none => []
          | some last =>
            withAnswer d ("Fix all " ++ last.rule.text ++ " problems") applySame last.version
                (AllFixes.ofTable (some d) (some (ofRule t last.rule.text))) ++
              withAnswer d "Fix all auto-fixable problems" applyAll last.version
                (AllFixes.ofTable (some d) (some t))) ∧
      ((∀ e ∈ t, ∀ e' ∈ t, e.2.version = e'.2.version) →
        ∀ all, AllFixes.ofTable (some d) (some t) = .ok all →
          ∀ c ∈ commands, all.map AllFixes.version = some c.version) := by
  have rule_of_scope : ∀ f ∈ inScope t keys, ∃ name, f.rule = .str name := by
    intro f hf
    obtain ⟨e, he, rfl⟩ := List.mem_map.mp (mem_values_of_inScope hf)
    exact hrules e he
  constructor
  · rintro hscope hsame ⟨all, hall⟩
    refine ⟨_, forDocument_eq_ok_iff.mpr ⟨fun f hf => ?_, fun last hlast _ => ?_, rfl⟩⟩
    · obtain ⟨e, he⟩ := hscope f hf
      rw [he, eq_edited he]
    · obtain ⟨name, hname⟩ := rule_of_scope last (List.mem_of_getLast? hlast)
      obtain ⟨same, hsame⟩ := hsame last hlast
      rw [hname] at hsame
      refine ⟨fun _ => ?_, fun _ => (AllFixes.ofTable_eq_ok_iff.mp hall).1⟩
      rw [hname, sameRule_eq_overlapFree]
      exact (AllFixes.ofTable_eq_ok_iff.mp hsame).1
  · intro commands h
    obtain ⟨-, hmade, rfl⟩ := forDocument_eq_ok_iff.mp h
    refine ⟨congrArg ((inScope t keys).map (alone d) ++ ·) ?_, fun hv all hall c hc => ?_⟩
    · show _ = match (inScope t keys).getLast? with
        | none => _
        | some last => _
      cases hlast : (inScope t keys).getLast? with
      | none => rfl
      | some last =>
        obtain ⟨name, hname⟩ := rule_of_scope last (List.mem_of_getLast? hlast)
        have htext : last.rule.text = name := by rw [hname]; rfl
        show bundles d t last = _
        rw [bundles_eq_withAnswer hname (hmade last hlast (by rw [hname]; rfl))]
        simp only [htext]
    · obtain ⟨-, rfl⟩ := AllFixes.ofTable_eq_ok_iff.mp hall
      obtain ⟨f, hf, hcf⟩ := version_of_offered hc
      obtain ⟨e, he, rfl⟩ := List.mem_map.mp (mem_values_of_inScope hf)
      cases t with
      | nil => cases he
      | cons first rest =>
        rw [hcf, ← hv first List.mem_cons_self e he]
        rfl

/-- Two statements, each with an empty one behind it. -/
def emptyStatements : Document := { uri := "file:///a.js", text := "a;;\nb;;", version := 3 }

/-- Two fixes of one rule, and one of another rule that overlaps the first. -/
def twoRules : FixTable :=
  let fix := fun (rule : String) (start stop : Int) (text : String) =>
    ({ label := rule, version := 3, rule := .str rule, edit := ⟨start, stop, .str text⟩ } : Fix)
  [("b", fix "semi" 6 7 ""), ("a", fix "semi" 2 3 ""), ("q", fix "curly" 0 3 "a;")]

/-- The rule that came last in scope decides which fixes are bundled with it, and a fix of that rule
can be in its bundle that is not in the other one. -/
theorem twoRules_offers :
    (∀ e ∈ twoRules, ∃ name, e.2.rule = .str name) ∧
    AllFixes.ofTable (some emptyStatements) (some twoRules) =
      .ok (some ⟨3, [⟨⟨⟨0, 0⟩, ⟨0, 3⟩⟩, "a;"⟩, ⟨⟨⟨1, 2⟩, ⟨1, 3⟩⟩, ""⟩]⟩) ∧
    AllFixes.ofTable (some emptyStatements) (some (FixTable.ofRule twoRules "semi")) =
      .ok (some ⟨3, [⟨⟨⟨0, 2⟩, ⟨0, 3⟩⟩, ""⟩, ⟨⟨⟨1, 2⟩, ⟨1, 3⟩⟩, ""⟩]⟩) ∧
    ∃ commands,
      forDocument (some emptyStatements) (some twoRules) ["q", "none", "b"] = .ok commands ∧
      commands.map (fun c => (c.command, c.edits)) =
        [(applySingle, [⟨⟨⟨0, 0⟩, ⟨0, 3⟩⟩, "a;"⟩]), (applySingle, [⟨⟨⟨1, 2⟩, ⟨1, 3⟩⟩, ""⟩]),
          (applySame, [⟨⟨⟨0, 2⟩, ⟨0, 3⟩⟩, ""⟩, ⟨⟨⟨1, 2⟩, ⟨1, 3⟩⟩, ""⟩]),
          (applyAll, [⟨⟨⟨0, 0⟩, ⟨0, 3⟩⟩, "a;"⟩, ⟨⟨⟨1, 2⟩, ⟨1, 3⟩⟩, ""⟩])] ∧
      ∀ c ∈ commands, c.version = 3 := by
  have hrules : ∀ e ∈ twoRules, ∃ name, e.2.rule = .str name := by
    intro e he
    simp only [twoRules, List.mem_cons, List.not_mem_nil, or_false] at he
    rcases he with rfl | rfl | rfl
    all_goals exact ⟨_, rfl⟩
  have hmade : Made emptyStatements [twoRules[2].2, twoRules[0].2] :=
    List.forall_mem_cons.mpr ⟨rfl, List.forall_mem_singleton.mpr rfl⟩
  have hsemi : Made emptyStatements [twoRules[1].2, twoRules[0].2] :=
    List.forall_mem_cons.mpr ⟨rfl, List.forall_mem_singleton.mpr rfl⟩
  have hall : AllFixes.ofTable (some emptyStatements) (some twoRules) =
      .ok (some ⟨3, [⟨⟨⟨0, 0⟩, ⟨0, 3⟩⟩, "a;"⟩, ⟨⟨⟨1, 2⟩, ⟨1, 3⟩⟩, ""⟩]⟩) := by
    have hfree : FixTable.overlapFree twoRules = [twoRules[2].2, twoRules[0].2] := by cbv
    rw [AllFixes.ofTable_eq_ok_iff, hfree]
    exact ⟨hmade, rfl⟩
  have hsame : AllFixes.ofTable (some emptyStatements) (some (FixTable.ofRule twoRules "semi")) =
      .ok (some ⟨3, [⟨⟨⟨0, 2⟩, ⟨0, 3⟩⟩, ""⟩, ⟨⟨⟨1, 2⟩, ⟨1, 3⟩⟩, ""⟩]⟩) := by
    have hrule : FixTable.ofRule twoRules "semi" = twoRules.take 2 := rfl
    have hfree : FixTable.overlapFree (twoRules.take 2) = [twoRules[1].2, twoRules[0].2] := by cbv
    rw [hrule, AllFixes.ofTable_eq_ok_iff, hfree]
    exact ⟨hsemi, rfl⟩
  have hscope : ∀ f ∈ FixTable.inScope twoRules ["q", "none", "b"],
      ∃ e, editOf emptyStatements f = .ok e := fun f hf => ⟨_, hmade f hf⟩
  obtain ⟨hthere, hwhat⟩ := offers_agree emptyStatements twoRules ["q", "none", "b"] hrules
  obtain ⟨commands, hc⟩ := hthere hscope (by rintro last ⟨⟩; exact ⟨_, hsame⟩) ⟨_, hall⟩
  obtain ⟨he, hv⟩ := hwhat commands hc
  refine ⟨hrules, hall, hsame, commands, hc, ?_, fun c hm => ?_⟩
  · rw [he]
    change [(applySingle, [edited emptyStatements twoRules[2].2]),
        (applySingle, [edited emptyStatements twoRules[0].2])] ++
      (withAnswer emptyStatements _ applySame 3
          (AllFixes.ofTable (some emptyStatements) (some (FixTable.ofRule twoRules "semi"))) ++
        withAnswer emptyStatements _ applyAll 3
          (AllFixes.ofTable (some emptyStatements) (some twoRules))).map _ = _
    rw [hall, hsame]
    rfl
  · have hversions : ∀ e ∈ twoRules, ∀ e' ∈ twoRules, e.2.version = e'.2.version := by
      simp [twoRules]
    exact (Option.some.inj (hv hversions _ hall c hm)).symm

end Command

end LintServer
