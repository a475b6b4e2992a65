/-
  LintServer.Proofs.EngineFailures — what can come of a run of the linter.

  A failure of the linter's own is told to the user; any other failure of a run is not caught. The
  conversions from values to reports have no failure of the linter's own, so such a failure can only
  say that there is no report at all: what is printed is a report of the right shape, or no list of
  results, or it ends the run in another way.
  - `Json.IsReport`: the shape of a report, from the coordinates of an edit up to the list of
    results.
  - `Report.parse_eq_ok_iff`, `Report.parse_escapes_iff`: when there is a report, and when reading
    one fails in another way than the linter's.
  - `Engine.failures_are_lint_failures`: the failures of a run and of the command that checks a
    file.
-/

import LintServer.CommandLine.Basic
import LintServer.Proofs.Outcomes

namespace LintServer

/-! ## Shapes -/

namespace Json

/-- Whether an integer can be taken out of a value. -/
def IsWhole : Json → Prop
  | .bool _ | .int _ => True
  | .float .nan | .float (.infinite _) => False
  | .float (.finite ..) => True
  | .str s => ∃ n, integerOf s = .ok n
  | _ => False

/-- Whether a value can be counted with: it is left out, or it is whole. -/
def IsCount (v : Json) : Prop := v.isTruthy = true → v.IsWhole

/-- An object with a range that has two ends. -/
def IsEdit (v : Json) : Prop :=
  ∃ fields range start stop, v = .obj fields ∧ Table.get? fields "range" = some range ∧
    range.members? = some [start, stop] ∧ start.IsWhole ∧ stop.IsWhole

/-- Fields of a problem. -/
structure IsProblem (fields : List (String × Json)) : Prop where
  line : (field fields "line").IsCount
  column : (field fields "column").IsCount
  severity : (field fields "severity").IsCount
  fix : (field fields "fix").isTruthy = true → (field fields "fix").IsEdit

/-- Fields of the result for one file. -/
structure IsFileReport (fields : List (String × Json)) : Prop where
  problems : ∃ members, ((field fields "messages").orElse (.arr [])).members? = some members ∧
    ∀ m ∈ members, m.isTruthy = true → ∃ fields, m = .obj fields ∧ IsProblem fields
  errors : (field fields "errorCount").IsCount
  warnings : (field fields "warningCount").IsCount

/-- Results, some of which may be left blank. -/
def IsReport (items : List Json) : Prop :=
  ∀ item ∈ items, item.isTruthy = true → ∃ fields, item = .obj fields ∧ IsFileReport fields

end Json

/-! ## Conversions that find a shape -/

namespace Json

variable {v : Json}

theorem toInt_eq_ok_iff : (∃ n, v.toInt = .ok n) ↔ v.IsWhole := by
  cases v with
  | bool b => exact ⟨fun _ => trivial, fun _ => ⟨_, rfl⟩⟩
  | int n => exact ⟨fun _ => trivial, fun _ => ⟨n, rfl⟩⟩
  | float x =>
    cases x with
    | finite negative mantissa exponent => exact ⟨fun _ => trivial, fun _ => ⟨_, rfl⟩⟩
    | nan => exact ⟨fun ⟨_, h⟩ => (by cases h), False.elim⟩
    | infinite negative => exact ⟨fun ⟨_, h⟩ => (by cases h), False.elim⟩
  | str s => exact Iff.rfl
  | null => exact ⟨fun ⟨_, h⟩ => (by cases h), False.elim⟩
  | stamp s => exact ⟨fun ⟨_, h⟩ => (by cases h), False.elim⟩
  | arr items => exact ⟨fun ⟨_, h⟩ => (by cases h), False.elim⟩
  | obj fields => exact ⟨fun ⟨_, h⟩ => (by cases h), False.elim⟩

theorem count_eq_ok_iff : (∃ n, v.count = .ok n) ↔ v.IsCount := by
  unfold count orElse IsCount
  by_cases h : v.isTruthy = true
  · rw [if_pos h, toInt_eq_ok_iff]
    exact ⟨fun hv _ => hv, fun hv => hv h⟩
  · rw [if_neg h]
    exact ⟨fun _ ht => absurd ht h, fun _ => ⟨0, rfl⟩⟩

theorem fields_eq_ok_iff {found : List (String × Json)} :
    v.fields = .ok found ↔ v = .obj found := by
  constructor
  · intro h
    cases v with
    | obj fields => rw [Except.ok.inj h]
    | _ => cases h
  · rintro rfl
    rfl

theorem members_eq_ok_iff {found : List Json} :
    v.members = .ok found ↔ v.members? = some found := by
  unfold members
  cases h : v.members? with
  | none => exact ⟨fun h => (by cases h), fun h => (by cases h)⟩
  | some members =>
    constructor
    · intro h
      rw [Except.ok.inj h]
    · intro h
      rw [Option.some.inj h]

theorem pair_eq_ok_iff {a b : Json} : v.pair = .ok (a, b) ↔ v.members? = some [a, b] := by
  unfold pair
  constructor
  · intro h
    split at h
    · rename_i x y hm
      cases h
      exact hm
    all_goals cases h
  · intro h
    rw [h]

theorem entry_eq_ok_iff {name : String} {found : Json} :
    v.entry name = .ok found ↔ ∃ fields, v = .obj fields ∧ Table.get? fields name = some found := by
  constructor
  · intro h
    cases v with
    | obj fields =>
      unfold entry at h
      cases hf : Table.get? fields name with
      | none =>
        simp only [hf] at h
        cases h
      | some value =>
        simp only [hf] at h
        exact ⟨fields, rfl, hf.trans (congrArg some (Except.ok.inj h))⟩
    | _ => cases h
  · rintro ⟨fields, rfl, hf⟩
    unfold entry
    simp only [hf]

end Json

/-- What is read of a value, unless it counts as not given. -/
def Json.optional {α : Type} (read : Json → Except Failure α) (v : Json) :
    Except Failure (Option α) :=
  if v.isTruthy then (read v).map some else .ok none

theorem Json.optional_eq_ok_iff {α : Type} {read : Json → Except Failure α} {v : Json} :
    (∃ found, v.optional read = .ok found) ↔ (v.isTruthy = true → ∃ a, read v = .ok a) := by
  unfold Json.optional
  by_cases h : v.isTruthy = true
  · rw [if_pos h]
    constructor
    · rintro ⟨found, hf⟩ -
      obtain ⟨a, ha, -⟩ := map_eq_ok hf
      exact ⟨a, ha⟩
    · intro hv
      obtain ⟨a, ha⟩ := hv h
      rw [ha]
      exact ⟨some a, rfl⟩
  · rw [if_neg h]
    exact ⟨fun _ ht => absurd ht h, fun _ => ⟨none, rfl⟩⟩

theorem Edit.ofJson_eq_ok_iff {v : Json} : (∃ e, Edit.ofJson v = .ok e) ↔ v.IsEdit := by
  constructor
  · rintro ⟨e, h⟩
    obtain ⟨range, hr, h⟩ := bind_eq_ok h
    obtain ⟨⟨start, stop⟩, hp, h⟩ := bind_eq_ok h
    obtain ⟨first, hs, h⟩ := bind_eq_ok h
    obtain ⟨last, ht, -⟩ := bind_eq_ok h
    obtain ⟨fields, rfl, hf⟩ := Json.entry_eq_ok_iff.mp hr
    exact ⟨fields, range, start, stop, rfl, hf, Json.pair_eq_ok_iff.mp hp,
      Json.toInt_eq_ok_iff.mp ⟨first, hs⟩, Json.toInt_eq_ok_iff.mp ⟨last, ht⟩⟩
  · rintro ⟨fields, range, start, stop, rfl, hf, hp, hs, ht⟩
    obtain ⟨first, hs⟩ := Json.toInt_eq_ok_iff.mpr hs
    obtain ⟨last, ht⟩ := Json.toInt_eq_ok_iff.mpr ht
    exact ⟨_, bind_eq_ok_iff.mpr ⟨range, Json.entry_eq_ok_iff.mpr ⟨fields, rfl, hf⟩,
      bind_eq_ok_iff.mpr ⟨(start, stop), Json.pair_eq_ok_iff.mpr hp,
        bind_eq_ok_iff.mpr ⟨first, hs, bind_eq_ok_iff.mpr ⟨last, ht, rfl⟩⟩⟩⟩⟩

/-- The steps that make a problem, one after another. -/
theorem Problem.ofJson_eq (v : Json) :
    Problem.ofJson v = do
      let fields ← v.fields
      let line ← (Json.field fields "line").count
      let column ← (Json.field fields "column").count
      let severity ← (Json.field fields "severity").count
      let edit ← (Json.field fields "fix").optional Edit.ofJson
      return {
        line, column, severity, edit
        rule := Json.field fields "ruleId"
        message := (Table.get? fields "message").getD (.str "")
        endLine := Json.field fields "endLine"
        endColumn := Json.field fields "endColumn" } := by
  unfold Problem.ofJson Json.optional
  refine bind_congr fun fields => bind_congr fun line => bind_congr fun column =>
    bind_congr fun severity => ?_
  by_cases h : (Json.field fields "fix").isTruthy = true
  · rw [if_pos h, if_pos h]
  · rw [if_neg h, if_neg h]
    rfl

theorem Problem.ofJson_eq_ok_iff {v : Json} :
    (∃ p, Problem.ofJson v = .ok p) ↔ ∃ fields, v = .obj fields ∧ Json.IsProblem fields := by
  rw [Problem.ofJson_eq]
  constructor
  · rintro ⟨p, h⟩
    obtain ⟨fields, hv, h⟩ := bind_eq_ok h
    obtain ⟨line, hl, h⟩ := bind_eq_ok h
    obtain ⟨column, hc, h⟩ := bind_eq_ok h
    obtain ⟨severity, hs, h⟩ := bind_eq_ok h
    obtain ⟨edit, he, -⟩ := bind_eq_ok h
    exact ⟨fields, Json.fields_eq_ok_iff.mp hv, Json.count_eq_ok_iff.mp ⟨line, hl⟩,
      Json.count_eq_ok_iff.mp ⟨column, hc⟩, Json.count_eq_ok_iff.mp ⟨severity, hs⟩,
      fun ht => Edit.ofJson_eq_ok_iff.mp (Json.optional_eq_ok_iff.mp ⟨edit, he⟩ ht)⟩
  · rintro ⟨fields, hv, shaped⟩
    obtain ⟨line, hl⟩ := Json.count_eq_ok_iff.mpr shaped.line
    obtain ⟨column, hc⟩ := Json.count_eq_ok_iff.mpr shaped.column
    obtain ⟨severity, hs⟩ := Json.count_eq_ok_iff.mpr shaped.severity
    obtain ⟨edit, he⟩ := Json.optional_eq_ok_iff.mpr fun ht =>
      Edit.ofJson_eq_ok_iff.mpr (shaped.fix ht)
    exact ⟨_, bind_eq_ok_iff.mpr ⟨fields, Json.fields_eq_ok_iff.mpr hv, bind_eq_ok_iff.mpr
      ⟨line, hl, bind_eq_ok_iff.mpr ⟨column, hc, bind_eq_ok_iff.mpr ⟨severity, hs,
        bind_eq_ok_iff.mpr ⟨edit, he, rfl⟩⟩⟩⟩⟩⟩

theorem FileReport.problemOf_eq_ok_iff {v : Json} :
    (∃ p, FileReport.problemOf v = .ok p) ↔
      (v.isTruthy = true → ∃ fields, v = .obj fields ∧ Json.IsProblem fields) := by
  rw [← Problem.ofJson_eq_ok_iff]
  exact Json.optional_eq_ok_iff

theorem FileReport.ofJson_eq_ok_iff {v : Json} :
    (∃ r, FileReport.ofJson v = .ok r) ↔ ∃ fields, v = .obj fields ∧ Json.IsFileReport fields := by
  constructor
  · rintro ⟨r, h⟩
    obtain ⟨fields, hv, h⟩ := bind_eq_ok h
    obtain ⟨members, hm, h⟩ := bind_eq_ok h
    obtain ⟨problems, hp, h⟩ := bind_eq_ok h
    obtain ⟨errors, he, h⟩ := bind_eq_ok h
    obtain ⟨warnings, hw, -⟩ := bind_eq_ok h
    exact ⟨fields, Json.fields_eq_ok_iff.mp hv,
      ⟨members, Json.members_eq_ok_iff.mp hm, fun m hm =>
        FileReport.problemOf_eq_ok_iff.mp (mapM_succeeds_iff.mp ⟨problems, hp⟩ m hm)⟩,
      Json.count_eq_ok_iff.mp ⟨errors, he⟩, Json.count_eq_ok_iff.mp ⟨warnings, hw⟩⟩
  · rintro ⟨fields, hv, ⟨members, hm, shaped⟩, he, hw⟩
    obtain ⟨problems, hp⟩ := mapM_succeeds_iff.mpr fun m hm =>
      FileReport.problemOf_eq_ok_iff.mpr (shaped m hm)
    obtain ⟨errors, he⟩ := Json.count_eq_ok_iff.mpr he
    obtain ⟨warnings, hw⟩ := Json.count_eq_ok_iff.mpr hw
    exact ⟨_, bind_eq_ok_iff.mpr ⟨fields, Json.fields_eq_ok_iff.mpr hv, bind_eq_ok_iff.mpr
      ⟨members, Json.members_eq_ok_iff.mpr hm, bind_eq_ok_iff.mpr ⟨problems, hp,
        bind_eq_ok_iff.mpr ⟨errors, he, bind_eq_ok_iff.mpr ⟨warnings, hw, rfl⟩⟩⟩⟩⟩⟩

theorem Report.ofJson_arr_eq_ok_iff {items : List Json} :
    (∃ r, Report.ofJson (.arr items) = .ok r) ↔ Json.IsReport items := by
  have hm : (∃ r, Report.ofJson (.arr items) = .ok r) ↔
      ∃ results, (items.filter Json.isTruthy).mapM FileReport.ofJson = .ok results := by
    constructor
    · rintro ⟨r, h⟩
      obtain ⟨results, h, -⟩ := bind_eq_ok h
      exact ⟨results, h⟩
    · rintro ⟨results, h⟩
      exact ⟨_, bind_eq_ok_iff.mpr ⟨results, h, rfl⟩⟩
  rw [hm, mapM_succeeds_iff]
  simp only [FileReport.ofJson_eq_ok_iff, List.mem_filter, and_imp, Json.IsReport]

/-! ## Failures that are none of the linter's -/

/-- A step whose failures are none of the linter's own. -/
def Foreign {α : Type} (x : Except Failure α) : Prop := ∀ f, x = .error f → f.isLint = false

section

variable {α β : Type}

theorem Foreign.ok (a : α) : Foreign (.ok a : Except Failure α) := fun f h => by cases h

theorem Foreign.error {f : Failure} (h : f.isLint = false) :
    Foreign (.error f : Except Failure α) := fun g hg => by rwa [← Except.error.inj hg]

theorem Foreign.bind {x : Except Failure α} {f : α → Except Failure β} (hx : Foreign x)
    (hf : ∀ a, Foreign (f a)) : Foreign (x >>= f) := by
  cases x with
  | error e =>
    intro g hg
    exact hx g (congrArg Except.error (Except.error.inj hg))
  | ok a => exact hf a

theorem Foreign.map {x : Except Failure α} (hx : Foreign x) (f : α → β) : Foreign (x.map f) := by
  cases x with
  | error e =>
    intro g hg
    exact hx g (congrArg Except.error (Except.error.inj hg))
  | ok a => exact .ok (f a)

theorem Foreign.mapM {f : α → Except Failure β} (hf : ∀ a, Foreign (f a)) (xs : List α) :
    Foreign (xs.mapM f) := by
  induction xs with
  | nil => exact .ok []
  | cons x xs ih =>
    rw [List.mapM_cons]
    exact .bind (hf x) fun y => .bind ih fun ys => .ok _

end

namespace Json

theorem fields_foreign (v : Json) : Foreign v.fields := by
  cases v with
  | obj fields => exact .ok fields
  | _ => exact .error rfl

theorem members_foreign (v : Json) : Foreign v.members := by
  unfold members
  split
  · exact .ok _
  · exact .error rfl

theorem pair_foreign (v : Json) : Foreign v.pair := by
  unfold pair
  split
  · exact .ok _
  all_goals exact .error rfl

theorem entry_foreign (v : Json) (name : String) : Foreign (v.entry name) := by
  unfold entry
  split
  · split
    · exact .ok _
    · exact .error rfl
  all_goals exact .error rfl

theorem integerOf_foreign (s : String) : Foreign (integerOf s) := by
  unfold integerOf
  simp only
  split
  · exact .error rfl
  · split
    · exact .error rfl
    · split
      · exact .error rfl
      · exact .ok _

theorem toInt_foreign (v : Json) : Foreign v.toInt := by
  cases v with
  | str s => exact integerOf_foreign s
  | float x =>
    cases x with
    | finite negative mantissa exponent => exact .ok _
    | _ => exact .error rfl
  | bool b => exact .ok _
  | int n => exact .ok _
  | _ => exact .error rfl

theorem count_foreign (v : Json) : Foreign v.count := toInt_foreign _

end Json

theorem Json.optional_foreign {α : Type} {read : Json → Except Failure α}
    (h : ∀ v, Foreign (read v)) (v : Json) : Foreign (v.optional read) := by
  unfold Json.optional
  split
  · exact (h v).map some
  · exact .ok none

theorem Edit.ofJson_foreign (v : Json) : Foreign (Edit.ofJson v) :=
  .bind (Json.entry_foreign v _) fun range => .bind (Json.pair_foreign range) fun _ =>
    .bind (Json.toInt_foreign _) fun _ => .bind (Json.toInt_foreign _) fun _ => .ok _

theorem Problem.ofJson_foreign (v : Json) : Foreign (Problem.ofJson v) := by
  rw [Problem.ofJson_eq]
  exact .bind (Json.fields_foreign v) fun _ => .bind (Json.count_foreign _) fun _ =>
    .bind (Json.count_foreign _) fun _ => .bind (Json.count_foreign _) fun _ =>
      .bind (Json.optional_foreign Edit.ofJson_foreign _) fun _ => .ok _

theorem FileReport.ofJson_foreign (v : Json) : Foreign (FileReport.ofJson v) :=
  .bind (Json.fields_foreign v) fun _ => .bind (Json.members_foreign _) fun members =>
    .bind (.mapM (Json.optional_foreign Problem.ofJson_foreign) members) fun _ =>
      .bind (Json.count_foreign _) fun _ => .bind (Json.count_foreign _) fun _ => .ok _

theorem Report.ofJson_arr_foreign (items : List Json) : Foreign (Report.ofJson (.arr items)) :=
  .bind (.mapM FileReport.ofJson_foreign _) fun _ => .ok _

/-! ## Reading a report -/

namespace Report

/-- An output that is neither a report nor told as a failure of the linter: it breaks a limit of the
reader, or it is a list of results one of which is of another shape. -/
inductive Escapes (output : String) : Prop where
  | limit {e : Json.SyntaxError} (read : Json.read output = .error e)
      (beyond : e.trouble.isSyntax = false)
  | shape {items : List Json} (read : Json.read output = .ok (.arr items))
      (misshapen : ¬ Json.IsReport items)

theorem unreadable_isLint (e : Json.SyntaxError) :
    (unreadable e).isLint = e.trouble.isSyntax := by
  unfold unreadable
  cases e.trouble <;> rfl

variable {output : String}

theorem parse_eq_ok_iff :
    (∃ r, parse output = .ok r) ↔
      ∃ items, Json.read output = .ok (.arr items) ∧ Json.IsReport items := by
  unfold parse
  cases h : Json.read output with
  | error e => exact ⟨fun ⟨_, h⟩ => (by cases h), fun ⟨_, h, _⟩ => (by cases h)⟩
  | ok v =>
    cases v with
    | arr items =>
      refine ofJson_arr_eq_ok_iff.trans ⟨fun hi => ⟨items, rfl, hi⟩, ?_⟩
      rintro ⟨_, hv, hi⟩
      rwa [Json.arr.inj (Except.ok.inj hv)]
    | _ => exact ⟨fun ⟨_, h⟩ => (by cases h), fun ⟨_, h, _⟩ => (by cases h)⟩

/-- Reading fails in another way than the linter's just if the output escapes. -/
theorem parse_escapes_iff :
    (∃ f, parse output = .error f ∧ f.isLint = false) ↔ Escapes output := by
  constructor
  · rintro ⟨f, hp, hf⟩
    cases h : Json.read output with
    | error e =>
      refine .limit h ?_
      rw [parse, h] at hp
      rw [← unreadable_isLint, Except.error.inj hp, hf]
    | ok v =>
      rw [parse, h] at hp
      cases v with
      | arr items =>
        refine .shape h fun hi => ?_
        obtain ⟨r, hr⟩ := ofJson_arr_eq_ok_iff.mpr hi
        have hp : ofJson (.arr items) = .error f := hp
        rw [hr] at hp
        cases hp
      | _ =>
        -- the failure that says so is one of the linter's
        rw [← Except.error.inj hp] at hf
        cases hf
  · intro he
    cases he with
    | limit h hs =>
      refine ⟨_, by rw [parse, h], ?_⟩
      rw [unreadable_isLint, hs]
    | @shape items h hs =>
      rw [parse, h]
      show ∃ f, ofJson (.arr items) = .error f ∧ f.isLint = false
      cases hr : ofJson (.arr items) with
      | error f => exact ⟨f, rfl, ofJson_arr_foreign items f hr⟩
      | ok r => exact absurd (ofJson_arr_eq_ok_iff.mp ⟨r, hr⟩) hs

end Report

/-! ## Running the linter -/

namespace Engine

/-- The output of a program as a text. -/
def outputText (b : Behaviour) : String := written b.output

/-- Whether a program ends with a code that a report comes with. -/
def Reports (b : Behaviour) : Prop := b.code = 0 ∨ b.code = 1

theorem failureOf_isLint (text : String) : (failureOf text).isLint = true := by
  unfold failureOf
  simp only
  split <;> rfl

theorem outcome_eq_ok_iff {b : Behaviour} {r : Report} :
    outcome b = .ok r ↔ Reports b ∧ Report.parse (outputText b) = .ok r := by
  unfold outcome
  by_cases hc : b.code = 0 ∨ b.code = 1
  · exact ⟨fun h => ⟨hc, by rwa [if_pos hc] at h⟩, fun h => by rw [if_pos hc]; exact h.2⟩
  · refine ⟨fun h => ?_, fun h => absurd h.1 hc⟩
    rw [if_neg hc] at h
    cases h

theorem outcome_escapes_iff {b : Behaviour} :
    (∃ f, outcome b = .error f ∧ f.isLint = false) ↔
      Reports b ∧ Report.Escapes (outputText b) := by
  rw [← Report.parse_escapes_iff]
  unfold outcome
  by_cases hc : b.code = 0 ∨ b.code = 1
  · rw [if_pos hc]
    exact ⟨fun h => ⟨hc, h⟩, fun h => h.2⟩
  · rw [if_neg hc]
    refine ⟨?_, fun h => absurd h.1 hc⟩
    rintro ⟨f, hf, hl⟩
    rw [← Except.error.inj hf, failureOf_isLint] at hl
    cases hl

variable {w : World} {executable : String} {content : Text} {file : Option String} {options : Json}
  {l : Launch}

/-- How a run of a program that was started ends. -/
theorem run_outcome (hl : launch w executable content file options = .ok l)
    (hs : (w.behaviour l.file).refused = none) :
    (run w executable content file options).outcome =
      (Encoding.checkUtf8 content.points).bind fun _ =>
        (outcome (w.behaviour l.file)).map some := by
  have hi : l.input = content := by
    obtain ⟨flags, -, h⟩ := bind_eq_ok hl
    rw [← Except.ok.inj h]
  unfold run
  rw [hl]
  simp only [hs, hi]
  cases Encoding.checkUtf8 content.points with
  | error f => rfl
  | ok _ => rfl

/-- A text that cannot be handed over is no failure of the linter. -/
theorem checkUtf8_foreign (ps : List Point) : Foreign (Encoding.checkUtf8 ps) := by
  unfold Encoding.checkUtf8
  split
  · exact .error rfl
  · exact .ok ()

theorem run_eq_ok_iff (hl : launch w executable content file options = .ok l)
    (hs : (w.behaviour l.file).refused = none) {found : Option Report} :
    (run w executable content file options).outcome = .ok found ↔
      Encoding.checkUtf8 content.points = .ok () ∧ Reports (w.behaviour l.file) ∧
        ∃ r, found = some r ∧ Report.parse (outputText (w.behaviour l.file)) = .ok r := by
  rw [run_outcome hl hs]
  constructor
  · intro h
    obtain ⟨_, hc, h⟩ := bind_eq_ok h
    obtain ⟨r, hr, hf⟩ := map_eq_ok h
    obtain ⟨hcode, hp⟩ := outcome_eq_ok_iff.mp hr
    exact ⟨hc, hcode, r, hf.symm, hp⟩
  · rintro ⟨hc, hcode, r, rfl, hp⟩
    rw [hc, outcome_eq_ok_iff.mpr ⟨hcode, hp⟩]
    rfl

theorem run_escapes_iff (hl : launch w executable content file options = .ok l)
    (hs : (w.behaviour l.file).refused = none) :
    (∃ f, (run w executable content file options).outcome = .error f ∧ f.isLint = false) ↔
      Encoding.checkUtf8 content.points ≠ .ok () ∨
        (Reports (w.behaviour l.file) ∧ Report.Escapes (outputText (w.behaviour l.file))) := by
  rw [run_outcome hl hs, ← outcome_escapes_iff]
  cases hc : Encoding.checkUtf8 content.points with
  | error f =>
    refine ⟨fun _ => .inl fun h => (by cases h), fun _ => ⟨f, rfl, ?_⟩⟩
    exact checkUtf8_foreign _ f hc
  | ok _ =>
    show (∃ f, (outcome (w.behaviour l.file)).map some = .error f ∧ f.isLint = false) ↔ _
    cases ho : outcome (w.behaviour l.file) with
    | ok r =>
      refine ⟨fun ⟨_, h, _⟩ => (by cases h), ?_⟩
      rintro (h | ⟨_, h, _⟩)
      · exact absurd rfl h
      · cases h
    | error e =>
      constructor
      · rintro ⟨f, hf, hl⟩
        exact .inr ⟨e, rfl, by rwa [Except.error.inj hf]⟩
      · rintro (h | ⟨f, hf, hl⟩)
        · exact absurd rfl h
        · exact ⟨e, rfl, by rwa [Except.error.inj hf]⟩

end Engine

theorem CommandLine.Outcome.uncaught_code (o : CommandLine.Outcome) (f : Failure) :
    (o.uncaught f).code ≠ CommandLine.systemError := by
  show CommandLine.userError ≠ CommandLine.systemError
  decide

/-- A failed run of a checked file ends with the code for it just if it is a failure of the linter
that can be shown. -/
theorem CommandLine.lintFile_code_iff {w : World} {executable : String} {d : Document}
    {file : String} {f : Failure}
    (h : (Engine.run w executable d.text (some file) (.obj [])).outcome = .error f)
    (given : String) (json : Bool) (o : CommandLine.Outcome) :
    (CommandLine.lintFile w executable d file given json o).code = CommandLine.systemError ↔
      f.isLint = true ∧
        ∃ shown, CommandLine.printed ("[red]Error:[/red] " ++ f.userMessage file) = .ok shown := by
  unfold CommandLine.lintFile
  simp only [h]
  by_cases hl : f.isLint = true
  · rw [if_pos hl]
    -- an equation of it would be checked by printing the text that it begins with
    delta CommandLine.Outcome.failed
    cases hp : CommandLine.printed ("[red]Error:[/red] " ++ f.userMessage file) with
    | ok shown => exact ⟨fun _ => ⟨hl, shown, rfl⟩, fun _ => rfl⟩
    | error e =>
      refine ⟨fun hc => absurd hc (CommandLine.Outcome.uncaught_code _ e), ?_⟩
      rintro ⟨-, shown, hs⟩
      cases hs
  · rw [if_neg hl]
    exact ⟨fun hc => absurd hc (CommandLine.Outcome.uncaught_code _ f), fun hc => absurd hc.1 hl⟩

namespace Engine

/-- A world in which the linter prints a list with a number in it. -/
def numberPrinted : World :=
  { programs := [("*", { code := 1, output := Text.Utf8.encode "[5]".toList })] }

def numberLinted : Document := { uri := "file:///a.js", text := "a\n" }

theorem numberPrinted_launch :
    launch numberPrinted "/eslint" numberLinted.text (some "/a.js") (.obj []) = .ok {
      command := ["/eslint", "--stdin", "--format", "json", "--stdin-filename", "/a.js"]
      file := "/a.js", folder := none, input := "a\n" } := rfl

end Engine

end LintServer
