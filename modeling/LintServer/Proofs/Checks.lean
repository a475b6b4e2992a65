/-
  LintServer.Proofs.Checks — the checks that each field of the configuration goes through.

  A field that was given is taken in one way, which is that of its type (`IsLevel`, `IsDelay`,
  `IsLanguages`), and stands if it passes its check: the four `_eq_ok_iff` say which values do.
  A check that fails says so with a configuration problem, but for the languages, which are gone
  through before it is known that they can be (`languagesOf_escapes_iff`).
-/

import LintServer.CommandLine.Basic
import LintServer.Proofs.EngineFailures

namespace LintServer

/-- Whether a step fails in a way that is no configuration problem. -/
def Escapes {α : Type} (x : Except Failure α) : Prop :=
  ∃ f, x = .error f ∧ CommandLine.isConfigProblem f = false

namespace Escapes

variable {α β : Type}

theorem ok_iff {a : α} : Escapes (.ok a) ↔ False := by
  constructor
  · rintro ⟨f, h, -⟩
    cases h
  · exact False.elim

theorem error_iff {f : Failure} :
    Escapes (.error f : Except Failure α) ↔ CommandLine.isConfigProblem f = false := by
  constructor
  · rintro ⟨g, h, hg⟩
    rwa [Except.error.inj h]
  · exact fun h => ⟨f, rfl, h⟩

instance : (x : Except Failure α) → Decidable (Escapes x)
  | .ok _ => decidable_of_iff False ok_iff.symm
  | .error f => decidable_of_iff (CommandLine.isConfigProblem f = false) error_iff.symm

theorem bind_iff {x : Except Failure α} {g : α → Except Failure β} :
    Escapes (x >>= g) ↔ Escapes x ∨ ∃ a, x = .ok a ∧ Escapes (g a) := by
  cases x with
  | error f =>
    show Escapes (.error f : Except Failure β) ↔ _
    rw [error_iff, error_iff]
    constructor
    · exact .inl
    · rintro (h | ⟨a, h, -⟩)
      · exact h
      · cases h
  | ok a =>
    show Escapes (g a) ↔ _
    rw [ok_iff]
    constructor
    · exact fun h => .inr ⟨a, rfl, h⟩
    · rintro (h | ⟨b, h, hb⟩)
      · exact h.elim
      · rwa [Except.ok.inj h]

theorem map_iff {x : Except Failure α} {g : α → β} : Escapes (x.map g) ↔ Escapes x := by
  cases x with
  | error f =>
    show Escapes (.error f : Except Failure β) ↔ _
    rw [error_iff, error_iff]
  | ok a =>
    show Escapes (.ok (g a) : Except Failure β) ↔ _
    rw [ok_iff, ok_iff]

theorem not_mapM {f : α → Except Failure β} {xs : List α} (h : ∀ x ∈ xs, ¬ Escapes (f x)) :
    ¬ Escapes (xs.mapM f) := by
  induction xs with
  | nil => exact ok_iff.mp
  | cons x xs ih =>
    obtain ⟨hx, hxs⟩ := List.forall_mem_cons.mp h
    rw [List.mapM_cons]
    rintro hall
    rcases bind_iff.mp hall with hall | ⟨y, -, hall⟩
    · exact hx hall
    rcases bind_iff.mp hall with hall | ⟨ys, -, hall⟩
    · exact ih hxs hall
    · exact ok_iff.mp hall

end Escapes

namespace Config

/-! ## How values are taken -/

/-- A level is a text, in upper case. -/
inductive IsLevel : Json → String → Prop
  | str (s : String) : IsLevel (.str s) (Text.capitals s)

/-- A delay is a number, as it is. -/
inductive IsDelay : Json → Delay → Prop
  | int (n : Int) : IsDelay (.int n) (.whole n)
  | float (x : Double) : IsDelay (.float x) (.fraction x)

/-- The parts of a text between commas, without the blanks around them and without empty ones. -/
def parts (s : String) : List String := ((Text.split ',' s).map Text.trim).filter (!·.isEmpty)

/-- Languages are the parts of a text, or the texts of a list, or a table, whose names count. -/
inductive IsLanguages : Json → Languages → Prop
  | str (s : String) : IsLanguages (.str s) (.list (parts s))
  | arr (ids : List String) : IsLanguages (.arr (ids.map .str)) (.list ids)
  | obj (fields : List (String × Json)) : IsLanguages (.obj fields) (.table fields)

/-- The name of the probe is a text, as it is. -/
inductive IsProbe : Json → String → Prop
  | str (s : String) : IsProbe (.str s) s

variable {v : Json}

/-! ## What passes the checks -/

theorem levelOf_eq_ok_iff {level : String} :
    levelOf v = .ok level ↔ IsLevel v level ∧ level ∈ levels := by
  constructor
  · intro h
    cases v with
    | str s =>
      simp only [levelOf] at h
      split at h
      · rename_i hlevel
        obtain rfl := Except.ok.inj h
        exact ⟨.str s, by simpa using hlevel⟩
      · cases h
    | _ => cases h
  · rintro ⟨⟨s⟩, hlevel⟩
    simp [levelOf, hlevel]

/-- The delay is looked at once it is known to be a number. -/
theorem delayOf_of_isDelay {delay : Delay} (h : IsDelay v delay) :
    delayOf v =
      if delay.isNegative then refused "exit_delay must not be negative" else .ok delay := by
  cases h <;> rfl

theorem delayOf_eq_ok_iff {delay : Delay} :
    delayOf v = .ok delay ↔ IsDelay v delay ∧ delay.isNegative = false := by
  have hcheck : ∀ {d : Delay}, IsDelay v d → delayOf v = .ok delay →
      d = delay ∧ d.isNegative = false := by
    intro d hd h
    rw [delayOf_of_isDelay hd] at h
    split at h
    · cases h
    · rename_i hneg
      exact ⟨Except.ok.inj h, by simpa using hneg⟩
  constructor
  · intro h
    cases v with
    | int n =>
      obtain ⟨rfl, hneg⟩ := hcheck (.int n) h
      exact ⟨.int n, hneg⟩
    | float x =>
      obtain ⟨rfl, hneg⟩ := hcheck (.float x) h
      exact ⟨.float x, hneg⟩
    | _ => cases h
  · rintro ⟨hd, hneg⟩
    rw [delayOf_of_isDelay hd, hneg]
    rfl

theorem ids?_str_cons (s : String) (vs : List Json) :
    ids? (.str s :: vs) = if s = "" then none else (ids? vs).map (s :: ·) := by
  unfold ids?
  rw [List.mapM_cons]
  by_cases hs : s = ""
  · subst hs
    rfl
  · simp only [String.isEmpty_iff, hs, if_false]
    cases vs.mapM (m := Option) _ <;> rfl

theorem ids?_eq_some_iff {vs : List Json} {ids : List String} :
    ids? vs = some ids ↔ vs = ids.map .str ∧ "" ∉ ids := by
  induction vs generalizing ids with
  | nil => cases ids <;> simp [ids?]
  | cons v vs ih =>
    cases v with
    | str s =>
      rw [ids?_str_cons]
      by_cases hs : s = ""
      · subst hs
        cases ids <;> simp
        rintro rfl
        simp
      · rw [if_neg hs, Option.map_eq_some_iff]
        constructor
        · rintro ⟨rest, hrest, rfl⟩
          obtain ⟨rfl, hne⟩ := ih.mp hrest
          simp [hne, Ne.symm hs]
        · rintro ⟨heq, hne⟩
          cases ids with
          | nil => cases heq
          | cons t rest =>
            obtain ⟨hst, rfl⟩ := List.cons.inj heq
            obtain rfl := Json.str.inj hst
            exact ⟨rest, ih.mpr ⟨rfl, fun hmem => hne (List.mem_cons_of_mem _ hmem)⟩, rfl⟩
    | _ => 
      constructor
      · intro h
        cases h
      · rintro ⟨heq, -⟩
        cases ids <;> cases heq

theorem notMem_parts (s : String) : "" ∉ parts s := by
  intro h
  simp [parts] at h

theorem languagesOf_str (s : String) : languagesOf (.str s) =
    if (parts s).isEmpty then noLanguages else .ok (.list (parts s)) := rfl

theorem languagesOf_arr {items : List Json} (h : items ≠ []) : languagesOf (.arr items) =
    match ids? items with
    | none => noLanguages
    | some ids => .ok (.list ids) := by
  have hgiven : (Json.arr items).isTruthy = true := by simpa [Json.isTruthy] using h
  simp only [languagesOf, hgiven, Bool.not_true, Bool.false_eq_true, if_false, Json.members,
    Json.members?, bind, Except.bind]
  cases ids? items <;> rfl

theorem languagesOf_obj {fields : List (String × Json)} (h : fields ≠ []) :
    languagesOf (.obj fields) =
      match ids? (fields.map fun f => .str f.1) with
      | none => noLanguages
      | some _ => .ok (.table fields) := by
  have hgiven : (Json.obj fields).isTruthy = true := by simpa [Json.isTruthy] using h
  simp only [languagesOf, hgiven, Bool.not_true, Bool.false_eq_true, if_false, Json.members,
    Json.members?, bind, Except.bind]
  cases ids? (fields.map fun f => .str f.1) <;> rfl

theorem map_str_inj {xs ys : List String} (h : xs.map Json.str = ys.map .str) : xs = ys :=
  List.map_injective_iff.mpr (fun _ _ => Json.str.inj) h

/-- What cannot be gone through is only found out once it counts as given. -/
theorem languagesOf_of_no_members (h : v.members? = none) : languagesOf v =
    if v.isTruthy then .error (.saying .wrongType ("'" ++ v.typeName ++ "' object is not iterable"))
    else noLanguages := by
  have hstr : ∀ s, v ≠ .str s := by
    rintro s rfl
    cases h
  have hmembers : v.members =
      .error (.saying .wrongType ("'" ++ v.typeName ++ "' object is not iterable")) := by
    rw [Json.members, h]
    rfl
  rw [languagesOf]
  · rw [hmembers]
    cases v.isTruthy <;> rfl
  · exact hstr

theorem isLanguages_of_languagesOf {languages : Languages} (h : languagesOf v = .ok languages) :
    IsLanguages v languages ∧ languages.ids ≠ [] ∧ "" ∉ languages.ids := by
  cases hm : v.members? with
  | none =>
    rw [languagesOf_of_no_members hm] at h
    split at h <;> cases h
  | some members =>
    cases v with
    | str s =>
      rw [languagesOf_str] at h
      split at h
      · cases h
      · rename_i hne
        obtain rfl := Except.ok.inj h
        exact ⟨.str s, by simpa [Languages.ids] using hne, notMem_parts s⟩
    | arr items =>
      have hitems : items ≠ [] := by
        rintro rfl
        cases h
      rw [languagesOf_arr hitems] at h
      split at h
      · cases h
      · rename_i ids hids
        obtain rfl := Except.ok.inj h
        obtain ⟨rfl, hno⟩ := ids?_eq_some_iff.mp hids
        exact ⟨.arr ids, by simpa [Languages.ids] using hitems, hno⟩
    | obj fields =>
      have hfields : fields ≠ [] := by
        rintro rfl
        cases h
      rw [languagesOf_obj hfields] at h
      split at h
      · cases h
      · rename_i ids hids
        obtain rfl := Except.ok.inj h
        obtain ⟨hids, hno⟩ := ids?_eq_some_iff.mp hids
        have hkeys : Table.keys fields = ids := by
          refine map_str_inj ?_
          rw [← hids, Table.keys, List.map_map]
          rfl
        refine ⟨.obj fields, ?_, ?_⟩
        · simpa [Languages.ids, Table.keys] using hfields
        · rwa [Languages.ids, hkeys]
    | _ => cases hm

theorem languagesOf_of_isLanguages {languages : Languages} (h : IsLanguages v languages)
    (hne : languages.ids ≠ []) (hno : "" ∉ languages.ids) : languagesOf v = .ok languages := by
  cases h with
  | str s => rw [languagesOf_str, if_neg (by simpa [Languages.ids] using hne)]
  | arr ids =>
    have hread : ids? (ids.map .str) = some ids := ids?_eq_some_iff.mpr ⟨rfl, hno⟩
    rw [languagesOf_arr (by simpa [Languages.ids] using hne), hread]
  | obj fields =>
    have hread : ids? (fields.map fun f => .str f.1) = some (Table.keys fields) := by
      refine ids?_eq_some_iff.mpr ⟨?_, hno⟩
      rw [Table.keys, List.map_map]
      rfl
    rw [languagesOf_obj (by simpa [Languages.ids, Table.keys] using hne), hread]

theorem languagesOf_eq_ok_iff {languages : Languages} :
    languagesOf v = .ok languages ↔
      IsLanguages v languages ∧ languages.ids ≠ [] ∧ "" ∉ languages.ids :=
  ⟨isLanguages_of_languagesOf, fun ⟨h, hne, hno⟩ => languagesOf_of_isLanguages h hne hno⟩

theorem probeOf_eq_ok_iff {name : String} :
    probeOf v = .ok name ↔ IsProbe v name ∧ name.endsWith ".js" = true := by
  constructor
  · intro h
    cases v with
    | str s =>
      simp only [probeOf] at h
      split at h
      · cases h
      split at h
      · rename_i hends
        obtain rfl := Except.ok.inj h
        exact ⟨.str s, hends⟩
      · cases h
    | _ => cases h
  · rintro ⟨hname, hends⟩
    cases hname
    have hne : name ≠ "" := by
      rintro rfl
      exact absurd hends (by decide)
    simp [probeOf, hne, hends]

/-! ## What fails a check -/

theorem not_escapes_refused {α : Type} (why : String) :
    ¬ Escapes (refused why : Except Failure α) := by
  rw [refused, Escapes.error_iff]
  show ¬ true = false
  decide

theorem not_escapes_levelOf : ¬ Escapes (levelOf v) := by
  unfold levelOf
  split
  · simp only
    split
    · exact Escapes.ok_iff.mp
    · exact not_escapes_refused _
  · exact not_escapes_refused _

theorem not_escapes_delayOf : ¬ Escapes (delayOf v) := by
  have hcheck : ∀ {d}, IsDelay v d → ¬ Escapes (delayOf v) := by
    intro d hd
    rw [delayOf_of_isDelay hd]
    split
    · exact not_escapes_refused _
    · exact Escapes.ok_iff.mp
  cases v with
  | int n => exact hcheck (.int n)
  | float x => exact hcheck (.float x)
  | _ => exact not_escapes_refused _

theorem not_escapes_probeOf : ¬ Escapes (probeOf v) := by
  unfold probeOf
  split
  · split
    · exact not_escapes_refused _
    split
    · exact Escapes.ok_iff.mp
    · exact not_escapes_refused _
  · exact not_escapes_refused _

/-- The languages alone can fail in another way: by a value that counts as given and cannot be gone
through, which is a number, a truth, a date or a time. -/
theorem languagesOf_escapes_iff :
    Escapes (languagesOf v) ↔ v.isTruthy = true ∧ v.members? = none := by
  have hno : ¬ Escapes (noLanguages : Except Failure Languages) := not_escapes_refused _
  cases hm : v.members? with
  | none =>
    rw [languagesOf_of_no_members hm]
    by_cases hv : v.isTruthy = true
    · rw [if_pos hv, Escapes.error_iff]
      exact ⟨fun _ => ⟨hv, rfl⟩, fun _ => rfl⟩
    · rw [if_neg hv]
      exact ⟨fun h => absurd h hno, fun h => absurd h.1 hv⟩
  | some members =>
    have hfails : ¬ Escapes (languagesOf v) := by
      cases v with
      | str s =>
        rw [languagesOf_str]
        split
        · exact hno
        · exact Escapes.ok_iff.mp
      | arr items =>
        by_cases hitems : items = []
        · rw [hitems]
          exact hno
        rw [languagesOf_arr hitems]
        split
        · exact hno
        · exact Escapes.ok_iff.mp
      | obj fields =>
        by_cases hfields : fields = []
        · rw [hfields]
          exact hno
        rw [languagesOf_obj hfields]
        split
        · exact hno
        · exact Escapes.ok_iff.mp
      | _ => cases hm
    exact ⟨fun h => absurd h hfails, fun h => by cases h.2⟩

/-! ## The fields together -/

/-- What a field is by default if it was not given, and otherwise as `Takes` says. -/
def Settles {α : Type} (default : α) (Takes : Json → α → Prop) (given : Option Json) (x : α) :
    Prop :=
  match given with
  | none => x = default
  | some v => Takes v x

/-- A field is taken and then checked; the default passes the check. -/
theorem given_eq_ok_iff {α : Type} {fields : List (String × Json)} {name : String} {default x : α}
    {read : Json → Except Failure α} {Takes : Json → α → Prop} {Passes : α → Prop}
    (hread : ∀ v x, read v = .ok x ↔ Takes v x ∧ Passes x) (hdefault : Passes default) :
    given fields name default read = .ok x ↔
      Settles default Takes (Table.get? fields name) x ∧ Passes x := by
  unfold given Settles
  cases Table.get? fields name with
  | none =>
    constructor
    · intro h
      obtain rfl := Except.ok.inj h
      exact ⟨rfl, hdefault⟩
    · rintro ⟨rfl, -⟩
      rfl
  | some v => exact hread v x

theorem escapes_given_iff {α : Type} {fields : List (String × Json)} {name : String} {default : α}
    {read : Json → Except Failure α} : Escapes (given fields name default read) ↔
      ∃ v, Table.get? fields name = some v ∧ Escapes (read v) := by
  unfold given
  cases Table.get? fields name with
  | none => simp [Escapes.ok_iff]
  | some v => simp

/-- A configuration has the fields that are given, and the defaults for the others. -/
structure Stands (given : String → Option Json) (c : Config) : Prop where
  logLevel : Settles "INFO" IsLevel (given "log_level") c.logLevel
  logFile : Settles .null Eq (given "log_file") c.logFile
  exitDelay : Settles .second IsDelay (given "exit_delay") c.exitDelay
  languages : Settles .default IsLanguages (given "languages") c.languages
  probeName : Settles "___test___.js" IsProbe (given "probe_filename") c.probeName
  eslintPath : Settles .null Eq (given "eslint_path") c.eslintPath

/-- The fields of a configuration pass their checks. -/
structure Sound (c : Config) : Prop where
  logLevel : c.logLevel ∈ levels
  exitDelay : c.exitDelay.isNegative = false
  languages : c.languages.ids ≠ [] ∧ "" ∉ c.languages.ids
  probeName : c.probeName.endsWith ".js" = true

/-- Every default passes its own check. -/
theorem sound_default : Sound {} where
  logLevel := by decide
  exitDelay := by decide +kernel
  languages := by decide
  probeName := by decide +kernel

theorem settles_field {fields : List (String × Json)} {name : String} {x : Json} :
    Settles .null Eq (Table.get? fields name) x ↔ Json.field fields name = x := by
  unfold Settles Json.field
  cases Table.get? fields name with
  | none => exact eq_comm
  | some v => exact Iff.rfl

variable {fields : List (String × Json)}

theorem logLevel_eq_ok_iff {level : String} : given fields "log_level" "INFO" levelOf = .ok level ↔
    Settles "INFO" IsLevel (Table.get? fields "log_level") level ∧ level ∈ levels :=
  given_eq_ok_iff (fun _ _ => levelOf_eq_ok_iff) sound_default.logLevel

theorem exitDelay_eq_ok_iff {delay : Delay} :
    given fields "exit_delay" .second delayOf = .ok delay ↔
      Settles .second IsDelay (Table.get? fields "exit_delay") delay ∧ delay.isNegative = false :=
  given_eq_ok_iff (fun _ _ => delayOf_eq_ok_iff) sound_default.exitDelay

theorem languages_eq_ok_iff {languages : Languages} :
    given fields "languages" .default languagesOf = .ok languages ↔
      Settles .default IsLanguages (Table.get? fields "languages") languages ∧
        languages.ids ≠ [] ∧ "" ∉ languages.ids :=
  given_eq_ok_iff (fun _ _ => languagesOf_eq_ok_iff) sound_default.languages

theorem probeName_eq_ok_iff {name : String} :
    given fields "probe_filename" "___test___.js" probeOf = .ok name ↔
      Settles "___test___.js" IsProbe (Table.get? fields "probe_filename") name ∧
        name.endsWith ".js" = true :=
  given_eq_ok_iff (fun _ _ => probeOf_eq_ok_iff) sound_default.probeName

/-- A configuration is made of known fields exactly if it has these fields and passes the checks. -/
theorem ofFields_eq_ok_iff (hknown : (Table.keys fields).all fieldNames.contains = true)
    {c : Config} : ofFields fields = .ok c ↔ Stands (Table.get? fields) c ∧ Sound c := by
  unfold ofFields
  rw [hknown, if_neg (by decide)]
  simp only [bind_eq_ok_iff, logLevel_eq_ok_iff, exitDelay_eq_ok_iff, languages_eq_ok_iff,
    probeName_eq_ok_iff]
  constructor
  · rintro ⟨level, ⟨hl, hl'⟩, delay, ⟨hd, hd'⟩, languages, ⟨hs, hs'⟩, probe, ⟨hp, hp'⟩, h⟩
    obtain rfl := Except.ok.inj h
    exact ⟨⟨hl, settles_field.mpr rfl, hd, hs, hp, settles_field.mpr rfl⟩, ⟨hl', hd', hs', hp'⟩⟩
  · rintro ⟨hstands, hsound⟩
    refine ⟨_, ⟨hstands.logLevel, hsound.logLevel⟩, _, ⟨hstands.exitDelay, hsound.exitDelay⟩,
      _, ⟨hstands.languages, hsound.languages⟩, _, ⟨hstands.probeName, hsound.probeName⟩, ?_⟩
    rw [settles_field.mp hstands.logFile, settles_field.mp hstands.eslintPath]
    rfl

/-- Known fields fail in another way than by a configuration problem exactly if the languages that
are given do, once the level and the delay have passed. -/
theorem escapes_ofFields_iff (hknown : (Table.keys fields).all fieldNames.contains = true) :
    Escapes (ofFields fields) ↔
      (∃ level ∈ levels, Settles "INFO" IsLevel (Table.get? fields "log_level") level) ∧
      (∃ delay : Delay, delay.isNegative = false ∧
        Settles .second IsDelay (Table.get? fields "exit_delay") delay) ∧
      ∃ v, Table.get? fields "languages" = some v ∧ v.isTruthy = true ∧ v.members? = none := by
  have hlevel : ¬ Escapes (given fields "log_level" "INFO" levelOf) := by
    rw [escapes_given_iff]
    exact fun ⟨_, _, h⟩ => not_escapes_levelOf h
  have hdelay : ¬ Escapes (given fields "exit_delay" .second delayOf) := by
    rw [escapes_given_iff]
    exact fun ⟨_, _, h⟩ => not_escapes_delayOf h
  have hprobe : ¬ Escapes (given fields "probe_filename" "___test___.js" probeOf) := by
    rw [escapes_given_iff]
    exact fun ⟨_, _, h⟩ => not_escapes_probeOf h
  have hend : ∀ c : Config, ¬ Escapes (pure c : Except Failure Config) := fun c => Escapes.ok_iff.mp
  unfold ofFields
  rw [hknown, if_neg (by decide)]
  simp only [Escapes.bind_iff, hlevel, hdelay, hprobe, hend, logLevel_eq_ok_iff,
    exitDelay_eq_ok_iff, false_or, and_false, exists_false, or_false, escapes_given_iff, languagesOf_escapes_iff]
  constructor
  · rintro ⟨level, ⟨hl, hl'⟩, delay, ⟨hd, hd'⟩, hv⟩
    exact ⟨⟨level, hl', hl⟩, ⟨delay, hd', hd⟩, hv⟩
  · rintro ⟨⟨level, hl', hl⟩, ⟨delay, hd', hd⟩, hv⟩
    exact ⟨level, ⟨hl, hl'⟩, delay, ⟨hd, hd'⟩, hv⟩

/-! ## Only one value is taken -/

theorem Settles.unique {α : Type} {default x y : α} {Takes : Json → α → Prop} {given : Option Json}
    (hunique : ∀ v x y, Takes v x → Takes v y → x = y) (hx : Settles default Takes given x)
    (hy : Settles default Takes given y) : x = y := by
  cases given with
  | none => exact (show x = default from hx).trans (show y = default from hy).symm
  | some v => exact hunique v x y hx hy

theorem IsLanguages.unique {x y : Languages} (hx : IsLanguages v x) (hy : IsLanguages v y) :
    x = y := by
  cases hx with
  | str s =>
    cases hy
    rfl
  | arr ids =>
    generalize hv : Json.arr (ids.map .str) = w at hy
    cases hy with
    | arr other => rw [map_str_inj (Json.arr.inj hv)]
    | _ => cases hv
  | obj fields =>
    cases hy
    rfl

/-- The given fields make one configuration at most. -/
theorem Stands.unique {given : String → Option Json} {c d : Config} (hc : Stands given c)
    (hd : Stands given d) : c = d := by
  have hlevel := hc.logLevel.unique (fun _ _ _ h h' => by cases h; cases h'; rfl) hd.logLevel
  have hfile := hc.logFile.unique (fun _ _ _ h h' => h.symm.trans h') hd.logFile
  have hdelay := hc.exitDelay.unique
    (fun _ _ _ h h' => by cases h <;> cases h' <;> rfl) hd.exitDelay
  have hlanguages := hc.languages.unique (fun _ _ _ h h' => h.unique h') hd.languages
  have hprobe := hc.probeName.unique (fun _ _ _ h h' => by cases h; cases h'; rfl) hd.probeName
  have hpath := hc.eslintPath.unique (fun _ _ _ h h' => h.symm.trans h') hd.eslintPath
  cases c
  cases d
  simp_all

end Config

end LintServer
