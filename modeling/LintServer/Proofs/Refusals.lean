/-
  LintServer.Proofs.Refusals — how loading a configuration can end.

  A configuration that is loaded has passed its checks, and a problem with it is told as one, which
  ends the program with a word to the user. Four things go past that: a search for a file that
  fails, a file whose values are nested too deeply, a section of the project file that is no table,
  and languages that count as given but cannot be gone through. Loading fails in another way
  exactly then
  (`escapes_load_iff`). The checks themselves let two things pass: a delay that is no number, which
  is not less than anything, and languages that are a table.
-/

import LintServer.Proofs.Sources

namespace LintServer

/-- A length that is not negative is at least none at all, unless it is no number. -/
theorem Delay.zero_atMost {d : Delay} (h : d.isNegative = false) :
    d = .fraction .nan ∨ zero.atMost d = true := by
  cases d with
  | whole n =>
    right
    have hn : 0 ≤ n := by simpa [isNegative] using h
    have hticks : 0 ≤ n * (Double.ticksOfOne : Int) := Int.mul_nonneg hn (Int.natCast_nonneg _)
    simp only [zero, atMost, ticks?, Int.zero_mul, decide_eq_true_eq]
    exact hticks
  | fraction x =>
    cases x with
    | nan => exact .inl rfl
    | infinite negative =>
      cases negative with
      | true => cases h
      | false => exact .inr rfl
    | finite negative mantissa exponent =>
      right
      obtain ⟨t, ht⟩ : ∃ t, (Double.finite negative mantissa exponent).ticks? = some t := ⟨_, rfl⟩
      have hzero : (Double.finite false 0 Double.leastExponent).ticks? = some 0 := by
        simp [Double.ticks?]
      simp only [isNegative, Double.less, Double.zero, ht, hzero, decide_eq_false_iff_not] at h
      simp only [zero, atMost, ticks?, Int.zero_mul, ht, decide_eq_true_eq]
      omega

namespace Config

variable {w : World} {overrides : List (String × Json)} {start : Option String}

/-! ## Sources that cannot be read -/

theorem isConfigProblem_of_decoded {bytes : List Nat} {f : Failure}
    (h : Encoding.decoded bytes = .error f) : CommandLine.isConfigProblem f = true := by
  unfold Encoding.decoded at h
  split at h
  · obtain rfl := Except.error.inj h
    rfl
  · cases h

theorem escapes_readFields_iff {text : List Char} :
    Escapes (readFields text) ↔ Toml.read text = .error .tooDeep := by
  unfold readFields
  split
  · rename_i h
    rw [h, Escapes.ok_iff]
    exact ⟨False.elim, fun h => (by cases h)⟩
  · rename_i h
    rw [h, Escapes.ok_iff]
    exact ⟨False.elim, fun h => (by cases h)⟩
  · rename_i h
    rw [h, Escapes.error_iff]
    exact ⟨fun h => (by cases h), fun h => (by cases h)⟩
  · rename_i h
    rw [h, Escapes.error_iff]
    exact ⟨fun _ => rfl, fun _ => rfl⟩

theorem escapes_readFile_iff {path : String} : Escapes (readFile w path) ↔
    ∃ text, textOf? w path = some text ∧ Toml.read text = .error .tooDeep := by
  cases htext : textOf? w path with
  | some text =>
    rw [readFile_of_text htext, escapes_readFields_iff]
    simp
  | none =>
    rcases readFile_of_no_text htext with hread | ⟨bytes, f, hf, hread⟩ <;> rw [hread]
    · simp [Escapes.ok_iff]
    · simp [Escapes.error_iff, isConfigProblem_of_decoded hf]

theorem escapes_ofOwnFile_iff : Escapes (ofOwnFile w start) ↔
    Escapes (find? w ownFile start) ∨
      ∃ path text, find? w ownFile start = .ok (some path) ∧ textOf? w path = some text ∧
        Toml.read text = .error .tooDeep := by
  unfold ofOwnFile
  rw [Escapes.bind_iff]
  refine or_congr_right ⟨?_, ?_⟩
  · rintro ⟨place?, hfind, h⟩
    cases place? with
    | none => exact (Escapes.ok_iff.mp h).elim
    | some path =>
      rcases Escapes.bind_iff.mp h with h | ⟨_, -, h⟩
      · obtain ⟨text, htext, h⟩ := escapes_readFile_iff.mp h
        exact ⟨path, text, hfind, htext, h⟩
      · exact (Escapes.ok_iff.mp h).elim
  · rintro ⟨path, text, hfind, htext, h⟩
    exact ⟨_, hfind, Escapes.bind_iff.mpr (.inl (escapes_readFile_iff.mpr ⟨text, htext, h⟩))⟩

theorem escapes_section_iff {use name : String} {fields : List (String × Json)} :
    Escapes (section? use fields name) ↔
      ∃ v, Table.get? fields name = some v ∧ inside? v = none := by
  unfold section?
  cases Table.get? fields name with
  | none => simp [Escapes.ok_iff]
  | some v =>
    cases v with
    | obj entries => simp [Json.fieldsTo, inside?, Escapes.ok_iff]
    | _ => simp [Json.fieldsTo, inside?, Json.wrong, Escapes.error_iff]; rfl

/-- The section of the configuration, or what it stands in, is there and is no table. -/
inductive Misplaced (fields : List (String × Json)) : Prop
  | tool {v : Json} (h : Table.get? fields "tool" = some v) (hv : inside? v = none)
  | own {tools : List (String × Json)} {v : Json} (h : Table.get? fields "tool" = some (.obj tools))
      (hown : Table.get? tools "eslint-bridge" = some v) (hv : inside? v = none)

theorem section_eq_ok_iff {use name : String} {fields found : List (String × Json)} :
    (section? use fields name = .ok found) ↔
      Table.get? fields name = none ∧ found = [] ∨ Table.get? fields name = some (.obj found) := by
  unfold section?
  cases Table.get? fields name with
  | none => simp [eq_comm]
  | some v => cases v <;> simp [Json.fieldsTo, Json.wrong]

theorem escapes_sections_iff {fields : List (String × Json)} :
    Escapes (do
      let tools ← section? "get" fields "tool"
      return known (← section? "items" tools "eslint-bridge")) ↔ Misplaced fields := by
  simp only [Escapes.bind_iff, escapes_section_iff, pure, Except.pure, Escapes.ok_iff, and_false,
    exists_false, or_false]
  constructor
  · rintro (⟨v, hv, hno⟩ | ⟨tools, htools, v, hv, hno⟩)
    · exact .tool hv hno
    · rcases section_eq_ok_iff.mp htools with ⟨-, rfl⟩ | htools
      · cases hv
      · exact .own htools hv hno
  · rintro (⟨hv, hno⟩ | ⟨htools, hv, hno⟩)
    · exact .inl ⟨_, hv, hno⟩
    · exact .inr ⟨_, section_eq_ok_iff.mpr (.inr htools), _, hv, hno⟩

theorem readFile_eq_some_iff {path : String} {fields : Toml.Fields} :
    readFile w path = .ok (some fields) ↔
      ∃ text, textOf? w path = some text ∧ Toml.read text = .ok fields := by
  constructor
  · intro h
    have hholds := readFile_eq_ok h
    obtain ⟨text, htext, hread⟩ := Option.bind_eq_some_iff.mp hholds.symm
    refine ⟨text, htext, ?_⟩
    cases hr : Toml.read text with
    | error e =>
      rw [hr] at hread
      cases hread
    | ok found =>
      rw [hr] at hread
      rw [Option.some.inj hread]
  · rintro ⟨text, htext, hread⟩
    rw [readFile_of_text htext, readFields, hread]

theorem escapes_ofProjectFile_iff : Escapes (ofProjectFile w start) ↔
    Escapes (find? w projectFile start) ∨
      ∃ path text, find? w projectFile start = .ok (some path) ∧ textOf? w path = some text ∧
        (Toml.read text = .error .tooDeep ∨
          ∃ fields, Toml.read text = .ok fields ∧ Misplaced (Toml.fieldsToJson fields)) := by
  unfold ofProjectFile
  rw [Escapes.bind_iff]
  refine or_congr_right ⟨?_, ?_⟩
  · rintro ⟨place?, hfind, h⟩
    cases place? with
    | none => exact (Escapes.ok_iff.mp h).elim
    | some path =>
      rcases Escapes.bind_iff.mp h with h | ⟨found, hfound, h⟩
      · obtain ⟨text, htext, h⟩ := escapes_readFile_iff.mp h
        exact ⟨path, text, hfind, htext, .inl h⟩
      · cases found with
        | none => exact (Escapes.ok_iff.mp h).elim
        | some fields =>
          obtain ⟨text, htext, hread⟩ := readFile_eq_some_iff.mp hfound
          exact ⟨path, text, hfind, htext, .inr ⟨fields, hread, escapes_sections_iff.mp h⟩⟩
  · rintro ⟨path, text, hfind, htext, h⟩
    refine ⟨_, hfind, Escapes.bind_iff.mpr ?_⟩
    rcases h with h | ⟨fields, hread, h⟩
    · exact .inl (escapes_readFile_iff.mpr ⟨text, htext, h⟩)
    · exact .inr ⟨some fields, readFile_eq_some_iff.mpr ⟨text, htext, hread⟩,
        escapes_sections_iff.mpr h⟩

theorem not_escapes_ofVariable (name value : String) : ¬ Escapes (ofVariable name value) := by
  unfold ofVariable
  split
  · split
    · exact Escapes.ok_iff.mp
    · exact not_escapes_refused _
  · exact Escapes.ok_iff.mp

theorem not_escapes_ofEnvironment : ¬ Escapes (ofEnvironment w) :=
  Escapes.not_mapM fun v _ h => not_escapes_ofVariable v.1 v.2 (Escapes.map_iff.mp h)

/-! ## Loading -/

/-- How loading can fail in another way than by a configuration problem: by the project file or the
search for it, by the nearer file or its search once the project's is read, or by the languages once
all sources are read and the level and the delay have passed. -/
inductive Trips (w : World) (overrides : List (String × Json)) (start : Option String) : Prop
  | projectSearch (h : Escapes (find? w projectFile start))
  | projectFile {path : String} {text : List Char}
      (hfind : find? w projectFile start = .ok (some path)) (htext : textOf? w path = some text)
      (h : Toml.read text = .error .tooDeep ∨
        ∃ fields, Toml.read text = .ok fields ∧ Misplaced (Toml.fieldsToJson fields))
  | ownSearch {project : List (String × Json)} (hproject : ofProjectFile w start = .ok project)
      (h : Escapes (find? w ownFile start))
  | ownFile {project : List (String × Json)} {path : String} {text : List Char}
      (hproject : ofProjectFile w start = .ok project)
      (hfind : find? w ownFile start = .ok (some path)) (htext : textOf? w path = some text) (h : Toml.read text = .error .tooDeep)
  | languages {project own environment : List (String × Json)} {level : String} {delay : Delay}
      {v : Json} (hproject : ofProjectFile w start = .ok project)
      (hown : ofOwnFile w start = .ok own) (henvironment : ofEnvironment w = .ok environment)
      (hlevel : Settles "INFO" IsLevel (provided w overrides start "log_level") level)
      (hpasses : level ∈ levels)
      (hdelay : Settles .second IsDelay (provided w overrides start "exit_delay") delay)
      (hnegative : delay.isNegative = false)
      (hv : provided w overrides start "languages" = some v) (hgiven : v.isTruthy = true)
      (hmembers : v.members? = none)

theorem escapes_load_iff (hdistinct : (Table.keys overrides).Nodup) :
    Escapes (load w overrides start) ↔ Trips w overrides start := by
  have hfields : ∀ {project own environment}, ofProjectFile w start = .ok project →
      ofOwnFile w start = .ok own → ofEnvironment w = .ok environment →
      (Escapes (ofFields (merged [project, own, environment, known overrides])) ↔
        (∃ level ∈ levels, Settles "INFO" IsLevel (provided w overrides start "log_level") level) ∧
        (∃ delay : Delay, delay.isNegative = false ∧
          Settles .second IsDelay (provided w overrides start "exit_delay") delay) ∧
        ∃ v, provided w overrides start "languages" = some v ∧ v.isTruthy = true ∧
          v.members? = none) := by
    intro project own environment hproject hown henvironment
    have hall := gathered hdistinct hproject hown henvironment
    rw [escapes_ofFields_iff (known_merged hall), get?_gathered hall (by decide),
      get?_gathered hall (by decide), get?_gathered hall (by decide)]
  constructor
  · intro h
    rcases Escapes.bind_iff.mp h with h | ⟨project, hproject, h⟩
    · rcases escapes_ofProjectFile_iff.mp h with h | ⟨path, text, hfind, htext, h⟩
      · exact .projectSearch h
      · exact .projectFile hfind htext h
    rcases Escapes.bind_iff.mp h with h | ⟨own, hown, h⟩
    · rcases escapes_ofOwnFile_iff.mp h with h | ⟨path, text, hfind, htext, h⟩
      · exact .ownSearch hproject h
      · exact .ownFile hproject hfind htext h
    rcases Escapes.bind_iff.mp h with h | ⟨environment, henvironment, h⟩
    · exact absurd h not_escapes_ofEnvironment
    obtain ⟨⟨level, hpasses, hlevel⟩, ⟨delay, hnegative, hdelay⟩, v, hv, hgiven, hmembers⟩ :=
      (hfields hproject hown henvironment).mp h
    exact .languages hproject hown henvironment hlevel hpasses hdelay hnegative hv hgiven hmembers
  · have ofProject : Escapes (ofProjectFile w start) → Escapes (load w overrides start) :=
      fun h => Escapes.bind_iff.mpr (.inl h)
    have ofOwn : ∀ {project}, ofProjectFile w start = .ok project →
        Escapes (ofOwnFile w start) → Escapes (load w overrides start) := fun hproject h =>
      Escapes.bind_iff.mpr (.inr ⟨_, hproject, Escapes.bind_iff.mpr (.inl h)⟩)
    rintro (h | ⟨hfind, htext, h⟩ | ⟨hproject, h⟩ | ⟨hproject, hfind, htext, h⟩ |
      ⟨hproject, hown, henvironment, hlevel, hpasses, hdelay, hnegative, hv, hgiven, hmembers⟩)
    · exact ofProject (escapes_ofProjectFile_iff.mpr (.inl h))
    · exact ofProject (escapes_ofProjectFile_iff.mpr (.inr ⟨_, _, hfind, htext, h⟩))
    · exact ofOwn hproject (escapes_ofOwnFile_iff.mpr (.inl h))
    · exact ofOwn hproject (escapes_ofOwnFile_iff.mpr (.inr ⟨_, _, hfind, htext, h⟩))
    · refine Escapes.bind_iff.mpr (.inr ⟨_, hproject, Escapes.bind_iff.mpr (.inr ⟨_, hown,
        Escapes.bind_iff.mpr (.inr ⟨_, henvironment, ?_⟩)⟩)⟩)
      exact (hfields hproject hown henvironment).mpr
        ⟨⟨_, hpasses, hlevel⟩, ⟨_, hnegative, hdelay⟩, _, hv, hgiven, hmembers⟩

/-- What a configuration that is loaded keeps to. Two things pass that no field should be: a delay
that is no number, and languages that are a table. -/
structure Checked (given : String → Option Json) (c : Config) : Prop where
  logLevel : c.logLevel ∈ levels
  exitDelay : Delay.zero.atMost c.exitDelay = true ∨
    c.exitDelay = .fraction .nan ∧ given "exit_delay" = some (.float .nan)
  languages : c.languages.ids ≠ [] ∧ "" ∉ c.languages.ids
  shape : (∃ ids, c.languages = .list ids) ∨
    ∃ fields, c.languages = .table fields ∧ given "languages" = some (.obj fields)
  probeName : c.probeName.endsWith ".js" = true

theorem checked_of_sound {given : String → Option Json} {c : Config} (h : Stands given c)
    (hsound : Sound c) : Checked given c where
  logLevel := hsound.logLevel
  exitDelay := by
    rcases Delay.zero_atMost hsound.exitDelay with hnan | hdelay
    · refine .inr ⟨hnan, ?_⟩
      have hgiven := h.exitDelay
      rw [hnan] at hgiven
      cases hv : given "exit_delay" with
      | none =>
        rw [hv] at hgiven
        exact absurd (show Delay.fraction .nan = .second from hgiven) (by decide +kernel)
      | some v =>
        rw [hv] at hgiven
        cases (show IsDelay v (.fraction .nan) from hgiven)
        rfl
    · exact .inl hdelay
  languages := hsound.languages
  shape := by
    have hgiven := h.languages
    cases hl : c.languages with
    | list ids => exact .inl ⟨ids, rfl⟩
    | table fields =>
      rw [hl] at hgiven
      cases hv : given "languages" with
      | none =>
        rw [hv] at hgiven
        cases (show Languages.table fields = .default from hgiven)
      | some v =>
        rw [hv] at hgiven
        cases (show IsLanguages v (.table fields) from hgiven)
        exact .inr ⟨fields, rfl, rfl⟩
  probeName := hsound.probeName

/-- A configuration that is loaded is checked, and what keeps it from being loaded is told as a
problem with it, unless loading trips. -/
theorem configuration_is_checked (hdistinct : (Table.keys overrides).Nodup) :
    (∀ c, load w overrides start = .ok c → Checked (provided w overrides start) c) ∧
      (Escapes (load w overrides start) ↔ Trips w overrides start) := by
  refine ⟨fun c h => ?_, escapes_load_iff hdistinct⟩
  obtain ⟨-, hstands, hsound⟩ := (load_eq_ok_iff hdistinct).mp h
  exact checked_of_sound hstands hsound

/-- A world with nothing but a configuration file. -/
def withOwnFile (text : String) : World where
  files := [("/work/.eslintbridgerc", fileOf text)]

theorem number_of_languages_trips : Trips (withOwnFile "languages = 5\n") [] none :=
  (configuration_is_checked (by decide)).2.mp (by decide +kernel)

/-- Languages that are a number end loading in another way than by a configuration problem; a delay
that is no number and languages that are a table are taken. -/
theorem unfit_values_pass :
    Escapes (load (withOwnFile "languages = 5\n") [] none) ∧
    (load (withOwnFile "exit_delay = nan\n") [] none).toOption.map (·.exitDelay) =
      some (.fraction .nan) ∧
    (load (withOwnFile "languages = \x7bjs = 1\x7d\n") [] none).toOption.map
      (fun c => c.languages.toJson.typeName) = some "dict" := by
  decide +kernel

end Config

end LintServer
