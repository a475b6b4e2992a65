/-
  LintServer.Proofs.Sources — where each field of the configuration comes from.

  There are four sources: what was set on the command line, the environment, the nearest file of
  the program's own, and the section in the nearest project file. What each of them gives is what
  it provides, field by field (`Provides`); all of it put together is what the first source
  provides that provides a field at all (`get?_merged`). So a configuration that is loaded stands
  on the first sources (`load_eq_ok_iff`), and whatever else is in the sources has no influence on
  it (`first_source_wins`).
-/

import LintServer.Proofs.Checks
import LintServer.Proofs.Distinct
import LintServer.Proofs.Joining

namespace LintServer.Config

/-! ## What a source provides -/

/-- The text of a file, if it is there and can be read. -/
def textOf? (w : World) (path : String) : Option (List Char) := do
  let entry ← w.file? path
  if entry.unreadable then none else (Encoding.decoded entry.bytes).toOption

/-- The fields that a file holds, if its text can be read and is a document. -/
def holds? (w : World) (path : String) : Option Toml.Fields :=
  (textOf? w path).bind fun text => (Toml.read text).toOption

/-- The fields of an object. -/
def inside? : Json → Option (List (String × Json))
  | .obj fields => some fields
  | _ => none

def fromOverrides? (overrides : List (String × Json)) (name : String) : Option Json :=
  (Table.get? overrides name).filter (!·.isNull)

/-- The value of a field's variable: a number for the delay, a text for the others. -/
def fromVariable? (w : World) (name : String) : Option Json := do
  let (source, _) ← variableFields.find? (·.2 == name)
  let value ← Table.get? w.environment source
  if name = "exit_delay" then (Json.floatOf? value).map .float else some (.str value)

def fromOwnFile? (w : World) (start : Option String) (name : String) : Option Json := do
  let fields ← holds? w (← (find? w ownFile start).toOption.join)
  Table.get? (Toml.fieldsToJson fields) name

def fromProjectFile? (w : World) (start : Option String) (name : String) : Option Json := do
  let fields ← holds? w (← (find? w projectFile start).toOption.join)
  let tools ← inside? (← Table.get? (Toml.fieldsToJson fields) "tool")
  let own ← inside? (← Table.get? tools "eslint-bridge")
  Table.get? own name

/-- The sources, from the one that wins over all others. -/
def sources (w : World) (overrides : List (String × Json)) (start : Option String) :
    List (String → Option Json) :=
  [fromOverrides? overrides, fromVariable? w, fromOwnFile? w start, fromProjectFile? w start]

/-- The value of the first source that provides a field. -/
def provided (w : World) (overrides : List (String × Json)) (start : Option String)
    (name : String) : Option Json :=
  (sources w overrides start).findSome? (· name)

/-! ## What the sources give is what they provide -/

/-- Fields, each once, that are those a source provides. -/
structure Provides (source : String → Option Json) (fields : List (String × Json)) : Prop where
  distinct : (Table.keys fields).Nodup
  known : ∀ name ∈ Table.keys fields, name ∈ fieldNames
  lookup : ∀ name ∈ fieldNames, (Table.get? fields name).filter (!·.isNull) = source name

/-- In fields that come once, the last one of a name is the one of that name. -/
theorem last_of_distinct {fields : List (String × Json)} (h : (Table.keys fields).Nodup)
    (name : String) :
    ((fields.filter (!·.2.isNull)).reverse.find? (·.1 == name)).map (·.2) =
      (Table.get? fields name).filter (!·.isNull) := by
  induction fields with
  | nil => rfl
  | cons f fields ih =>
    obtain ⟨k, v⟩ := f
    obtain ⟨hk, hfields⟩ := List.nodup_cons.mp h
    have hrest := ih hfields
    by_cases hname : k = name
    · subst hname
      rw [Table.get?_eq_none_iff.mpr hk] at hrest
      have hfind : (fields.filter (!·.2.isNull)).reverse.find? (·.1 == k) = none := by
        simpa using hrest
      cases hv : v.isNull <;> simp [hv, Table.get?, List.find?_append, hfind, Option.filter]
    · cases hv : v.isNull <;> simp [hv, Table.get?, List.find?_append, hname, hrest]

theorem get?_merged {tables : List (List (String × Json))} {given : List (String → Option Json)}
    (h : List.Forall₂ Provides given tables) {name : String} (hname : name ∈ fieldNames) :
    Table.get? (merged tables) name = given.reverse.findSome? (· name) := by
  rw [merged, Table.get?_ofPairs, List.findRev?_eq_find?_reverse]
  induction h with
  | nil => rfl
  | @cons source table given tables hsource _ ih =>
    have hlast : Option.map (·.2) (((table.filter (!·.2.isNull)).reverse).find? (·.1 == name)) =
        source name := (last_of_distinct hsource.distinct name).trans (hsource.lookup name hname)
    rw [List.flatten_cons, List.filter_append, List.reverse_append, List.find?_append,
      List.reverse_cons, List.findSome?_append, ← ih, Option.map_or, hlast]
    simp

theorem known_merged {tables : List (List (String × Json))} {given : List (String → Option Json)}
    (h : List.Forall₂ Provides given tables) :
    (Table.keys (merged tables)).all fieldNames.contains = true := by
  rw [List.all_eq_true]
  intro name hname
  obtain ⟨f, hf, rfl⟩ := List.mem_map.mp (Table.mem_keys_ofPairs hname)
  obtain ⟨table, htable, hft⟩ := List.mem_flatten.mp (List.mem_filter.mp hf).1
  obtain ⟨source, -, hsource⟩ := exists_of_forall₂ h table htable
  simpa using hsource.known f.1 (List.mem_map_of_mem hft)

/-! ## The sources one by one -/

theorem provides_known {fields : List (String × Json)} {source : String → Option Json}
    (distinct : (Table.keys fields).Nodup)
    (lookup : ∀ name ∈ fieldNames, (Table.get? fields name).filter (!·.isNull) = source name) :
    Provides source (known fields) where
  distinct := by
    refine distinct.sublist ?_
    exact List.filter_sublist.map _
  known := by
    intro name hname
    obtain ⟨f, hf, rfl⟩ := List.mem_map.mp hname
    simpa using (List.mem_filter.mp hf).2
  lookup := by
    intro name hname
    rw [known, Table.get?_filter fieldNames.contains, if_pos (by simpa using hname)]
    exact lookup name hname

theorem provides_nothing {source : String → Option Json} (h : ∀ name, source name = none) :
    Provides source [] where
  distinct := List.nodup_nil
  known := by simp [Table.keys]
  lookup := by
    intro name _
    rw [h name]
    rfl

theorem provides_overrides {overrides : List (String × Json)}
    (h : (Table.keys overrides).Nodup) :
    Provides (fromOverrides? overrides) (known overrides) :=
  provides_known h fun _ _ => rfl

/-! ## Files -/

variable {w : World} {path : String} {text : List Char}

theorem readFile_of_text (h : textOf? w path = some text) : readFile w path = readFields text := by
  unfold textOf? at h
  obtain ⟨entry, hentry, h⟩ := Option.bind_eq_some_iff.mp h
  split at h
  · cases h
  rename_i hu
  unfold readFile
  rw [hentry]
  simp only [hu]
  cases hd : Encoding.decoded entry.bytes with
  | error f =>
    rw [hd] at h
    cases h
  | ok found =>
    rw [hd] at h
    obtain rfl := Option.some.inj h
    rfl

/-- A file without a text that can be read counts as empty, or cannot be decoded. -/
theorem readFile_of_no_text (h : textOf? w path = none) :
    readFile w path = .ok none ∨
      ∃ bytes f, Encoding.decoded bytes = .error f ∧ readFile w path = .error f := by
  unfold textOf? at h
  unfold readFile
  cases hentry : w.file? path with
  | none => exact .inl rfl
  | some entry =>
    simp only [hentry, Option.bind_eq_bind, Option.bind_some] at h ⊢
    split at h
    · rename_i hu
      rw [if_pos hu]
      exact .inl rfl
    · rename_i hu
      rw [if_neg hu]
      cases hd : Encoding.decoded entry.bytes with
      | error f => exact .inr ⟨_, f, hd, rfl⟩
      | ok found =>
        rw [hd] at h
        cases h

theorem readFields_eq_ok {found : Option Toml.Fields} (h : readFields text = .ok found) :
    found = (Toml.read text).toOption := by
  unfold readFields at h
  split at h
  · rename_i fields hfields
    rw [hfields]
    exact (Except.ok.inj h).symm
  · rename_i hbad
    rw [hbad]
    exact (Except.ok.inj h).symm
  · cases h
  · cases h

theorem readFile_eq_ok {found : Option Toml.Fields} (h : readFile w path = .ok found) :
    found = holds? w path := by
  unfold holds?
  cases htext : textOf? w path with
  | none =>
    rcases readFile_of_no_text htext with hread | ⟨_, f, -, hread⟩ <;> rw [hread] at h
    · exact (Except.ok.inj h).symm
    · cases h
  | some text =>
    rw [readFile_of_text htext] at h
    exact readFields_eq_ok h

theorem distinct_of_holds {fields : Toml.Fields} (h : holds? w path = some fields) :
    Toml.Distinct (.table fields) := by
  obtain ⟨text, -, h⟩ := Option.bind_eq_some_iff.mp h
  cases hread : Toml.read text with
  | error e =>
    rw [hread] at h
    cases h
  | ok found =>
    rw [hread] at h
    obtain rfl := Option.some.inj h
    exact Toml.distinct_of_read hread

/-- The known fields of a table in a document. -/
theorem provides_table {fields : Toml.Fields} (h : Toml.Distinct (.table fields)) :
    Provides (Table.get? (Toml.fieldsToJson fields)) (known (Toml.fieldsToJson fields)) := by
  refine provides_known ?_ fun name _ => ?_
  · rw [Toml.keys_fieldsToJson]
    exact h.keys
  · rw [Toml.get?_fieldsToJson]
    cases Table.get? fields name with
    | none => rfl
    | some v => simp [Option.filter, Toml.isNull_toJson]

variable {start : Option String}

theorem provides_ownFile {fields : List (String × Json)} (h : ofOwnFile w start = .ok fields) :
    Provides (fromOwnFile? w start) fields := by
  unfold ofOwnFile at h
  unfold fromOwnFile?
  obtain ⟨place?, hfind, h⟩ := bind_eq_ok h
  rw [hfind]
  cases place? with
  | none =>
    obtain rfl := Except.ok.inj h
    exact provides_nothing fun _ => rfl
  | some path =>
    obtain ⟨found, hfound, h⟩ := bind_eq_ok h
    obtain rfl := Except.ok.inj h
    obtain rfl := readFile_eq_ok hfound
    cases hholds : holds? w path with
    | none =>
      refine provides_nothing fun name => ?_
      simp [Except.toOption, hholds]
    | some fields =>
      have htable := provides_table (distinct_of_holds hholds)
      simpa [Except.toOption, hholds] using htable

/-- A table that is read out of another one: it is in there, or it counts as empty. -/
theorem section_eq_ok {fields : Toml.Fields} (h : Toml.Distinct (.table fields)) {use name : String}
    {found : List (String × Json)}
    (hs : section? use (Toml.fieldsToJson fields) name = .ok found) :
    ∃ t : Toml.Fields, Toml.Distinct (.table t) ∧ found = Toml.fieldsToJson t ∧
      ((Table.get? (Toml.fieldsToJson fields) name).bind inside?).getD [] = found := by
  unfold section? at hs
  rw [Toml.get?_fieldsToJson] at hs ⊢
  cases hv : Table.get? fields name with
  | none =>
    rw [hv] at hs
    obtain rfl := Except.ok.inj hs
    exact ⟨[], .empty, rfl, rfl⟩
  | some v =>
    rw [hv] at hs
    simp only [Option.map_some] at hs ⊢
    cases v with
    | table t =>
      obtain rfl := Except.ok.inj hs
      exact ⟨t, h.get? hv, rfl, rfl⟩
    | _ => cases hs

theorem provides_projectFile {fields : List (String × Json)}
    (h : ofProjectFile w start = .ok fields) : Provides (fromProjectFile? w start) fields := by
  unfold ofProjectFile at h
  obtain ⟨place?, hfind, h⟩ := bind_eq_ok h
  have hplace : (find? w projectFile start).toOption.join = place? := by
    rw [hfind]
    rfl
  cases place? with
  | none =>
    obtain rfl := Except.ok.inj h
    refine provides_nothing fun _ => ?_
    simp [fromProjectFile?, hplace]
  | some path =>
    obtain ⟨found, hfound, h⟩ := bind_eq_ok h
    obtain rfl := readFile_eq_ok hfound
    cases hholds : holds? w path with
    | none =>
      rw [hholds] at h
      obtain rfl := Except.ok.inj h
      refine provides_nothing fun name => ?_
      simp [fromProjectFile?, hplace, hholds]
    | some document =>
      rw [hholds] at h
      obtain ⟨tools, htools, h⟩ := bind_eq_ok h
      obtain ⟨own, hown, h⟩ := bind_eq_ok h
      obtain rfl := Except.ok.inj h
      obtain ⟨t, ht, rfl, htools⟩ := section_eq_ok (distinct_of_holds hholds) htools
      obtain ⟨u, hu, rfl, hown⟩ := section_eq_ok ht hown
      have hsource : fromProjectFile? w start = Table.get? (Toml.fieldsToJson u) := by
        funext name
        simp only [fromProjectFile?, hplace, hholds, Option.bind_eq_bind, Option.bind_some,
          ← Option.bind_assoc]
        cases htool : (Table.get? (Toml.fieldsToJson document) "tool").bind inside? with
        | none =>
          rw [htool] at htools
          rw [← hown, ← htools]
          rfl
        | some tools =>
          rw [htool] at htools
          obtain rfl : tools = Toml.fieldsToJson t := htools
          rw [Option.bind_some]
          cases hin : (Table.get? (Toml.fieldsToJson t) "eslint-bridge").bind inside? with
          | none =>
            rw [hin] at hown
            rw [← hown]
            rfl
          | some own =>
            rw [hin] at hown
            obtain rfl : own = Toml.fieldsToJson u := hown
            rfl
      rw [hsource]
      exact provides_table hu

/-- The fields whose variables are set. -/
theorem get?_set (named : List (String × String)) (distinct : (named.map (·.2)).Nodup)
    (environment : List (String × String)) (name : String) :
    Table.get? (named.filterMap fun (source, name) =>
        (Table.get? environment source).map (name, ·)) name =
      (named.find? (·.2 == name)).bind fun v => Table.get? environment v.1 := by
  induction named with
  | nil => rfl
  | cons v named ih =>
    obtain ⟨source, field⟩ := v
    obtain ⟨hfield, hrest⟩ := List.nodup_cons.mp distinct
    have hnext := ih hrest
    rw [List.filterMap_cons, List.find?_cons]
    by_cases hname : field = name
    · subst hname
      have hnone : named.find? (·.2 == field) = none := by
        rw [List.find?_eq_none]
        intro v hv heq
        exact hfield (List.mem_map.mpr ⟨v, hv, beq_iff_eq.mp heq⟩)
      rw [hnone] at hnext
      cases hvalue : Table.get? environment source with
      | none => simpa [hvalue] using hnext
      | some value => simp [Table.get?, hvalue]
    · cases hvalue : Table.get? environment source with
      | none => simpa [hvalue, beq_false_of_ne hname] using hnext
      | some value => simpa [hvalue, beq_false_of_ne hname, Table.get?, hname] using hnext

/-- Values that are read under the names they have. -/
theorem get?_mapM {α β : Type} {read : String → α → Except Failure β} {values : List (String × α)}
    {fields : List (String × β)}
    (h : values.mapM (fun (name, value) => (read name value).map (name, ·)) = .ok fields) :
    Table.keys fields = Table.keys values ∧ ∀ name, Table.get? fields name =
      (Table.get? values name).bind fun value => (read name value).toOption := by
  have hall := mapM_eq_ok_iff.mp h
  clear h
  induction hall with
  | nil => exact ⟨rfl, fun _ => rfl⟩
  | @cons value field values fields hone _ ih =>
    obtain ⟨key, value⟩ := value
    obtain ⟨b, hb, rfl⟩ := map_eq_ok hone
    refine ⟨?_, fun name => ?_⟩
    · rw [Table.keys, List.map_cons, ← Table.keys, ih.1]
      rfl
    · rw [Table.get?, Table.get?]
      by_cases hname : key = name
      · subst hname
        rw [if_pos rfl, if_pos rfl, Option.bind_some, hb]
        rfl
      · rw [if_neg hname, if_neg hname]
        exact ih.2 name

theorem keys_set (named environment : List (String × String)) :
    (Table.keys (named.filterMap fun (source, name) =>
      (Table.get? environment source).map (name, ·))).Sublist (named.map (·.2)) := by
  induction named with
  | nil => exact .slnil
  | cons v named ih =>
    obtain ⟨source, field⟩ := v
    rw [List.filterMap_cons, List.map_cons]
    cases hvalue : Table.get? environment source with
    | none => simpa [hvalue] using ih.cons field
    | some value => simpa [hvalue, Table.keys] using ih

theorem provides_environment {fields : List (String × Json)} (h : ofEnvironment w = .ok fields) :
    Provides (fromVariable? w) fields := by
  obtain ⟨hkeys, hget⟩ := get?_mapM h
  have hsub := keys_set variableFields w.environment
  rw [← hkeys] at hsub
  have hdistinct : (variableFields.map (·.2)).Nodup := by decide
  refine ⟨hdistinct.sublist hsub, fun name hname => hsub.subset hname, fun name _ => ?_⟩
  rw [hget, get?_set variableFields hdistinct, fromVariable?]
  simp only [Option.bind_eq_bind]
  cases variableFields.find? (·.2 == name) with
  | none => rfl
  | some v =>
    simp only [Option.bind_some]
    cases Table.get? w.environment v.1 with
    | none => rfl
    | some value =>
      simp only [Option.bind_some, ofVariable]
      split
      · cases Json.floatOf? value <;> rfl
      · rfl

/-! ## The configuration that is loaded -/

variable {overrides : List (String × Json)} {c : Config}

/-- Only the known fields are looked at. -/
theorem Stands.congr {given given' : String → Option Json}
    (h : ∀ name ∈ fieldNames, given name = given' name) (hc : Stands given c) :
    Stands given' c where
  logLevel := h "log_level" (by decide) ▸ hc.logLevel
  logFile := h "log_file" (by decide) ▸ hc.logFile
  exitDelay := h "exit_delay" (by decide) ▸ hc.exitDelay
  languages := h "languages" (by decide) ▸ hc.languages
  probeName := h "probe_filename" (by decide) ▸ hc.probeName
  eslintPath := h "eslint_path" (by decide) ▸ hc.eslintPath

/-- The fields of all sources, as each of them can be read. -/
theorem gathered {project own environment : List (String × Json)}
    (hdistinct : (Table.keys overrides).Nodup) (hproject : ofProjectFile w start = .ok project)
    (hown : ofOwnFile w start = .ok own) (henvironment : ofEnvironment w = .ok environment) :
    List.Forall₂ Provides (sources w overrides start).reverse
      [project, own, environment, known overrides] :=
  .cons (provides_projectFile hproject) <| .cons (provides_ownFile hown) <|
    .cons (provides_environment henvironment) <| .cons (provides_overrides hdistinct) .nil

theorem get?_gathered {tables : List (List (String × Json))}
    (h : List.Forall₂ Provides (sources w overrides start).reverse tables) {name : String}
    (hname : name ∈ fieldNames) :
    Table.get? (merged tables) name = provided w overrides start name := by
  rw [get?_merged h hname, List.reverse_reverse]
  rfl

/-- A configuration is loaded exactly if all sources can be read, it has the fields that they
provide, and these pass their checks. -/
theorem load_eq_ok_iff (hdistinct : (Table.keys overrides).Nodup) :
    load w overrides start = .ok c ↔
      ((∃ project, ofProjectFile w start = .ok project) ∧ (∃ own, ofOwnFile w start = .ok own) ∧
        ∃ environment, ofEnvironment w = .ok environment) ∧
      Stands (provided w overrides start) c ∧ Sound c := by
  have hfields : ∀ {project own environment}, ofProjectFile w start = .ok project →
      ofOwnFile w start = .ok own → ofEnvironment w = .ok environment →
      (ofFields (merged [project, own, environment, known overrides]) = .ok c ↔
        Stands (provided w overrides start) c ∧ Sound c) := by
    intro project own environment hproject hown henvironment
    have hall := gathered hdistinct hproject hown henvironment
    have hget : ∀ name ∈ fieldNames,
        Table.get? (merged [project, own, environment, known overrides]) name =
          provided w overrides start name := fun _ hname => get?_gathered hall hname
    rw [ofFields_eq_ok_iff (known_merged hall)]
    exact and_congr_left' ⟨Stands.congr hget, Stands.congr fun name hname => (hget name hname).symm⟩
  constructor
  · intro h
    obtain ⟨project, hproject, h⟩ := bind_eq_ok h
    obtain ⟨own, hown, h⟩ := bind_eq_ok h
    obtain ⟨environment, henvironment, h⟩ := bind_eq_ok h
    exact ⟨⟨⟨project, hproject⟩, ⟨own, hown⟩, environment, henvironment⟩,
      (hfields hproject hown henvironment).mp h⟩
  · rintro ⟨⟨⟨project, hproject⟩, ⟨own, hown⟩, environment, henvironment⟩, hc⟩
    exact bind_eq_ok_iff.mpr ⟨project, hproject, bind_eq_ok_iff.mpr ⟨own, hown,
      bind_eq_ok_iff.mpr ⟨environment, henvironment,
        (hfields hproject hown henvironment).mpr hc⟩⟩⟩

/-! ## What has no influence -/

/-- Up to the first source that provides a field, both lists of sources provide the same. -/
inductive AgreeToFirst (name : String) :
    List (String → Option Json) → List (String → Option Json) → Prop
  | nil : AgreeToFirst name [] []
  | first {source source' : String → Option Json} {rest rest' : List (String → Option Json)}
      {v : Json} (h : source name = some v) (h' : source' name = some v) :
      AgreeToFirst name (source :: rest) (source' :: rest')
  | next {source source' : String → Option Json} {rest rest' : List (String → Option Json)}
      (h : source name = none) (h' : source' name = none) (hrest : AgreeToFirst name rest rest') :
      AgreeToFirst name (source :: rest) (source' :: rest')

theorem AgreeToFirst.findSome? {name : String} {given given' : List (String → Option Json)}
    (h : AgreeToFirst name given given') :
    given.findSome? (· name) = given'.findSome? (· name) := by
  induction h with
  | nil => rfl
  | first h h' => rw [List.findSome?_cons, List.findSome?_cons, h, h']
  | next h h' _ ih => rw [List.findSome?_cons, List.findSome?_cons, h, h', ih]

/-- What is in a file that cannot be read, or is no document, counts as empty. -/
def Void (entry : FileEntry) : Prop :=
  entry.unreadable = true ∨
    ∃ text, Encoding.decoded entry.bytes = .ok text ∧ Toml.read text = .error .malformed

/-- Two worlds in which a configuration finds the same, up to what is in void files. -/
structure SameButVoid (w w' : World) : Prop where
  cwd : w.cwd = w'.cwd
  followed : w.followed = w'.followed
  refusal : w.refusal = w'.refusal
  environment : w.environment = w'.environment
  files : ∀ path, w.file? path = w'.file? path ∨
    ∃ entry entry', w.file? path = some entry ∧ Void entry ∧
      w'.file? path = some entry' ∧ Void entry'

theorem readFile_of_void {entry : FileEntry} (h : w.file? path = some entry)
    (hvoid : Void entry) : readFile w path = .ok none := by
  unfold readFile
  rw [h]
  rcases hvoid with hu | ⟨text, htext, hread⟩
  · simp only [hu, if_true]
  · simp only
    split
    · rfl
    · rw [htext]
      show readFields text = _
      rw [readFields, hread]

namespace SameButVoid

variable {w' : World}

theorem find? (h : SameButVoid w w') (name : String) :
    Config.find? w name start = Config.find? w' name start := by
  have hfile : w.isFile = w'.isFile := by
    funext path
    rw [World.isFile, World.isFile, h.refusal]
    rcases h.files path with heq | ⟨entry, entry', he, -, he', -⟩
    · rw [heq]
    · rw [he, he']
      rfl
  rw [Config.find?, Config.find?, h.cwd, h.followed, hfile]

theorem readFile (h : SameButVoid w w') (path : String) :
    Config.readFile w path = Config.readFile w' path := by
  rcases h.files path with heq | ⟨entry, entry', he, hvoid, he', hvoid'⟩
  · rw [Config.readFile, Config.readFile, heq]
  · rw [readFile_of_void he hvoid, readFile_of_void he' hvoid']

/-- What is in a void file has no influence on what is loaded, nor on whether it is. -/
theorem load (h : SameButVoid w w') : load w overrides start = load w' overrides start := by
  simp only [Config.load, ofProjectFile, ofOwnFile, ofEnvironment, h.find?, h.readFile,
    h.environment]

end SameButVoid

/-- Each field of a configuration is that of the first source that provides it, taken as fields of
its kind are. So a source has no influence on a field that an earlier one provides, names that are
no fields have none at all, and neither has what is in a void file. -/
theorem first_source_wins (hdistinct : (Table.keys overrides).Nodup)
    (h : load w overrides start = .ok c) :
    Stands (provided w overrides start) c ∧
    (∀ w' overrides' start' c', (Table.keys overrides').Nodup →
      load w' overrides' start' = .ok c' →
      (∀ name ∈ fieldNames,
        AgreeToFirst name (sources w overrides start) (sources w' overrides' start')) → c' = c) ∧
    ∀ w', SameButVoid w w' → load w' overrides start = .ok c := by
  have hc := ((load_eq_ok_iff hdistinct).mp h).2.1
  refine ⟨hc, ?_, fun w' hsame => hsame.load ▸ h⟩
  intro w' overrides' start' c' hdistinct' h' hagree
  have hc' := ((load_eq_ok_iff hdistinct').mp h').2.1
  exact (hc'.congr fun name hname => (hagree name hname).findSome?.symm).unique hc

/-- A file that holds a text. -/
def fileOf (text : String) : FileEntry := { bytes := Text.Utf8.encode text.toList }

/-- A world in which the project, the nearer file and the environment each provide a field that
another one provides as well. -/
def layered : World where
  cwd := "/p/a"
  files := [
    ("/p/pyproject.toml", fileOf "[tool.eslint-bridge]\nlog_level = \"ERROR\"\nexit_delay = 3\n"),
    ("/p/a/.eslintbridgerc", fileOf "log_level = \"debug\"\nlanguages = []\nother = 1\n")]
  environment := [("ESLINT_BRIDGE_LANGUAGES", "a, b")]

theorem layered_first_source_wins : ∃ c, load layered [("log_level", .null)] none = .ok c ∧
    Stands (provided layered [("log_level", .null)] none) c ∧
    c.logLevel = "DEBUG" ∧ c.languages.ids = ["a", "b"] ∧ c.exitDelay = .whole 3 := by
  have hfields : (load layered [("log_level", .null)] none).toOption.map
      (fun c => (c.logLevel, c.languages.ids, c.exitDelay)) =
        some ("DEBUG", ["a", "b"], .whole 3) := by decide +kernel
  cases h : load layered [("log_level", .null)] none with
  | error f =>
    rw [h] at hfields
    cases hfields
  | ok c =>
    rw [h] at hfields
    simp only [Except.toOption, Option.map_some, Option.some.injEq, Prod.mk.injEq] at hfields
    exact ⟨c, rfl, (first_source_wins (by decide) h).1, hfields⟩

end LintServer.Config
