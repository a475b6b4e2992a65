/-
  LintServer.Proofs.Installs — which executable a document gets.

  The places of a search are the two below the folder that was configured, the install of each
  folder from the document's own, or the workspace's, up to the top, and the path that was
  configured. The first of them that is a file is decided on, else what the search path leads to;
  and what is decided on has to be executable, for nothing is looked at behind it. Nor is anything
  behind a place at which the system refuses to look.
  - `places`, `candidates_eq`: the places, read off what is given.
  - `resolve_eq`: the search ends at the first place that settles it.
  - `first_place_decides`: what comes of it, in every case.
  - `resolve_of_unaddressed`: a document of a file needs an address that can be read, even where its
    folders do not matter.
-/

import Mathlib
import LintServer.Library.Search
import LintServer.Proofs.Addresses
import LintServer.Proofs.Folders

namespace LintServer.Search

open LintServer.Path

/-! ## Places -/

/-- A text, or nothing, as the editor sends it. -/
def sent : Option String → Json
  | none => .null
  | some text => .str text

/-- A search with paths that may be given or not. -/
def ofTexts (nodePath workspaceRoot eslintPath : Option String) : Search :=
  { nodePath := sent nodePath, workspaceRoot, eslintPath := sent eslintPath }

/-- The path that is given; an empty text gives none. -/
def given? (text : Option String) : Option Path := (text.filter (!·.isEmpty)).map .ofText

/-- The folder of a document, or else of its workspace. -/
def startOf? (workspaceRoot : Option String) (d : Document) : Option Path :=
  if d.isFile then d.path.toOption.map fun text => (Path.ofText text).parent
  else given? workspaceRoot

/-- Where modules of a folder keep the executable. -/
def installIn (folder : Path) : Path := folder.within ["node_modules", ".bin", "eslint"]

/-- The places below the folder that was configured. -/
def configured (nodePath : Option String) : List Path :=
  (given? nodePath).toList.flatMap fun folder =>
    [folder.within [".bin", "eslint"], installIn folder]

/-- The folders whose installs are looked at, the deepest first. -/
def foldersNear (workspaceRoot : Option String) (d : Document) : List Path :=
  (startOf? workspaceRoot d).toList.flatMap ascent

/-- All places for a document, in order. -/
def places (nodePath workspaceRoot eslintPath : Option String) (d : Document) : List Path :=
  configured nodePath ++ (foldersNear workspaceRoot d).map installIn ++ (given? eslintPath).toList

theorem inModules_eq (folder : Path) : inModules folder = installIn folder := by
  have h1 : IsName "node_modules" := ⟨by decide, by decide, by decide⟩
  have h2 : IsName ".bin" := ⟨by decide, by decide, by decide⟩
  have h3 : IsName executableName := ⟨by decide, by decide, by decide⟩
  rw [inModules, div_of_isName h1, div_of_isName h2, div_of_isName h3, ← within_append,
    ← within_append]
  rfl

theorem inBin_eq (folder : Path) :
    folder / ".bin" / executableName = folder.within [".bin", "eslint"] := by
  have h1 : IsName ".bin" := ⟨by decide, by decide, by decide⟩
  have h2 : IsName executableName := ⟨by decide, by decide, by decide⟩
  rw [div_of_isName h1, div_of_isName h2, ← within_append]
  rfl

/-- A path is looked at if one is given. -/
theorem sent_cases (text : Option String) :
    (given? text = none ∧ (sent text).isTruthy = false) ∨
      ∃ p, given? text = some p ∧ (sent text).isTruthy = true ∧ pathOf (sent text) = .ok p := by
  cases text with
  | none => exact .inl ⟨rfl, rfl⟩
  | some text =>
    by_cases he : text = ""
    · exact .inl ⟨by simp [given?, he], by simp [sent, Json.isTruthy, he]⟩
    · exact .inr ⟨.ofText text, by simp [given?, he], by simp [sent, Json.isTruthy, he], rfl⟩

variable {w : World} {nodePath workspaceRoot eslintPath : Option String} {d : Document}

/-- A document that is no file, or whose address can be read. -/
def Addressed (d : Document) : Prop := d.isFile = true → ∃ path, d.path = .ok path

theorem addressed_of_isOk (h : d.path.isOk = true) : Addressed d := by
  intro _
  cases hp : d.path with
  | error f =>
    rw [hp] at h
    cases h
  | ok path => exact ⟨path, rfl⟩

theorem start?_eq (h : Addressed d) :
    (ofTexts nodePath workspaceRoot eslintPath).start? d = .ok (startOf? workspaceRoot d) := by
  unfold start? startOf?
  split
  · rename_i hf
    obtain ⟨path, hp⟩ := h hf
    rw [hp]
    rfl
  · cases workspaceRoot with
    | none => rfl
    | some root =>
      simp only [ofTexts, given?, Option.filter_some]
      cases root.isEmpty <;> rfl

theorem candidates_eq (h : Addressed d) :
    (ofTexts nodePath workspaceRoot eslintPath).candidates d =
      .ok (places nodePath workspaceRoot eslintPath d) := by
  have hn : (ofTexts nodePath workspaceRoot eslintPath).nodePath = sent nodePath := rfl
  have he : (ofTexts nodePath workspaceRoot eslintPath).eslintPath = sent eslintPath := rfl
  have hm : inModules = installIn := funext inModules_eq
  simp only [candidates, start?_eq h, hn, he, hm, inBin_eq, bind, Except.bind, pure, Except.pure]
  -- each of the three is given or not
  rcases sent_cases nodePath with ⟨hg, ht⟩ | ⟨p, hg, ht, hp⟩ <;>
    rcases sent_cases eslintPath with ⟨hg', ht'⟩ | ⟨q, hg', ht', hq⟩ <;>
    cases hs : startOf? workspaceRoot d <;>
    simp [places, configured, foldersNear, ascent, *]

/-! ## The search -/

/-- The first of some places about which the system does not say that there is no file. -/
def first? (w : World) (texts : List String) : Option String :=
  texts.find? fun path => settles (w.isFile path)

/-- What the search path leads to. -/
def fallback? (w : World) : Option String := w.onPath.filter (!·.isEmpty)

theorem resolve_eq (h : Addressed d) :
    (ofTexts nodePath workspaceRoot eslintPath).resolve w d =
      let texts := (places nodePath workspaceRoot eslintPath d).map Path.text
      match first? w texts with
      | some path => do let _ ← w.isFile path; checked w path
      | none =>
        match fallback? w with
        | some path => checked w path
        | none => .error (.unresolved (texts ++ ["PATH"])) := by
  simp only [resolve, candidates_eq h, bind, Except.bind, findM?_eq, first?]
  cases ((places nodePath workspaceRoot eslintPath d).map Path.text).find?
      fun path => settles (w.isFile path) with
  | some path =>
    simp only
    cases w.isFile path <;> rfl
  | none =>
    cases hpath : w.onPath with
    | none => simp [fallback?, hpath, throw, throwThe, MonadExceptOf.throw]
    | some path =>
      cases he : path.isEmpty <;>
        simp [fallback?, hpath, Option.filter, he, throw, throwThe, MonadExceptOf.throw]

/-- What comes of a search that decides on a path: the path, if it can be run, and a failure to load
it if not. -/
structure DecidesOn (w : World) (path : String) (outcome : Except Failure String) : Prop where
  runs : w.canRun path = true → outcome = .ok path
  fails : w.canRun path = false → outcome =
    .error (.libraryLoad ("The eslint executable at " ++ path ++ " is not executable."))

theorem checked_decidesOn (w : World) (path : String) : DecidesOn w path (checked w path) where
  runs h := by rw [checked, if_pos h]
  fails h := by rw [checked, if_neg (by simp [h])]

theorem checked_not_unresolved {w : World} {path : String} {f : Failure}
    (h : checked w path = .error f) : f.kind ≠ .unresolved := by
  unfold checked at h
  split at h
  · cases h
  · cases h
    simp [Failure.libraryLoad, Failure.saying]

/-- The system's failures are none of the search's own. -/
theorem kindOfNumber_ne_unresolved (number : Json) :
    Failure.kindOfNumber number ≠ .unresolved := by
  have hall : ∀ p ∈ Failure.numbered, p.2 ≠ .unresolved := by decide
  unfold Failure.kindOfNumber
  split
  · rename_i n _
    cases hn : Failure.numbered.lookup n with
    | none => decide
    | some kind =>
      obtain ⟨before, after, hlist, -⟩ := List.lookup_eq_some_iff.mp hn
      exact hall (n, kind) (by rw [hlist]; simp)
  · decide

theorem isFile_not_unresolved {path : String} {f : Failure} (h : w.isFile path = .error f) :
    f.kind ≠ .unresolved := by
  unfold World.isFile at h
  split at h
  · rw [← Except.error.inj h]
    exact kindOfNumber_ne_unresolved (.int _)
  · cases h

/-! ## Decisions -/

section

variable {texts : List String} {path : String}

theorem first?_of_settled {before after : List String} (ht : texts = before ++ path :: after)
    (hb : ∀ p ∈ before, w.isFile p = .ok false) (hs : w.isFile path ≠ .ok false) :
    first? w texts = some path := by
  refine List.find?_eq_some_iff_append.mpr ⟨?_, before, after, ht, fun p hp => ?_⟩
  · rw [← Bool.not_eq_false, settles_eq_false_iff]
    exact hs
  · rw [settles_eq_false_iff.mpr (hb p hp)]
    rfl

theorem first?_eq_none_iff : first? w texts = none ↔ ∀ p ∈ texts, w.isFile p = .ok false := by
  simp [first?, List.find?_eq_none, settles_eq_false_iff]

theorem fallback?_eq_none_iff : fallback? w = none ↔ ∀ path ∈ w.onPath, path = "" := by
  simp [fallback?]

/-- The deepest install near a document comes first, unless there is one where it was configured. -/
theorem first?_of_deepest {start folder : Path}
    (hc : ∀ p ∈ configured nodePath, w.isFile p.text = .ok false)
    (hs : startOf? workspaceRoot d = some start) (ha : folder.IsAbove start)
    (hf : w.isFile (installIn folder).text = .ok true)
    (deeper : ∀ e : Path, e.IsAbove start → folder.depth < e.depth →
      w.isFile (installIn e).text = .ok false) :
    first? w ((places nodePath workspaceRoot eslintPath d).map Path.text) =
      some (installIn folder).text := by
  have front : first? w ((configured nodePath).map Path.text) = none := by
    refine first?_eq_none_iff.mpr fun p hp => ?_
    obtain ⟨q, hq, rfl⟩ := List.mem_map.mp hp
    exact hc q hq
  have near : firstOf w (fun p => (installIn p).text) start.ascent = some (installIn folder).text :=
    (firstOf_eq_some_iff (ascent_rises start)).mpr ⟨folder, mem_ascent_iff.mpr ha, rfl,
      by rw [hf]; simp, fun e he => deeper e (mem_ascent_iff.mp he)⟩
  have near' : first? w (((foldersNear workspaceRoot d).map installIn).map Path.text) =
      some (installIn folder).text := by
    rw [List.map_map, foldersNear, hs, Option.toList_some, List.flatMap_singleton]
    exact near
  unfold first? at front near' ⊢
  rw [places, List.map_append, List.map_append, List.find?_append, List.find?_append, front, near',
    Option.none_or, Option.some_or]

end

/-- The first place that is a file is decided on. -/
theorem decidesOn_of_first? (h : Addressed d) {path : String}
    (hd : first? w ((places nodePath workspaceRoot eslintPath d).map Path.text) = some path)
    (hf : w.isFile path = .ok true) :
    DecidesOn w path ((ofTexts nodePath workspaceRoot eslintPath).resolve w d) := by
  rw [resolve_eq h]
  simp only [hd, hf]
  exact checked_decidesOn w path

/-- The first place at which the system refuses to look ends the search. -/
theorem resolve_of_refusal (h : Addressed d) {path : String} {f : Failure}
    (hd : first? w ((places nodePath workspaceRoot eslintPath d).map Path.text) = some path)
    (hf : w.isFile path = .error f) :
    (ofTexts nodePath workspaceRoot eslintPath).resolve w d = .error f := by
  rw [resolve_eq h]
  simp only [hd, hf]
  rfl

/-- Where no place is a file, what the search path leads to is decided on. -/
theorem decidesOn_of_fallback? (h : Addressed d) {path : String}
    (hd : first? w ((places nodePath workspaceRoot eslintPath d).map Path.text) = none)
    (hp : fallback? w = some path) :
    DecidesOn w path ((ofTexts nodePath workspaceRoot eslintPath).resolve w d) := by
  rw [resolve_eq h]
  simp only [hd, hp]
  exact checked_decidesOn w path

/-- What fails because nothing was found says so of all places. -/
theorem unresolved_iff (h : Addressed d) {f : Failure} :
    (ofTexts nodePath workspaceRoot eslintPath).resolve w d = .error f ∧ f.kind = .unresolved ↔
      first? w ((places nodePath workspaceRoot eslintPath d).map Path.text) = none ∧
        fallback? w = none ∧ f = .unresolved
          ((places nodePath workspaceRoot eslintPath d).map Path.text ++ ["PATH"]) := by
  rw [resolve_eq h]
  simp only
  cases first? w ((places nodePath workspaceRoot eslintPath d).map Path.text) with
  | some path =>
    refine ⟨fun ⟨hf, hkind⟩ => ?_, fun hd => by cases hd.1⟩
    cases hfile : w.isFile path with
    | error g =>
      simp only [hfile] at hf
      obtain rfl := Except.error.inj hf
      exact absurd hkind (isFile_not_unresolved hfile)
    | ok b =>
      simp only [hfile] at hf
      exact absurd hkind (checked_not_unresolved hf)
  | none =>
    cases fallback? w with
    | some path =>
      exact ⟨fun hf => absurd hf.2 (checked_not_unresolved hf.1), fun hd => by cases hd.2.1⟩
    | none =>
      constructor
      · rintro ⟨hf, -⟩
        cases hf
        exact ⟨rfl, rfl, rfl⟩
      · rintro ⟨-, -, rfl⟩
        exact ⟨rfl, rfl⟩

/-- The first place that is a file decides, else what the search path leads to, and nothing is
found just if there is neither; but a place at which the system refuses to look ends the search, if
no place in front of it is a file. The folders near a document are its own and those above it, the
deepest first, so that of installs in them the deepest is used. -/
theorem first_place_decides (w : World) (nodePath workspaceRoot eslintPath : Option String)
    {d : Document} (h : Addressed d) :
    let texts := (places nodePath workspaceRoot eslintPath d).map Path.text
    let outcome := (ofTexts nodePath workspaceRoot eslintPath).resolve w d
    (∀ before path after, texts = before ++ path :: after →
      (∀ p ∈ before, w.isFile p = .ok false) →
        (w.isFile path = .ok true → DecidesOn w path outcome) ∧
        ∀ f, w.isFile path = .error f → outcome = .error f) ∧
    ((∀ p ∈ texts, w.isFile p = .ok false) →
      ∀ path, w.onPath = some path → path ≠ "" → DecidesOn w path outcome) ∧
    (∀ f, outcome = .error f ∧ f.kind = .unresolved ↔
      (∀ p ∈ texts, w.isFile p = .ok false) ∧ (∀ path ∈ w.onPath, path = "") ∧
        f = .unresolved (texts ++ ["PATH"])) ∧
    (∀ start, startOf? workspaceRoot d = some start →
      (∀ folder, folder ∈ foldersNear workspaceRoot d ↔ folder.IsAbove start) ∧
      (foldersNear workspaceRoot d).Pairwise (fun p q => q.depth < p.depth) ∧
      ∀ folder : Path, folder.IsAbove start → w.isFile (installIn folder).text = .ok true →
        (∀ e : Path, e.IsAbove start → folder.depth < e.depth →
          w.isFile (installIn e).text = .ok false) →
        (∀ p ∈ configured nodePath, w.isFile p.text = .ok false) →
        DecidesOn w (installIn folder).text outcome) := by
  intro texts outcome
  refine ⟨fun before path after ht hb => ⟨fun hf => ?_, fun f hf => ?_⟩, fun hn path ho hp => ?_,
    fun f => ?_, fun start hs => ?_⟩
  · exact decidesOn_of_first? h (first?_of_settled ht hb (by rw [hf]; simp)) hf
  · exact resolve_of_refusal h (first?_of_settled ht hb (by rw [hf]; simp)) hf
  · refine decidesOn_of_fallback? h (first?_eq_none_iff.mpr hn) ?_
    simp [fallback?, ho, hp, Option.filter]
  · rw [unresolved_iff h, first?_eq_none_iff, fallback?_eq_none_iff]
  · have near : foldersNear workspaceRoot d = start.ascent := by
      rw [foldersNear, hs, Option.toList_some, List.flatMap_singleton]
    rw [near]
    refine ⟨fun folder => mem_ascent_iff, ascent_rises start, fun folder ha hf deeper hc => ?_⟩
    exact decidesOn_of_first? h (first?_of_deepest hc hs ha hf deeper) hf

/-- Of two installs above a document the deeper one is decided on, though only the other can be
run. -/
theorem nested_installs :
    let w : World :=
      { files := [("/proj/src/node_modules/.bin/eslint", { executable := some false }),
          ("/proj/node_modules/.bin/eslint", { executable := some true })] }
    let d : Document := { uri := "file:///proj/src/a.js" }
    Addressed d ∧
    (ofTexts none none none).resolve w d = .error (.libraryLoad
      "The eslint executable at /proj/src/node_modules/.bin/eslint is not executable.") := by
  intro w d
  have h : Addressed d := addressed_of_isOk (by decide +kernel)
  have decided := ((first_place_decides w none none none h).1 []
    "/proj/src/node_modules/.bin/eslint"
    ["/proj/node_modules/.bin/eslint", "/node_modules/.bin/eslint"] (by decide +kernel)
    (fun _ hp => by cases hp)).1 (by cbv)
  exact ⟨h, decided.fails (by decide +kernel)⟩

/-- A document of a file whose address cannot be read fails with that, whatever is configured. -/
theorem resolve_of_unaddressed {f : Failure} (hf : d.isFile = true) (hp : d.path = .error f) :
    (ofTexts nodePath workspaceRoot eslintPath).resolve w d = .error f := by
  have hs : (ofTexts nodePath workspaceRoot eslintPath).start? d = .error f := by
    rw [start?, if_pos hf, hp]
    rfl
  have hn : (ofTexts nodePath workspaceRoot eslintPath).nodePath = sent nodePath := rfl
  simp only [resolve, candidates, hs, hn, bind, Except.bind, pure, Except.pure]
  rcases sent_cases nodePath with ⟨-, ht⟩ | ⟨p, -, ht, hp⟩
  · simp [ht]
  · simp [ht, hp]

/-- It does so even where an executable was configured that can be run. So does a document in a
folder that must not be searched. -/
theorem unaddressed_document_is_refused :
    let w : World :=
      { files := [("/opt/eslint", { executable := some true })]
        refusal := fun path =>
          if path = "/locked/node_modules/.bin/eslint" then some ⟨13, "Permission denied"⟩
          else none }
    let d : Document := { uri := "file://[x/a.js" }
    w.isFile "/opt/eslint" = .ok true ∧ w.canRun "/opt/eslint" = true ∧
    (places none none (some "/opt/eslint") d).map Path.text = ["/opt/eslint"] ∧
    (∃ f, (ofTexts none none (some "/opt/eslint")).resolve w d = .error f ∧
      f.kind = .badValue) ∧
    (ofTexts none none (some "/opt/eslint")).resolve w { uri := "file:///locked/a.js" } =
      .error (.aboutFile 13 "Permission denied" "/locked/node_modules/.bin/eslint") := by
  intro w d
  have refused : d.path.isOk = false := by decide +kernel
  refine ⟨by cbv, by decide +kernel, by decide +kernel, ?_, by cbv⟩
  cases hp : d.path with
  | ok path =>
    rw [hp] at refused
    cases refused
  | error f =>
    obtain ⟨why, rfl, -⟩ := Uri.toPath_refused hp
    exact ⟨_, resolve_of_unaddressed (by decide +kernel) hp, rfl⟩

end LintServer.Search
