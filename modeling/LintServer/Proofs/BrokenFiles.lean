/-
  LintServer.Proofs.BrokenFiles — which file a message calls broken.

  A message names a broken file in one of three shapes. A shape is a row of parts that follow one
  another, and says nothing of how they are looked for: the parts of a message may be cut in several
  ways, and the file is what stands in its place in the first way that is tried.
  - `Begins`: characters begin with a row of parts.
  - `unreadableFile?_isSome_iff`, `misconfigured?_isSome_iff`, `missingModule?_isSome_iff`: each
    search finds its own shape and nothing else.
  - `broken_files_are_named`: messages of the three shapes name the file that was put into them, and
    all that names none is of no shape anywhere.
-/

import Mathlib.Data.List.Infix
import Mathlib.Data.Option.Basic
import LintServer.Proofs.Addresses

namespace LintServer

namespace Text

theorem after?_append (lead rest : List Char) : after? lead (lead ++ rest) = some rest := by
  induction lead with
  | nil => rfl
  | cons l lead ih => rw [List.cons_append, after?, if_pos rfl, ih]

theorem after?_eq_some_iff {lead cs rest : List Char} :
    after? lead cs = some rest ↔ cs = lead ++ rest :=
  ⟨eq_append_of_after?, fun h => h ▸ after?_append lead rest⟩

theorem occursIn_iff {needle cs : List Char} : occursIn needle cs = true ↔ needle <:+: cs := by
  induction cs with
  | nil => simp [occursIn]
  | cons c cs ih =>
    rw [occursIn, Bool.or_eq_true, ih, List.infix_cons_iff, List.isPrefixOf_iff_prefix]

end Text

namespace ConfigMessage

/-! ## Shapes -/

/-- A part of a shape. -/
inductive Part where
  /-- These characters. -/
  | text (cs : List Char)
  /-- Some characters of one line, or none. -/
  | line
  /-- Some blanks or none; a line end is a blank. -/
  | blanks
  /-- At least one blank. -/
  | someBlanks
  /-- Some characters that are no single quotes, or none. -/
  | unquoted

/-- Whether characters are a part of a kind. -/
def Part.Fits : Part → List Char → Prop
  | .text t, cs => cs = t
  | .line, cs => '\n' ∉ cs
  | .blanks, cs => ∀ c ∈ cs, Text.isBlank c = true
  | .someBlanks, cs => cs ≠ [] ∧ ∀ c ∈ cs, Text.isBlank c = true
  | .unquoted, cs => '\'' ∉ cs

/-- Whether characters begin with parts, one after another. -/
def Begins : List Part → List Char → Prop
  | [], _ => True
  | p :: ps, cs => ∃ front rest, cs = front ++ rest ∧ p.Fits front ∧ Begins ps rest

/-- A file that could not be read, and an error on the next line. -/
def unreadableShape : List Part :=
  [.text "Cannot read config file:".toList, .someBlanks, .line,
    .text "\nError:".toList, .someBlanks, .line]

/-- A file, and a rule in it that is configured wrongly. -/
def misconfiguredShape : List Part :=
  [.line, .text ":\n".toList, .blanks, .text "Configuration for rule \"".toList, .line,
    .text "\" is ".toList]

/-- A module that was not found, and the file that asks for it. -/
def missingModuleShape : List Part :=
  [.text "Cannot find module '".toList, .unquoted, .text "'\nReferenced from:".toList, .someBlanks,
    .line]

def shapes : List (List Part) := [unreadableShape, misconfiguredShape, missingModuleShape]

variable {cs rest : List Char} {ps : List Part}

theorem begins_text {t : List Char} :
    Begins (.text t :: ps) cs ↔ ∃ rest, cs = t ++ rest ∧ Begins ps rest := by
  constructor
  · rintro ⟨front, rest, h, rfl, hr⟩
    exact ⟨rest, h, hr⟩
  · rintro ⟨rest, h, hr⟩
    exact ⟨t, rest, h, rfl, hr⟩

/-- A line at the end asks for nothing, for it may be empty. -/
theorem begins_line : Begins [.line] cs :=
  ⟨[], cs, rfl, List.not_mem_nil, trivial⟩

/-! ## Lines and blanks -/

theorem line_append {line : List Char} (h : '\n' ∉ line) (rest : List Char) :
    ConfigMessage.line (line ++ rest) = line ++ ConfigMessage.line rest :=
  List.takeWhile_append_of_pos (Text.bne_of_notMem h)

theorem line_of_append {line next : List Char} (h : '\n' ∉ line) :
    ConfigMessage.line (line ++ '\n' :: next) = line := by
  have he : ConfigMessage.line ('\n' :: next) = [] := rfl
  rw [line_append h, he, List.append_nil]

theorem newline_notMem_line (cs : List Char) : '\n' ∉ line cs := fun h => by
  simpa using List.mem_takeWhile_imp h

theorem afterLine?_eq_some_iff {next : List Char} :
    afterLine? cs = some next ↔ cs = line cs ++ '\n' :: next := by
  have hs : cs = line cs ++ cs.dropWhile (· != '\n') := List.takeWhile_append_dropWhile.symm
  constructor
  · intro h
    unfold afterLine? at h
    split at h
    · rename_i c rest hd
      -- what follows the first line begins with its end
      have hc : c = '\n' := by
        have := List.head?_dropWhile_not (· != '\n') cs
        rw [hd] at this
        simpa using this
      rw [hd, hc, Option.some.inj h] at hs
      exact hs
    · cases h
  · intro h
    have hd : cs.dropWhile (· != '\n') = '\n' :: next := List.append_cancel_left (hs.symm.trans h)
    rw [afterLine?, hd]

theorem afterLine?_of_append {line next : List Char} (h : '\n' ∉ line) :
    afterLine? (line ++ '\n' :: next) = some next := by
  rw [afterLine?_eq_some_iff, line_of_append h]

theorem begins_someBlanks : Begins [.someBlanks, .line] cs ↔ 0 < blanks cs := by
  rw [blanks, List.length_pos_iff]
  constructor
  · rintro ⟨front, rest, rfl, ⟨hne, hb⟩, -⟩
    rw [List.takeWhile_append_of_pos hb]
    exact List.append_ne_nil_of_left_ne_nil hne _
  · intro h
    exact ⟨_, _, List.takeWhile_append_dropWhile.symm, ⟨h, fun c hc => List.mem_takeWhile_imp hc⟩,
      begins_line⟩

theorem le_blanks {ws : List Char} (h : ∀ c ∈ ws, Text.isBlank c = true) (rest : List Char) :
    ws.length ≤ blanks (ws ++ rest) := by
  rw [blanks, List.takeWhile_append_of_pos h, List.length_append]
  exact Nat.le_add_right _ _

theorem isBlank_of_mem_take {count : Nat} (h : count ≤ blanks cs) :
    ∀ c ∈ cs.take count, Text.isBlank c = true := by
  intro c hc
  have hp : cs.take count <+: cs.takeWhile Text.isBlank :=
    List.prefix_of_prefix_length_le (List.take_prefix _ _) (List.takeWhile_prefix _)
      ((List.length_take_le _ _).trans h)
  exact List.mem_takeWhile_imp (hp.subset hc)

/-! ## A file that could not be read -/

theorem isError_iff :
    isError cs = true ↔ Begins [.text "Error:".toList, .someBlanks, .line] cs := by
  rw [begins_text, isError]
  cases h : Text.after? "Error:".toList cs with
  | none =>
    refine ⟨fun h => (by cases h), ?_⟩
    rintro ⟨rest, hr, -⟩
    rw [Text.after?_eq_some_iff.mpr hr] at h
    cases h
  | some rest =>
    have hr := Text.after?_eq_some_iff.mp h
    rw [decide_eq_true_iff, ← begins_someBlanks]
    refine ⟨fun hb => ⟨rest, hr, hb⟩, ?_⟩
    rintro ⟨rest', hr', hb⟩
    rwa [List.append_cancel_left (hr.symm.trans hr')]

theorem unreadable?_isSome_iff {count : Nat} :
    (unreadable? cs count).isSome = true ↔
      ∃ k, 0 < k ∧ k ≤ count ∧
        ∃ next, afterLine? (cs.drop k) = some next ∧ isError next = true := by
  induction count with
  | zero =>
    refine ⟨fun h => (by cases h), ?_⟩
    rintro ⟨k, hk, hle, -⟩
    omega
  | succ count ih =>
    -- the greatest number of blanks is tried first, then what is found with fewer
    have fewer : (∃ k, 0 < k ∧ k ≤ count + 1 ∧ ∃ next, afterLine? (cs.drop k) = some next ∧
        isError next = true) ↔
        (∃ next, afterLine? (cs.drop (count + 1)) = some next ∧ isError next = true) ∨
          (unreadable? cs count).isSome = true := by
      rw [ih]
      constructor
      · rintro ⟨k, hk, hle, hn⟩
        rcases Nat.lt_or_ge count k with hc | hc
        · obtain rfl : k = count + 1 := by omega
          exact .inl hn
        · exact .inr ⟨k, hk, hc, hn⟩
      · rintro (hn | ⟨k, hk, hle, hn⟩)
        · exact ⟨count + 1, by omega, Nat.le_refl _, hn⟩
        · exact ⟨k, hk, by omega, hn⟩
    rw [fewer]
    simp only [unreadable?]
    cases ha : afterLine? (cs.drop (count + 1)) with
    | none => simp
    | some next => cases he : isError next <;> simp [he]

/-- What could not be read is found just where its shape stands. -/
theorem unreadableFile?_isSome_iff :
    (unreadableFile? cs).isSome = true ↔ Begins unreadableShape cs := by
  rw [unreadableShape, begins_text, unreadableFile?]
  constructor
  · intro h
    obtain ⟨path, h⟩ := Option.isSome_iff_exists.mp h
    obtain ⟨rest, hr, h⟩ := Option.bind_eq_some_iff.mp h
    obtain ⟨k, hk, hle, next, hn, he⟩ :=
      unreadable?_isSome_iff.mp (Option.isSome_iff_exists.mpr ⟨path, h⟩)
    obtain ⟨after, rfl, ha⟩ := begins_text.mp (isError_iff.mp he)
    refine ⟨rest, Text.after?_eq_some_iff.mp hr, rest.take k, rest.drop k,
      (List.take_append_drop k rest).symm, ⟨?_, isBlank_of_mem_take hle⟩, line (rest.drop k), _,
      afterLine?_eq_some_iff.mp hn, newline_notMem_line _, begins_text.mpr ⟨after, rfl, ha⟩⟩
    -- a blank was taken, for what is left of nothing has no second line
    intro ht
    rcases List.take_eq_nil_iff.mp ht with rfl | rfl
    · omega
    · rw [List.drop_nil] at hn
      cases hn
  · rintro ⟨rest, hr, blanks, _, rfl, ⟨hne, hb⟩, path, _, rfl, hp, hs⟩
    obtain ⟨after, rfl, ha⟩ := begins_text.mp hs
    rw [Text.after?_eq_some_iff.mpr hr]
    refine unreadable?_isSome_iff.mpr ⟨blanks.length, List.length_pos_iff.mpr hne, le_blanks hb _,
      "Error:".toList ++ after, ?_, isError_iff.mpr (begins_text.mpr ⟨after, rfl, ha⟩)⟩
    rw [List.drop_left]
    exact afterLine?_of_append hp

/-! ## A rule that is configured wrongly -/

/-- A line that ends in a colon, and what follows it. -/
theorem colonLine_iff {path next : List Char} :
    (afterLine? cs = some next ∧ (line cs).getLast? = some ':' ∧ (line cs).dropLast = path) ↔
      '\n' ∉ path ∧ cs = path ++ (":\n".toList ++ next) := by
  constructor
  · rintro ⟨hn, hl, rfl⟩
    have hline : line cs = (line cs).dropLast ++ [':'] :=
      (List.dropLast_append_getLast? _ hl).symm
    refine ⟨fun h => newline_notMem_line cs (List.mem_of_mem_dropLast h), ?_⟩
    calc cs = line cs ++ '\n' :: next := afterLine?_eq_some_iff.mp hn
      _ = ((line cs).dropLast ++ [':']) ++ '\n' :: next := by rw [← hline]
      _ = (line cs).dropLast ++ (":\n".toList ++ next) := by
        rw [List.append_assoc]
        rfl
  · rintro ⟨hp, rfl⟩
    have hline : '\n' ∉ path ++ [':'] := by simpa using hp
    have hcs : path ++ (":\n".toList ++ next) = (path ++ [':']) ++ '\n' :: next := by
      rw [List.append_assoc]
      rfl
    rw [hcs, line_of_append hline, afterLine?_of_append hline]
    exact ⟨rfl, List.getLast?_concat, List.dropLast_concat⟩

/-- All blanks can be taken in front of a text that begins with none. -/
theorem begins_blanks {t : List Char}
    (ht : ∀ rest, (t ++ rest).dropWhile Text.isBlank = t ++ rest) :
    Begins (.blanks :: .text t :: ps) cs ↔
      ∃ rest, Text.after? t (cs.dropWhile Text.isBlank) = some rest ∧ Begins ps rest := by
  constructor
  · rintro ⟨blanks, _, rfl, hb, h⟩
    obtain ⟨rest, rfl, hr⟩ := begins_text.mp h
    refine ⟨rest, ?_, hr⟩
    rw [List.dropWhile_append_of_pos hb, ht, Text.after?_append]
  · rintro ⟨rest, ha, hr⟩
    exact ⟨_, _, List.takeWhile_append_dropWhile.symm, fun c hc => List.mem_takeWhile_imp hc,
      begins_text.mpr ⟨rest, Text.after?_eq_some_iff.mp ha, hr⟩⟩

/-- A text without a line end stands somewhere in the first line. -/
theorem begins_lineText {t : List Char} (ht : '\n' ∉ t) :
    Begins [.line, .text t] cs ↔ Text.occursIn t (line cs) = true := by
  rw [Text.occursIn_iff]
  constructor
  · rintro ⟨front, _, rfl, hf, h⟩
    obtain ⟨tail, rfl, -⟩ := begins_text.mp h
    rw [line_append hf, line_append ht]
    exact ⟨front, line tail, List.append_assoc _ _ _⟩
  · rintro ⟨front, tail, h⟩
    have hcs : cs = front ++ (t ++ (tail ++ cs.dropWhile (· != '\n'))) := by
      rw [← List.append_assoc, ← List.append_assoc, h]
      exact List.takeWhile_append_dropWhile.symm
    refine ⟨front, _, hcs, fun hf => newline_notMem_line cs ?_, begins_text.mpr ⟨_, rfl, trivial⟩⟩
    rw [← h]
    exact List.mem_append_left _ (List.mem_append_left _ hf)

theorem configuration_blankless (rest : List Char) :
    ("Configuration for rule \"".toList ++ rest).dropWhile Text.isBlank =
      "Configuration for rule \"".toList ++ rest :=
  List.dropWhile_cons_of_neg (by decide)

/-- What is found is the line in front of the colon, and it is found just where the shape
stands. -/
theorem misconfigured?_eq_some_iff {path : List Char} :
    misconfigured? cs = some path ↔ '\n' ∉ path ∧
      ∃ rest, cs = path ++ (":\n".toList ++ rest) ∧
        Begins [.blanks, .text "Configuration for rule \"".toList, .line, .text "\" is ".toList]
          rest := by
  constructor
  · intro h
    obtain ⟨next, hn, h⟩ := Option.bind_eq_some_iff.mp h
    obtain ⟨rest, hr, h⟩ := Option.bind_eq_some_iff.mp h
    replace h : (if ((line cs).getLast? == some ':' &&
        Text.occursIn "\" is ".toList (line rest)) = true then some (line cs).dropLast else none) =
        some path := h
    split at h
    · rename_i hc
      rw [Bool.and_eq_true, beq_iff_eq] at hc
      obtain ⟨hp, hcs⟩ := colonLine_iff.mp ⟨hn, hc.1, Option.some.inj h⟩
      have hrule := (begins_lineText (by decide)).mpr hc.2
      exact ⟨hp, next, hcs, (begins_blanks configuration_blankless).mpr ⟨rest, hr, hrule⟩⟩
    · cases h
  · rintro ⟨hp, next, hcs, h⟩
    obtain ⟨hn, hl, hd⟩ := colonLine_iff.mpr ⟨hp, hcs⟩
    obtain ⟨rest, hr, hrule⟩ := (begins_blanks configuration_blankless).mp h
    rw [begins_lineText (by decide)] at hrule
    simp only [misconfigured?, bind, Option.bind, hn, hr, hl, hrule, hd, beq_self_eq_true,
      Bool.and_self, if_true]

theorem misconfigured?_isSome_iff :
    (misconfigured? cs).isSome = true ↔ Begins misconfiguredShape cs := by
  rw [Option.isSome_iff_exists]
  constructor
  · rintro ⟨path, h⟩
    obtain ⟨hp, rest, hr, h⟩ := misconfigured?_eq_some_iff.mp h
    exact ⟨path, _, hr, hp, begins_text.mpr ⟨rest, rfl, h⟩⟩
  · rintro ⟨path, _, hr, hp, h⟩
    obtain ⟨rest, rfl, hrest⟩ := begins_text.mp h
    exact ⟨path, misconfigured?_eq_some_iff.mpr ⟨hp, rest, hr, hrest⟩⟩

/-! ## A module that was not found -/

theorem dropWhile_unquoted {name rest : List Char} (h : '\'' ∉ name) :
    (name ++ '\'' :: rest).dropWhile (· != '\'') = '\'' :: rest := by
  rw [List.dropWhile_append_of_pos (Text.bne_of_notMem h)]
  exact List.dropWhile_cons_of_neg (by decide)

theorem missingModule?_of_append {name rest : List Char} (hn : '\'' ∉ name) (hr : 0 < blanks rest) :
    missingModule? ("Cannot find module '".toList ++
        (name ++ ("'\nReferenced from:".toList ++ rest))) =
      some (line (rest.dropWhile Text.isBlank)) := by
  have hd : (name ++ ("'\nReferenced from:".toList ++ rest)).dropWhile (· != '\'') =
      "'\nReferenced from:".toList ++ rest := dropWhile_unquoted hn
  simp only [missingModule?, bind, Option.bind, Text.after?_append, hd]
  rw [if_neg (by omega)]

theorem missingModule?_isSome_iff :
    (missingModule? cs).isSome = true ↔ Begins missingModuleShape cs := by
  rw [missingModuleShape, begins_text]
  constructor
  · intro h
    obtain ⟨path, h⟩ := Option.isSome_iff_exists.mp h
    obtain ⟨after, ha, h⟩ := Option.bind_eq_some_iff.mp h
    obtain ⟨rest, hr, h⟩ := Option.bind_eq_some_iff.mp h
    split at h
    · cases h
    · rename_i hb
      refine ⟨after, Text.after?_eq_some_iff.mp ha, after.takeWhile (· != '\''), _,
        List.takeWhile_append_dropWhile.symm, fun hm => ?_, begins_text.mpr ⟨rest,
        Text.after?_eq_some_iff.mp hr, begins_someBlanks.mpr (by omega)⟩⟩
      simpa using List.mem_takeWhile_imp hm
  · rintro ⟨after, rfl, name, _, rfl, hn, h⟩
    obtain ⟨rest, rfl, hb⟩ := begins_text.mp h
    rw [missingModule?_of_append hn (begins_someBlanks.mp hb)]
    rfl

/-! ## Searching -/

/-- A search finds something just if there is something somewhere. -/
theorem search_isSome_iff {at? : List Char → Option (List Char)} :
    (search at? cs).isSome = true ↔ ∃ rest, rest <:+ cs ∧ (at? rest).isSome = true := by
  induction cs with
  | nil => simp [search]
  | cons c cs ih =>
    rw [search]
    cases h : at? (c :: cs) with
    | some found => exact ⟨fun _ => ⟨_, List.suffix_refl _, by rw [h]; rfl⟩, fun _ => rfl⟩
    | none =>
      rw [ih]
      constructor
      · rintro ⟨rest, hr, hf⟩
        exact ⟨rest, hr.trans (List.suffix_cons c cs), hf⟩
      · rintro ⟨rest, hr, hf⟩
        rcases List.suffix_cons_iff.mp hr with rfl | hr
        · rw [h] at hf
          cases hf
        · exact ⟨rest, hr, hf⟩

theorem search_of_front {at? : List Char → Option (List Char)} {found : List Char}
    (h : at? cs = some found) : search at? cs = some found := by
  cases cs with
  | nil => exact h
  | cons c cs => rw [search, h]

/-- A message names no file just if none of the shapes stands anywhere in it. -/
theorem file?_eq_none_iff {message : String} :
    file? message = none ↔
      ∀ shape ∈ shapes, ∀ rest, rest <:+ message.toList → ¬ Begins shape rest := by
  have none_iff : ∀ {at? : List Char → Option (List Char)} {shape : List Part},
      (∀ cs, (at? cs).isSome = true ↔ Begins shape cs) →
        (search at? message.toList = none ↔
          ∀ rest, rest <:+ message.toList → ¬ Begins shape rest) := by
    intro at? shape h
    rw [← Option.not_isSome_iff_eq_none, search_isSome_iff]
    simp only [h, not_exists, not_and]
  rw [file?, Option.map_eq_none_iff, Option.orElse_eq_none, Option.orElse_eq_none,
    none_iff fun _ => unreadableFile?_isSome_iff, none_iff fun _ => misconfigured?_isSome_iff,
    none_iff fun _ => missingModule?_isSome_iff]
  simp only [shapes, List.forall_mem_cons, List.not_mem_nil, false_implies, implies_true, and_true]

theorem ofFailure?_of_raw {f : Failure} {message : String} (h : f.raw = some message) :
    ofFailure? f = file? message := by
  rw [ofFailure?, h]
  by_cases he : message = ""
  · subst he
    rfl
  · have hne : message.isEmpty = false := by simpa using he
    simp only [hne, Bool.false_eq_true, if_false]

/-! ## Messages with one line end -/

section

variable {first second : List Char} (h1 : '\n' ∉ first) (h2 : '\n' ∉ second)
include h1 h2

theorem cut_unique {before after : List Char}
    (h : before ++ '\n' :: after = first ++ '\n' :: second) : before = first ∧ after = second := by
  obtain ⟨hb, -, ha⟩ := (List.append_cons_inj_of_notMem h1 h2).mp h.symm
  exact ⟨hb.symm, ha.symm⟩

/-- A file that could not be read needs an error on the second line. -/
theorem search_unreadableFile?_eq_none (he : Text.after? "Error:".toList second = none) :
    search unreadableFile? (first ++ '\n' :: second) = none := by
  rw [← Option.not_isSome_iff_eq_none, search_isSome_iff]
  rintro ⟨rest, ⟨before, hb⟩, h⟩
  obtain ⟨tail, rfl, blanks, _, rfl, -, path, _, rfl, -, h⟩ :=
    begins_text.mp (unreadableFile?_isSome_iff.mp h)
  obtain ⟨after, rfl, -⟩ := begins_text.mp h
  have hcut : (before ++ "Cannot read config file:".toList ++ blanks ++ path) ++
      '\n' :: ("Error:".toList ++ after) = first ++ '\n' :: second := by
    rw [← hb]
    simp
  rw [← (cut_unique h1 h2 hcut).2, Text.after?_append] at he
  cases he

/-- A rule that is configured wrongly needs a colon at the end of the first line. -/
theorem search_misconfigured?_eq_none (hc : first.getLast? ≠ some ':') :
    search misconfigured? (first ++ '\n' :: second) = none := by
  rw [← Option.not_isSome_iff_eq_none, search_isSome_iff]
  rintro ⟨rest, ⟨before, hb⟩, h⟩
  obtain ⟨path, hm⟩ := Option.isSome_iff_exists.mp h
  obtain ⟨-, tail, rfl, -⟩ := misconfigured?_eq_some_iff.mp hm
  have hcut : (before ++ path ++ [':']) ++ '\n' :: tail = first ++ '\n' :: second := by
    rw [← hb]
    simp
  rw [← (cut_unique h1 h2 hcut).1] at hc
  exact hc (List.getLast?_concat)

end

/-! ## Messages that name a file -/

/-- A path as messages name it: on one line, and with no blank at its beginning. -/
structure Nameable (path : String) : Prop where
  oneLine : '\n' ∉ path.toList
  begins : ∃ c cs, path.toList = c :: cs ∧ Text.isBlank c = false

variable {path : String}

/-- In front of a path, all blanks are taken and nothing of the path. -/
theorem Nameable.blanks_append (hp : Nameable path) (rest : List Char) :
    blanks (' ' :: (path.toList ++ rest)) = 1 := by
  obtain ⟨c, cs, hc, hb⟩ := hp.begins
  have hs : Text.isBlank ' ' = true := by decide
  rw [ConfigMessage.blanks, hc, List.takeWhile_cons_of_pos hs, List.cons_append,
    List.takeWhile_cons_of_neg (by simp [hb])]
  rfl

theorem Nameable.blanks_eq_one (hp : Nameable path) : blanks (' ' :: path.toList) = 1 := by
  have h := hp.blanks_append []
  rwa [List.append_nil] at h

theorem Nameable.dropBlanks (hp : Nameable path) :
    (' ' :: path.toList).dropWhile Text.isBlank = path.toList := by
  obtain ⟨c, cs, hc, hb⟩ := hp.begins
  rw [List.dropWhile_cons_of_pos (by decide), hc, List.dropWhile_cons_of_neg (by simp [hb])]

theorem Nameable.line_eq (hp : Nameable path) : line path.toList = path.toList := by
  have h := line_append hp.oneLine []
  have he : line [] = [] := rfl
  rwa [he, List.append_nil] at h

theorem file?_unreadable (hp : Nameable path) (detail : String) :
    file? ("Cannot read config file: " ++ path ++ "\nError: " ++ detail) = some path := by
  have hm : ("Cannot read config file: " ++ path ++ "\nError: " ++ detail).toList =
      "Cannot read config file:".toList ++ (' ' :: (path.toList ++
        '\n' :: ("Error:".toList ++ ' ' :: detail.toList))) := by
    simp [String.toList_append]
  have he : isError ("Error:".toList ++ ' ' :: detail.toList) = true := by
    refine isError_iff.mpr (begins_text.mpr ⟨_, rfl, begins_someBlanks.mpr ?_⟩)
    rw [ConfigMessage.blanks, List.takeWhile_cons_of_pos (by decide)]
    exact Nat.succ_pos _
  have hf : unreadableFile? ("Cannot read config file: " ++ path ++ "\nError: " ++ detail).toList =
      some path.toList := by
    rw [hm, unreadableFile?, Text.after?_append]
    simp only [bind, Option.bind, hp.blanks_append, unreadable?, Nat.zero_add, List.drop_one,
      List.tail_cons, afterLine?_of_append hp.oneLine, line_of_append hp.oneLine, he, if_true]
  rw [file?, search_of_front hf]
  exact congrArg some (String.ofList_toList)

theorem file?_misconfigured (hp : Nameable path) {rule detail : String}
    (hr : '\n' ∉ rule.toList) (hd : '\n' ∉ detail.toList) :
    file? (path ++ ":\n\tConfiguration for rule \"" ++ rule ++ "\" is " ++ detail) = some path := by
  have hm : (path ++ ":\n\tConfiguration for rule \"" ++ rule ++ "\" is " ++ detail).toList =
      (path.toList ++ [':']) ++ '\n' :: ('\t' :: ("Configuration for rule \"".toList ++
        (rule.toList ++ ("\" is ".toList ++ detail.toList)))) := by
    simp [String.toList_append]
  -- the second line begins with a tab, so it is no error
  have hu : search unreadableFile?
      (path ++ ":\n\tConfiguration for rule \"" ++ rule ++ "\" is " ++ detail).toList = none := by
    rw [hm]
    refine search_unreadableFile?_eq_none ?_ ?_ rfl
    · simpa using hp.oneLine
    · simp [hr, hd]
  have hf : misconfigured?
      (path ++ ":\n\tConfiguration for rule \"" ++ rule ++ "\" is " ++ detail).toList =
      some path.toList := by
    have ht : ∀ c ∈ ['\t'], Text.isBlank c = true := List.forall_mem_singleton.mpr (by decide)
    rw [hm, List.append_assoc]
    exact misconfigured?_eq_some_iff.mpr ⟨hp.oneLine, _, rfl, ['\t'], _, rfl, ht,
      begins_text.mpr ⟨_, rfl, rule.toList, _, rfl, hr, begins_text.mpr ⟨_, rfl, trivial⟩⟩⟩
  rw [file?, hu, search_of_front hf]
  exact congrArg some (String.ofList_toList)

theorem file?_missingModule (hp : Nameable path) {name : String} (hn : '\n' ∉ name.toList)
    (hq : '\'' ∉ name.toList) :
    file? ("Cannot find module '" ++ name ++ "'\nReferenced from: " ++ path) = some path := by
  have hm : ("Cannot find module '" ++ name ++ "'\nReferenced from: " ++ path).toList =
      ("Cannot find module '".toList ++ name.toList ++ ['\'']) ++
        '\n' :: ("Referenced from: ".toList ++ path.toList) := by
    simp [String.toList_append]
  have h1 : '\n' ∉ "Cannot find module '".toList ++ name.toList ++ ['\''] := by simp [hn]
  have h2 : '\n' ∉ "Referenced from: ".toList ++ path.toList := by simp [hp.oneLine]
  -- the first line ends with a quote, and the second is no error
  have hu := search_unreadableFile?_eq_none h1 h2 rfl
  have hc := search_misconfigured?_eq_none h1 h2 (by rw [List.getLast?_concat]; decide)
  have hf :
      missingModule? ("Cannot find module '" ++ name ++ "'\nReferenced from: " ++ path).toList =
        some path.toList := by
    have hs : "Cannot find module '".toList ++ name.toList ++ ['\''] ++
          '\n' :: ("Referenced from: ".toList ++ path.toList) =
        "Cannot find module '".toList ++ (name.toList ++
          ("'\nReferenced from:".toList ++ (' ' :: path.toList))) := by simp
    rw [hm, hs, missingModule?_of_append hq (by rw [hp.blanks_eq_one]; exact Nat.one_pos),
      hp.dropBlanks, hp.line_eq]
  rw [← hm] at hu hc
  rw [file?, hu, hc, search_of_front hf]
  exact congrArg some (String.ofList_toList)

/-- A message of one of the three shapes names the file that was put into it, whatever else stands
in the message; and just the messages in which no shape stands anywhere name none. -/
theorem broken_files_are_named (f : Failure) :
    (∀ path detail : String, Nameable path →
      f.raw = some ("Cannot read config file: " ++ path ++ "\nError: " ++ detail) →
        ofFailure? f = some path) ∧
    (∀ path rule detail : String, Nameable path → '\n' ∉ rule.toList → '\n' ∉ detail.toList →
      f.raw = some (path ++ ":\n\tConfiguration for rule \"" ++ rule ++ "\" is " ++ detail) →
        ofFailure? f = some path) ∧
    (∀ path name : String, Nameable path → '\n' ∉ name.toList → '\'' ∉ name.toList →
      f.raw = some ("Cannot find module '" ++ name ++ "'\nReferenced from: " ++ path) →
        ofFailure? f = some path) ∧
    ∀ message : String, f.raw = some message →
      (ofFailure? f = none ↔
        ∀ shape ∈ shapes, ∀ rest, rest <:+ message.toList → ¬ Begins shape rest) := by
  refine ⟨fun path detail hp h => ?_, fun path rule detail hp hr hd h => ?_,
    fun path name hp hn hq h => ?_, fun message h => ?_⟩
  · rw [ofFailure?_of_raw h, file?_unreadable hp detail]
  · rw [ofFailure?_of_raw h, file?_misconfigured hp hr hd]
  · rw [ofFailure?_of_raw h, file?_missingModule hp hn hq]
  · rw [ofFailure?_of_raw h, file?_eq_none_iff]

/-- A path that holds words of all three shapes. -/
def entangledPath : String := "/Cannot find module 'a':\tError: Configuration for rule \"b\" is :"

/-- The file is found where the words of the shapes stand in its own path and behind it. -/
theorem entangledPath_is_named :
    ofFailure? (.lint ("Cannot read config file: " ++ entangledPath ++ "\nError: " ++
      "x\nCannot find module 'd'\nReferenced from: /e:\n\tConfiguration for rule \"f\" is g")) =
        some entangledPath ∧
    ofFailure? (.lint (entangledPath ++ ":\n\tConfiguration for rule \"" ++ "f\" is :" ++ "\" is " ++
      "Error: g")) = some entangledPath ∧
    ofFailure? (.lint ("Cannot find module '" ++ "Cannot read config file: d:" ++
      "'\nReferenced from: " ++ entangledPath)) = some entangledPath ∧
    (ofFailure? (.lint "Cannot read config file: /e") = none ↔ ∀ shape ∈ shapes, ∀ rest,
      rest <:+ "Cannot read config file: /e".toList → ¬ Begins shape rest) := by
  have hp : Nameable entangledPath := ⟨by decide, '/', _, rfl, by decide⟩
  exact ⟨(broken_files_are_named _).1 _ _ hp rfl,
    (broken_files_are_named _).2.1 _ _ _ hp (by decide) (by decide) rfl,
    (broken_files_are_named _).2.2.1 _ _ hp (by decide) (by decide) rfl,
    (broken_files_are_named _).2.2.2 _ rfl⟩

end ConfigMessage

end LintServer
