/-
  LintServer.Proofs.LineEnds — messages whose lines end in a carriage return and a line feed.

  What the user is told does not depend on how the lines of a message end. Which file the message
  calls broken does: the return in front of a line feed stays at the end of the path, the two shapes
  that want a character right in front of a line feed are no longer found, and a return is itself a
  blank that may stand in front of an empty path.
  - `onOneLine_withReturns`: the message on one line is the same.
  - `search_withReturns`: what a search finds among the lines with returns, told by what is found
    among those without.
  - `line_ends_change_the_file`: which file is named, and when it is the same.
-/

import LintServer.Validation.Classify
import LintServer.Proofs.BrokenFiles

namespace LintServer

namespace Text

/-- The characters with a carriage return in front of each line feed. -/
def withReturns (cs : List Char) : List Char :=
  cs.flatMap fun c => if c = '\n' then ['\r', '\n'] else [c]

/-- The text with a carriage return in front of each line feed. -/
def returned (s : String) : String := String.ofList (withReturns s.toList)

@[simp] theorem toList_returned (s : String) : (returned s).toList = withReturns s.toList :=
  String.toList_ofList

@[simp] theorem withReturns_nil : withReturns [] = [] := rfl

@[simp] theorem withReturns_newline (cs : List Char) :
    withReturns ('\n' :: cs) = '\r' :: '\n' :: withReturns cs := rfl

theorem withReturns_cons {c : Char} (h : c ≠ '\n') (cs : List Char) :
    withReturns (c :: cs) = c :: withReturns cs := by
  rw [withReturns, List.flatMap_cons, if_neg h]
  rfl

theorem withReturns_eq_nil_iff {cs : List Char} : withReturns cs = [] ↔ cs = [] := by
  cases cs with
  | nil => exact Iff.rfl
  | cons c cs =>
    refine ⟨fun h => ?_, fun h => by cases h⟩
    by_cases hc : c = '\n'
    · subst hc
      cases h
    · rw [withReturns_cons hc] at h
      cases h

theorem withReturns_append (cs rest : List Char) :
    withReturns (cs ++ rest) = withReturns cs ++ withReturns rest := List.flatMap_append

theorem withReturns_of_notMem {cs : List Char} (h : '\n' ∉ cs) : withReturns cs = cs := by
  induction cs with
  | nil => rfl
  | cons c cs ih =>
    rw [withReturns_cons (List.ne_of_not_mem_cons h).symm, ih (List.not_mem_of_not_mem_cons h)]

theorem mem_withReturns_newline {cs : List Char} : '\n' ∈ withReturns cs ↔ '\n' ∈ cs := by
  constructor
  · intro h
    by_contra hn
    exact hn (withReturns_of_notMem hn ▸ h)
  · intro h
    exact List.mem_flatMap.mpr ⟨'\n', h, by decide⟩

theorem withReturns_ne_newline (cs after : List Char) : withReturns cs ≠ '\n' :: after := by
  cases cs with
  | nil =>
    intro h
    cases h
  | cons c cs =>
    by_cases hc : c = '\n'
    · subst hc
      intro h
      cases h
    · rw [withReturns_cons hc]
      exact fun h => hc (List.cons.inj h).1

/-- In front of each line feed stands a return. -/
theorem eq_return_of_withReturns {cs before after : List Char} {c : Char}
    (h : withReturns cs = before ++ c :: '\n' :: after) : c = '\r' := by
  induction cs generalizing before with
  | nil => exact absurd h.symm (by simp)
  | cons d cs ih =>
    by_cases hd : d = '\n'
    · subst hd
      rw [withReturns_newline] at h
      match before with
      | [] => exact (List.cons.inj h).1.symm
      | [_] => exact absurd (List.cons.inj (List.cons.inj h).2).2 (withReturns_ne_newline cs after)
      | _ :: _ :: before => exact ih (List.cons.inj (List.cons.inj h).2).2
    · rw [withReturns_cons hd] at h
      match before with
      | [] => exact absurd (List.cons.inj h).2 (withReturns_ne_newline cs after)
      | _ :: before => exact ih (List.cons.inj h).2

theorem after?_withReturns {lead cs : List Char} (hn : '\n' ∉ lead) (hr : '\r' ∉ lead) :
    after? lead (withReturns cs) = (after? lead cs).map withReturns := by
  induction lead generalizing cs with
  | nil => rfl
  | cons l lead ih =>
    have hln : l ≠ '\n' := (List.ne_of_not_mem_cons hn).symm
    cases cs with
    | nil => rfl
    | cons c cs =>
      by_cases hc : c = '\n'
      · subst hc
        have hlr : l ≠ '\r' := (List.ne_of_not_mem_cons hr).symm
        rw [withReturns_newline, after?, after?, if_neg hlr, if_neg hln]
        rfl
      · rw [withReturns_cons hc, after?, after?,
          ih (List.not_mem_of_not_mem_cons hn) (List.not_mem_of_not_mem_cons hr)]
        split <;> rfl

theorem takeWhile_isBlank_withReturns (cs : List Char) :
    (withReturns cs).takeWhile isBlank = withReturns (cs.takeWhile isBlank) := by
  induction cs with
  | nil => rfl
  | cons c cs ih =>
    by_cases hc : c = '\n'
    · subst hc
      rw [withReturns_newline, List.takeWhile_cons_of_pos (by decide),
        List.takeWhile_cons_of_pos (by decide), ih, List.takeWhile_cons_of_pos (by decide)]
      rfl
    · rw [withReturns_cons hc]
      by_cases hb : isBlank c = true
      · rw [List.takeWhile_cons_of_pos hb, List.takeWhile_cons_of_pos hb, ih, withReturns_cons hc]
      · rw [List.takeWhile_cons_of_neg hb, List.takeWhile_cons_of_neg hb]
        rfl

end Text

namespace Failure

variable {cs : List Char}

theorem onOneLine_cons {c : Char} (hn : c ≠ '\n') (hr : c ≠ '\r') (cs : List Char) :
    onOneLine (c :: cs) = c :: onOneLine cs := by
  rw [onOneLine]
  · exact fun _ h _ => hr h
  · exact hn

/-- A message on one line does not tell how its lines ended. -/
theorem onOneLine_withReturns (h : '\r' ∉ cs) :
    onOneLine (Text.withReturns cs) = onOneLine cs := by
  induction cs with
  | nil => rfl
  | cons c cs ih =>
    have ih := ih (List.not_mem_of_not_mem_cons h)
    by_cases hc : c = '\n'
    · subst hc
      rw [Text.withReturns_newline, onOneLine, onOneLine, ih]
    · have hr : c ≠ '\r' := (List.ne_of_not_mem_cons h).symm
      rw [Text.withReturns_cons hc, onOneLine_cons hc hr, onOneLine_cons hc hr, ih]

theorem userMessage_returned {message : String} (h : '\r' ∉ message.toList) (template : Json)
    (file : String) :
    (lint (Text.returned message) template).userMessage file =
      (lint message template).userMessage file := by
  have hr : ∀ m, (lint m template).raw = some m := fun _ => rfl
  simp only [userMessage, hr, Text.toList_returned, onOneLine_withReturns h]

end Failure

namespace ConfigMessage

variable {cs rest : List Char}

/-! ## A file that could not be read -/

theorem afterLine?_eq_none_iff : afterLine? cs = none ↔ '\n' ∉ cs := by
  constructor
  · intro h hn
    obtain ⟨before, next, rfl, hb⟩ := List.eq_append_cons_of_mem hn
    rw [afterLine?_of_append hb] at h
    cases h
  · intro h
    by_contra hn
    obtain ⟨next, hn⟩ := Option.ne_none_iff_exists'.mp hn
    rw [afterLine?_eq_some_iff.mp hn] at h
    exact h (List.mem_append_right _ List.mem_cons_self)

/-- The return stays on the line that it ends. -/
theorem withReturns_line {before next : List Char} (h : '\n' ∉ before) :
    Text.withReturns (before ++ '\n' :: next) =
      (before ++ ['\r']) ++ '\n' :: Text.withReturns next := by
  rw [Text.withReturns_append, Text.withReturns_of_notMem h, Text.withReturns_newline]
  simp

theorem line_withReturns {next : List Char} (h : afterLine? cs = some next) :
    line (Text.withReturns cs) = line cs ++ ['\r'] := by
  have hl := newline_notMem_line cs
  rw [afterLine?_eq_some_iff.mp h, withReturns_line hl, line_of_append hl]
  exact line_of_append (by simpa using hl)

theorem afterLine?_withReturns :
    afterLine? (Text.withReturns cs) = (afterLine? cs).map Text.withReturns := by
  cases h : afterLine? cs with
  | none =>
    rw [afterLine?_eq_none_iff] at h
    rw [Text.withReturns_of_notMem h, afterLine?_eq_none_iff.mpr h]
    rfl
  | some next =>
    have hl := newline_notMem_line cs
    rw [afterLine?_eq_some_iff.mp h, withReturns_line hl]
    exact afterLine?_of_append (by simpa using hl)

theorem isError_withReturns : isError (Text.withReturns cs) = isError cs := by
  rw [isError, Text.after?_withReturns (by decide) (by decide), isError]
  cases Text.after? "Error:".toList cs with
  | none => rfl
  | some rest =>
    simp only [Option.map_some, blanks, Text.takeWhile_isBlank_withReturns, List.length_pos_iff,
      ne_eq, Text.withReturns_eq_nil_iff]

/-- Whether an error stands on the next line. -/
def isBeforeError (cs : List Char) : Bool := (afterLine? cs).any isError

theorem isBeforeError_withReturns : isBeforeError (Text.withReturns cs) = isBeforeError cs := by
  rw [isBeforeError, afterLine?_withReturns, isBeforeError]
  cases afterLine? cs with
  | none => rfl
  | some next => exact isError_withReturns

theorem isBeforeError_newline : isBeforeError ('\n' :: cs) = isError cs := rfl

/-- All blanks are taken first, and one less as long as no error follows the line. -/
theorem unreadable?_succ (count : Nat) :
    unreadable? cs (count + 1) =
      if isBeforeError (cs.drop (count + 1)) = true then some (line (cs.drop (count + 1)))
      else unreadable? cs count := by
  rw [unreadable?, isBeforeError]
  cases afterLine? (cs.drop (count + 1)) with
  | none => rfl
  | some next => rfl

/-- An empty path in front of a line feed that no blank precedes. -/
def bare? : List Char → Option (List Char)
  | '\n' :: next => if isError next then some [] else none
  | _ => none

/-- A path behind which a return stands at the end of its line; an empty one stands between the
return and the line feed. -/
def withReturn (path : List Char) : List Char := if path = [] then [] else path ++ ['\r']

theorem unreadable?_concat {ws : List Char} {c : Char} :
    unreadable? (ws ++ c :: rest) (ws.length + 1) =
      if isBeforeError rest = true then some (line rest)
      else unreadable? (ws ++ c :: rest) ws.length := by
  have hd : (ws ++ c :: rest).drop (ws.length + 1) = rest := by
    rw [← List.drop_drop, List.drop_left]
    rfl
  rw [unreadable?_succ, hd]

theorem line_withReturns_of_isBeforeError (he : isBeforeError cs = true)
    (h : ∀ next, cs = '\n' :: next → isError next = false) :
    line (Text.withReturns cs) = withReturn (line cs) := by
  obtain ⟨next, hn, hr⟩ : ∃ next, afterLine? cs = some next ∧ isError next = true := by
    rw [isBeforeError] at he
    cases hn : afterLine? cs with
    | none =>
      rw [hn] at he
      cases he
    | some next =>
      rw [hn] at he
      exact ⟨next, rfl, he⟩
  have hne : line cs ≠ [] := by
    intro hl
    have hcs := afterLine?_eq_some_iff.mp hn
    rw [hl] at hcs
    rw [h next hcs] at hr
    cases hr
  rw [line_withReturns hn, withReturn, if_neg hne]

/-- In front of a line feed that an error follows, an empty path is found; it may be that no blank
precedes it. -/
theorem unreadable?_of_isError {ws : List Char} (h : isError rest = true) :
    (unreadable? (ws ++ '\n' :: rest) ws.length <|> bare? (ws ++ '\n' :: rest)) = some [] := by
  cases ws using List.reverseRecOn with
  | nil =>
    show bare? ('\n' :: rest) = some []
    rw [bare?, if_pos h]
  | append_singleton ws c =>
    have hl : line ('\n' :: rest) = [] := rfl
    rw [List.append_assoc, List.singleton_append, List.length_append, List.length_singleton,
      unreadable?_concat, isBeforeError_newline, if_pos h, hl]
    rfl

/-- The positions between a return and its line feed come on top of those among the characters
without returns. A path that begins at one of them is empty, as is the one that begins in front of
the return when there are none. -/
theorem unreadable?_withReturns (ws : List Char)
    (h : ∀ next, rest = '\n' :: next → isError next = false) :
    unreadable? (Text.withReturns (ws ++ rest)) (Text.withReturns ws).length =
      (unreadable? (ws ++ rest) ws.length <|> bare? (ws ++ rest)).map withReturn := by
  induction ws using List.reverseRecOn generalizing rest with
  | nil =>
    have hb : bare? rest = none := by
      cases rest with
      | nil => rfl
      | cons c next =>
        by_cases hc : c = '\n'
        · subst hc
          rw [bare?, h next rfl]
          rfl
        · rw [bare?]
          exact fun _ e => hc (List.cons.inj e).1
    exact (congrArg (Option.map withReturn) hb).symm
  | append_singleton ws c ih =>
    rw [List.append_assoc, List.singleton_append, List.length_append, List.length_singleton,
      unreadable?_concat]
    by_cases hc : c = '\n'
    · subst hc
      have hw : Text.withReturns (ws ++ '\n' :: rest) =
          (Text.withReturns ws ++ ['\r']) ++ '\n' :: Text.withReturns rest := by
        rw [Text.withReturns_append, Text.withReturns_newline, List.append_assoc,
          List.singleton_append]
      have hl : (Text.withReturns (ws ++ ['\n'])).length =
          (Text.withReturns ws ++ ['\r']).length + 1 := by
        rw [Text.withReturns_append, List.length_append, List.length_append]
        rfl
      -- behind the line feed, then between the two, then in front of the return
      rw [hl, hw, unreadable?_concat, isBeforeError_withReturns, List.append_assoc,
        List.singleton_append, List.length_append, List.length_singleton, unreadable?_concat,
        isBeforeError_newline, isError_withReturns]
      by_cases hb : isBeforeError rest = true
      · rw [if_pos hb, if_pos hb, line_withReturns_of_isBeforeError hb h]
        rfl
      · rw [if_neg hb, if_neg hb]
        by_cases he : isError rest = true
        · rw [if_pos he, unreadable?_of_isError he]
          rfl
        · have ih := @ih ('\n' :: rest) fun next e => by
            rw [← (List.cons.inj e).2]
            exact eq_false_of_ne_true he
          rw [if_neg he, ← ih, hw, List.append_assoc, List.singleton_append]
    · have hw : Text.withReturns (ws ++ c :: rest) =
          Text.withReturns ws ++ c :: Text.withReturns rest := by
        rw [Text.withReturns_append, Text.withReturns_cons hc]
      have hl : (Text.withReturns (ws ++ [c])).length = (Text.withReturns ws).length + 1 := by
        rw [Text.withReturns_append, Text.withReturns_cons hc, List.length_append]
        rfl
      have ih := @ih (c :: rest) fun next e => absurd (List.cons.inj e).1 hc
      rw [hl, hw, unreadable?_concat, isBeforeError_withReturns, ← hw, ih]
      by_cases hb : isBeforeError rest = true
      · rw [if_pos hb, if_pos hb, line_withReturns_of_isBeforeError hb h]
        rfl
      · rw [if_neg hb, if_neg hb]

/-- A file that could not be read, found also where no blank stands in front of an empty path. -/
def unreadableOrBare? (cs : List Char) : Option (List Char) :=
  unreadableFile? cs <|> (Text.after? "Cannot read config file:".toList cs).bind bare?

theorem unreadableFile?_withReturns :
    unreadableFile? (Text.withReturns cs) = (unreadableOrBare? cs).map withReturn := by
  rw [unreadableFile?, unreadableOrBare?, unreadableFile?,
    Text.after?_withReturns (by decide) (by decide)]
  cases Text.after? "Cannot read config file:".toList cs with
  | none => rfl
  | some rest =>
    have hs : rest = rest.takeWhile Text.isBlank ++ rest.dropWhile Text.isBlank :=
      List.takeWhile_append_dropWhile.symm
    -- all blanks are taken, so no line feed comes next
    have hd : ∀ next, rest.dropWhile Text.isBlank = '\n' :: next → isError next = false := by
      intro next hn
      have hb : Text.isBlank '\n' = false := by
        simpa [hn] using List.head?_dropWhile_not Text.isBlank rest
      cases hb
    have h := unreadable?_withReturns (rest.takeWhile Text.isBlank) hd
    rw [← hs] at h
    show unreadable? (Text.withReturns rest) (blanks (Text.withReturns rest)) =
      (unreadable? rest (blanks rest) <|> bare? rest).map withReturn
    rw [blanks, Text.takeWhile_isBlank_withReturns, h, blanks]

/-! ## Searching -/

/-- A search that finds nothing at a line feed finds the same at the same place, if what it finds
there is told by what is found among the characters without returns. -/
theorem search_withReturns {at? bt? : List Char → Option (List Char)}
    (hab : ∀ cs, at? (Text.withReturns cs) = bt? cs) (hn : ∀ cs, at? ('\n' :: cs) = none) :
    search at? (Text.withReturns cs) = search bt? cs := by
  induction cs with
  | nil => exact hab []
  | cons c cs ih =>
    have h := hab (c :: cs)
    rw [search, ← h]
    by_cases hc : c = '\n'
    · subst hc
      rw [Text.withReturns_newline, search]
      cases at? ('\r' :: '\n' :: Text.withReturns cs) with
      | some found => rfl
      | none => simp only [search, hn, ih]
    · rw [Text.withReturns_cons hc, search, ih]

theorem search_map {at? : List Char → Option (List Char)} (g : List Char → List Char) :
    search (fun cs => (at? cs).map g) cs = (search at? cs).map g := by
  induction cs with
  | nil => rfl
  | cons c cs ih =>
    rw [search, search, ih]
    cases at? (c :: cs) with
    | none => rfl
    | some found => rfl

theorem search_unreadableFile?_withReturns :
    search unreadableFile? (Text.withReturns cs) =
      (search unreadableOrBare? cs).map withReturn := by
  rw [← search_map]
  exact search_withReturns (fun cs => unreadableFile?_withReturns) fun cs => rfl

/-- A rule that is configured wrongly needs a colon right in front of a line feed. -/
theorem search_misconfigured?_withReturns : search misconfigured? (Text.withReturns cs) = none := by
  rw [← Option.not_isSome_iff_eq_none, search_isSome_iff]
  rintro ⟨rest, ⟨before, hb⟩, h⟩
  obtain ⟨path, h⟩ := Option.isSome_iff_exists.mp h
  obtain ⟨-, tail, rfl, -⟩ := misconfigured?_eq_some_iff.mp h
  have hr : Text.withReturns cs = (before ++ path) ++ ':' :: '\n' :: tail := by
    rw [← hb, List.append_assoc]
    rfl
  exact absurd (Text.eq_return_of_withReturns hr) (by decide)

/-- A module that was not found needs a quote right in front of a line feed. -/
theorem search_missingModule?_withReturns : search missingModule? (Text.withReturns cs) = none := by
  rw [← Option.not_isSome_iff_eq_none, search_isSome_iff]
  rintro ⟨rest, ⟨before, hb⟩, h⟩
  obtain ⟨_, rfl, name, _, rfl, -, h⟩ := begins_text.mp (missingModule?_isSome_iff.mp h)
  obtain ⟨tail, rfl, -⟩ := begins_text.mp h
  have hr : Text.withReturns cs = (before ++ "Cannot find module '".toList ++ name) ++
      '\'' :: '\n' :: ("Referenced from:".toList ++ tail) := by
    rw [← hb, List.append_assoc, List.append_assoc]
    rfl
  exact absurd (Text.eq_return_of_withReturns hr) (by decide)

/-- Just a file that could not be read is found, with the return behind it. -/
theorem file?_returned (message : String) :
    file? (Text.returned message) = (search unreadableOrBare? message.toList).map
      fun path => String.ofList (withReturn path) := by
  rw [file?, Text.toList_returned, search_unreadableFile?_withReturns,
    search_misconfigured?_withReturns, search_missingModule?_withReturns]
  cases search unreadableOrBare? message.toList with
  | none => rfl
  | some path => rfl

/-! ## Paths without returns -/

theorem line_subset (cs : List Char) : line cs ⊆ cs := (List.takeWhile_prefix _).subset

theorem unreadable?_subset {count : Nat} {path : List Char} (h : unreadable? cs count = some path) :
    path ⊆ cs := by
  induction count with
  | zero => cases h
  | succ count ih =>
    rw [unreadable?_succ] at h
    split at h
    · rw [← Option.some.inj h]
      exact List.Subset.trans (line_subset _) (List.drop_subset _ _)
    · exact ih h

theorem search_subset {at? : List Char → Option (List Char)}
    (hat : ∀ cs path, at? cs = some path → path ⊆ cs) {path : List Char}
    (h : search at? cs = some path) : path ⊆ cs := by
  induction cs with
  | nil => exact hat _ _ h
  | cons c cs ih =>
    rw [search] at h
    split at h
    · rename_i found hf
      rw [← Option.some.inj h]
      exact hat _ _ hf
    · exact List.Subset.trans (ih h) (List.subset_cons_self c cs)

/-- A file that is found stands in the message. -/
theorem file?_subset {message path : String} (h : file? message = some path) :
    path.toList ⊆ message.toList := by
  obtain ⟨found, hf, rfl⟩ := Option.map_eq_some_iff.mp h
  rw [String.toList_ofList]
  rw [Option.orElse_eq_some, Option.orElse_eq_some] at hf
  rcases hf with hf | ⟨-, hf | ⟨-, hf⟩⟩
  · refine search_subset (fun cs path h => ?_) hf
    obtain ⟨rest, hr, h⟩ := Option.bind_eq_some_iff.mp h
    rw [Text.after?_eq_some_iff.mp hr]
    exact List.Subset.trans (unreadable?_subset h) (List.subset_append_right _ _)
  · refine search_subset (fun cs path h => ?_) hf
    obtain ⟨-, rest, rfl, -⟩ := misconfigured?_eq_some_iff.mp h
    exact List.subset_append_left _ _
  · refine search_subset (fun cs path h => ?_) hf
    obtain ⟨name, hn, h⟩ := Option.bind_eq_some_iff.mp h
    obtain ⟨rest, hr, h⟩ := Option.bind_eq_some_iff.mp h
    split at h
    · cases h
    · have hq := Text.after?_eq_some_iff.mp hr
      have hrest : rest ⊆ name.dropWhile (· != '\'') := hq ▸ List.subset_append_right _ _
      have hname : rest ⊆ name := List.Subset.trans hrest (List.dropWhile_suffix _).subset
      have hline : line (rest.dropWhile Text.isBlank) ⊆ rest :=
        List.Subset.trans (line_subset _) (List.dropWhile_suffix _).subset
      rw [← Option.some.inj h, Text.after?_eq_some_iff.mp hn]
      exact List.Subset.trans (List.Subset.trans hline hname) (List.subset_append_right _ _)

variable {message : String} (hm : '\r' ∉ message.toList)
include hm

/-- The same file is named just if none is, or an empty one. -/
theorem file?_returned_eq_iff :
    file? (Text.returned message) = file? message ↔
      (file? message = none ∧ search unreadableOrBare? message.toList = none) ∨
        (file? message = some "" ∧ search unreadableOrBare? message.toList = some []) := by
  rw [file?_returned]
  cases hs : search unreadableOrBare? message.toList with
  | none => simp [eq_comm]
  | some path =>
    cases path with
    | nil => simp [withReturn, eq_comm]
    | cons c path =>
      have hne : (some (c :: path) : Option (List Char)) ≠ some [] := by simp
      simp only [hne, and_false, or_false, reduceCtorEq, iff_false, Option.map_some]
      intro he
      have hsub := file?_subset he.symm
      rw [String.toList_ofList] at hsub
      refine hm (hsub ?_)
      rw [withReturn, if_neg (by simp)]
      exact List.mem_append_right _ List.mem_cons_self

end ConfigMessage

namespace Classifier

/-- A verdict comes from whether a configuration is missing, from the file that is called broken
and from what the user is told. -/
theorem classify_congr {f g : Failure} (hn : f.isNoConfig = g.isNoConfig)
    (hf : ConfigMessage.ofFailure? f = ConfigMessage.ofFailure? g)
    (hu : f.userMessage = g.userMessage) (ds : Documents) (r : Reported) (d : Document)
    (engine : String) (chain : List Classifier) :
    classify ds r ⟨d, engine, f⟩ chain = classify ds r ⟨d, engine, g⟩ chain := by
  have ht : userMessage ⟨d, engine, f⟩ = userMessage ⟨d, engine, g⟩ := by
    simp only [userMessage, hu]
  have hj : ∀ c : Classifier, c.judge ds r ⟨d, engine, f⟩ = c.judge ds r ⟨d, engine, g⟩ := by
    intro c
    cases c with
    | noConfig => simp only [judge, judgeNoConfig, telling, ht, hn]
    | configSyntax => simp only [judge, judgeConfigSyntax, telling, ht, hf]
    | generic => simp only [judge, judgeGeneric, telling, ht]
  induction chain with
  | nil => rfl
  | cons c chain ih => rw [classify, classify, hj c, ih]

end Classifier

namespace Failure

/-- The message about a missing configuration is on one line. -/
theorem isNoConfig_returned (message : String) (template : Json) :
    (lint (Text.returned message) template).isNoConfig = (lint message template).isNoConfig := by
  have hr : ∀ m, (lint m template).raw = some m := fun _ => rfl
  have hs : Text.returned message = noConfigMessage ↔ message = noConfigMessage := by
    constructor
    · intro h
      have hl : Text.withReturns message.toList = noConfigMessage.toList := by
        rw [← Text.toList_returned, h]
      have hn : '\n' ∉ message.toList := by
        rw [← Text.mem_withReturns_newline, hl]
        decide
      rw [Text.withReturns_of_notMem hn] at hl
      exact String.toList_inj.mp hl
    · rintro rfl
      decide
  have hb : (some (Text.returned message) == some noConfigMessage) =
      (some message == some noConfigMessage) := by
    rw [Bool.eq_iff_iff, beq_iff_eq, beq_iff_eq, Option.some_inj, Option.some_inj, hs]
  rw [isNoConfig, isNoConfig, hr, hr, hb]
  rfl

end Failure

namespace ConfigMessage

open Failure in
/-- What the user is told does not depend on the line ends of a message. Which file it calls broken
does: it is the same just if none is named, or an empty one; and then the verdict is the same. -/
theorem line_ends_change_the_file {message : String} (hm : '\r' ∉ message.toList)
    (template : Json) :
    (∀ file, (lint (Text.returned message) template).userMessage file =
      (lint message template).userMessage file) ∧
    (ofFailure? (lint (Text.returned message) template) =
      (search unreadableOrBare? message.toList).map fun path => String.ofList (withReturn path)) ∧
    (ofFailure? (lint (Text.returned message) template) = ofFailure? (lint message template) ↔
      (file? message = none ∧ search unreadableOrBare? message.toList = none) ∨
        (file? message = some "" ∧ search unreadableOrBare? message.toList = some [])) ∧
    (ofFailure? (lint (Text.returned message) template) = ofFailure? (lint message template) →
      ∀ ds r d engine chain,
        Classifier.classify ds r ⟨d, engine, lint (Text.returned message) template⟩ chain =
          Classifier.classify ds r ⟨d, engine, lint message template⟩ chain) := by
  have hu := userMessage_returned hm template
  have hr : ∀ m, ofFailure? (lint m template) = file? m := fun m => ofFailure?_of_raw rfl
  refine ⟨hu, ?_, ?_, fun hf ds r d engine chain => ?_⟩
  · rw [hr, file?_returned]
  · rw [hr, hr]
    exact file?_returned_eq_iff hm
  · exact Classifier.classify_congr (isNoConfig_returned message template) hf (funext hu)
      ds r d engine chain

/-- Two messages of two lines: one names no file, and the other names one with a return behind it
as soon as its lines end so. -/
theorem twoLines_with_returns :
    '\r' ∉ "CLI: no\nfile".toList ∧ '\r' ∉ "Cannot read config file: /a\nError: b".toList ∧
    (∀ ds r d engine chain,
      Classifier.classify ds r ⟨d, engine, .lint (Text.returned "CLI: no\nfile")⟩ chain =
        Classifier.classify ds r ⟨d, engine, .lint "CLI: no\nfile"⟩ chain) ∧
    (∀ file, (Failure.lint (Text.returned "Cannot read config file: /a\nError: b")).userMessage file =
      (Failure.lint "Cannot read config file: /a\nError: b").userMessage file) ∧
    ofFailure? (.lint (Text.returned "Cannot read config file: /a\nError: b")) = some "/a\r" := by
  have h1 : '\r' ∉ "CLI: no\nfile".toList := by decide
  have h2 : '\r' ∉ "Cannot read config file: /a\nError: b".toList := by decide
  obtain ⟨-, -, same, verdict⟩ := line_ends_change_the_file h1 .null
  obtain ⟨told, file, -⟩ := line_ends_change_the_file h2 .null
  exact ⟨h1, h2, verdict (same.mpr (.inl ⟨by decide, by decide⟩)), told, file.trans (by decide)⟩

/-- With a return in front of the line feed, another file is called broken. -/
theorem return_stays_in_the_path :
    '\r' ∉ "Cannot read config file: /proj/.eslintrc.json\nError: Unexpected token \x7d".toList ∧
    ofFailure? (.lint "Cannot read config file: /proj/.eslintrc.json\nError: Unexpected token \x7d") =
      some "/proj/.eslintrc.json" ∧
    ofFailure? (.lint (Text.returned
      "Cannot read config file: /proj/.eslintrc.json\nError: Unexpected token \x7d")) =
        some "/proj/.eslintrc.json\r" := by
  decide

end ConfigMessage

end LintServer
