/-
  LintServer.Proofs.Edits — what the editor makes of a text with the edits it gets.

  The editor reads each edit's positions in the text it has and makes all edits at once: where
  an edit starts its text is put in, edits that start at one place in the order of the list,
  and the units that an edit covers go. The fixes themselves speak of offsets, and can be made
  one after another, the last first, by cutting units out and putting others in.
  - `atOnce_eq_spliced`: both ways give the same text, for changes that are apart and in order.
  - `editsOf_eq_ok`, `applied_edited`: the edits of fixes that fit in a text are there, and their
    positions stand for the offsets of the fixes.
  - `edits_make_spliced_text`: so all ways of applying several fixes give the text that the
    selected fixes make when they are spliced in.
-/

import Mathlib
import LintServer.Proofs.Offers
import LintServer.Proofs.Units

namespace LintServer

namespace Text

/-- Units to stand in place of those from `start` up to `stop`. -/
structure Change where
  start : Nat
  stop : Nat
  units : List Nat
  deriving DecidableEq, Repr

namespace Change

def covers (c : Change) (i : Nat) : Bool := c.start ≤ i && i < c.stop

/-- What is put in before the unit at an offset. -/
def putIn (cs : List Change) (i : Nat) : List Nat := (cs.filter (·.start == i)).flatMap (·.units)

/-- The unit at an offset, if there is one and no change covers it. -/
def left (us : List Nat) (cs : List Change) (i : Nat) : List Nat :=
  if cs.any (·.covers i) then [] else us[i]?.toList

/-- The units with all changes made at once. -/
def atOnce (us : List Nat) (cs : List Change) : List Nat :=
  (List.range (us.length + 1)).flatMap fun i => putIn cs i ++ left us cs i

/-- The units with one change made. -/
def splice (c : Change) (us : List Nat) : List Nat := us.take c.start ++ c.units ++ us.drop c.stop

/-- The units with the changes made one after another, from the last to the first. -/
def spliced (us : List Nat) (cs : List Change) : List Nat := cs.foldr splice us

/-! ## Changes that are apart -/

/-- The units from `first` on for `count` places, with all changes made. -/
def span (us : List Nat) (cs : List Change) (first count : Nat) : List Nat :=
  (List.range' first count).flatMap fun i => putIn cs i ++ left us cs i

theorem atOnce_eq_span (us : List Nat) (cs : List Change) :
    atOnce us cs = span us cs 0 (us.length + 1) := by
  rw [atOnce, span, List.range_eq_range']

theorem span_add (us : List Nat) (cs : List Change) (first m n : Nat) :
    span us cs first (m + n) = span us cs first m ++ span us cs (first + m) n := by
  simp only [span]
  rw [← List.flatMap_append, List.range'_append_1]

theorem putIn_eq_nil {cs : List Change} {i : Nat} (h : ∀ c ∈ cs, c.start ≠ i) : putIn cs i = [] := by
  have hf : cs.filter (·.start == i) = [] := List.filter_eq_nil_iff.mpr fun c hc => by simp [h c hc]
  rw [putIn, hf]
  rfl

theorem left_of_later {cs : List Change} {i : Nat} (us : List Nat) (h : ∀ c ∈ cs, i < c.start) :
    left us cs i = us[i]?.toList := by
  have hc : ¬ cs.any (·.covers i) = true := by
    intro ha
    obtain ⟨c, hc, hi⟩ := List.any_eq_true.mp ha
    have := h c hc
    simp only [covers, Bool.and_eq_true, decide_eq_true_eq] at hi
    omega
  rw [left, if_neg hc]

/-- Before the first change the units stay. -/
theorem span_before (us : List Nat) {cs : List Change} {first count : Nat}
    (h : ∀ c ∈ cs, first + count ≤ c.start) : span us cs first count = (us.drop first).take count := by
  induction count generalizing first with
  | zero => simp [span]
  | succ n ih =>
    have hp : putIn cs first = [] := putIn_eq_nil fun c hc => by have := h c hc; omega
    have hl : left us cs first = us[first]?.toList :=
      left_of_later us fun c hc => by have := h c hc; omega
    have hr : span us cs (first + 1) n = (us.drop (first + 1)).take n :=
      ih fun c hc => by have := h c hc; omega
    have hs : span us cs first (n + 1) = us[first]?.toList ++ span us cs (first + 1) n := by
      simp only [span, List.range'_succ, List.flatMap_cons, hp, hl, List.nil_append]
    rw [hs, hr]
    by_cases hin : first < us.length
    · rw [List.drop_eq_getElem_cons hin, List.take_succ_cons, List.getElem?_eq_getElem hin]
      rfl
    · rw [List.getElem?_eq_none (by omega), List.drop_eq_nil_of_le (by omega),
        List.drop_eq_nil_of_le (by omega)]
      simp

/-- Behind its end a change makes no difference. -/
theorem span_behind (us : List Nat) (c : Change) (cs : List Change) {first : Nat} (count : Nat)
    (hs : c.start < first) (he : c.stop ≤ first) :
    span us (c :: cs) first count = span us cs first count := by
  simp only [span]
  refine List.flatMap_congr fun i hi => ?_
  have hi' := (List.mem_range'_1.mp hi).1
  have hne : (c.start == i) = false := by simp; omega
  have hc : c.covers i = false := by simp [covers]; omega
  simp [putIn, left, hne, hc]

/-- Where a change covers everything and none starts, nothing is left. -/
theorem span_covered (us : List Nat) {c : Change} {cs : List Change} (hc : c ∈ cs) {first count : Nat}
    (hs : ∀ d ∈ cs, d.start < first ∨ first + count ≤ d.start) (hle : c.start ≤ first)
    (he : first + count ≤ c.stop) : span us cs first count = [] := by
  simp only [span, List.flatMap_eq_nil_iff, List.append_eq_nil_iff]
  intro i hi
  obtain ⟨hi1, hi2⟩ := List.mem_range'_1.mp hi
  refine ⟨putIn_eq_nil fun d hd => by have := hs d hd; omega, ?_⟩
  have hcov : c.covers i = true := by simp [covers]; omega
  rw [left, if_pos (List.any_eq_true.mpr ⟨c, hc, hcov⟩)]

theorem putIn_start (c : Change) (cs : List Change) :
    putIn (c :: cs) c.start = c.units ++ putIn cs c.start := by
  simp [putIn]

/-- Where the first change starts its units come, and then what follows its end. -/
theorem span_at_start (us : List Nat) {c : Change} {cs : List Change} (hle : c.start ≤ c.stop)
    (h : ∀ d ∈ cs, c.stop ≤ d.start) (n : Nat) :
    span us (c :: cs) c.start (c.stop - c.start + (n + 1)) = c.units ++ span us cs c.stop (n + 1) := by
  have first : ∀ m, span us (c :: cs) c.start (m + 1) =
      c.units ++ putIn cs c.start ++ left us (c :: cs) c.start ++ span us (c :: cs) (c.start + 1) m := by
    intro m
    simp only [span, List.range'_succ, List.flatMap_cons, putIn_start]
  rcases Nat.eq_or_lt_of_le hle with he | hlt
  · -- nothing goes: the change only puts units in
    have hleft : left us (c :: cs) c.start = left us cs c.start := by
      have hc : c.covers c.start = false := by simp [covers]; omega
      simp [left, hc]
    have hb : span us (c :: cs) (c.start + 1) n = span us cs (c.start + 1) n :=
      span_behind us c cs n (by omega) (by omega)
    rw [← he, Nat.sub_self, Nat.zero_add, first, hleft, hb]
    simp only [span, List.range'_succ, List.flatMap_cons, List.append_assoc]
  · have hput : putIn cs c.start = [] := putIn_eq_nil fun d hd => by have := h d hd; omega
    have hleft : left us (c :: cs) c.start = [] := by
      have hc : c.covers c.start = true := by simp [covers]; omega
      simp [left, hc]
    obtain ⟨m, hm⟩ : ∃ m, c.stop - c.start = m + 1 := ⟨c.stop - c.start - 1, by omega⟩
    have hcov : span us (c :: cs) (c.start + 1) m = [] := by
      refine span_covered us List.mem_cons_self ?_ (by omega) (by omega)
      intro d hd
      rcases List.mem_cons.mp hd with rfl | hd
      · omega
      · have := h d hd; omega
    have hb : span us (c :: cs) c.stop (n + 1) = span us cs c.stop (n + 1) :=
      span_behind us c cs (n + 1) hlt (Nat.le_refl _)
    have hstop : c.start + 1 + m = c.stop := by omega
    have hcount : c.stop - c.start + (n + 1) = m + (n + 1) + 1 := by omega
    rw [hcount, first, hput, hleft, span_add, hcov, hstop, hb]
    simp

/-- The changes start at or before their ends, end in the text, and each ends at or before the
start of those that follow it. -/
structure Apart (us : List Nat) (cs : List Change) : Prop where
  start_le : ∀ c ∈ cs, c.start ≤ c.stop
  stop_le : ∀ c ∈ cs, c.stop ≤ us.length
  ordered : cs.Pairwise fun a b => a.stop ≤ b.start

/-- Changes that are apart make the same text at once and one after another. -/
theorem atOnce_eq_spliced {us : List Nat} {cs : List Change} (h : Apart us cs) :
    atOnce us cs = spliced us cs := by
  induction cs with
  | nil =>
    rw [atOnce_eq_span, span_before us (by simp)]
    simp [spliced, List.take_of_length_le]
  | cons c rest ih =>
    have hle := h.start_le c List.mem_cons_self
    have hin := h.stop_le c List.mem_cons_self
    obtain ⟨hlater, hord⟩ := List.pairwise_cons.mp h.ordered
    have hrest := ih ⟨fun d hd => h.start_le d (List.mem_cons_of_mem c hd),
      fun d hd => h.stop_le d (List.mem_cons_of_mem c hd), hord⟩
    obtain ⟨n, hn⟩ := Nat.exists_eq_add_of_le hin
    -- up to the end of `c` the other changes leave the text as it is
    have htail : atOnce us rest = us.take c.stop ++ span us rest c.stop (n + 1) := by
      have hcount : us.length + 1 = c.stop + (n + 1) := by omega
      rw [atOnce_eq_span, hcount, span_add, span_before us (by simpa using hlater), Nat.zero_add,
        List.drop_zero]
    have hall : atOnce us (c :: rest) = us.take c.start ++ (c.units ++ span us rest c.stop (n + 1)) := by
      have hcount : us.length + 1 = c.start + (c.stop - c.start + (n + 1)) := by omega
      have hstart : ∀ d ∈ c :: rest, 0 + c.start ≤ d.start := by
        intro d hd
        rcases List.mem_cons.mp hd with rfl | hd
        · omega
        · have := hlater d hd; omega
      rw [atOnce_eq_span, hcount, span_add, span_before us hstart, Nat.zero_add, List.drop_zero,
        span_at_start us hle hlater]
    have hlen : (us.take c.stop).length = c.stop := List.length_take_of_le hin
    show _ = splice c (spliced us rest)
    rw [hall, ← hrest, htail, splice, List.take_append_of_le_length (by omega), List.take_take,
      Nat.min_eq_left hle, List.drop_append_of_le_length (by omega), List.drop_of_length_le (by omega)]
    simp

end Change

end Text

open Text (Change)
open Text.Utf16 (encode offsetOf? splitsBreak)

/-! ## Edits and fixes as changes -/

namespace TextEdit

/-- The change that an edit stands for in a text. -/
def change? (us : List Nat) (e : TextEdit) : Option Change := do
  return {
    start := ← offsetOf? us e.range.start
    stop := ← offsetOf? us e.range.stop
    units := encode (Text.ofString e.newText).points }

/-- What the editor makes of a text with a list of edits, if their positions lie in it. -/
def applied (us : List Nat) (es : List TextEdit) : Option (List Nat) :=
  (es.mapM (change? us)).map (Change.atOnce us)

end TextEdit

namespace Fix

def change (f : Fix) : Change :=
  ⟨f.edit.start.toNat, f.edit.stop.toNat, encode (Text.ofString f.newText).points⟩

/-- The fix has a text, its range lies in the units and is not inverted, and neither end of it
lies inside a line break. -/
structure FitsIn (us : List Nat) (f : Fix) : Prop where
  text : ∃ s, f.edit.text = .str s
  start_nonneg : 0 ≤ f.edit.start
  start_le : f.edit.start ≤ f.edit.stop
  stop_le : f.edit.stop ≤ us.length
  start_whole : splitsBreak us f.edit.start.toNat = false
  stop_whole : splitsBreak us f.edit.stop.toNat = false

/-- The units with the fixes spliced in. -/
def spliced (us : List Nat) (fixes : List Fix) : List Nat := Change.spliced us (fixes.map change)

theorem apart {us : List Nat} {fixes : List Fix} (hfits : ∀ f ∈ fixes, f.FitsIn us)
    (hord : fixes.Pairwise fun a b => a.edit.stop ≤ b.edit.start) :
    Change.Apart us (fixes.map change) where
  start_le := by
    intro c hc
    obtain ⟨f, hf, rfl⟩ := List.mem_map.mp hc
    exact Int.toNat_le_toNat (hfits f hf).start_le
  stop_le := by
    intro c hc
    obtain ⟨f, hf, rfl⟩ := List.mem_map.mp hc
    exact Int.toNat_le.mpr (hfits f hf).stop_le
  ordered := List.Pairwise.map change (fun _ _ h => Int.toNat_le_toNat h) hord

end Fix

namespace Command

section

variable {d : Document}

theorem change?_edited {f : Fix} (hf : f.FitsIn d.utf16) :
    (edited d f).change? d.utf16 = some f.change := by
  have hstart := Document.offsetOf?_positionAt (Int.le_trans hf.start_le hf.stop_le) hf.start_whole
  have hstop := Document.offsetOf?_positionAt hf.stop_le hf.stop_whole
  show (do
    let start ← offsetOf? d.utf16 (d.positionAt f.edit.start)
    let stop ← offsetOf? d.utf16 (d.positionAt f.edit.stop)
    return { start, stop, units := encode (Text.ofString f.newText).points }) = some f.change
  rw [hstart, hstop]
  rfl

/-- The edits of fixes that are apart make the text that the fixes make. -/
theorem applied_edited {fixes : List Fix} (hfits : ∀ f ∈ fixes, f.FitsIn d.utf16)
    (hord : fixes.Pairwise fun a b => a.edit.stop ≤ b.edit.start) :
    TextEdit.applied d.utf16 (fixes.map (edited d)) = some (Fix.spliced d.utf16 fixes) := by
  have hchanges : (fixes.map (edited d)).mapM (TextEdit.change? d.utf16) =
      some (fixes.map Fix.change) := by
    induction fixes with
    | nil => rfl
    | cons f rest ih =>
      have hf := change?_edited (hfits f List.mem_cons_self)
      have hrest := ih (fun g hg => hfits g (List.mem_cons_of_mem f hg)) hord.of_cons
      rw [List.map_cons, List.mapM_cons, hf, hrest]
      rfl
  rw [TextEdit.applied, hchanges, Option.map_some, Change.atOnce_eq_spliced (Fix.apart hfits hord)]
  rfl

variable (hd : d.text.IsWhole) (hbound : d.utf16.length ≤ Position.bound)

include hd hbound

theorem editOf_eq_ok {f : Fix} (hf : f.FitsIn d.utf16) : editOf d f = .ok (edited d f) :=
  editOf_eq_edited
    (Document.place_eq_ok (Int.le_trans hf.start_le hf.stop_le) hf.start_whole hd hbound)
    (Document.place_eq_ok hf.stop_le hf.stop_whole hd hbound) hf.text

theorem editsOf_eq_ok {fixes : List Fix} (hfits : ∀ f ∈ fixes, f.FitsIn d.utf16) :
    editsOf d fixes = .ok (fixes.map (edited d)) :=
  editsOf_eq_ok_iff.mpr ⟨fun f hf => editOf_eq_ok hd hbound (hfits f hf), rfl⟩

end

end Command

/-! ## The fixes of a document -/

namespace FixTable

theorem values_fit {us : List Nat} {t : FixTable} (ht : ∀ e ∈ t, e.2.FitsIn us) :
    ∀ f ∈ Table.values t, f.FitsIn us := by
  intro f hf
  obtain ⟨e, he, rfl⟩ := List.mem_map.mp hf
  exact ht e he

theorem inScope_fit {us : List Nat} {t : FixTable} (ht : ∀ e ∈ t, e.2.FitsIn us)
    (keys : List String) : ∀ f ∈ inScope t keys, f.FitsIn us :=
  fun f hf => values_fit ht f (mem_values_of_inScope hf)

theorem overlapFree_fit {us : List Nat} {t : FixTable} (ht : ∀ e ∈ t, e.2.FitsIn us) :
    ∀ f ∈ overlapFree t, f.FitsIn us :=
  fun f hf => values_fit ht f (mem_values_of_overlapFree hf)

theorem sameRule_fit {us : List Nat} {t : FixTable} (ht : ∀ e ∈ t, e.2.FitsIn us) (rule : Json) :
    ∀ f ∈ sameRule t rule, f.FitsIn us :=
  fun f hf => values_fit ht f (mem_values_of_sameRule hf)

end FixTable

namespace Command

section

variable {d : Document} (hd : d.text.IsWhole)
  (hbound : d.utf16.length ≤ Position.bound) {t : FixTable} (ht : ∀ e ∈ t, e.2.FitsIn d.utf16)

include hd hbound ht

/-- What is offered: commands for single fixes, and then those for several. -/
theorem forDocument_eq_ok (keys : List String) :
    forDocument (some d) (some t) keys = .ok ((FixTable.inScope t keys).map (alone d) ++
      ((FixTable.inScope t keys).getLast?.map (bundles d t)).getD []) := by
  have made : ∀ fixes : List Fix, (∀ f ∈ fixes, f.FitsIn d.utf16) → Made d fixes :=
    fun _ hf f hm => editOf_eq_ok hd hbound (hf f hm)
  refine forDocument_eq_ok_iff.mpr ⟨made _ (FixTable.inScope_fit ht keys), ?_, rfl⟩
  exact fun last _ _ => ⟨fun _ => made _ (FixTable.sameRule_fit ht last.rule),
    fun _ => made _ (FixTable.overlapFree_fit ht)⟩

end

end Command

open FixTable in
/-- In a text without halves of surrogate pairs, the edits for all fixes of a document, for all fixes
of one rule and for all fixes that are asked for on their own make the text that the selected fixes
make when they are spliced into its units. They are there whenever there are several fixes to
make. -/
theorem edits_make_spliced_text (d : Document) (t : FixTable) (keys : List String)
    (hd : d.text.IsWhole) (hbound : d.utf16.length ≤ Position.bound)
    (ht : ∀ e ∈ t, e.2.FitsIn d.utf16) :
    (∃ all, AllFixes.ofTable (some d) (some t) = .ok all ∧ (all = none ↔ t = []) ∧
      ∀ a, all = some a →
        TextEdit.applied d.utf16 a.edits = some (Fix.spliced d.utf16 (overlapFree t))) ∧
    ∃ commands, Command.forDocument (some d) (some t) keys = .ok commands ∧
      (∀ c ∈ commands, c.command = Command.applySame → ∃ last,
        (inScope t keys).getLast? = some last ∧
        TextEdit.applied d.utf16 c.edits = some (Fix.spliced d.utf16 (sameRule t last.rule))) ∧
      (∀ c ∈ commands, c.command = Command.applyAll →
        TextEdit.applied d.utf16 c.edits = some (Fix.spliced d.utf16 (overlapFree t))) ∧
      ∀ last, (inScope t keys).getLast? = some last → last.rule.isNull = false →
        (1 < (sameRule t last.rule).length → ∃ c ∈ commands, c.command = Command.applySame) ∧
        (1 < (overlapFree t).length → ∃ c ∈ commands, c.command = Command.applyAll) := by
  have hall := Command.applied_edited (overlapFree_fit ht) (overlapFree_ordered t)
  have hsame := fun rule => Command.applied_edited (sameRule_fit ht rule) (sameRule_ordered t rule)
  refine ⟨?_, _, Command.forDocument_eq_ok hd hbound ht keys, ?_, ?_, ?_⟩
  · cases t with
    | nil => exact ⟨none, rfl, by simp, fun a ha => by cases ha⟩
    | cons e rest =>
      refine ⟨some ⟨e.2.version, (overlapFree (e :: rest)).map (Command.edited d)⟩, ?_, by simp, ?_⟩
      · show (do
          let edits ← Command.editsOf d (overlapFree (e :: rest))
          return some (AllFixes.mk e.2.version edits)) = _
        rw [Command.editsOf_eq_ok hd hbound (overlapFree_fit ht)]
        rfl
      · rintro a ⟨⟩
        exact hall
  · intro c hc hname
    obtain ⟨last, hlast, ⟨-, he⟩ | ⟨hne, -⟩⟩ := Command.mem_offered hc (by rw [hname]; decide)
    · exact ⟨last, hlast, by rw [he]; exact hsame last.rule⟩
    · exact absurd (hname.symm.trans hne) (by decide)
  · intro c hc hname
    obtain ⟨last, -, ⟨hne, -⟩ | ⟨-, he⟩⟩ := Command.mem_offered hc (by rw [hname]; decide)
    · exact absurd (hname.symm.trans hne) (by decide)
    · rw [he]; exact hall
  · intro last hlast hrule
    rw [hlast, Option.map_some, Option.getD_some, Command.bundles, hrule]
    refine ⟨fun h => ?_, fun h => ?_⟩
    · obtain ⟨c, hc, hname⟩ := Command.exists_mem_bundle d
        ("Fix all " ++ last.rule.text ++ " problems") Command.applySame last.version h
      exact ⟨c, List.mem_append_right _ (List.mem_append_left _ hc), hname⟩
    · obtain ⟨c, hc, hname⟩ := Command.exists_mem_bundle d
        "Fix all auto-fixable problems" Command.applyAll last.version h
      exact ⟨c, List.mem_append_right _ (List.mem_append_right _ hc), hname⟩

/-- A document with both kinds of line break and a character of two units. -/
def twoLines : Document := { uri := "file:///a.js", text := "a\r\n😀b\n" }

/-- Two fixes that start at one place, and one that reaches into a character. -/
def twoLinesFixes : FixTable :=
  let fix := fun (start stop : Int) (text : String) =>
    ({ label := "", version := 1, rule := .str "semi", edit := ⟨start, stop, .str text⟩ } : Fix)
  [("c", fix 4 6 "!"), ("b", fix 3 5 "x"), ("a", fix 1 1 ";"), ("d", fix 3 3 "(")]

theorem twoLines_edits_make_spliced_text :
    twoLines.text.IsWhole ∧
    twoLines.utf16.length ≤ Position.bound ∧ (∀ e ∈ twoLinesFixes, e.2.FitsIn twoLines.utf16) ∧
    (∃ a, AllFixes.ofTable (some twoLines) (some twoLinesFixes) = .ok (some a) ∧
      TextEdit.applied twoLines.utf16 a.edits = some (encode (Text.ofString "a;\r\n(xb\n").points)) ∧
    ∃ commands, Command.forDocument (some twoLines) (some twoLinesFixes) ["c"] = .ok commands ∧
      ∃ c ∈ commands, c.command = Command.applySame ∧
        TextEdit.applied twoLines.utf16 c.edits = some (encode (Text.ofString "a;\r\n(xb\n").points) := by
  have hd : twoLines.text.IsWhole := Encoding.checkUtf16_eq_ok_iff.mp rfl
  have hbound : twoLines.utf16.length ≤ Position.bound := by decide
  have ht : ∀ e ∈ twoLinesFixes, e.2.FitsIn twoLines.utf16 := by
    intro e he
    simp only [twoLinesFixes, List.mem_cons, List.not_mem_nil, or_false] at he
    rcases he with rfl | rfl | rfl | rfl
    all_goals exact ⟨⟨_, rfl⟩, by decide, by decide, by decide, by decide, by decide⟩
  obtain ⟨⟨all, hall, hnone, happ⟩, commands, hc, hsame, -, hthere⟩ :=
    edits_make_spliced_text twoLines twoLinesFixes ["c"] hd hbound ht
  have hsplice : Fix.spliced twoLines.utf16 (FixTable.overlapFree twoLinesFixes) =
      encode (Text.ofString "a;\r\n(xb\n").points := by cbv
  have hrule : Fix.spliced twoLines.utf16 (FixTable.sameRule twoLinesFixes (.str "semi")) =
      encode (Text.ofString "a;\r\n(xb\n").points := by cbv
  have hlen : 1 < (FixTable.sameRule twoLinesFixes (.str "semi")).length := by cbv
  refine ⟨hd, hbound, ht, ?_, commands, hc, ?_⟩
  · cases all with
    | none => exact absurd (hnone.mp rfl) (by decide)
    | some a => exact ⟨a, hall, hsplice ▸ happ a rfl⟩
  · obtain ⟨c, hm, hname⟩ := (hthere _ rfl rfl).1 hlen
    obtain ⟨last, hlast, happlied⟩ := hsame c hm hname
    cases hlast
    exact ⟨c, hm, hname, hrule ▸ happlied⟩

/-- A half of a surrogate pair is a unit in front of which a fix can be spliced in. But no position is
found in such a text, and so no edits are made. -/
theorem lone_half_is_not_spliced :
    let d : Document := { uri := "file:///a.js", text := ⟨[.half 0]⟩ }
    let t : FixTable :=
      [("a", { label := "", version := 1, rule := .str "semi", edit := ⟨0, 0, .str ";"⟩ })]
    d.utf16.length ≤ Position.bound ∧ (∀ e ∈ t, e.2.FitsIn d.utf16) ∧
    Fix.spliced d.utf16 (FixTable.overlapFree t) = [59, 0xD800] ∧
    ∃ f, AllFixes.ofTable (some d) (some t) = .error f ∧ f.kind = .unencodable := by
  intro d t
  refine ⟨by decide, ?_, by cbv, _, by cbv, rfl⟩
  exact List.forall_mem_singleton.mpr
    ⟨⟨";", rfl⟩, by decide, by decide, by decide, by decide, by decide⟩

end LintServer
