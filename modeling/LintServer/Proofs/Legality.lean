/-
  LintServer.Proofs.Legality — edits that an editor can make, whatever text it has by now.

  Fixes are for the text that was linted, and their edits are placed in the text that is open. Its
  end may come first, and an offset may lie inside a line break there. But the place of an offset
  never goes back when the offset grows, so what was in order stays in order.
  - `positionAt_mono`: a greater offset has no earlier position.
  - `place_eq_positionAt`: every offset has a place, in a text that can be written in UTF-16.
  - `legal_edited`: fixes that are apart make edits that can be made together.
  - `edits_are_legal`: so all edits that are offered or asked for can.
  - `lone_half_makes_no_edits`: in a text that cannot be written, there are none.
-/

import LintServer.Proofs.Offers
import LintServer.Proofs.Scan

namespace LintServer

/-- Positions are ordered by their lines, and those in one line by their characters. -/
instance : LE Position :=
  ⟨fun p q => p.line < q.line ∨ (p.line = q.line ∧ p.character ≤ q.character)⟩

theorem Position.le_of_line {p q : Position} (h : p.line < q.line) : p ≤ q := Or.inl h

theorem Position.le_of_character {p q : Position} (hl : p.line = q.line)
    (hc : p.character ≤ q.character) : p ≤ q := Or.inr ⟨hl, hc⟩

namespace Document

/-! ## Places in order -/

theorem le_line_placeIn (offset number : Nat) (ls : List Line) :
    number ≤ (placeIn offset number ls).line := by
  fun_induction placeIn offset number ls with
  | case1 => exact Nat.le_refl _
  | case2 => exact Nat.le_refl _
  | case3 number line next rest _ ih => exact Nat.le_of_succ_le ih
  | case4 => exact Nat.le_refl _

/-- Whatever the lines are, a greater offset has no earlier place in them. -/
theorem placeIn_mono {a b : Nat} (h : a ≤ b) (number : Nat) (ls : List Line) :
    placeIn a number ls ≤ placeIn b number ls := by
  fun_induction placeIn a number ls with
  | case1 number => exact Position.le_of_character rfl (Nat.le_refl 0)
  | case2 number line =>
    refine Position.le_of_character rfl ?_
    show min (a - line.start) line.length ≤ min (b - line.start) line.length
    omega
  | case3 number line next rest hn ih =>
    rw [placeIn, if_pos (Nat.le_trans hn h)]
    exact ih
  | case4 number line next rest hn =>
    rw [placeIn]
    split
    · -- the greater offset lies in a later line
      exact Position.le_of_line (le_line_placeIn b (number + 1) (next :: rest))
    · refine Position.le_of_character rfl ?_
      show min (a - line.start) line.length ≤ min (b - line.start) line.length
      omega

theorem positionAt_mono (d : Document) {a b : Int} (h : a ≤ b) :
    d.positionAt a ≤ d.positionAt b := placeIn_mono (Int.toNat_le_toNat h) 0 d.lines

theorem place_eq_positionAt {d : Document} (hd : d.text.IsWhole)
    (hbound : d.utf16.length ≤ Position.bound) (offset : Int) :
    d.place offset = .ok (d.positionAt offset) := by
  have hk : d.clamped offset ≤ d.utf16.length := by
    rw [clamped_eq]
    exact Nat.min_le_right _ _
  have hlies : Text.Utf16.Lies d.utf16 0 0 _ (d.scanned offset) := Text.Utf16.scan_lies ⟨0, 0⟩ hk
  have hat := Nat.le_trans (unsplit_le d.utf16 _) (Nat.le_trans hk hbound)
  rw [place_of_isWhole hd, positionAt_eq_scan]
  exact Position.checked_eq_self (Nat.le_trans hlies.le.1 hat) (Nat.le_trans hlies.le.2 hat)

end Document

namespace TextEdit

/-- Edits that can be made together: none ends before it starts, and of two of them the first ends
at or before the start of the second. -/
structure Legal (edits : List TextEdit) : Prop where
  start_le : ∀ e ∈ edits, e.range.start ≤ e.range.stop
  ordered : edits.Pairwise fun a b => a.range.stop ≤ b.range.start

end TextEdit

namespace Command

variable {d : Document} {t : FixTable}

theorem legal_edited {fixes : List Fix} (hle : ∀ f ∈ fixes, f.edit.start ≤ f.edit.stop)
    (hord : fixes.Pairwise fun a b => a.edit.stop ≤ b.edit.start) :
    TextEdit.Legal (fixes.map (edited d)) where
  start_le := by
    intro e he
    obtain ⟨f, hf, rfl⟩ := List.mem_map.mp he
    exact d.positionAt_mono (hle f hf)
  ordered := List.Pairwise.map (edited d) (fun _ _ h => d.positionAt_mono h) hord

/-- All edits of a command that is offered can be made together. -/
theorem legal_offered (hle : ∀ f ∈ Table.values t, f.edit.start ≤ f.edit.stop) {keys : List String}
    {c : Command} (h : c ∈ offers d t (FixTable.inScope t keys)) : TextEdit.Legal c.edits := by
  rcases mem_offers h with ⟨f, hf, rfl⟩ | ⟨last, -, h⟩
  · have hf' : ∀ g ∈ [f], g.edit.start ≤ g.edit.stop := by
      intro g hg
      rw [List.mem_singleton.mp hg]
      exact hle f (FixTable.mem_values_of_inScope hf)
    exact legal_edited hf' (List.pairwise_singleton _ f)
  · rcases (mem_bundles h).2 with ⟨-, he⟩ | ⟨-, he⟩
    · rw [he]
      exact legal_edited (fun f hf => hle f (FixTable.mem_values_of_sameRule hf))
        (FixTable.sameRule_ordered t last.rule)
    · rw [he]
      exact legal_edited (fun f hf => hle f (FixTable.mem_values_of_overlapFree hf))
        (FixTable.overlapFree_ordered t)

/-! ## Texts in which there are edits -/

theorem isWhole_of_made {fixes : List Fix} (hm : Made d fixes) (hne : fixes ≠ []) :
    d.text.IsWhole := by
  obtain ⟨f, rest, rfl⟩ := List.exists_cons_of_ne_nil hne
  obtain ⟨start, hstart, -⟩ := bind_eq_ok (hm f List.mem_cons_self)
  exact Document.isWhole_of_place hstart

theorem made_of_isWhole (hd : d.text.IsWhole)
    (hbound : d.utf16.length ≤ Position.bound) {fixes : List Fix}
    (ht : ∀ f ∈ fixes, ∃ s, f.edit.text = .str s) : Made d fixes :=
  fun f hf => editOf_eq_edited (Document.place_eq_positionAt hd hbound _)
    (Document.place_eq_positionAt hd hbound _) (ht f hf)

end Command

section

variable {d : Document} {t : FixTable} {keys : List String}
  (hbound : d.utf16.length ≤ Position.bound)
  (htext : ∀ f ∈ Table.values t, ∃ s, f.edit.text = .str s)

include hbound htext

open FixTable in
theorem AllFixes.exists_ofTable_iff : (∃ all, AllFixes.ofTable (some d) (some t) = .ok all) ↔
    t = [] ∨ d.text.IsWhole := by
  constructor
  · rintro ⟨all, hall⟩
    by_cases ht : t = []
    · exact Or.inl ht
    · exact Or.inr (Command.isWhole_of_made (AllFixes.ofTable_eq_ok_iff.mp hall).1
        (mt overlapFree_eq_nil_iff.mp ht))
  · rintro (rfl | hd)
    · exact ⟨none, rfl⟩
    · have hmade := Command.made_of_isWhole hd hbound fun f hf =>
        htext f (mem_values_of_overlapFree hf)
      exact ⟨_, AllFixes.ofTable_eq_ok_iff.mpr ⟨hmade, rfl⟩⟩

open FixTable in
theorem Command.exists_forDocument_iff :
    (∃ commands, Command.forDocument (some d) (some t) keys = .ok commands) ↔
      inScope t keys = [] ∨ d.text.IsWhole := by
  constructor
  · rintro ⟨commands, hc⟩
    by_cases hs : inScope t keys = []
    · exact Or.inl hs
    · exact Or.inr (isWhole_of_made (forDocument_eq_ok_iff.mp hc).1 hs)
  · rintro (hs | hd)
    · have hlast : (inScope t keys).getLast? = none := by rw [hs]; rfl
      refine ⟨_, forDocument_eq_ok_iff.mpr ⟨?_, ?_, rfl⟩⟩
      · intro f hf
        rw [hs] at hf
        cases hf
      · intro last hl
        rw [hlast] at hl
        cases hl
    · have made {fixes : List Fix} (hf : ∀ f ∈ fixes, f ∈ Table.values t) : Made d fixes :=
        made_of_isWhole hd hbound fun f hm => htext f (hf f hm)
      refine ⟨_, forDocument_eq_ok_iff.mpr ⟨made fun _ => mem_values_of_inScope, ?_, rfl⟩⟩
      exact fun last _ _ => ⟨fun _ => made fun _ => mem_values_of_sameRule,
        fun _ => made fun _ => mem_values_of_overlapFree⟩

end

/-- All edits that are asked for can be made together. -/
theorem AllFixes.legal_of_ofTable {d : Document} {t : FixTable}
    (hle : ∀ f ∈ Table.values t, f.edit.start ≤ f.edit.stop) {a : AllFixes}
    (h : AllFixes.ofTable (some d) (some t) = .ok (some a)) : TextEdit.Legal a.edits := by
  obtain ⟨-, ha⟩ := AllFixes.ofTable_eq_ok_iff.mp h
  obtain ⟨e, -, rfl⟩ := Option.map_eq_some_iff.mp ha.symm
  exact Command.legal_edited (fun f hf => hle f (FixTable.mem_values_of_overlapFree hf))
    (FixTable.overlapFree_ordered t)

/-- All fixes of a document, and the commands for those in scope, make edits that can be made
together in the text that is open, whatever it is. There are such edits for every text that can be
written in UTF-16, and else only where none are needed. -/
theorem edits_are_legal (d : Document) (t : FixTable) (keys : List String)
    (hbound : d.utf16.length ≤ Position.bound) (htext : ∀ e ∈ t, ∃ s, e.2.edit.text = .str s)
    (hle : ∀ e ∈ t, e.2.edit.start ≤ e.2.edit.stop) :
    ((∃ all, AllFixes.ofTable (some d) (some t) = .ok all) ↔
      t = [] ∨ d.text.IsWhole) ∧
    (∀ a, AllFixes.ofTable (some d) (some t) = .ok (some a) → TextEdit.Legal a.edits) ∧
    ((∃ commands, Command.forDocument (some d) (some t) keys = .ok commands) ↔
      FixTable.inScope t keys = [] ∨ d.text.IsWhole) ∧
    ∀ commands, Command.forDocument (some d) (some t) keys = .ok commands →
      ∀ c ∈ commands, TextEdit.Legal c.edits := by
  have htext' : ∀ f ∈ Table.values t, ∃ s, f.edit.text = .str s := List.forall_mem_map.mpr htext
  have hle' : ∀ f ∈ Table.values t, f.edit.start ≤ f.edit.stop := List.forall_mem_map.mpr hle
  refine ⟨AllFixes.exists_ofTable_iff hbound htext', fun a => AllFixes.legal_of_ofTable hle',
    Command.exists_forDocument_iff hbound htext', ?_⟩
  intro commands hc c hm
  obtain ⟨-, -, rfl⟩ := Command.forDocument_eq_ok_iff.mp hc
  exact Command.legal_offered hle' hm

/-- A text of one line. -/
def shortened : Document := { uri := "file:///a.js", text := "a\r\n" }

/-- Fixes in front of the text, from there into the line break, from the line break beyond the end,
and behind the end. -/
def beyondFixes : FixTable :=
  let fix := fun (start stop : Int) =>
    ({ label := "", version := 1, rule := .str "semi", edit := ⟨start, stop, .str ";"⟩ } : Fix)
  [("d", fix 9 12), ("c", fix 2 9), ("b", fix (-1) 2), ("a", fix (-2) (-1))]

theorem shortened_edits_are_legal :
    shortened.utf16.length ≤ Position.bound ∧ (∀ e ∈ beyondFixes, ∃ s, e.2.edit.text = .str s) ∧
    (∀ e ∈ beyondFixes, e.2.edit.start ≤ e.2.edit.stop) ∧
    (∃ a, AllFixes.ofTable (some shortened) (some beyondFixes) = .ok (some a) ∧
      a.edits.map TextEdit.range = [⟨⟨0, 0⟩, ⟨0, 0⟩⟩, ⟨⟨0, 0⟩, ⟨0, 1⟩⟩, ⟨⟨0, 1⟩, ⟨1, 0⟩⟩,
        ⟨⟨1, 0⟩, ⟨1, 0⟩⟩] ∧
      TextEdit.Legal a.edits) ∧
    ∃ commands, Command.forDocument (some shortened) (some beyondFixes) ["c"] = .ok commands ∧
      ∀ c ∈ commands, TextEdit.Legal c.edits := by
  have hbound : shortened.utf16.length ≤ Position.bound := by decide
  have htext : ∀ e ∈ beyondFixes, ∃ s, e.2.edit.text = .str s := by
    intro e he
    simp only [beyondFixes, List.mem_cons, List.not_mem_nil, or_false] at he
    rcases he with rfl | rfl | rfl | rfl
    all_goals exact ⟨_, rfl⟩
  have hle : ∀ e ∈ beyondFixes, e.2.edit.start ≤ e.2.edit.stop := by decide
  have hd : shortened.text.IsWhole := Encoding.checkUtf16_eq_ok_iff.mp rfl
  obtain ⟨-, hlegal, hthere, hcommands⟩ :=
    edits_are_legal shortened beyondFixes ["c"] hbound htext hle
  have hall : AllFixes.ofTable (some shortened) (some beyondFixes) =
      .ok (some ⟨1, [⟨⟨⟨0, 0⟩, ⟨0, 0⟩⟩, ";"⟩, ⟨⟨⟨0, 0⟩, ⟨0, 1⟩⟩, ";"⟩, ⟨⟨⟨0, 1⟩, ⟨1, 0⟩⟩, ";"⟩,
        ⟨⟨⟨1, 0⟩, ⟨1, 0⟩⟩, ";"⟩]⟩) := by
    have hfree : FixTable.overlapFree beyondFixes = (Table.values beyondFixes).reverse := by cbv
    rw [AllFixes.ofTable_eq_ok_iff, hfree]
    refine ⟨Command.made_of_isWhole hd hbound fun f hf => ?_, rfl⟩
    obtain ⟨e, he, rfl⟩ := List.mem_map.mp (List.mem_reverse.mp hf)
    exact htext e he
  obtain ⟨commands, hc⟩ := hthere.mpr (Or.inr hd)
  exact ⟨hbound, htext, hle, ⟨_, hall, rfl, hlegal _ hall⟩, commands, hc, hcommands commands hc⟩

/-- A text with half of a surrogate pair has units, but no edit can be placed in it. -/
theorem lone_half_makes_no_edits :
    ¬ ∀ (d : Document) (t : FixTable), d.utf16.length ≤ Position.bound →
      (∀ e ∈ t, ∃ s, e.2.edit.text = .str s) → (∀ e ∈ t, e.2.edit.start ≤ e.2.edit.stop) →
      ∃ all, AllFixes.ofTable (some d) (some t) = .ok all := by
  intro h
  let d : Document := { uri := "file:///a.js", text := ⟨[.half 0]⟩ }
  let fix : Fix := { label := "", version := 1, rule := .str "semi", edit := ⟨0, 0, .str ";"⟩ }
  have hbound : d.utf16.length ≤ Position.bound := by decide
  have htext : ∀ f ∈ Table.values [("a", fix)], ∃ s, f.edit.text = .str s :=
    List.forall_mem_singleton.mpr ⟨";", rfl⟩
  have hall := h d [("a", fix)] hbound (List.forall_mem_singleton.mpr ⟨";", rfl⟩)
    (List.forall_mem_singleton.mpr (Int.le_refl 0))
  rcases (AllFixes.exists_ofTable_iff hbound htext).mp hall with ht | hd
  · cases ht
  · exact absurd (hd (.half 0) List.mem_cons_self) (by decide)

end LintServer
