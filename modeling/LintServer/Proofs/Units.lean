/-
  LintServer.Proofs.Units — texts as UTF-16 units, and where positions lie in them.

  A position names a line and a character. Read in the units of a text, it stands for the
  offset at which its line starts, plus its character. Lines start after a carriage return, a
  line feed, or the two together; here that is read off the units alone, without a table of
  lines.
  - `checkUtf16_eq_ok_iff`: which texts can be written in UTF-16.
  - `offsetOf?_positionAt`: the position of an offset stands for that offset, if it does not
    lie between the two units of one line break.
  - `place_eq_ok`: in a text of no more units than there can be characters in a line, every
    such offset has a position.
-/

import LintServer.Document
import LintServer.Proofs.Outcomes
import Mathlib.Data.List.TakeWhile

namespace LintServer

/-! ## Units -/

namespace Text.Utf16

/-- The units of a code point. -/
def encodePoint : Point → List Nat
  | .char c =>
    let n := c.toNat
    if n < 0x10000 then [n]
    else [0xD800 + (n - 0x10000) / 0x400, 0xDC00 + (n - 0x10000) % 0x400]
  | .half i => [0xD800 + i]

def encode (ps : List Point) : List Nat := ps.flatMap encodePoint

@[simp] theorem encode_nil : encode [] = [] := rfl

@[simp] theorem encode_cons (p : Point) (ps : List Point) :
    encode (p :: ps) = encodePoint p ++ encode ps := rfl

theorem length_encodePoint (p : Point) : (encodePoint p).length = Document.units p := by
  cases p with
  | char c =>
    simp only [encodePoint, Document.units]
    split <;> rfl
  | half i => rfl

theorem encodePoint_cr : encodePoint (.char '\r') = [13] := by decide

theorem encodePoint_lf : encodePoint (.char '\n') = [10] := by decide

/-- Only characters that end a line have units that do. -/
theorem mem_encodePoint {p : Point} {u : Nat} (h : u ∈ encodePoint p) (hu : u = 13 ∨ u = 10) :
    p = .char (Char.ofNat u) := by
  cases p with
  | char c =>
    have hn : c.toNat = u := by
      simp only [encodePoint] at h
      split at h
      · exact (List.mem_singleton.mp h).symm
      · simp only [List.mem_cons, List.not_mem_nil, or_false] at h
        omega
    rw [← hn, Char.ofNat_toNat]
  | half i =>
    have := List.mem_singleton.mp h
    omega

theorem not_break_of_mem_encodePoint {p : Point} (hp : ¬ (p = .char '\r' ∨ p = .char '\n'))
    {u : Nat} (h : u ∈ encodePoint p) : ¬ (u = 13 ∨ u = 10) := by
  intro hu
  have hn := mem_encodePoint h hu
  rcases hu with rfl | rfl
  · exact hp (Or.inl hn)
  · exact hp (Or.inr hn)

theorem encodePoint_ne_nil (p : Point) : encodePoint p ≠ [] := by
  cases p with
  | char c =>
    simp only [encodePoint]
    split <;> simp
  | half i => simp [encodePoint]

theorem eq_cons_lf_of_encode {ps : List Point} {us : List Nat} (h : encode ps = 10 :: us) :
    ∃ rest, ps = .char '\n' :: rest := by
  cases ps with
  | nil => cases h
  | cons p rest =>
    obtain ⟨u, more, hp⟩ := List.exists_cons_of_ne_nil (encodePoint_ne_nil p)
    rw [encode_cons, hp, List.cons_append] at h
    have hu : u = 10 := (List.cons.inj h).1
    have hm : (10 : Nat) ∈ encodePoint p := by rw [hp, hu]; exact List.mem_cons_self
    exact ⟨rest, by rw [mem_encodePoint hm (Or.inr rfl)]⟩

/-- A character that ends a line is one unit, and alone if the character is. -/
theorem encode_lone_break {p : Point} {ps : List Point} (hp : p = .char '\r' ∨ p = .char '\n')
    (hcrlf : ∀ rest, p = .char '\r' → ps = .char '\n' :: rest → False) :
    ∃ u, (u = 13 ∨ u = 10) ∧ encodePoint p = [u] ∧ (u = 13 → ∀ rest, encode ps ≠ 10 :: rest) := by
  rcases hp with rfl | rfl
  · refine ⟨13, Or.inl rfl, encodePoint_cr, ?_⟩
    intro _ us hus
    obtain ⟨rest, hrest⟩ := eq_cons_lf_of_encode hus
    exact hcrlf rest rfl hrest
  · exact ⟨10, Or.inr rfl, encodePoint_lf, fun h => absurd h (by decide)⟩

end Text.Utf16

open Point (isHalf)
open Text.Utf16 (encode encodePoint)

/-! ## Texts that can be written in UTF-16 -/

/-- No half of a surrogate pair stands alone in the text. -/
def Text.IsWhole (t : Text) : Prop := ∀ p ∈ t.points, isHalf p = false

theorem Encoding.checkUtf16_eq_ok_iff {ps : List Point} :
    Encoding.checkUtf16 ps = .ok () ↔ ∀ p ∈ ps, isHalf p = false := by
  unfold Encoding.checkUtf16 Text.halves?
  constructor
  · intro h p hp
    split at h
    · cases h
    · rename_i hn
      split at hn
      · rename_i hd
        simpa using List.dropWhile_eq_nil_iff.mp hd p hp
      · cases hn
  · intro h
    have hd : ps.dropWhile (fun p => !isHalf p) = [] :=
      List.dropWhile_eq_nil_iff.mpr fun p hp => by simp [h p hp]
    simp [hd]

theorem Text.mem_of_mem_splitChars {α : Type} [DecidableEq α] {sep c : α} {cs piece : List α}
    (hp : piece ∈ Text.splitChars sep cs) (hc : c ∈ piece) : c ∈ cs := by
  induction cs generalizing piece with
  | nil =>
    rw [Text.splitChars, List.mem_singleton] at hp
    subst hp
    cases hc
  | cons d ds ih =>
    unfold Text.splitChars at hp
    split at hp
    · rw [List.mem_singleton.mp hp, List.mem_singleton] at hc
      exact hc ▸ List.mem_cons_self
    · rename_i first pieces hs
      rw [hs] at ih
      split at hp
      · rcases List.mem_cons.mp hp with rfl | hp
        · cases hc
        · exact List.mem_cons_of_mem d (ih hp hc)
      · rcases List.mem_cons.mp hp with rfl | hp
        · rcases List.mem_cons.mp hc with rfl | hc
          · exact List.mem_cons_self
          · exact List.mem_cons_of_mem d (ih List.mem_cons_self hc)
        · exact List.mem_cons_of_mem d (ih (List.mem_cons_of_mem first hp) hc)

/-- A text that can be written in UTF-16 can be so line by line. -/
theorem Document.textLines_checked {t : Text} (h : t.IsWhole) :
    (textLines t.points).forM Encoding.checkUtf16 = .ok () := by
  refine forM_eq_ok_iff.mpr fun piece hl => Encoding.checkUtf16_eq_ok_iff.mpr fun p hp => ?_
  obtain ⟨q, hq, rfl⟩ := List.mem_map.mp (Text.mem_of_mem_splitChars hl hp)
  split
  · rfl
  · exact h q hq

/-! ## Lines of units -/

namespace Text.Utf16

/-- The offset at which a line starts, counted from 0. -/
def lineStart? : List Nat → Nat → Option Nat
  | _, 0 => some 0
  | [], _ + 1 => none
  | 13 :: 10 :: us, n + 1 => (lineStart? us n).map (· + 2)
  | u :: us, n + 1 =>
    if u = 13 ∨ u = 10 then (lineStart? us n).map (· + 1)
    else (lineStart? us (n + 1)).map (· + 1)

/-- The offset that a position stands for. -/
def offsetOf? (us : List Nat) (p : Position) : Option Nat :=
  (lineStart? us p.line).map (· + p.character)

/-- Whether an offset lies between the two units of one line break. -/
def splitsBreak (us : List Nat) (offset : Nat) : Bool :=
  offset != 0 && us[offset - 1]? == some 13 && us[offset]? == some 10

@[simp] theorem lineStart?_zero (us : List Nat) : lineStart? us 0 = some 0 := by
  cases us <;> rfl

theorem lineStart?_crlf (us : List Nat) (n : Nat) :
    lineStart? (13 :: 10 :: us) (n + 1) = (lineStart? us n).map (· + 2) := rfl

theorem lineStart?_break {u : Nat} {us : List Nat} (hu : u = 13 ∨ u = 10)
    (hlf : u = 13 → ∀ rest, us ≠ 10 :: rest) (n : Nat) :
    lineStart? (u :: us) (n + 1) = (lineStart? us n).map (· + 1) := by
  rw [lineStart?]
  · exact if_pos hu
  · intro rest h13 hrest
    exact hlf h13 rest hrest

theorem lineStart?_other {u : Nat} (hu : ¬ (u = 13 ∨ u = 10)) (us : List Nat) (n : Nat) :
    lineStart? (u :: us) (n + 1) = (lineStart? us (n + 1)).map (· + 1) := by
  rw [lineStart?]
  · exact if_neg hu
  · intro rest h13
    exact absurd (Or.inl h13) hu

/-- Units that end no line only move the later lines. -/
theorem lineStart?_append {start : List Nat} (h : ∀ u ∈ start, ¬ (u = 13 ∨ u = 10))
    (us : List Nat) (n : Nat) :
    lineStart? (start ++ us) (n + 1) = (lineStart? us (n + 1)).map (· + start.length) := by
  induction start with
  | nil => simp
  | cons u rest ih =>
    rw [List.cons_append, lineStart?_other (h u List.mem_cons_self),
      ih fun v hv => h v (List.mem_cons_of_mem u hv), Option.map_map]
    rfl

/-- No line starts at an offset below its number. -/
theorem le_of_lineStart? {us : List Nat} {line offset : Nat} (h : lineStart? us line = some offset) :
    line ≤ offset := by
  fun_induction lineStart? us line generalizing offset with
  | case1 => exact Nat.zero_le _
  | case2 => cases h
  | case3 us n ih =>
    obtain ⟨o, ho, rfl⟩ := Option.map_eq_some_iff.mp h
    have := ih ho
    omega
  | case4 n u us _ _ ih =>
    obtain ⟨o, ho, rfl⟩ := Option.map_eq_some_iff.mp h
    have := ih ho
    omega
  | case5 n u us _ _ ih =>
    obtain ⟨o, ho, rfl⟩ := Option.map_eq_some_iff.mp h
    have := ih ho
    omega

theorem splitsBreak_of_append {start us : List Nat} {offset : Nat}
    (h : splitsBreak (start ++ us) (start.length + offset) = false) :
    splitsBreak us offset = false := by
  cases hs : splitsBreak us offset with
  | false => rfl
  | true =>
    simp only [splitsBreak, Bool.and_eq_true, bne_iff_ne, beq_iff_eq] at hs
    obtain ⟨⟨h0, hcr⟩, hlf⟩ := hs
    have hsub : start.length + offset - 1 = start.length + (offset - 1) := by omega
    have hcr' : (start ++ us)[start.length + offset - 1]? = some 13 := by
      rw [hsub, List.getElem?_append_right (by omega), Nat.add_sub_cancel_left]
      exact hcr
    have hlf' : (start ++ us)[start.length + offset]? = some 10 := by
      rw [List.getElem?_append_right (by omega), Nat.add_sub_cancel_left]
      exact hlf
    simp only [splitsBreak, hcr', hlf', BEq.rfl, Bool.and_true, bne_eq_false_iff_eq] at h
    omega

/-- A position lies `k` units into `us`: in the line `number`, of which `length` units stand
before, or in a line that starts in `us` and has its character counted from there. -/
def Lies (us : List Nat) (number length k : Nat) (p : Position) : Prop :=
  (p.line = number ∧ p.character = length + k) ∨
    ∃ j first, p.line = number + (j + 1) ∧ lineStart? us (j + 1) = some first ∧
      first + p.character = k

theorem Lies.after_break {us ends : List Nat} {number k : Nat} {p : Position} (length : Nat)
    (hends : ∀ n, lineStart? (ends ++ us) (n + 1) = (lineStart? us n).map (· + ends.length))
    (h : Lies us (number + 1) 0 k p) : Lies (ends ++ us) number length (ends.length + k) p := by
  right
  rcases h with ⟨hl, hc⟩ | ⟨j, first, hl, hf, hc⟩
  · exact ⟨0, ends.length, hl, by rw [hends, lineStart?_zero]; simp, by omega⟩
  · exact ⟨j + 1, first + ends.length, by omega, by rw [hends, hf]; rfl, by omega⟩

theorem Lies.after_units {us more : List Nat} {number length k : Nat} {p : Position}
    (hmore : ∀ u ∈ more, ¬ (u = 13 ∨ u = 10)) (h : Lies us number (length + more.length) k p) :
    Lies (more ++ us) number length (more.length + k) p := by
  rcases h with ⟨hl, hc⟩ | ⟨j, first, hl, hf, hc⟩
  · exact Or.inl ⟨hl, by omega⟩
  · exact Or.inr ⟨j, first + more.length, hl, by rw [lineStart?_append hmore, hf]; rfl, by omega⟩

theorem Lies.offsetOf? {us : List Nat} {k : Nat} {p : Position} (h : Lies us 0 0 k p) :
    offsetOf? us p = some k := by
  unfold Utf16.offsetOf?
  rcases h with ⟨hl, hc⟩ | ⟨j, first, hl, hf, hc⟩
  · rw [hl, lineStart?_zero, hc, Nat.zero_add]
    simp
  · rw [hl, Nat.zero_add, hf, ← hc]
    rfl

/-- Neither the line nor the character of a position is above the offset it lies at. -/
theorem Lies.le {us : List Nat} {k : Nat} {p : Position} (h : Lies us 0 0 k p) :
    p.line ≤ k ∧ p.character ≤ k := by
  rcases h with ⟨hl, hc⟩ | ⟨j, first, hl, hf, hc⟩
  · omega
  · have := le_of_lineStart? hf
    omega

end Text.Utf16

/-! ## Offsets and their positions -/

open Text.Utf16

namespace Document

theorem linesFrom_cons (start length : Nat) (ps : List Point) :
    ∃ n rest, linesFrom start length ps = ⟨start, n⟩ :: rest := by
  fun_induction linesFrom start length ps with
  | case1 start length => exact ⟨length, [], rfl⟩
  | case2 start length ps _ => exact ⟨length, _, rfl⟩
  | case3 start length p ps _ _ _ => exact ⟨length, _, rfl⟩
  | case4 start length p ps _ _ ih => exact ih

/-- A line is left for the next one when that starts at or before the offset. -/
theorem placeIn_break (offset number : Nat) (line : Line) (start length : Nat) (ps : List Point) :
    placeIn offset number (line :: linesFrom start length ps) =
      if start ≤ offset then placeIn offset (number + 1) (linesFrom start length ps)
      else ⟨number, min (offset - line.start) line.length⟩ := by
  obtain ⟨n, rest, h⟩ := linesFrom_cons start length ps
  rw [h]
  rfl

/-- An offset in what is known of the first line lies in that line. -/
theorem placeIn_within {offset start length : Nat} (number : Nat) (ps : List Point)
    (hs : start ≤ offset) (hl : offset ≤ start + length) :
    placeIn offset number (linesFrom start length ps) = ⟨number, offset - start⟩ := by
  fun_induction linesFrom start length ps with
  | case1 start length =>
    show Position.mk number (min (offset - start) length) = _
    rw [Nat.min_eq_left (by omega)]
  | case2 start length ps _ =>
    rw [placeIn_break, if_neg (by omega), Nat.min_eq_left (by simp only; omega)]
  | case3 start length p ps _ _ _ =>
    rw [placeIn_break, if_neg (by omega), Nat.min_eq_left (by simp only; omega)]
  | case4 start length p ps _ _ ih => exact ih hs (by omega)

/-- The place of an offset that is `k` units behind what is known of the first line. -/
theorem placeIn_lies (start length number k : Nat) {ps : List Point}
    (hk : k ≤ (encode ps).length) (hb : splitsBreak (encode ps) k = false) :
    Lies (encode ps) number length k
      (placeIn (start + length + k) number (linesFrom start length ps)) := by
  fun_induction linesFrom start length ps generalizing number k with
  | case1 start length =>
    have hk0 : k = 0 := Nat.le_zero.mp hk
    subst hk0
    exact Or.inl ⟨rfl, by show min (start + length + 0 - start) length = _; omega⟩
  | case2 start length ps ih =>
    have he : encode (.char '\r' :: .char '\n' :: ps) = [13, 10] ++ encode ps := by
      rw [encode_cons, encode_cons, encodePoint_cr, encodePoint_lf]; rfl
    rw [he] at hk hb ⊢
    rw [placeIn_break]
    by_cases h2 : 2 ≤ k
    · obtain ⟨k, rfl⟩ := Nat.exists_eq_add_of_le h2
      rw [if_pos (by omega)]
      have h := ih (number + 1) k
        (by rw [List.length_append, List.length_cons, List.length_singleton] at hk; omega)
        (splitsBreak_of_append hb)
      have ho : start + length + 2 + 0 + k = start + length + (2 + k) := by omega
      rw [ho] at h
      exact h.after_break length (lineStart?_crlf _)
    · -- the offset between the two units is left out, so it is the one in front of them
      have hk0 : k = 0 := by
        by_cases h1 : k = 1
        · subst h1
          simp [splitsBreak] at hb
        · omega
      subst hk0
      rw [if_neg (by omega)]
      exact Or.inl ⟨rfl, by show min (start + length + 0 - start) length = _; omega⟩
  | case3 start length p ps hcrlf hp ih =>
    obtain ⟨u, hu, hpu, hlf⟩ := encode_lone_break hp hcrlf
    rw [encode_cons, hpu] at hk hb ⊢
    rw [placeIn_break]
    by_cases h1 : 1 ≤ k
    · obtain ⟨k, rfl⟩ := Nat.exists_eq_add_of_le h1
      rw [if_pos (by omega)]
      have h := ih (number + 1) k
        (by rw [List.length_append, List.length_singleton] at hk; omega) (splitsBreak_of_append hb)
      have ho : start + length + 1 + 0 + k = start + length + (1 + k) := by omega
      rw [ho] at h
      exact h.after_break length (lineStart?_break hu hlf)
    · have hk0 : k = 0 := by omega
      subst hk0
      rw [if_neg (by omega)]
      exact Or.inl ⟨rfl, by show min (start + length + 0 - start) length = _; omega⟩
  | case4 start length p ps hcrlf hp ih =>
    have hlen := length_encodePoint p
    rw [encode_cons] at hk hb ⊢
    by_cases hin : k ≤ units p
    · rw [placeIn_within number ps (by omega) (by omega)]
      exact Or.inl ⟨rfl, by show start + length + k - start = _; omega⟩
    · obtain ⟨k, rfl⟩ := Nat.exists_eq_add_of_le (Nat.le_of_not_le hin)
      rw [← hlen] at hb ⊢
      have h := ih number k (by rw [List.length_append] at hk; omega) (splitsBreak_of_append hb)
      have ho : start + (length + units p) + k = start + length + ((encodePoint p).length + k) := by
        omega
      rw [ho, ← hlen] at h
      exact h.after_units fun u hu => not_break_of_mem_encodePoint hp hu

/-- The units of a document's text. -/
def utf16 (d : Document) : List Nat := encode d.text.points

section

variable {d : Document} {offset : Int} (hle : offset ≤ d.utf16.length)
  (hb : splitsBreak d.utf16 offset.toNat = false)

include hle hb

theorem positionAt_lies : Lies d.utf16 0 0 offset.toNat (d.positionAt offset) := by
  have h := placeIn_lies 0 0 0 offset.toNat (Int.toNat_le.mpr hle) hb
  rwa [Nat.zero_add] at h

/-- The position of an offset stands for that offset. -/
theorem offsetOf?_positionAt : offsetOf? d.utf16 (d.positionAt offset) = some offset.toNat :=
  (positionAt_lies hle hb).offsetOf?

theorem place_eq_ok (hd : d.text.IsWhole) (hbound : d.utf16.length ≤ Position.bound) :
    d.place offset = .ok (d.positionAt offset) := by
  have hlines := textLines_checked hd
  obtain ⟨hl, hc⟩ := (positionAt_lies hle hb).le
  have hk : offset.toNat ≤ d.utf16.length := Int.toNat_le.mpr hle
  have hchecked : (d.positionAt offset).checked = .ok (d.positionAt offset) := by
    rw [Position.checked, if_neg (by omega), if_neg (by omega)]
  show ((textLines d.text.points).forM Encoding.checkUtf16 >>= fun _ =>
    (d.positionAt offset).checked) = _
  rw [hlines]
  exact hchecked

end

end Document

end LintServer
