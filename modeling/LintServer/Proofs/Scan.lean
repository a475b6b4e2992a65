/-
  LintServer.Proofs.Scan — positions found by a plain scan.

  A scan walks over the units of a text from its start and counts: a carriage return and the line
  feed behind it, either of them alone, and nothing else ends a line, and any other unit is one
  character. It stops at the offset, and in front of a line break that the offset lies in. No table
  of lines is needed for that, nor are the characters behind the units.
  - `Text.Utf16.scan`: the scan.
  - `placeIn_eq_scan`: the table of lines leads to where the scan stops.
  - `scan_lies`, `scan_terminates`: where that is.
  - `place_is_scanned`: every text that can be encoded, and every offset.
  - `lone_half_has_no_place`: a text that cannot.
-/

import LintServer.Proofs.Units

namespace LintServer

namespace Text.Utf16

/-- The position `k` units behind another one, from which the units go on. -/
def scan : Position → Nat → List Nat → Position
  | p, 0, _ => p
  | p, _ + 1, [] => p
  | p, 1, 13 :: 10 :: _ => p
  | p, k + 2, 13 :: 10 :: us => scan ⟨p.line + 1, 0⟩ k us
  | p, k + 1, u :: us =>
    if u = 13 ∨ u = 10 then scan ⟨p.line + 1, 0⟩ k us
    else scan ⟨p.line, p.character + 1⟩ k us

/-- The offset itself, or that of the line break it lies in. -/
def unsplit (us : List Nat) (k : Nat) : Nat := if splitsBreak us k then k - 1 else k

/-- A line ends at `first`, and the break behind it, from there to the start of the next line,
holds the offset `k`. -/
def Terminates (us : List Nat) (line first k : Nat) : Prop :=
  ∃ next, lineStart? us (line + 1) = some next ∧ first ≤ k ∧ k < next ∧
    ∀ i, first ≤ i → i < next → us[i]? = some 13 ∨ us[i]? = some 10

/-! ## Steps of a scan -/

@[simp] theorem scan_zero (p : Position) (us : List Nat) : scan p 0 us = p := by
  cases us <;> rfl

@[simp] theorem scan_nil (p : Position) (k : Nat) : scan p k [] = p := by
  cases k <;> rfl

theorem scan_inside_crlf (p : Position) (us : List Nat) : scan p 1 (13 :: 10 :: us) = p := rfl

theorem scan_crlf (p : Position) (k : Nat) (us : List Nat) :
    scan p (k + 2) (13 :: 10 :: us) = scan ⟨p.line + 1, 0⟩ k us := rfl

theorem scan_break {u : Nat} {us : List Nat} (hu : u = 13 ∨ u = 10)
    (hlf : u = 13 → ∀ rest, us ≠ 10 :: rest) (p : Position) (k : Nat) :
    scan p (k + 1) (u :: us) = scan ⟨p.line + 1, 0⟩ k us := by
  rw [scan]
  · exact if_pos hu
  · intro rest _ h13 hrest
    exact hlf h13 rest hrest
  · intro n rest _ h13 hrest
    exact hlf h13 rest hrest

theorem scan_other {u : Nat} (hu : ¬ (u = 13 ∨ u = 10)) (us : List Nat) (p : Position) (k : Nat) :
    scan p (k + 1) (u :: us) = scan ⟨p.line, p.character + 1⟩ k us := by
  rw [scan]
  · exact if_neg hu
  · intro rest _ h13
    exact absurd (Or.inl h13) hu
  · intro n rest _ h13
    exact absurd (Or.inl h13) hu

/-- Units that end no line are so many characters. -/
theorem scan_append {more : List Nat} (h : ∀ u ∈ more, ¬ (u = 13 ∨ u = 10)) (us : List Nat)
    (p : Position) (k : Nat) :
    scan p (more.length + k) (more ++ us) = scan ⟨p.line, p.character + more.length⟩ k us := by
  induction more generalizing p with
  | nil => simp
  | cons u rest ih =>
    have hk : (u :: rest).length + k = rest.length + k + 1 := by
      rw [List.length_cons]
      omega
    rw [hk, List.cons_append, scan_other (h u List.mem_cons_self),
      ih fun v hv => h v (List.mem_cons_of_mem u hv)]
    simp only [List.length_cons, Nat.add_assoc, Nat.add_comm 1]

theorem scan_within {more : List Nat} (h : ∀ u ∈ more, ¬ (u = 13 ∨ u = 10)) (us : List Nat)
    (p : Position) {k : Nat} (hk : k ≤ more.length) :
    scan p k (more ++ us) = ⟨p.line, p.character + k⟩ := by
  have front : ∀ u ∈ more.take k, ¬ (u = 13 ∨ u = 10) := fun u hu => h u (List.mem_of_mem_take hu)
  have stop := scan_append front (more.drop k ++ us) p 0
  rw [List.length_take, Nat.min_eq_left hk, Nat.add_zero, ← List.append_assoc,
    List.take_append_drop, scan_zero] at stop
  exact stop

/-- The last equations of `scan` are not for a carriage return with a line feed behind it. -/
theorem lone_of_unmatched {k u : Nat} {us : List Nat}
    (h1 : ∀ rest, k = 0 → u = 13 → us = 10 :: rest → False)
    (h2 : ∀ n rest, k = n + 1 → u = 13 → us = 10 :: rest → False) :
    u = 13 → ∀ rest, us ≠ 10 :: rest := by
  intro h13 rest hrest
  cases k with
  | zero => exact h1 rest rfl h13 hrest
  | succ n => exact h2 n rest rfl h13 hrest

/-- A scan does not go beyond the end of the text. -/
theorem scan_min (p : Position) (k : Nat) (us : List Nat) :
    scan p (min k us.length) us = scan p k us := by
  fun_induction scan p k us with
  | case1 => simp
  | case2 => simp
  | case3 => simp [scan]
  | case4 p k us ih =>
    have hm : min (k + 2) (13 :: 10 :: us).length = min k us.length + 2 := by
      simp only [List.length_cons]
      omega
    rw [hm, scan_crlf, ih]
  | case5 p k u us h1 h2 hu ih =>
    have hm : min (k + 1) (u :: us).length = min k us.length + 1 := by
      simp only [List.length_cons]
      omega
    rw [hm, scan_break hu (lone_of_unmatched h1 h2), ih]
  | case6 p k u us h1 h2 hu ih =>
    have hm : min (k + 1) (u :: us).length = min k us.length + 1 := by
      simp only [List.length_cons]
      omega
    rw [hm, scan_other hu, ih]

/-! ## Line breaks that an offset lies in -/

@[simp] theorem unsplit_zero (us : List Nat) : unsplit us 0 = 0 := rfl

/-- What stands in front moves a line break, unless it ends in the first half of one. -/
theorem splitsBreak_append {front us : List Nat}
    (hjoin : splitsBreak (front ++ us) front.length = false) (k : Nat) :
    splitsBreak (front ++ us) (front.length + k) = splitsBreak us k := by
  cases k with
  | zero => exact hjoin
  | succ k =>
    have hcr : (front ++ us)[front.length + (k + 1) - 1]? = us[k]? := by
      rw [List.getElem?_append_right (by omega)]
      congr 1
      omega
    have hlf : (front ++ us)[front.length + (k + 1)]? = us[k + 1]? := by
      rw [List.getElem?_append_right (by omega), Nat.add_sub_cancel_left]
    have hne : front.length + (k + 1) ≠ 0 := by omega
    rw [splitsBreak, splitsBreak, hcr, hlf, Nat.add_sub_cancel, bne_iff_ne.mpr hne]
    rfl

theorem unsplit_append {front us : List Nat}
    (hjoin : splitsBreak (front ++ us) front.length = false) (k : Nat) :
    unsplit (front ++ us) (front.length + k) = front.length + unsplit us k := by
  rw [unsplit, unsplit, splitsBreak_append hjoin]
  split
  · rename_i hs
    have hk : k ≠ 0 := by
      rintro rfl
      cases hs
    omega
  · rfl

theorem unsplit_crlf (us : List Nat) (k : Nat) :
    unsplit (13 :: 10 :: us) (k + 2) = 2 + unsplit us k := by
  have hjoin : splitsBreak ([13, 10] ++ us) 2 = false := by simp [splitsBreak]
  rw [Nat.add_comm k]
  exact unsplit_append hjoin k

theorem unsplit_break {u : Nat} {us : List Nat} (hlf : u = 13 → ∀ rest, us ≠ 10 :: rest) (k : Nat) :
    unsplit (u :: us) (k + 1) = 1 + unsplit us k := by
  have hjoin : splitsBreak ([u] ++ us) 1 = false := by
    cases us with
    | nil => simp [splitsBreak]
    | cons v rest =>
      by_cases hu : u = 13
      · have hv : v ≠ 10 := fun h => hlf hu rest (by rw [h])
        simp [splitsBreak, hv]
      · simp [splitsBreak, hu]
  rw [Nat.add_comm k]
  exact unsplit_append hjoin k

theorem unsplit_other {u : Nat} (hu : ¬ (u = 13 ∨ u = 10)) (us : List Nat) (k : Nat) :
    unsplit (u :: us) (k + 1) = 1 + unsplit us k :=
  unsplit_break (fun h => absurd (Or.inl h) hu) k

theorem Terminates.behind {front us : List Nat} {line line' first k : Nat}
    (hnext : lineStart? (front ++ us) (line' + 1) =
      (lineStart? us (line + 1)).map (· + front.length))
    (h : Terminates us line first k) :
    Terminates (front ++ us) line' (front.length + first) (front.length + k) := by
  obtain ⟨next, hn, hfk, hkn, hall⟩ := h
  refine ⟨next + front.length, by rw [hnext, hn]; rfl, by omega, by omega, ?_⟩
  intro i hi hin
  obtain ⟨i, rfl⟩ := Nat.exists_eq_add_of_le (Nat.le_trans (Nat.le_add_right _ _) hi)
  rw [List.getElem?_append_right (by omega), Nat.add_sub_cancel_left]
  exact hall i (by omega) (by omega)

theorem terminates_crlf {k : Nat} (us : List Nat) (hk : k < 2) :
    Terminates (13 :: 10 :: us) 0 0 k := by
  refine ⟨2, by rw [lineStart?_crlf, lineStart?_zero]; rfl, Nat.zero_le k, hk, ?_⟩
  intro i _ hi
  match i, hi with
  | 0, _ => exact Or.inl rfl
  | 1, _ => exact Or.inr rfl

theorem terminates_break {u : Nat} {us : List Nat} (hu : u = 13 ∨ u = 10)
    (hlf : u = 13 → ∀ rest, us ≠ 10 :: rest) : Terminates (u :: us) 0 0 0 := by
  refine ⟨1, by rw [lineStart?_break hu hlf, lineStart?_zero]; rfl, Nat.le_refl 0, Nat.one_pos, ?_⟩
  intro i _ hi
  obtain rfl : i = 0 := by omega
  simpa using hu

/-- A text that starts with a unit that ends a line starts with a line break. -/
theorem terminates_first {u : Nat} {us : List Nat} (hk : us[0]? = some u) (hu : u = 13 ∨ u = 10) :
    Terminates us 0 0 0 := by
  cases us with
  | nil => cases hk
  | cons v us =>
    obtain rfl : v = u := by simpa using hk
    by_cases hcrlf : v = 13 ∧ ∃ rest, us = 10 :: rest
    · obtain ⟨rfl, rest, rfl⟩ := hcrlf
      exact terminates_crlf rest (by omega)
    · exact terminates_break hu fun h13 rest hrest => hcrlf ⟨h13, rest, hrest⟩

/-! ## Where a scan stops -/

/-- A scan stops at its offset, or in front of the line break that lies in. -/
theorem scan_lies {k : Nat} {us : List Nat} (p : Position) (hk : k ≤ us.length) :
    Lies us p.line p.character (unsplit us k) (scan p k us) := by
  fun_induction scan p k us with
  | case1 p us => exact Or.inl ⟨rfl, rfl⟩
  | case2 p k =>
    rw [List.length_nil] at hk
    omega
  | case3 p us => exact Or.inl ⟨rfl, rfl⟩
  | case4 p k us ih =>
    have hk' : k ≤ us.length := by
      simp only [List.length_cons] at hk
      omega
    rw [unsplit_crlf]
    show Lies ([13, 10] ++ us) _ _ (2 + unsplit us k) _
    exact (ih hk').after_break p.character (lineStart?_crlf us)
  | case5 p k u us h1 h2 hu ih =>
    have hlf := lone_of_unmatched h1 h2
    rw [unsplit_break hlf]
    show Lies ([u] ++ us) _ _ (1 + unsplit us k) _
    exact (ih (Nat.le_of_succ_le_succ hk)).after_break p.character (lineStart?_break hu hlf)
  | case6 p k u us h1 h2 hu ih =>
    have hmore : ∀ v ∈ [u], ¬ (v = 13 ∨ v = 10) := fun v hv => List.mem_singleton.mp hv ▸ hu
    rw [unsplit_other hu]
    exact (ih (Nat.le_of_succ_le_succ hk)).after_units hmore

/-- A unit that ends a line is in the break behind the line in which the scan for it stops. -/
theorem scan_terminates {k u : Nat} {us : List Nat} (p : Position) (hk : us[k]? = some u)
    (hu : u = 13 ∨ u = 10) :
    ∃ j, (scan p k us).line = p.line + j ∧ Terminates us j (unsplit us k) k := by
  fun_induction scan p k us with
  | case1 p us => exact ⟨0, rfl, terminates_first hk hu⟩
  | case2 p k => cases hk
  | case3 p us => exact ⟨0, rfl, terminates_crlf us (by omega)⟩
  | case4 p k us ih =>
    obtain ⟨j, hl, h⟩ := ih hk
    refine ⟨j + 1, by rw [hl]; show p.line + 1 + j = _; omega, ?_⟩
    show Terminates ([13, 10] ++ us) (j + 1) (unsplit (13 :: 10 :: us) (k + 2)) (k + 2)
    rw [unsplit_crlf, Nat.add_comm k]
    exact h.behind (lineStart?_crlf us _)
  | case5 p k v us h1 h2 hv ih =>
    have hlf := lone_of_unmatched h1 h2
    obtain ⟨j, hl, h⟩ := ih hk
    refine ⟨j + 1, by rw [hl]; show p.line + 1 + j = _; omega, ?_⟩
    show Terminates ([v] ++ us) (j + 1) (unsplit (v :: us) (k + 1)) (k + 1)
    rw [unsplit_break hlf, Nat.add_comm k]
    exact h.behind (lineStart?_break hv hlf _)
  | case6 p k v us h1 h2 hv ih =>
    obtain ⟨j, hl, h⟩ := ih hk
    refine ⟨j, hl, ?_⟩
    show Terminates ([v] ++ us) j (unsplit (v :: us) (k + 1)) (k + 1)
    rw [unsplit_other hv, Nat.add_comm k]
    exact h.behind (lineStart?_other hv us _)

end Text.Utf16

open Text.Utf16

/-! ## The table of lines and the scan -/

namespace Document

/-- The place of an offset that is `k` units behind what is known of the first line is the one at
which a scan for it stops. -/
theorem placeIn_eq_scan (start length number k : Nat) (ps : List Point) :
    placeIn (start + length + k) number (linesFrom start length ps) =
      scan ⟨number, length⟩ k (encode ps) := by
  fun_induction linesFrom start length ps generalizing number k with
  | case1 start length =>
    rw [encode_nil, scan_nil]
    show Position.mk number (min (start + length + k - start) length) = _
    rw [Nat.min_eq_right (by omega)]
  | case2 start length ps ih =>
    have he : encode (.char '\r' :: .char '\n' :: ps) = 13 :: 10 :: encode ps := by
      rw [encode_cons, encode_cons, encodePoint_cr, encodePoint_lf]
      rfl
    rw [he, placeIn_break]
    obtain _ | _ | k := k
    · rw [if_neg (by omega), scan_zero, Nat.min_eq_right (by simp only; omega)]
    · rw [if_neg (by omega), scan_inside_crlf, Nat.min_eq_right (by simp only; omega)]
    · have ho : start + length + (k + 2) = start + length + 2 + 0 + k := by omega
      rw [if_pos (by omega), scan_crlf, ho]
      exact ih (number + 1) k
  | case3 start length p ps hcrlf hp ih =>
    obtain ⟨u, hu, hpu, hlf⟩ := encode_lone_break hp hcrlf
    rw [encode_cons, hpu, List.singleton_append, placeIn_break]
    cases k with
    | zero => rw [if_neg (by omega), scan_zero, Nat.min_eq_right (by simp only; omega)]
    | succ k =>
      have ho : start + length + (k + 1) = start + length + 1 + 0 + k := by omega
      rw [if_pos (by omega), scan_break hu hlf, ho]
      exact ih (number + 1) k
  | case4 start length p ps hcrlf hp ih =>
    have hlen := length_encodePoint p
    have hmore : ∀ u ∈ encodePoint p, ¬ (u = 13 ∨ u = 10) :=
      fun u hu => not_break_of_mem_encodePoint hp hu
    rw [encode_cons]
    by_cases hin : k ≤ units p
    · rw [placeIn_within number ps (by omega) (by omega), scan_within hmore _ _ (hlen ▸ hin)]
      simp only [Nat.add_assoc, Nat.add_sub_cancel_left]
    · obtain ⟨k, rfl⟩ := Nat.exists_eq_add_of_le (Nat.le_of_not_le hin)
      have ho : start + length + (units p + k) = start + (length + units p) + k := by omega
      rw [ho, ih number k, ← hlen, scan_append hmore]

/-- The nearest offset that the text has. -/
def clamped (d : Document) (offset : Int) : Nat := (min (max 0 offset) d.utf16.length).toNat

/-- The position at which a scan from the start of the text stops. -/
def scanned (d : Document) (offset : Int) : Position := scan ⟨0, 0⟩ (d.clamped offset) d.utf16

theorem clamped_eq (d : Document) (offset : Int) :
    d.clamped offset = min offset.toNat d.utf16.length := by
  unfold clamped
  omega

theorem positionAt_eq_scan (d : Document) (offset : Int) :
    d.positionAt offset = d.scanned offset := by
  have h := placeIn_eq_scan 0 0 0 offset.toNat d.text.points
  rw [Nat.zero_add] at h
  rw [scanned, clamped_eq, scan_min]
  exact h

end Document

/-! ## Texts that have no units -/

theorem Text.exists_mem_splitChars {α : Type} [DecidableEq α] {sep c : α} {cs : List α} (hc : c ∈ cs)
    (hsep : c ≠ sep) : ∃ piece ∈ Text.splitChars sep cs, c ∈ piece := by
  induction cs with
  | nil => cases hc
  | cons d ds ih =>
    unfold Text.splitChars
    rcases List.mem_cons.mp hc with rfl | hc
    · split
      · exact ⟨[c], List.mem_cons_self, List.mem_cons_self⟩
      · rename_i first pieces _
        rw [if_neg hsep]
        exact ⟨c :: first, List.mem_cons_self, List.mem_cons_self⟩
    · obtain ⟨piece, hp, hcp⟩ := ih hc
      split
      · rename_i hs
        rw [hs] at hp
        cases hp
      · rename_i first pieces hs
        rw [hs] at hp
        split
        · exact ⟨piece, List.mem_cons_of_mem [] hp, hcp⟩
        · rcases List.mem_cons.mp hp with rfl | hp
          · exact ⟨d :: piece, List.mem_cons_self, List.mem_cons_of_mem d hcp⟩
          · exact ⟨piece, List.mem_cons_of_mem _ hp, hcp⟩

/-- The lines of a text can be written in UTF-16 only if the text can. -/
theorem Document.textLines_checked_iff {t : Text} :
    (textLines t.points).forM Encoding.checkUtf16 = .ok () ↔ t.IsWhole := by
  refine ⟨fun h p hp => ?_, textLines_checked⟩
  by_cases hb : p = .char '\r' ∨ p = .char '\n'
  · rcases hb with rfl | rfl <;> rfl
  · have hm : p ∈ t.points.map fun p => if p = .char '\r' then .char '\n' else p :=
      List.mem_map.mpr ⟨p, hp, if_neg fun h => hb (Or.inl h)⟩
    obtain ⟨piece, hl, hpl⟩ := Text.exists_mem_splitChars hm fun h => hb (Or.inr h)
    exact Encoding.checkUtf16_eq_ok_iff.mp (forM_eq_ok_iff.mp h piece hl) p hpl

/-! ## Every text and every offset -/

theorem unsplit_le (us : List Nat) (k : Nat) : unsplit us k ≤ k := by
  unfold unsplit
  split <;> omega

theorem Position.checked_eq_self {p : Position} (hl : p.line ≤ bound) (hc : p.character ≤ bound) :
    p.checked = .ok p := by
  rw [checked, if_neg (Nat.not_lt.mpr hl), if_neg (Nat.not_lt.mpr hc)]

theorem Document.place_of_isWhole {d : Document} {offset : Int} (hd : d.text.IsWhole) :
    d.place offset = (d.positionAt offset).checked := by
  show ((textLines d.text.points).forM Encoding.checkUtf16 >>= fun _ =>
    (d.positionAt offset).checked) = _
  rw [textLines_checked_iff.mpr hd]
  rfl

theorem Document.isWhole_of_place {d : Document} {offset : Int} {q : Position}
    (h : d.place offset = .ok q) : d.text.IsWhole := by
  have h : ((textLines d.text.points).forM Encoding.checkUtf16 >>= fun _ =>
    (d.positionAt offset).checked) = .ok q := h
  rw [← textLines_checked_iff]
  cases hl : (textLines d.text.points).forM Encoding.checkUtf16 with
  | error e =>
    rw [hl] at h
    cases h
  | ok _ => rfl

/-- A text has a place for every offset if no half of a surrogate pair stands alone in it, so that it
can be written in UTF-16, and for none otherwise. The place is where a scan for the nearest offset of the text stops, which is at that offset, or in front
of the line break that has it inside; and at a line break, it is the end of the line before. -/
theorem Document.place_is_scanned (d : Document) (hbound : d.utf16.length ≤ Position.bound)
    (offset : Int) :
    (∀ q, d.place offset = .ok q ↔ d.text.IsWhole ∧ q = d.scanned offset) ∧
    offsetOf? d.utf16 (d.scanned offset) = some (unsplit d.utf16 (d.clamped offset)) ∧
    (d.utf16[d.clamped offset]? = some 13 ∨ d.utf16[d.clamped offset]? = some 10 →
      Terminates d.utf16 (d.scanned offset).line (unsplit d.utf16 (d.clamped offset))
        (d.clamped offset)) := by
  have hk : d.clamped offset ≤ d.utf16.length := by
    rw [clamped_eq]
    exact Nat.min_le_right _ _
  have hlies : Lies d.utf16 0 0 (unsplit d.utf16 (d.clamped offset)) (d.scanned offset) :=
    scan_lies ⟨0, 0⟩ hk
  have hfits : (d.scanned offset).checked = .ok (d.scanned offset) := by
    have hat := Nat.le_trans (unsplit_le d.utf16 _) (Nat.le_trans hk hbound)
    exact Position.checked_eq_self (Nat.le_trans hlies.le.1 hat) (Nat.le_trans hlies.le.2 hat)
  have hplace (hd : d.text.IsWhole) : d.place offset = .ok (d.scanned offset) := by
    rw [place_of_isWhole hd, positionAt_eq_scan, hfits]
  refine ⟨fun q => ⟨fun h => ?_, ?_⟩, hlies.offsetOf?, fun hbreak => ?_⟩
  · have hd := isWhole_of_place h
    exact ⟨hd, Except.ok.inj (h.symm.trans (hplace hd))⟩
  · rintro ⟨hd, rfl⟩
    exact hplace hd
  · obtain ⟨u, hu, hat⟩ : ∃ u, (u = 13 ∨ u = 10) ∧ d.utf16[d.clamped offset]? = some u := by
      rcases hbreak with h | h
      · exact ⟨13, Or.inl rfl, h⟩
      · exact ⟨10, Or.inr rfl, h⟩
    obtain ⟨j, hj, hends⟩ := scan_terminates ⟨0, 0⟩ hat hu
    rw [scanned, hj, Nat.zero_add]
    exact hends

/-- A carriage return and its line feed, with a character of two units behind them: the offset
inside the break goes to the end of the first line, and the one inside the character stays. -/
theorem place_is_scanned_crlf :
    let d : Document := { uri := "file:///a.js", text := "a\r\n😀b" }
    d.utf16.length ≤ Position.bound ∧ d.place 2 = .ok ⟨0, 1⟩ ∧ d.place 4 = .ok ⟨1, 1⟩ ∧
      Terminates d.utf16 0 1 2 := by
  intro d
  have hbound : d.utf16.length ≤ Position.bound := by decide
  have hd : d.text.IsWhole := Encoding.checkUtf16_eq_ok_iff.mp rfl
  have hat : d.clamped 2 = 2 ∧ d.scanned 2 = ⟨0, 1⟩ ∧ unsplit d.utf16 2 = 1 := by decide
  have inside := d.place_is_scanned hbound 2
  have behind := d.place_is_scanned hbound 4
  rw [hat.1, hat.2.1, hat.2.2] at inside
  refine ⟨hbound, (inside.1 _).mpr ⟨hd, rfl⟩, (behind.1 _).mpr ⟨hd, by decide⟩, ?_⟩
  exact inside.2.2 (by decide)

/-- A text with half of a surrogate pair has units, over which a scan can go, but no encoding takes
it, and so it has no place for any offset. -/
theorem lone_half_has_no_place :
    ¬ ∀ (d : Document) (offset : Int), d.utf16.length ≤ Position.bound →
      d.place offset = .ok (d.scanned offset) := by
  intro h
  cases h { uri := "file:///a.js", text := ⟨[.half 0]⟩ } 0 (by decide)

end LintServer
