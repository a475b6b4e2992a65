/-
  LintServer.Proofs.Written — what is written in JSON is read back.

  A code point is written as itself, behind a backslash, as one unit or as the two units of a
  pair, and each of these is read as that code point again; two units are joined only where a
  pair was written (`readChars_spelled`). A value ends where a comma, a bracket, a brace or
  nothing follows, which no number and no word goes on with. So a value without floating
  point numbers is read off its text, whatever it is in (`readsBack_of_proper`), if it keeps
  within the limits of reading (`readWithin_write`). Those of writing are the same
  (`written_eq_ok_iff`), so that what is written can be read.
-/

import LintServer.Json.Reader
import LintServer.Json.Writer
import LintServer.Proofs.Outcomes
import Mathlib.Data.List.Chain
import Mathlib.Data.List.TakeDrop

namespace LintServer

namespace Text

/-- Whether two code points are the halves of a pair, which as units would be one character. -/
def isPair (p q : Point) : Bool :=
  p.half?.any Json.isHighSurrogate && q.half?.any Json.isLowSurrogate

/-- No half of a pair stands right before its other half. -/
def Apart (ps : List Point) : Prop := ps.IsChain fun p q => isPair p q = false

/-- The string of a text in which no half of a pair stands right before its other half. -/
structure Joined (s : String) : Prop where
  coded : (ofString s).string = s
  apart : Apart (ofString s).points

instance : DecidablePred Joined := fun s =>
  have : Decidable (Apart (ofString s).points) := inferInstanceAs (Decidable (List.IsChain _ _))
  decidable_of_iff ((ofString s).string = s ∧ Apart (ofString s).points)
    ⟨fun h => ⟨h.1, h.2⟩, fun h => ⟨h.1, h.2⟩⟩

end Text

namespace Json

open Text (isPair Apart Joined codesOf)

/-- A value as text can hold it: no half of a pair stands right before its other half, since the two
would be read as one character; no name comes twice in an object; and floating point numbers are
such as `float` allows. -/
inductive Proper (float : Double → Prop) : Json → Prop
  | null : Proper float .null
  | bool (b : Bool) : Proper float (.bool b)
  | int (n : Int) : Proper float (.int n)
  | float {x : Double} (h : float x) : Proper float (.float x)
  | str {s : String} (h : Joined s) : Proper float (.str s)
  | arr {items : List Json} (h : ∀ v ∈ items, Proper float v) : Proper float (.arr items)
  | obj {fields : List (String × Json)} (distinct : (Table.keys fields).Nodup)
      (names : ∀ f ∈ fields, Joined f.1) (values : ∀ f ∈ fields, Proper float f.2) :
      Proper float (.obj fields)

/-- A value without dates and times, in which no integer has more than `digits` digits, nested no
deeper than the number of levels given. -/
inductive Within (digits : Nat) : (depth : Nat) → Json → Prop
  | null {depth : Nat} : Within digits depth .null
  | bool {depth : Nat} (b : Bool) : Within digits depth (.bool b)
  | int {depth : Nat} {n : Int} (h : (Nat.toDigits 10 n.natAbs).length ≤ digits) :
      Within digits depth (.int n)
  | float {depth : Nat} (x : Double) : Within digits depth (.float x)
  | str {depth : Nat} (s : String) : Within digits depth (.str s)
  | arr {depth : Nat} {items : List Json} (h : ∀ v ∈ items, Within digits depth v) :
      Within digits (depth + 1) (.arr items)
  | obj {depth : Nat} {fields : List (String × Json)} (h : ∀ f ∈ fields, Within digits depth f.2) :
      Within digits (depth + 1) (.obj fields)

variable {digits depth : Nat}

theorem within_int_iff {n : Int} :
    Within digits depth (.int n) ↔ (Nat.toDigits 10 n.natAbs).length ≤ digits :=
  ⟨fun h => by cases h with | int h => exact h, .int⟩

theorem within_arr_iff {items : List Json} : Within digits depth (.arr items) ↔
    ∃ d, depth = d + 1 ∧ ∀ v ∈ items, Within digits d v :=
  ⟨fun h => by cases h with | arr h => exact ⟨_, rfl, h⟩, fun ⟨_, hd, h⟩ => hd ▸ .arr h⟩

theorem within_obj_iff {fields : List (String × Json)} : Within digits depth (.obj fields) ↔
    ∃ d, depth = d + 1 ∧ ∀ f ∈ fields, Within digits d f.2 :=
  ⟨fun h => by cases h with | obj h => exact ⟨_, rfl, h⟩, fun ⟨_, hd, h⟩ => hd ▸ .obj h⟩

/-! ## Code points -/

theorem hexValue?_hexDigit : ∀ n < 16, hexValue? (Text.hexDigit n) = some n := by decide

/-- The digits of a unit, read one by one. -/
theorem hexFour?_hex {n : Nat} (h : n < 0x10000) :
    ∃ a b c d, Text.hex 4 n = [a, b, c, d] ∧ hexFour? a b c d = some n := by
  refine ⟨_, _, _, _, rfl, ?_⟩
  unfold hexFour?
  have digit : ∀ m, hexValue? (Text.hexDigit (m % 16)) = some (m % 16) := fun m =>
    hexValue?_hexDigit _ (Nat.mod_lt _ (by decide))
  rw [digit, digit, digit, digit]
  show some _ = some n
  congr 1
  omega

theorem readUnit_hex {n : Nat} (h : n < 0x10000) (e : Char) (rest : List Char) :
    readUnit (Text.hex 4 n ++ e :: rest) = .ok (n, e :: rest) := by
  obtain ⟨a, b, c, d, hs, hv⟩ := hexFour?_hex h
  rw [hs]
  simp only [List.cons_append, List.nil_append, readUnit, hv]

theorem isHighSurrogate_iff {n : Nat} : isHighSurrogate n = true ↔ 0xD800 ≤ n ∧ n < 0xDC00 := by
  simp [isHighSurrogate]

theorem isLowSurrogate_iff {n : Nat} : isLowSurrogate n = true ↔ 0xDC00 ≤ n ∧ n < 0xE000 := by
  simp [isLowSurrogate]

/-- The code point of a surrogate is the half that it is. -/
theorem half?_ofUnit {n : Nat} (h : isHighSurrogate n = true ∨ isLowSurrogate n = true) :
    (Point.ofUnit n).half? = some n := by
  rw [isHighSurrogate_iff, isLowSurrogate_iff] at h
  rw [Point.ofUnit, dif_pos (by omega)]
  simp only [Point.half?, Option.some.injEq]
  omega

theorem eq_of_half?_ofUnit {n m : Nat} (h : (Point.ofUnit n).half? = some m) : m = n := by
  unfold Point.ofUnit at h
  split at h
  · have := Option.some.inj h
    simp only at this
    omega
  · cases h

theorem ofUnit_half (i : Fin 0x800) : Point.ofUnit (0xD800 + i) = .half i := by
  rw [Point.ofUnit, dif_pos (by omega)]
  simp

/-- Any other unit is a character. -/
theorem ofUnit_toNat {c : Char} : Point.ofUnit c.toNat = .char c := by
  have hvalid : c.toNat < 0xD800 ∨ 0xDFFF < c.toNat ∧ c.toNat < 0x110000 := c.valid
  rw [Point.ofUnit, dif_neg (by omega), Char.ofNat_toNat]

/-- The ways in which a code point is written: as itself, with a letter behind a backslash, as one
unit, or as the two units of a pair. -/
inductive Spelled : Point → List Char → Prop
  | plain {c : Char} (hq : c ≠ '"') (hb : c ≠ '\\') (hn : 32 ≤ c.toNat) (hm : c ≠ Text.mark) :
      Spelled (.char c) [c]
  | short {c e : Char} (hu : e ≠ 'u') (he : shortEscape? e = some c) (hm : c ≠ Text.mark) :
      Spelled (.char c) ['\\', e]
  | unit {n : Nat} (hn : n < 0x10000) : Spelled (.ofUnit n) (unitEscape n)
  | pair {high low : Nat} (hh : isHighSurrogate high = true) (hl : isLowSurrogate low = true) :
      Spelled (.char (pairChar high low)) (unitEscape high ++ unitEscape low)

theorem spelled_unit {c : Char} (h : c.toNat < 0x10000) :
    Spelled (.char c) (unitEscape c.toNat) := by
  rw [← ofUnit_toNat]
  exact .unit h

theorem spelled_pair {c : Char} (h : 0x10000 ≤ c.toNat) :
    Spelled (.char c) (unitEscape (0xD800 + (c.toNat - 0x10000) / 0x400) ++
      unitEscape (0xDC00 + (c.toNat - 0x10000) % 0x400)) := by
  have hbound : c.toNat < 0xD800 ∨ 0xDFFF < c.toNat ∧ c.toNat < 0x110000 := c.valid
  have hpair : pairChar (0xD800 + (c.toNat - 0x10000) / 0x400)
      (0xDC00 + (c.toNat - 0x10000) % 0x400) = c := by
    unfold pairChar
    rw [show 0x10000 + (0xD800 + (c.toNat - 0x10000) / 0x400 - 0xD800) * 0x400 +
      (0xDC00 + (c.toNat - 0x10000) % 0x400 - 0xDC00) = c.toNat by omega, Char.ofNat_toNat]
  have hhigh : isHighSurrogate (0xD800 + (c.toNat - 0x10000) / 0x400) = true :=
    isHighSurrogate_iff.mpr (by omega)
  have hlow : isLowSurrogate (0xDC00 + (c.toNat - 0x10000) % 0x400) = true :=
    isLowSurrogate_iff.mpr (by omega)
  have hspelled := Spelled.pair hhigh hlow
  rwa [hpair] at hspelled

theorem eq_ofNat_of_toNat {c : Char} {n : Nat} (h : c.toNat = n) : c = Char.ofNat n := by
  rw [← h, Char.ofNat_toNat]

theorem ne_mark_of_lt {c : Char} (h : c.toNat < 0x10FFFF) : c ≠ Text.mark := by
  rintro rfl
  exact absurd h (by decide)

theorem spelled_writeChar (c : Char) : Spelled (.char c) (writeChar c) := by
  unfold writeChar
  simp only
  split
  · rename_i h
    exact .short (by decide) (by rw [h]; rfl) (by rw [h]; decide)
  split
  · rename_i h
    exact .short (by decide) (by rw [h]; rfl) (by rw [h]; decide)
  split
  · rename_i h
    exact .short (by decide) (by rw [h]; rfl) (by rw [h]; decide)
  split
  · rename_i h
    exact .short (by decide) (by rw [h]; rfl) (by rw [h]; decide)
  split
  · rename_i h
    exact .short (by decide) (by rw [h]; rfl) (by rw [h]; decide)
  split
  · rename_i h
    exact .short (by decide) (by rw [eq_ofNat_of_toNat h]; rfl) (ne_mark_of_lt (by omega))
  split
  · rename_i h
    exact .short (by decide) (by rw [eq_ofNat_of_toNat h]; rfl) (ne_mark_of_lt (by omega))
  split
  · rename_i hq hb _ _ _ _ _ h
    exact .plain hq hb h.1 (ne_mark_of_lt (by omega))
  split
  · rename_i h
    exact spelled_unit h
  · exact spelled_pair (by omega)

theorem spelled_writePoint (p : Point) : Spelled p (writePoint p) := by
  cases p with
  | char c => exact spelled_writeChar c
  | half i =>
    have hunit := Spelled.unit (show 0xD800 + i.val < 0x10000 by omega)
    rwa [ofUnit_half] at hunit

/-! ## Texts -/

/-- A unit that is no first half of a pair is read by itself. -/
theorem readUnicode_unit {n : Nat} (h : n < 0x10000) (hn : isHighSurrogate n = false) (e : Char)
    (rest : List Char) : readUnicode (Text.hex 4 n ++ e :: rest) = .ok (.ofUnit n, e :: rest) := by
  unfold readUnicode
  rw [readUnit_hex h]
  simp only [bind, Except.bind, hn, Bool.false_eq_true, if_false]
  rfl

/-- Two halves of a pair are read as one character. -/
theorem readUnicode_pair {high low : Nat} (hh : isHighSurrogate high = true)
    (hl : isLowSurrogate low = true) (e : Char) (rest : List Char) :
    readUnicode (Text.hex 4 high ++ (unitEscape low ++ e :: rest)) =
      .ok (.char (pairChar high low), e :: rest) := by
  have hlen : ¬ (Text.hex 4 low ++ e :: rest).length < 5 := by
    obtain ⟨a, b, c, d, hs, -⟩ := hexFour?_hex (n := low) (by rw [isLowSurrogate_iff] at hl; omega)
    rw [hs]
    simp
  unfold readUnicode
  rw [unitEscape, List.cons_append, List.cons_append,
    readUnit_hex (by rw [isHighSurrogate_iff] at hh; omega)]
  simp only [bind, Except.bind, hh, if_true, hlen, if_false,
    readUnit_hex (n := low) (by rw [isLowSurrogate_iff] at hl; omega), hl]
  rfl

/-- What does not begin with the second half of a pair. -/
inductive Unpaired : List Char → Prop
  | plain {c : Char} {cs : List Char} (h : c ≠ '\\') : Unpaired (c :: cs)
  | short {e : Char} {cs : List Char} (h : e ≠ 'u') : Unpaired ('\\' :: e :: cs)
  | unit {n : Nat} {e : Char} {cs : List Char} (hn : n < 0x10000) (hl : isLowSurrogate n = false) :
      Unpaired (unitEscape n ++ e :: cs)

/-- The first half of a pair is read by itself where the second does not follow. -/
theorem readUnicode_half {n : Nat} (h : isHighSurrogate n = true) {rest : List Char}
    (hr : Unpaired rest) : readUnicode (Text.hex 4 n ++ rest) = .ok (.ofUnit n, rest) := by
  have hn : n < 0x10000 := by
    rw [isHighSurrogate_iff] at h
    omega
  unfold readUnicode
  cases hr with
  | @plain c cs hc =>
    rw [readUnit_hex hn]
    simp only [bind, Except.bind, h, if_true]
    split
    · rename_i heq
      exact absurd (List.cons.inj heq).1 hc
    · rfl
  | @short e cs he =>
    rw [readUnit_hex hn]
    simp only [bind, Except.bind, h, if_true]
    split
    · rename_i heq
      exact absurd (List.cons.inj (List.cons.inj heq).2).1 he
    · rfl
  | @unit m e cs hm hl =>
    rw [unitEscape, List.cons_append, List.cons_append, readUnit_hex hn]
    simp only [bind, Except.bind, h, if_true, readUnit_hex hm, hl, Bool.false_eq_true, if_false]
    split <;> rfl

/-- Code points as they stand between quotes, with what follows. -/
def spelled (ps : List Point) (rest : List Char) : List Char := ps.flatMap writePoint ++ '"' :: rest

theorem spelled_cons (p : Point) (ps : List Point) (rest : List Char) :
    spelled (p :: ps) rest = writePoint p ++ spelled ps rest := by
  rw [spelled, List.flatMap_cons, List.append_assoc, spelled]

theorem exists_spelled (ps : List Point) (rest : List Char) :
    ∃ e more, spelled ps rest = e :: more := by
  cases h : spelled ps rest with
  | nil => simp [spelled] at h
  | cons e more => exact ⟨e, more, rfl⟩

/-- Behind the first half of a pair, a text goes on with something else than the second. -/
theorem unpaired_spelled {n : Nat} (hn : isHighSurrogate n = true) {ps : List Point}
    (h : Apart (.ofUnit n :: ps)) (rest : List Char) : Unpaired (spelled ps rest) := by
  have hhalf := half?_ofUnit (.inl hn)
  cases ps with
  | nil => exact .plain (by decide)
  | cons q ps =>
    have hpair : isPair (.ofUnit n) q = false := (List.isChain_cons_cons.mp h).1
    have hlow : ∀ m, q.half? = some m → isLowSurrogate m = false := by
      intro m hm
      simpa [isPair, hhalf, hn, hm] using hpair
    rw [spelled_cons]
    obtain ⟨e, more, hmore⟩ := exists_spelled ps rest
    rw [hmore]
    have hq := spelled_writePoint q
    generalize writePoint q = text at hq ⊢
    cases hq with
    | plain _ hb => exact .plain hb
    | short hu => exact .short hu
    | @unit m hm =>
      refine .unit hm ?_
      by_contra hl
      rw [Bool.not_eq_false] at hl
      rw [hlow m (half?_ofUnit (.inr hl))] at hl
      cases hl
    | @pair high low hh hl =>
      rw [List.append_assoc]
      rw [isHighSurrogate_iff] at hh
      refine .unit (n := high) (e := '\\') (by omega) ?_
      rw [Bool.eq_false_iff, Ne, isLowSurrogate_iff]
      omega

theorem codesOf_of_ne {c : Char} (h : c ≠ Text.mark) : codesOf (.char c) = [c] := if_neg h

theorem readChars_plain {c : Char} (hq : c ≠ '"') (hb : c ≠ '\\') (hn : 32 ≤ c.toNat)
    (opened : List Char) (fuel : Nat) (cs : List Char) : readChars opened (fuel + 1) (c :: cs) =
      (readChars opened fuel cs).map fun found => (c :: found.1, found.2) := by
  rw [readChars.eq_def]
  simp only [hq, hb, Nat.not_lt.mpr hn, if_false]
  cases readChars opened fuel cs <;> rfl

theorem readChars_short {c e : Char} (hu : e ≠ 'u') (he : shortEscape? e = some c)
    (opened : List Char) (fuel : Nat) (cs : List Char) :
    readChars opened (fuel + 1) ('\\' :: e :: cs) =
      (readChars opened fuel cs).map fun found => (c :: found.1, found.2) := by
  rw [readChars.eq_def]
  simp only [he]
  split
  · rename_i h
    exact absurd h (by decide)
  · cases readChars opened fuel cs <;> rfl

theorem readChars_unicode {p : Point} {cs rest : List Char} (h : readUnicode cs = .ok (p, rest))
    (opened : List Char) (fuel : Nat) : readChars opened (fuel + 1) ('\\' :: 'u' :: cs) =
      (readChars opened fuel rest).map fun found => (codesOf p ++ found.1, found.2) := by
  rw [readChars, if_neg (by decide), if_pos rfl]
  simp only [h, bind, Except.bind]
  cases readChars opened fuel rest <;> rfl

/-- The first code point of a text is read off its spelling. -/
theorem readChars_writePoint {p : Point} {ps : List Point} (h : Apart (p :: ps))
    (opened : List Char) (fuel : Nat) (rest : List Char) :
    readChars opened (fuel + 1) (writePoint p ++ spelled ps rest) =
      (readChars opened fuel (spelled ps rest)).map fun found =>
        (codesOf p ++ found.1, found.2) := by
  obtain ⟨e, more, hmore⟩ := exists_spelled ps rest
  have hunpaired : ∀ {n}, p = .ofUnit n → isHighSurrogate n = true →
      Unpaired (spelled ps rest) := fun hp hn => unpaired_spelled hn (hp ▸ h) rest
  rw [hmore] at hunpaired ⊢
  have hp := spelled_writePoint p
  generalize writePoint p = text at hp ⊢
  cases hp with
  | plain hq hb hn hm =>
    rw [codesOf_of_ne hm]
    exact readChars_plain hq hb hn opened fuel _
  | short hu he hm =>
    rw [codesOf_of_ne hm]
    exact readChars_short hu he opened fuel _
  | @unit n hn =>
    rw [unitEscape, List.cons_append, List.cons_append]
    refine readChars_unicode ?_ opened fuel
    cases hh : isHighSurrogate n with
    | false => exact readUnicode_unit hn hh e more
    | true => exact readUnicode_half hh (hunpaired rfl hh)
  | @pair high low hh hl =>
    rw [List.append_assoc, unitEscape, List.cons_append, List.cons_append]
    exact readChars_unicode (readUnicode_pair hh hl e more) opened fuel

/-- A text without pairs of halves is read off its spelling. -/
theorem readChars_spelled {ps : List Point} (h : Apart ps) (opened : List Char) {fuel : Nat}
    (hf : ps.length < fuel) (rest : List Char) :
    readChars opened fuel (spelled ps rest) = .ok (ps.flatMap codesOf, rest) := by
  induction ps generalizing fuel with
  | nil =>
    cases fuel with
    | zero => cases hf
    | succ fuel => rfl
  | cons p ps ih =>
    cases fuel with
    | zero => cases hf
    | succ fuel =>
      rw [spelled_cons, readChars_writePoint h, ih h.tail (Nat.lt_of_succ_lt_succ hf)]
      rfl

theorem readString_writeString {s : String} (h : Joined s) (opened : List Char) {fuel : Nat}
    (hf : (Text.pointsOf s.toList).length < fuel) (rest : List Char) :
    readString fuel opened (spelled (Text.pointsOf s.toList) rest) = .ok (s, rest) := by
  have hs : String.ofList ((Text.pointsOf s.toList).flatMap codesOf) = s := h.coded
  have hapart : Apart (Text.pointsOf s.toList) := h.apart
  unfold readString
  rw [readChars_spelled hapart opened hf]
  simp only [bind, Except.bind, hs]
  rfl

theorem writeString_append (s : String) (rest : List Char) :
    writeString s ++ rest = '"' :: spelled (Text.pointsOf s.toList) rest := by
  simp [writeString, spelled]

/-! ## Integers -/

/-- What can follow a value: nothing, a comma, or the end of what it is in. -/
def Closed (rest : List Char) : Prop := ∀ c ∈ rest.head?, c = ',' ∨ c = ']' ∨ c = '\x7d'

theorem closed_nil : Closed [] := by
  rintro c hc
  cases hc

theorem isAsciiDigit_of_mem_toDigits {n : Nat} {c : Char} (h : c ∈ Nat.toDigits 10 n) :
    Text.isAsciiDigit c = true := by
  have hd := Nat.isDigit_of_mem_toDigits (by decide) (by decide) h
  simpa [Text.isAsciiDigit, Char.isDigit, Char.le_def] using hd

theorem digitChar_ne_zero : ∀ n < 10, n ≠ 0 → n.digitChar ≠ '0' := by decide

/-- A number other than zero is not written with a leading zero. -/
theorem head?_toDigits {n : Nat} (h : n ≠ 0) : (Nat.toDigits 10 n).head? ≠ some '0' := by
  induction n using Nat.strongRecOn with
  | _ n ih =>
    by_cases hn : n < 10
    · rw [Nat.toDigits_of_lt_base hn, List.head?_singleton, Ne, Option.some.injEq]
      exact digitChar_ne_zero n hn h
    · have hdiv := ih (n / 10) (by omega) (by omega)
      rw [Nat.toDigits_of_base_le (by decide) (by omega)]
      cases hd : Nat.toDigits 10 (n / 10) with
      | nil => exact absurd hd Nat.toDigits_ne_nil
      | cons c cs =>
        rw [hd] at hdiv
        exact hdiv

theorem Closed.not_digit {rest : List Char} (h : Closed rest) :
    rest.takeWhile Text.isAsciiDigit = [] ∧ rest.dropWhile Text.isAsciiDigit = rest := by
  cases rest with
  | nil => exact ⟨rfl, rfl⟩
  | cons c cs => rcases h c rfl with rfl | rfl | rfl <;> exact ⟨rfl, rfl⟩

theorem takeDigits_append {ds rest : List Char} (hd : ∀ c ∈ ds, Text.isAsciiDigit c = true)
    (h : Closed rest) : takeDigits (ds ++ rest) = (ds, rest) := by
  unfold takeDigits
  rw [List.span_eq_takeWhile_dropWhile, List.takeWhile_append_of_pos hd,
    List.dropWhile_append_of_pos hd, h.not_digit.1, h.not_digit.2, List.append_nil]

theorem integerPart?_toDigits (n : Nat) {rest : List Char} (h : Closed rest) :
    integerPart? (Nat.toDigits 10 n ++ rest) = some (Nat.toDigits 10 n, rest) := by
  by_cases hn : n = 0
  · subst hn
    rfl
  have hall : ∀ c ∈ Nat.toDigits 10 n, Text.isAsciiDigit c = true := fun c hc =>
    isAsciiDigit_of_mem_toDigits hc
  have htake := takeDigits_append hall h
  have hhead := head?_toDigits hn
  cases hd : Nat.toDigits 10 n with
  | nil => exact absurd hd Nat.toDigits_ne_nil
  | cons c cs =>
    rw [hd] at hall htake hhead
    have hzero : c ≠ '0' := fun hc => hhead (by rw [hc]; rfl)
    rw [List.cons_append, integerPart?]
    · rw [if_pos (hall c List.mem_cons_self), ← List.cons_append, htake]
    · exact hzero

theorem Closed.fractionPart {rest : List Char} (h : Closed rest) :
    fractionPart rest = ([], rest) := by
  cases rest with
  | nil => rfl
  | cons c cs => rcases h c rfl with rfl | rfl | rfl <;> rfl

theorem Closed.exponentPart {rest : List Char} (h : Closed rest) :
    exponentPart rest = (none, rest) := by
  cases rest with
  | nil => rfl
  | cons c cs => rcases h c rfl with rfl | rfl | rfl <;> rfl

theorem asciiNumeral_toDigits (n : Nat) : Text.asciiNumeral (Nat.toDigits 10 n) = n :=
  Nat.ofDigitChars_ten_toDigits

/-- An integer is read back if it has no more digits than are read. -/
theorem readNumber_writeInt {digits : Nat} {n : Int}
    (hd : (Nat.toDigits 10 n.natAbs).length ≤ digits) {rest : List Char} (h : Closed rest) :
    readNumber digits (writeInt n ++ rest) = .ok (.int n, rest) := by
  obtain ⟨c, cs, hc⟩ : ∃ c cs, Nat.toDigits 10 n.natAbs = c :: cs := by
    cases hds : Nat.toDigits 10 n.natAbs with
    | nil => exact absurd hds Nat.toDigits_ne_nil
    | cons c cs => exact ⟨c, cs, rfl⟩
  have hint := integerPart?_toDigits n.natAbs h
  have hlen : ¬ digits < (Nat.toDigits 10 n.natAbs).length := Nat.not_lt.mpr hd
  by_cases hn : n < 0
  · rw [writeInt, if_pos hn]
    have hval : -(n.natAbs : Int) = n := by omega
    simp only [readNumber, List.cons_append, takeMinus, hint, h.fractionPart, h.exponentPart,
      List.isEmpty_nil, Option.isNone_none, Bool.and_self, if_true, hlen, if_false,
      asciiNumeral_toDigits, hval]
  · rw [writeInt, if_neg hn]
    have hminus : c ≠ '-' := by
      rintro rfl
      exact absurd (isAsciiDigit_of_mem_toDigits (hc ▸ List.mem_cons_self)) (by decide)
    have hval : (n.natAbs : Int) = n := by omega
    have hbody : takeMinus (Nat.toDigits 10 n.natAbs ++ rest) =
        (false, Nat.toDigits 10 n.natAbs ++ rest) := by
      rw [hc, List.cons_append, takeMinus]
      exact fun _ heq => hminus (List.cons.inj heq).1
    simp only [readNumber, hbody, hint, h.fractionPart, h.exponentPart, List.isEmpty_nil,
      Option.isNone_none, Bool.and_self, if_true, hlen, if_false, asciiNumeral_toDigits, hval,
      Bool.false_eq_true]

theorem ne_of_digit {c d : Char} (hc : Text.isAsciiDigit c = true)
    (hd : Text.isAsciiDigit d = false) : c ≠ d := by
  rintro rfl
  rw [hc] at hd
  cases hd

theorem not_space_of_digit {c : Char} (hc : Text.isAsciiDigit c = true) : isSpace c = false := by
  have hne : ∀ {d}, Text.isAsciiDigit d = false → c ≠ d := ne_of_digit hc
  simp [isSpace, hne (d := ' ') (by decide), hne (d := '\t') (by decide),
    hne (d := '\n') (by decide), hne (d := '\r') (by decide)]

/-- An integer begins with its sign or with a digit. -/
theorem exists_writeInt (n : Int) :
    ∃ c cs, writeInt n = c :: cs ∧ (c = '-' ∨ Text.isAsciiDigit c = true) := by
  rw [writeInt]
  split
  · exact ⟨_, _, rfl, .inl rfl⟩
  · cases hd : Nat.toDigits 10 n.natAbs with
    | nil => exact absurd hd Nat.toDigits_ne_nil
    | cons c cs => exact ⟨c, cs, rfl, .inr (isAsciiDigit_of_mem_toDigits (hd ▸ List.mem_cons_self))⟩

/-- A text has at least one character for each code point, and its quotes. -/
theorem length_writeString (s : String) :
    (Text.pointsOf s.toList).length + 2 ≤ (writeString s).length := by
  have hone : ∀ p : Point, 1 ≤ (writePoint p).length := by
    intro p
    have hp := spelled_writePoint p
    generalize writePoint p = text at hp ⊢
    cases hp <;> simp [unitEscape]
  have hall : ∀ ps : List Point, ps.length ≤ (ps.flatMap writePoint).length := by
    intro ps
    induction ps with
    | nil => exact Nat.zero_le _
    | cons p ps ih =>
      have := hone p
      rw [List.flatMap_cons, List.length_append, List.length_cons]
      omega
  have := hall (Text.pointsOf s.toList)
  simp only [writeString, List.length_cons, List.length_append, List.length_nil]
  omega

theorem readWord?_writeInt (n : Int) (rest : List Char) :
    readWord? (writeInt n ++ rest) = none := by
  cases hd : Nat.toDigits 10 n.natAbs with
  | nil => exact absurd hd Nat.toDigits_ne_nil
  | cons c cs =>
    have hc := isAsciiDigit_of_mem_toDigits (hd ▸ List.mem_cons_self : c ∈ Nat.toDigits 10 n.natAbs)
    have hne : ∀ {d}, Text.isAsciiDigit d = false → d ≠ c := fun hd => (ne_of_digit hc hd).symm
    rw [writeInt, hd]
    split <;> simp [readWord?, words, hne (d := 'n') (by decide), hne (d := 't') (by decide),
      hne (d := 'f') (by decide), hne (d := 'N') (by decide), hne (d := 'I') (by decide),
      hne (d := '-') (by decide)]

/-! ## Values -/

/-- A value within the limits is read off its text, and what follows is left. The text begins with
no blank, no byte order mark and no end of what the value is in. -/
structure ReadsBack (v : Json) : Prop where
  begins : ∃ c cs, writeValue v = c :: cs ∧ isSpace c = false ∧ c ≠ ']' ∧ c ≠ Char.ofNat 0xFEFF
  reads : ∀ {digits fuel depth : Nat} {rest : List Char}, Within digits depth v →
    2 * (writeValue v).length ≤ fuel → Closed rest →
      readValue digits fuel depth (writeValue v ++ rest) = .ok (v, rest)

theorem skip_cons {c : Char} (h : isSpace c = false) (cs : List Char) :
    skip (c :: cs) = c :: cs := by
  rw [skip, List.dropWhile_cons, h]
  rfl

theorem skip_blank (cs : List Char) : skip (' ' :: cs) = skip cs := rfl

theorem ReadsBack.skip {v : Json} (h : ReadsBack v) (rest : List Char) :
    skip (writeValue v ++ rest) = writeValue v ++ rest := by
  obtain ⟨c, cs, hc, hs, -, -⟩ := h.begins
  rw [hc, List.cons_append, skip_cons hs]

theorem readsBack_null : ReadsBack .null where
  begins := ⟨_, _, rfl, by decide⟩
  reads {digits fuel depth rest} _ hf _ := by
    cases fuel with
    | zero => exact absurd hf (by decide)
    | succ fuel => simp [writeValue, readValue, readWord?, words]

theorem readsBack_bool (b : Bool) : ReadsBack (.bool b) where
  begins := by cases b <;> exact ⟨_, _, rfl, by decide⟩
  reads {digits fuel depth rest} _ hf _ := by
    cases fuel with
    | zero => cases b <;> exact absurd hf (by decide)
    | succ fuel => cases b <;> simp [writeValue, readValue, readWord?, words]

theorem readsBack_int (n : Int) : ReadsBack (.int n) := by
  obtain ⟨c, cs, hc, hfirst⟩ := exists_writeInt n
  have hne : ∀ {d}, Text.isAsciiDigit d = false → d ≠ '-' → c ≠ d := by
    intro d hd hminus
    rcases hfirst with rfl | hdigit
    · exact hminus.symm
    · exact ne_of_digit hdigit hd
  have hspace : isSpace c = false := by
    rcases hfirst with rfl | hdigit
    · decide
    · exact not_space_of_digit hdigit
  refine ⟨⟨c, cs, hc, hspace, hne (by decide) (by decide), hne (by decide) (by decide)⟩, ?_⟩
  intro digits fuel depth rest hwithin hf hr
  have hread := readNumber_writeInt (within_int_iff.mp hwithin) hr
  have hword := readWord?_writeInt n rest
  rw [show writeValue (.int n) = writeInt n from rfl, hc] at hf ⊢
  rw [hc, List.cons_append] at hread hword
  cases fuel with
  | zero => simp at hf
  | succ fuel =>
    rw [List.cons_append, readValue, if_neg (hne (by decide) (by decide)),
      if_neg (hne (by decide) (by decide)), if_neg (hne (by decide) (by decide)), hword]
    exact hread

theorem readsBack_str {s : String} (h : Joined s) : ReadsBack (.str s) where
  begins := ⟨_, _, rfl, by decide⟩
  reads {digits fuel depth rest} _ hf _ := by
    have hlen := length_writeString s
    rw [show writeValue (.str s) = writeString s from rfl] at hf ⊢
    cases fuel with
    | zero => omega
    | succ fuel =>
      rw [writeString_append, readValue, if_pos rfl, readString_writeString h _ (by omega)]
      rfl

/-! ## Containers -/

theorem closed_writeItems (vs : List Json) (rest : List Char) : Closed (writeItems vs ++ rest) := by
  cases vs <;> rintro c hc <;> cases hc
  · exact .inr (.inl rfl)
  · exact .inl rfl

theorem closed_writeFields (fields : List (String × Json)) (rest : List Char) :
    Closed (writeFields fields ++ rest) := by
  cases fields <;> rintro c hc <;> cases hc
  · exact .inr (.inr rfl)
  · exact .inl rfl

/-- Items are read one by one, the blank behind a comma being skipped. -/
theorem readItems_write {vs : List Json} {v : Json} (h : ∀ u ∈ v :: vs, ReadsBack u)
    {digits fuel depth : Nat} (hwithin : ∀ u ∈ v :: vs, Within digits depth u) (rest : List Char)
    (hf : 2 * (writeValue v ++ writeItems vs).length ≤ fuel) :
    readItems digits fuel depth (writeValue v ++ (writeItems vs ++ rest)) =
      .ok (v :: vs, rest) := by
  induction vs generalizing v fuel with
  | nil =>
    simp only [writeItems, List.length_append, List.length_singleton] at hf
    obtain ⟨fuel, rfl⟩ : ∃ n, fuel = n + 1 := ⟨fuel - 1, by omega⟩
    rw [readItems, (h v List.mem_cons_self).reads (hwithin v List.mem_cons_self) (by omega)
      (closed_writeItems [] rest)]
    rfl
  | cons w ws ih =>
    simp only [writeItems, List.length_append, List.length_cons] at hf
    obtain ⟨fuel, rfl⟩ : ∃ n, fuel = n + 1 := ⟨fuel - 1, by omega⟩
    have hw : readItems digits fuel depth (writeValue w ++ (writeItems ws ++ rest)) =
        .ok (w :: ws, rest) :=
      ih (fun u hu => h u (List.mem_cons_of_mem _ hu))
        (fun u hu => hwithin u (List.mem_cons_of_mem _ hu)) (by rw [List.length_append]; omega)
    have hskip := (h w (by simp)).skip (writeItems ws ++ rest)
    rw [readItems, (h v List.mem_cons_self).reads (hwithin v List.mem_cons_self) (by omega)
      (closed_writeItems (w :: ws) rest)]
    simp only [writeItems, List.cons_append, List.append_assoc, bind, Except.bind,
      skip_cons (show isSpace ',' = false by decide), skip_blank, hskip, hw]
    rfl

/-- A field as it is written. -/
def writeField (field : String × Json) : List Char :=
  writeString field.1 ++ ':' :: ' ' :: writeValue field.2

theorem writeFields_cons (field : String × Json) (fields : List (String × Json)) :
    writeFields (field :: fields) = ',' :: ' ' :: (writeField field ++ writeFields fields) := by
  obtain ⟨name, v⟩ := field
  simp [writeFields, writeField]

theorem skip_writeField (field : String × Json) (rest : List Char) :
    skip (writeField field ++ rest) = writeField field ++ rest := by
  rw [writeField, List.append_assoc, writeString_append, skip_cons (by decide)]

/-- A field is read and goes behind those read before; what closes it decides what is next. -/
theorem readFields_writeField {field : String × Json} (hname : Joined field.1)
    (hv : ReadsBack field.2) {before : List (String × Json)} (hnew : field.1 ∉ Table.keys before)
    {digits fuel depth : Nat} (hwithin : Within digits depth field.2) {rest : List Char}
    (hf : 2 * (writeField field).length ≤ fuel) (hr : Closed rest) :
    readFields digits (fuel + 1) depth before (writeField field ++ rest) =
      match skip rest with
      | '\x7d' :: rest => .ok (before ++ [field], rest)
      | ',' :: rest => readFields digits fuel depth (before ++ [field]) (skip rest)
      | rest => stopAt .comma rest := by
  have hlen := length_writeString field.1
  simp only [writeField, List.length_append, List.length_cons] at hf
  rw [show writeField field ++ rest =
      writeString field.1 ++ ':' :: ' ' :: (writeValue field.2 ++ rest) by simp [writeField],
    writeString_append, readFields, readString_writeString hname _ (by omega)]
  simp only [bind, Except.bind, skip_cons (show isSpace ':' = false by decide), skip_blank, hv.skip]
  rw [hv.reads hwithin (by omega) hr]
  simp only [Table.put_of_notMem hnew]
  rfl

/-- Fields are read one by one behind those read before. -/
theorem readFields_write {fields : List (String × Json)} {field : String × Json}
    (h : ∀ f ∈ field :: fields, Joined f.1 ∧ ReadsBack f.2) {before : List (String × Json)}
    (distinct : (Table.keys (before ++ field :: fields)).Nodup) {digits fuel depth : Nat}
    (hwithin : ∀ f ∈ field :: fields, Within digits depth f.2) (rest : List Char)
    (hf : 2 * (writeField field ++ writeFields fields).length ≤ fuel) :
    readFields digits fuel depth before (writeField field ++ (writeFields fields ++ rest)) =
      .ok (before ++ field :: fields, rest) := by
  induction fields generalizing field fuel before with
  | nil =>
    obtain ⟨hname, hv⟩ := h field List.mem_cons_self
    simp only [writeFields, List.length_append, List.length_singleton] at hf
    obtain ⟨fuel, rfl⟩ : ∃ n, fuel = n + 1 := ⟨fuel - 1, by omega⟩
    rw [readFields_writeField hname hv (Table.notMem_of_nodup distinct)
      (hwithin field List.mem_cons_self) (by omega) (closed_writeFields [] rest)]
    rfl
  | cons next fields ih =>
    obtain ⟨hname, hv⟩ := h field List.mem_cons_self
    have hclosed := closed_writeFields (next :: fields) rest
    rw [writeFields_cons] at hf hclosed ⊢
    simp only [List.length_append, List.length_cons] at hf
    obtain ⟨fuel, rfl⟩ : ∃ n, fuel = n + 1 := ⟨fuel - 1, by omega⟩
    have hnext : readFields digits fuel depth (before ++ [field])
        (writeField next ++ (writeFields fields ++ rest)) =
          .ok (before ++ [field] ++ next :: fields, rest) :=
      ih (fun f hf => h f (List.mem_cons_of_mem _ hf)) (by rwa [List.append_assoc])
        (fun f hf => hwithin f (List.mem_cons_of_mem _ hf)) (by rw [List.length_append]; omega)
    rw [readFields_writeField hname hv (Table.notMem_of_nodup distinct)
      (hwithin field List.mem_cons_self) (by omega) hclosed]
    simp only [List.cons_append, List.append_assoc, skip_cons (show isSpace ',' = false by decide),
      skip_blank, skip_writeField, hnext, List.nil_append]

theorem readsBack_arr {items : List Json} (h : ∀ v ∈ items, ReadsBack v) :
    ReadsBack (.arr items) where
  begins := by cases items <;> exact ⟨_, _, by rw [writeValue], by decide⟩
  reads {digits fuel depth rest} hwithin hf _ := by
    obtain ⟨depth, rfl, hall⟩ := within_arr_iff.mp hwithin
    cases items with
    | nil =>
      simp only [writeValue, List.length_cons, List.length_nil] at hf
      obtain ⟨fuel, rfl⟩ : ∃ n, fuel = n + 1 := ⟨fuel - 1, by omega⟩
      rw [writeValue, List.cons_append, readValue, if_neg (by decide), if_neg (by decide),
        if_pos rfl, if_neg (Nat.succ_ne_zero depth)]
      rfl
    | cons v vs =>
      obtain ⟨c, cs, hc, hs, hend, -⟩ := (h v List.mem_cons_self).begins
      rw [writeValue, List.length_cons] at hf
      obtain ⟨fuel, rfl⟩ : ∃ n, fuel = n + 1 := ⟨fuel - 1, by omega⟩
      have hitems : readItems digits fuel depth (writeValue v ++ (writeItems vs ++ rest)) =
          .ok (v :: vs, rest) := readItems_write h hall rest (by omega)
      rw [writeValue, List.cons_append, List.append_assoc, readValue, if_neg (by decide),
        if_neg (by decide), if_pos rfl, if_neg (Nat.succ_ne_zero depth), Nat.add_sub_cancel]
      rw [hc, List.cons_append] at hitems ⊢
      rw [skip_cons hs]
      split
      · rename_i heq
        exact absurd (List.cons.inj heq).1 hend
      · rw [hitems]
        rfl

theorem readsBack_obj {fields : List (String × Json)} (distinct : (Table.keys fields).Nodup)
    (h : ∀ f ∈ fields, Joined f.1 ∧ ReadsBack f.2) : ReadsBack (.obj fields) where
  begins := by cases fields <;> exact ⟨_, _, by rw [writeValue], by decide⟩
  reads {digits fuel depth rest} hwithin hf _ := by
    obtain ⟨depth, rfl, hall⟩ := within_obj_iff.mp hwithin
    cases fields with
    | nil =>
      simp only [writeValue, List.length_cons, List.length_nil] at hf
      obtain ⟨fuel, rfl⟩ : ∃ n, fuel = n + 1 := ⟨fuel - 1, by omega⟩
      rw [writeValue, List.cons_append, readValue, if_neg (by decide), if_pos rfl,
        if_neg (Nat.succ_ne_zero depth)]
      rfl
    | cons field fields =>
      have hwrite : writeValue (.obj (field :: fields)) =
          '\x7b' :: (writeField field ++ writeFields fields) := by
        rw [writeValue, writeField, List.append_assoc]
        rfl
      rw [hwrite, List.length_cons] at hf
      obtain ⟨fuel, rfl⟩ : ∃ n, fuel = n + 1 := ⟨fuel - 1, by omega⟩
      have hfields : readFields digits fuel depth []
          (writeField field ++ (writeFields fields ++ rest)) = .ok (field :: fields, rest) :=
        readFields_write h distinct hall rest (by omega)
      rw [hwrite, List.cons_append, List.append_assoc, readValue, if_neg (by decide), if_pos rfl,
        if_neg (Nat.succ_ne_zero depth), Nat.add_sub_cancel, skip_writeField]
      rw [writeField, List.append_assoc, writeString_append] at hfields ⊢
      split
      · rename_i heq
        exact absurd (List.cons.inj heq).1 (by decide)
      · rw [hfields]
        rfl

/-- What text can hold is read back, floating point numbers apart. -/
theorem readsBack_of_proper {v : Json} (h : Proper (fun _ => False) v) : ReadsBack v := by
  induction h with
  | null => exact readsBack_null
  | bool b => exact readsBack_bool b
  | int n => exact readsBack_int n
  | float h => exact h.elim
  | str h => exact readsBack_str h
  | arr _ ih => exact readsBack_arr ih
  | obj distinct names _ ih => exact readsBack_obj distinct fun f hf => ⟨names f hf, ih f hf⟩

/-- A value within the limits of reading is read off its text. -/
theorem readWithin_write {v : Json} (h : Proper (fun _ => False) v) {limits : Limits}
    (hwithin : Within limits.digits limits.depth v) : readWithin limits (write v) = .ok v := by
  have hv := readsBack_of_proper h
  obtain ⟨c, cs, hc, -, -, hmark⟩ := hv.begins
  have hskip : skip (writeValue v) = writeValue v := by simpa using hv.skip []
  have hread : readValue limits.digits (2 * (writeValue v).length + 2) limits.depth (writeValue v) =
      .ok (v, []) := by
    simpa using hv.reads hwithin (Nat.le_add_right _ 2) closed_nil
  have hchecked : readChecked limits (writeValue v) = .ok v := by
    unfold readChecked
    simp only [hskip, hread]
    rw [hc]
    simp only [hmark, if_false]
    rfl
  simp only [readWithin, write, String.toList_ofList, hchecked]

/-! ## Limits -/

theorem isWritable_iff {n : Nat} :
    Text.isWritable n = true ↔ (Nat.toDigits 10 n).length ≤ Text.maxDigits := by
  have hpos : 0 < Text.maxDigits := by decide
  simp only [Text.isWritable, decide_eq_true_iff]
  -- with the limit itself in sight, its power of ten would be worked out
  generalize Text.maxDigits = k at hpos ⊢
  exact (Nat.length_toDigits_le_iff (by decide) hpos).symm

theorem checkWritable_int_eq_ok_iff {n : Int} :
    checkWritable depth (.int n) = .ok () ↔ Within Text.maxDigits depth (.int n) := by
  rw [within_int_iff, ← isWritable_iff, checkWritable]
  split
  · rename_i h
    exact ⟨fun _ => h, fun _ => rfl⟩
  · rename_i h
    exact ⟨nofun, fun hn => absurd hn h⟩

mutual

/-- What is not refused is within the limits, and the other way round. -/
theorem checkWritable_eq_ok_iff : (v : Json) → (depth : Nat) →
    (checkWritable depth v = .ok () ↔ Within Text.maxDigits depth v)
  | .null, _ => ⟨fun _ => .null, fun _ => rfl⟩
  | .bool b, _ => ⟨fun _ => .bool b, fun _ => rfl⟩
  | .int _, _ => checkWritable_int_eq_ok_iff
  | .float x, _ => ⟨fun _ => .float x, fun _ => rfl⟩
  | .str s, _ => ⟨fun _ => .str s, fun _ => rfl⟩
  | .stamp _, _ => ⟨nofun, nofun⟩
  | .arr _, 0 => ⟨nofun, nofun⟩
  | .arr items, depth + 1 => by
    rw [checkWritable, checkWritableItems_eq_ok_iff items depth, within_arr_iff]
    exact ⟨fun h => ⟨depth, rfl, h⟩, fun ⟨_, hd, h⟩ => Nat.succ.inj hd ▸ h⟩
  | .obj _, 0 => ⟨nofun, nofun⟩
  | .obj fields, depth + 1 => by
    rw [checkWritable, checkWritableFields_eq_ok_iff fields depth, within_obj_iff]
    exact ⟨fun h => ⟨depth, rfl, h⟩, fun ⟨_, hd, h⟩ => Nat.succ.inj hd ▸ h⟩

theorem checkWritableItems_eq_ok_iff : (items : List Json) → (depth : Nat) →
    (checkWritableItems depth items = .ok () ↔ ∀ v ∈ items, Within Text.maxDigits depth v)
  | [], _ => ⟨fun _ _ hv => (List.not_mem_nil hv).elim, fun _ => rfl⟩
  | v :: vs, depth => by
    rw [checkWritableItems, then_eq_ok_iff, List.forall_mem_cons, checkWritable_eq_ok_iff v depth,
      checkWritableItems_eq_ok_iff vs depth]

theorem checkWritableFields_eq_ok_iff : (fields : List (String × Json)) → (depth : Nat) →
    (checkWritableFields depth fields = .ok () ↔ ∀ f ∈ fields, Within Text.maxDigits depth f.2)
  | [], _ => ⟨fun _ _ hf => (List.not_mem_nil hf).elim, fun _ => rfl⟩
  | (_, v) :: fields, depth => by
    rw [checkWritableFields, then_eq_ok_iff, List.forall_mem_cons,
      checkWritable_eq_ok_iff v depth, checkWritableFields_eq_ok_iff fields depth]

end

/-- A value within the limits is written, and no other. -/
theorem written_eq_ok_iff {v : Json} {text : String} :
    written v = .ok text ↔ Within Text.maxDigits ({} : Limits).depth v ∧ text = write v := by
  rw [← checkWritable_eq_ok_iff]
  constructor
  · intro h
    obtain ⟨_, hchecked, htext⟩ := bind_eq_ok h
    exact ⟨hchecked, (Except.ok.inj htext).symm⟩
  · rintro ⟨hchecked, rfl⟩
    exact bind_eq_ok_iff.mpr ⟨(), hchecked, rfl⟩

end Json

end LintServer
