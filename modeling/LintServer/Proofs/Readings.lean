/-
  LintServer.Proofs.Readings — what is read in JSON can be written.

  Two halves that follow one another are joined into the character of their pair, and a field that
  comes again is put in the place of the first. So no half of a pair is read right before its other
  half (`chars_of_readChars`), no name comes twice, and every value that is read of a text of
  characters is proper and within the limits of reading (`sound_of_read`). Both hold of whatever
  stands inside the value, so that it can be written and is read back as the same value.
-/

import Mathlib.Data.List.TakeWhile
import LintServer.Proofs.Outcomes
import LintServer.Proofs.Written

namespace LintServer.Json

open Text (mark isPair Apart Joined coded codesOf)

/-! ## Texts of characters -/

/-- The characters of a string for a text of characters, as text is that was read or sent. -/
def Coded (cs : List Char) : Prop := ∃ ds, cs = coded ds

theorem coded_ofChars (cs : List Char) : Coded (Text.ofChars cs).string.toList :=
  ⟨cs, Text.toList_ofChars cs⟩

/-- Behind any other character than a mark the text goes on. -/
theorem Coded.tail {c : Char} {cs : List Char} (h : Coded (c :: cs)) (hc : c ≠ mark) :
    Coded cs := by
  obtain ⟨ds, h⟩ := h
  cases ds with
  | nil => cases h
  | cons d ds =>
    rw [coded, List.flatMap_cons] at h
    by_cases hd : d = mark
    · rw [hd, codesOf, if_pos rfl] at h
      exact absurd (List.cons.inj h).1 hc
    · rw [codesOf, if_neg hd] at h
      exact ⟨ds, (List.cons.inj h).2⟩

/-- Behind a mark comes another, and then the text goes on. -/
theorem Coded.marked {cs : List Char} (h : Coded (mark :: cs)) :
    ∃ more, cs = mark :: more ∧ Coded more := by
  obtain ⟨ds, h⟩ := h
  cases ds with
  | nil => cases h
  | cons d ds =>
    rw [coded, List.flatMap_cons] at h
    by_cases hd : d = mark
    · rw [hd, codesOf, if_pos rfl] at h
      exact ⟨_, (List.cons.inj h).2, ds, rfl⟩
    · rw [codesOf, if_neg hd] at h
      exact absurd (List.cons.inj h).1.symm hd

/-- What is left of a text when characters at its front are passed over, none of them a mark. -/
def Passes (cs rest : List Char) : Prop := ∃ passed, cs = passed ++ rest ∧ mark ∉ passed

theorem Passes.refl (cs : List Char) : Passes cs cs := ⟨[], rfl, List.not_mem_nil⟩

theorem Passes.trans {cs more rest : List Char} (h : Passes cs more) (h' : Passes more rest) :
    Passes cs rest := by
  obtain ⟨passed, rfl, hp⟩ := h
  obtain ⟨further, rfl, hf⟩ := h'
  exact ⟨passed ++ further, (List.append_assoc _ _ _).symm, by simp [hp, hf]⟩

theorem Passes.cons {c : Char} (hc : c ≠ mark) (cs : List Char) : Passes (c :: cs) cs :=
  ⟨[c], rfl, by simpa using hc.symm⟩

theorem Passes.dropWhile {p : Char → Bool} (hp : p mark = false) (cs : List Char) :
    Passes cs (cs.dropWhile p) := by
  refine ⟨cs.takeWhile p, (List.takeWhile_append_dropWhile).symm, fun hm => ?_⟩
  have := List.mem_takeWhile_imp hm
  rw [hp] at this
  cases this

theorem Passes.coded {cs rest : List Char} (h : Passes cs rest) (hcs : Coded cs) : Coded rest := by
  obtain ⟨passed, rfl, hp⟩ := h
  induction passed with
  | nil => exact hcs
  | cons c passed ih =>
    rw [List.mem_cons, not_or] at hp
    exact ih hp.2 (hcs.tail (Ne.symm hp.1))

/-! ## Escapes -/

theorem mark_notMem_of_hexFour? {a b c d : Char} {n : Nat} (h : hexFour? a b c d = some n) :
    mark ∉ [a, b, c, d] := by
  have hmark : hexValue? mark = none := by decide
  obtain ⟨x, hx, h⟩ := Option.bind_eq_some_iff.mp h
  obtain ⟨y, hy, h⟩ := Option.bind_eq_some_iff.mp h
  obtain ⟨z, hz, h⟩ := Option.bind_eq_some_iff.mp h
  obtain ⟨w, hw, -⟩ := Option.bind_eq_some_iff.mp h
  have ne : ∀ {e : Char} {v : Nat}, hexValue? e = some v → mark ≠ e := by
    rintro e v he rfl
    rw [hmark] at he
    cases he
  simp [ne hx, ne hy, ne hz, ne hw]

/-- Five characters at least stand where a unit is read, and its digits are passed over. -/
theorem readUnit_eq_ok {cs rest : List Char} {n : Nat} (h : readUnit cs = .ok (n, rest)) :
    Passes cs rest ∧ 5 ≤ cs.length := by
  unfold readUnit at h
  split at h
  · split at h
    · rename_i hn
      obtain ⟨rfl, rfl⟩ := Prod.mk.inj (Except.ok.inj h)
      exact ⟨⟨[_, _, _, _], rfl, mark_notMem_of_hexFour? hn⟩, by simp⟩
    · cases h
  · cases h

/-- The second half of a pair, escaped, stands at the front. -/
def LowNext (cs : List Char) : Prop :=
  ∃ more m rest, cs = '\\' :: 'u' :: more ∧ readUnit more = .ok (m, rest) ∧ isLowSurrogate m = true

/-- An escape is a unit of its own, not a first half with the second one behind it, or it is the
character of a pair. -/
inductive Unicode (cs : List Char) : Point → List Char → Prop
  | unit {n : Nat} {rest : List Char} (hn : readUnit cs = .ok (n, rest))
      (hnext : isHighSurrogate n = true → ¬ LowNext rest) : Unicode cs (.ofUnit n) rest
  | pair {c : Char} {rest : List Char} (hpasses : Passes cs rest) : Unicode cs (.char c) rest

theorem unicode_of_readUnicode {cs rest : List Char} {p : Point}
    (h : readUnicode cs = .ok (p, rest)) : Unicode cs p rest := by
  obtain ⟨⟨n, beyond⟩, hn, h⟩ := bind_eq_ok h
  simp only at h
  split at h
  · split at h
    · rename_i more
      split at h
      · rename_i hshort
        obtain ⟨rfl, rfl⟩ := Prod.mk.inj (Except.ok.inj h)
        refine .unit hn fun _ => ?_
        rintro ⟨_, m, last, heq, hm, -⟩
        obtain rfl := (List.cons.inj (List.cons.inj heq).2).2
        have := (readUnit_eq_ok hm).2
        omega
      · obtain ⟨⟨m, last⟩, hm, h⟩ := bind_eq_ok h
        simp only at h
        split at h
        · obtain ⟨rfl, rfl⟩ := Prod.mk.inj (Except.ok.inj h)
          have hescape : Passes ('\\' :: 'u' :: more) more := ⟨['\\', 'u'], rfl, by decide⟩
          exact .pair (((readUnit_eq_ok hn).1.trans hescape).trans (readUnit_eq_ok hm).1)
        · rename_i hlow
          obtain ⟨rfl, rfl⟩ := Prod.mk.inj (Except.ok.inj h)
          refine .unit hn fun _ => ?_
          rintro ⟨_, m', last', heq, hm', hlow'⟩
          obtain rfl := (List.cons.inj (List.cons.inj heq).2).2
          rw [hm] at hm'
          obtain ⟨rfl, -⟩ := Prod.mk.inj (Except.ok.inj hm')
          exact hlow hlow'
    · rename_i hother
      obtain ⟨rfl, rfl⟩ := Prod.mk.inj (Except.ok.inj h)
      refine .unit hn fun _ => ?_
      rintro ⟨more, m, last, heq, -⟩
      exact hother more heq
  · rename_i hhigh
    obtain ⟨rfl, rfl⟩ := Prod.mk.inj (Except.ok.inj h)
    exact .unit hn fun hn => absurd hn hhigh

theorem Unicode.passes {cs rest : List Char} {p : Point} (h : Unicode cs p rest) :
    Passes cs rest := by
  cases h with
  | unit hn _ => exact (readUnit_eq_ok hn).1
  | pair hpasses => exact hpasses

/-- A half that is read is the unit that stands there, and the other half does not follow it. -/
theorem Unicode.half {cs rest : List Char} {p : Point} {n : Nat} (h : Unicode cs p rest)
    (hp : p.half? = some n) :
    readUnit cs = .ok (n, rest) ∧ (isHighSurrogate n = true → ¬ LowNext rest) := by
  cases h with
  | unit hn hnext =>
    obtain rfl := eq_of_half?_ofUnit hp
    exact ⟨hn, hnext⟩
  | pair _ => cases hp

theorem ne_mark_of_shortEscape {e c : Char} (h : shortEscape? e = some c) (he : e ≠ mark) :
    c ≠ mark := by
  unfold shortEscape? at h
  split at h
  · exact Option.some.inj h ▸ he
  repeat' split at h
  all_goals first
    | (obtain rfl := Option.some.inj h; decide)
    | cases h

/-! ## Texts -/

/-- What is read of a text up to its closing quote: no half before its other half, and the second
half of a pair comes first only where it is escaped. -/
structure Chars (cs xs rest : List Char) : Prop where
  coded : Coded rest
  points : ∃ ps : List Point, xs = ps.flatMap codesOf ∧ Apart ps ∧
    ∀ p ∈ ps.head?, ∀ n, p.half? = some n → isLowSurrogate n = true → LowNext cs

theorem Chars.cons_char {cs more xs rest : List Char} (h : Chars more xs rest) (c : Char) :
    Chars cs (codesOf (.char c) ++ xs) rest where
  coded := h.coded
  points := by
    obtain ⟨ps, rfl, hapart, -⟩ := h.points
    refine ⟨.char c :: ps, rfl, ?_, ?_⟩
    · cases ps with
      | nil => exact List.isChain_singleton _
      | cons q ps => exact List.isChain_cons_cons.mpr ⟨rfl, hapart⟩
    · rintro p hp n hn
      obtain rfl := Option.some.inj hp
      cases hn

theorem Chars.cons_plain {cs more xs rest : List Char} (h : Chars more xs rest) {c : Char}
    (hc : c ≠ mark) : Chars cs (c :: xs) rest := by
  have hcons : Chars cs (codesOf (.char c) ++ xs) rest := h.cons_char c
  rwa [codesOf_of_ne hc] at hcons

theorem Chars.cons_unicode {cs more xs rest : List Char} {p : Point} (hp : Unicode cs p more)
    (h : Chars more xs rest) : Chars ('\\' :: 'u' :: cs) (codesOf p ++ xs) rest where
  coded := h.coded
  points := by
    obtain ⟨ps, rfl, hapart, hfirst⟩ := h.points
    refine ⟨p :: ps, rfl, ?_, ?_⟩
    · cases ps with
      | nil => exact List.isChain_singleton _
      | cons q ps =>
        refine List.isChain_cons_cons.mpr ⟨?_, hapart⟩
        by_contra hpair
        simp only [isPair, Bool.not_eq_false, Bool.and_eq_true, Option.any_eq_true] at hpair
        obtain ⟨⟨n, hn, hhigh⟩, m, hm, hlow⟩ := hpair
        exact (hp.half hn).2 hhigh (hfirst q rfl m hm hlow)
    · rintro q hq n hn hlow
      obtain rfl := Option.some.inj hq
      exact ⟨cs, n, more, rfl, (hp.half hn).1, hlow⟩

/-- Any other character than a mark closes the text, begins an escape, or stands for itself. -/
theorem chars_of_cons {opened cs xs rest : List Char} {fuel : Nat} {c : Char} (hc : c ≠ mark)
    (hcs : Coded cs) (h : readChars opened (fuel + 1) (c :: cs) = .ok (xs, rest))
    (more : ∀ {cs xs}, Coded cs → readChars opened fuel cs = .ok (xs, rest) → Chars cs xs rest) :
    Chars (c :: cs) xs rest := by
  rw [readChars.eq_def] at h
  simp only at h
  split at h
  · obtain ⟨rfl, rfl⟩ := Prod.mk.inj (Except.ok.inj h)
    exact ⟨hcs, [], rfl, List.isChain_nil, fun _ hp => (Option.not_mem_none _ hp).elim⟩
  split at h
  · rename_i hback
    subst hback
    split at h
    · cases h
    · obtain ⟨⟨p, after⟩, hp, h⟩ := bind_eq_ok h
      obtain ⟨⟨ys, last⟩, hys, h⟩ := bind_eq_ok h
      obtain ⟨rfl, rfl⟩ := Prod.mk.inj (Except.ok.inj h)
      have hunicode := unicode_of_readUnicode hp
      exact .cons_unicode hunicode (more (hunicode.passes.coded (hcs.tail (by decide))) hys)
    · rename_i e after _
      split at h
      · cases h
      · rename_i x hx
        obtain ⟨⟨ys, last⟩, hys, h⟩ := bind_eq_ok h
        obtain ⟨rfl, rfl⟩ := Prod.mk.inj (Except.ok.inj h)
        have he : e ≠ mark := by
          rintro rfl
          cases hx
        exact (more (hcs.tail he) hys).cons_plain (ne_mark_of_shortEscape hx he)
  split at h
  · cases h
  · obtain ⟨⟨ys, last⟩, hys, h⟩ := bind_eq_ok h
    obtain ⟨rfl, rfl⟩ := Prod.mk.inj (Except.ok.inj h)
    exact (more hcs hys).cons_plain hc

/-- A mark stands for itself. -/
theorem readChars_mark {opened cs xs rest : List Char} {fuel : Nat}
    (h : readChars opened (fuel + 1) (mark :: cs) = .ok (xs, rest)) :
    ∃ ys, readChars opened fuel cs = .ok (ys, rest) ∧ xs = mark :: ys := by
  rw [readChars_plain (by decide) (by decide) (by decide)] at h
  obtain ⟨⟨ys, last⟩, hys, h⟩ := map_eq_ok h
  obtain ⟨rfl, rfl⟩ := Prod.mk.inj h
  exact ⟨ys, hys, rfl⟩

/-- By induction on the fuel; a mark is read together with the mark behind it. -/
theorem chars_of_readChars {opened : List Char} {fuel : Nat} {cs xs rest : List Char}
    (hcs : Coded cs) (h : readChars opened fuel cs = .ok (xs, rest)) : Chars cs xs rest := by
  induction fuel using Nat.strongRecOn generalizing cs xs with
  | _ fuel ih =>
    cases fuel with
    | zero => cases h
    | succ fuel =>
      cases cs with
      | nil => cases h
      | cons c cs =>
        by_cases hc : c = mark
        · subst hc
          obtain ⟨more, rfl, hmore⟩ := hcs.marked
          obtain ⟨ys, hys, rfl⟩ := readChars_mark h
          cases fuel with
          | zero => cases hys
          | succ fuel =>
            obtain ⟨zs, hzs, rfl⟩ := readChars_mark hys
            exact (ih fuel (by omega) hmore hzs).cons_char mark
        · exact chars_of_cons hc (hcs.tail hc) h fun hcs h => ih fuel (Nat.lt_succ_self fuel) hcs h

theorem readString_eq_ok {opened cs rest : List Char} {fuel : Nat} {s : String} (hcs : Coded cs)
    (h : readString fuel opened cs = .ok (s, rest)) : Joined s ∧ Coded rest := by
  obtain ⟨⟨xs, last⟩, hxs, h⟩ := bind_eq_ok h
  obtain ⟨rfl, rfl⟩ := Prod.mk.inj (Except.ok.inj h)
  have hchars := chars_of_readChars hcs hxs
  obtain ⟨ps, rfl, hapart, -⟩ := hchars.points
  have hpoints : Text.ofString (String.ofList (ps.flatMap codesOf)) = ⟨ps⟩ :=
    Text.ofString_string ⟨ps⟩
  refine ⟨⟨?_, ?_⟩, hchars.coded⟩ <;> rw [hpoints]
  · rfl
  · exact hapart

/-! ## Numbers and words -/

theorem skip_passes (cs : List Char) : Passes cs (skip cs) := .dropWhile rfl cs

theorem takeDigits_passes (cs : List Char) : Passes cs (takeDigits cs).2 := by
  rw [takeDigits, List.span_eq_takeWhile_dropWhile]
  exact .dropWhile rfl cs

theorem isAsciiDigit_of_mem_takeDigits {cs : List Char} :
    ∀ c ∈ (takeDigits cs).1, Text.isAsciiDigit c = true := by
  rw [takeDigits, List.span_eq_takeWhile_dropWhile]
  exact fun c hc => List.mem_takeWhile_imp hc

theorem takeMinus_passes (cs : List Char) : Passes cs (takeMinus cs).2 := by
  unfold takeMinus
  split
  · exact .cons (by decide) _
  · exact .refl cs

/-- The digits of a whole number, at least one. -/
theorem integerPart?_eq_some {cs ds rest : List Char} (h : integerPart? cs = some (ds, rest)) :
    Passes cs rest ∧ 0 < ds.length ∧ ∀ c ∈ ds, Text.isAsciiDigit c = true := by
  unfold integerPart? at h
  split at h
  · obtain ⟨rfl, rfl⟩ := Prod.mk.inj (Option.some.inj h)
    exact ⟨.cons (by decide) _, Nat.one_pos, List.forall_mem_singleton.2 (by decide)⟩
  · split at h
    · rename_i c more _ hc
      have hdigits := Option.some.inj h
      obtain rfl : (takeDigits (c :: more)).1 = ds := congrArg Prod.fst hdigits
      obtain rfl : (takeDigits (c :: more)).2 = rest := congrArg Prod.snd hdigits
      refine ⟨takeDigits_passes _, ?_, isAsciiDigit_of_mem_takeDigits⟩
      rw [takeDigits, List.span_eq_takeWhile_dropWhile, List.takeWhile_cons, if_pos hc]
      exact Nat.succ_pos _
    · cases h
  · cases h

theorem fractionPart_passes (cs : List Char) : Passes cs (fractionPart cs).2 := by
  unfold fractionPart
  split
  · split
    · exact .refl _
    · exact (Passes.cons (by decide) _).trans (takeDigits_passes _)
  · exact .refl cs

theorem exponentPart_passes (cs : List Char) : Passes cs (exponentPart cs).2 := by
  unfold exponentPart
  split
  · rename_i c rest
    split
    · rename_i he
      have hc : c ≠ mark := by rcases he with rfl | rfl <;> decide
      split
      rename_i negative digits heq
      have hdigits : Passes rest digits.2 := by
        split at heq <;> obtain ⟨-, rfl⟩ := Prod.mk.inj heq
        · exact (Passes.cons (by decide) _).trans (takeDigits_passes _)
        · exact (Passes.cons (by decide) _).trans (takeDigits_passes _)
        · exact takeDigits_passes _
      split
      · exact .refl _
      · exact (Passes.cons hc rest).trans hdigits
    · exact .refl _
  · exact .refl _

/-- A number that is read has at most as many digits as it was written with. -/
theorem length_toDigits_asciiNumeral {ds : List Char} (hpos : 0 < ds.length)
    (h : ∀ c ∈ ds, Text.isAsciiDigit c = true) :
    (Nat.toDigits 10 (Text.asciiNumeral ds)).length ≤ ds.length := by
  have below : ∀ {c : Char}, Text.isAsciiDigit c = true → c.toNat ≤ 57 := by
    intro c hc
    simp only [Text.isAsciiDigit, Bool.and_eq_true, decide_eq_true_iff] at hc
    exact hc.2
  have grows : ∀ n, ds.foldl (fun n c => 10 * n + (c.toNat - 48)) n < (n + 1) * 10 ^ ds.length := by
    clear hpos
    induction ds with
    | nil =>
      intro n
      simp
    | cons d ds ih =>
      intro n
      rw [List.forall_mem_cons] at h
      have hd := below h.1
      refine Nat.lt_of_lt_of_le (ih h.2 (10 * n + (d.toNat - 48))) ?_
      calc (10 * n + (d.toNat - 48) + 1) * 10 ^ ds.length
          ≤ (n + 1) * 10 * 10 ^ ds.length := Nat.mul_le_mul_right _ (by omega)
        _ = (n + 1) * 10 ^ (ds.length + 1) := by rw [Nat.pow_succ]; ac_rfl
  rw [Nat.length_toDigits_le_iff (by decide) hpos]
  simpa [Text.asciiNumeral] using grows 0

/-- A value that is proper, whatever its floating point numbers are, and within the limits. -/
structure Sound (digits depth : Nat) (v : Json) : Prop where
  proper : Proper (fun _ => True) v
  within : Within digits depth v

variable {digits fuel depth : Nat} {cs rest : List Char}

theorem sound_of_readNumber {v : Json} (h : readNumber digits cs = .ok (v, rest)) :
    Sound digits depth v ∧ Passes cs rest := by
  unfold readNumber at h
  simp only at h
  split at h
  · cases h
  rename_i whole more hwhole
  obtain ⟨hmore, hpos, hdigits⟩ := integerPart?_eq_some hwhole
  have hrest : Passes cs (exponentPart (fractionPart more).2).2 :=
    (((takeMinus_passes cs).trans hmore).trans (fractionPart_passes _)).trans
      (exponentPart_passes _)
  split at h
  · split at h
    · cases h
    · rename_i hshort
      obtain ⟨rfl, rfl⟩ := Prod.mk.inj (Except.ok.inj h)
      refine ⟨⟨.int _, .int ?_⟩, hrest⟩
      have habs : (if (takeMinus cs).1 = true then -(Text.asciiNumeral whole : Int)
          else (Text.asciiNumeral whole : Int)).natAbs = Text.asciiNumeral whole := by
        split <;> simp
      rw [habs]
      exact Nat.le_trans (length_toDigits_asciiNumeral hpos hdigits) (Nat.not_lt.mp hshort)
  · obtain ⟨rfl, rfl⟩ := Prod.mk.inj (Except.ok.inj h)
    exact ⟨⟨.float trivial, .float _⟩, hrest⟩

theorem sound_of_readWord {v : Json} (h : readWord? cs = some (v, rest)) :
    Sound digits depth v ∧ Passes cs rest := by
  obtain ⟨⟨word, w⟩, hword, h⟩ := List.exists_of_findSome?_eq_some h
  simp only at h
  split at h
  · rename_i hp
    obtain ⟨rfl, rfl⟩ := Prod.mk.inj (Option.some.inj h)
    obtain ⟨tail, rfl⟩ := List.isPrefixOf_iff_prefix.mp hp
    rw [List.drop_left]
    simp only [words, List.mem_cons, Prod.mk.injEq, List.not_mem_nil, or_false] at hword
    rcases hword with ⟨rfl, rfl⟩ | ⟨rfl, rfl⟩ | ⟨rfl, rfl⟩ | ⟨rfl, rfl⟩ | ⟨rfl, rfl⟩ | ⟨rfl, rfl⟩
    · exact ⟨⟨.null, .null⟩, _, rfl, by decide⟩
    · exact ⟨⟨.bool true, .bool true⟩, _, rfl, by decide⟩
    · exact ⟨⟨.bool false, .bool false⟩, _, rfl, by decide⟩
    · exact ⟨⟨.float trivial, .float _⟩, _, rfl, by decide⟩
    · exact ⟨⟨.float trivial, .float _⟩, _, rfl, by decide⟩
    · exact ⟨⟨.float trivial, .float _⟩, _, rfl, by decide⟩
  · cases h

/-! ## Values -/

/-- Fields that make a sound value. -/
structure SoundFields (digits depth : Nat) (fields : List (String × Json)) : Prop where
  distinct : (Table.keys fields).Nodup
  names : ∀ f ∈ fields, Joined f.1
  values : ∀ f ∈ fields, Sound digits depth f.2

theorem SoundFields.nil : SoundFields digits depth [] :=
  ⟨List.nodup_nil, nofun, nofun⟩

theorem SoundFields.put {fields : List (String × Json)} (h : SoundFields digits depth fields)
    {name : String} (hname : Joined name) {v : Json} (hv : Sound digits depth v) :
    SoundFields digits depth (Table.put name v fields) := by
  refine ⟨Table.nodup_put h.distinct name v, fun f hf => ?_, fun f hf => ?_⟩
  · rcases Table.mem_put hf with rfl | hf
    · exact hname
    · exact h.names f hf
  · rcases Table.mem_put hf with rfl | hf
    · exact hv
    · exact h.values f hf

theorem SoundFields.sound {fields : List (String × Json)} (h : SoundFields digits depth fields) :
    Sound digits (depth + 1) (.obj fields) :=
  ⟨.obj h.distinct h.names fun f hf => (h.values f hf).proper, .obj fun f hf => (h.values f hf).within⟩

theorem sound_arr {items : List Json} (h : ∀ v ∈ items, Sound digits depth v) :
    Sound digits (depth + 1) (.arr items) :=
  ⟨.arr fun v hv => (h v hv).proper, .arr fun v hv => (h v hv).within⟩

/-- What the three readers of values give under some fuel. -/
structure Reads (digits fuel : Nat) : Prop where
  value {depth : Nat} {cs rest : List Char} {v : Json} : Coded cs →
    readValue digits fuel depth cs = .ok (v, rest) → Sound digits depth v ∧ Coded rest
  items {depth : Nat} {cs rest : List Char} {vs : List Json} : Coded cs →
    readItems digits fuel depth cs = .ok (vs, rest) →
      (∀ v ∈ vs, Sound digits depth v) ∧ Coded rest
  fields {depth : Nat} {cs rest : List Char} {before fields : List (String × Json)} : Coded cs →
    SoundFields digits depth before → readFields digits fuel depth before cs = .ok (fields, rest) →
      SoundFields digits depth fields ∧ Coded rest

/-- An object, which takes one level of the depth. -/
theorem Reads.obj (h : Reads digits fuel) (hcs : Coded cs) {v : Json}
    (hr : readValue digits (fuel + 1) depth ('\x7b' :: cs) = .ok (v, rest)) :
    Sound digits depth v ∧ Coded rest := by
  have hskip := (skip_passes cs).coded hcs
  rw [readValue, if_neg (by decide), if_pos rfl] at hr
  split at hr
  · cases hr
  rename_i hdepth
  obtain ⟨depth, rfl⟩ := Nat.exists_eq_succ_of_ne_zero hdepth
  split at hr
  · rename_i more heq
    obtain ⟨rfl, rfl⟩ := Prod.mk.inj (Except.ok.inj hr)
    rw [heq] at hskip
    exact ⟨SoundFields.nil.sound, hskip.tail (by decide)⟩
  · obtain ⟨⟨fields, last⟩, hfields, hr⟩ := bind_eq_ok hr
    obtain ⟨rfl, rfl⟩ := Prod.mk.inj (Except.ok.inj hr)
    obtain ⟨hsound, hrest⟩ := h.fields hskip .nil hfields
    exact ⟨hsound.sound, hrest⟩

/-- A list, which takes one level of the depth. -/
theorem Reads.arr (h : Reads digits fuel) (hcs : Coded cs) {v : Json}
    (hr : readValue digits (fuel + 1) depth ('[' :: cs) = .ok (v, rest)) :
    Sound digits depth v ∧ Coded rest := by
  have hskip := (skip_passes cs).coded hcs
  rw [readValue, if_neg (by decide), if_neg (by decide), if_pos rfl] at hr
  split at hr
  · cases hr
  rename_i hdepth
  obtain ⟨depth, rfl⟩ := Nat.exists_eq_succ_of_ne_zero hdepth
  split at hr
  · rename_i more heq
    obtain ⟨rfl, rfl⟩ := Prod.mk.inj (Except.ok.inj hr)
    rw [heq] at hskip
    exact ⟨sound_arr (by simp), hskip.tail (by decide)⟩
  · obtain ⟨⟨items, last⟩, hitems, hr⟩ := bind_eq_ok hr
    obtain ⟨rfl, rfl⟩ := Prod.mk.inj (Except.ok.inj hr)
    obtain ⟨hsound, hrest⟩ := h.items hskip hitems
    exact ⟨sound_arr hsound, hrest⟩

theorem Reads.succ_value (h : Reads digits fuel) (hcs : Coded cs) {v : Json}
    (hr : readValue digits (fuel + 1) depth cs = .ok (v, rest)) :
    Sound digits depth v ∧ Coded rest := by
  cases cs with
  | nil => cases hr
  | cons c cs =>
    by_cases hobj : c = '\x7b'
    · subst hobj
      exact h.obj (hcs.tail (by decide)) hr
    by_cases harr : c = '['
    · subst harr
      exact h.arr (hcs.tail (by decide)) hr
    rw [readValue] at hr
    split at hr
    · rename_i hc
      subst hc
      obtain ⟨⟨s, last⟩, hs, hr⟩ := bind_eq_ok hr
      obtain ⟨rfl, rfl⟩ := Prod.mk.inj (Except.ok.inj hr)
      obtain ⟨hjoined, hrest⟩ := readString_eq_ok (hcs.tail (by decide)) hs
      exact ⟨⟨.str hjoined, .str s⟩, hrest⟩
    split at hr
    · rename_i found hfound
      obtain rfl := Except.ok.inj hr
      obtain ⟨hsound, hpasses⟩ := sound_of_readWord hfound
      exact ⟨hsound, hpasses.coded hcs⟩
    · obtain ⟨hsound, hpasses⟩ := sound_of_readNumber hr
      exact ⟨hsound, hpasses.coded hcs⟩

theorem Reads.succ_items (h : Reads digits fuel) (hcs : Coded cs) {vs : List Json}
    (hr : readItems digits (fuel + 1) depth cs = .ok (vs, rest)) :
    (∀ v ∈ vs, Sound digits depth v) ∧ Coded rest := by
  rw [readItems] at hr
  obtain ⟨⟨v, after⟩, hv, hr⟩ := bind_eq_ok hr
  obtain ⟨hvalue, hafter⟩ := h.value hcs hv
  have hskip := (skip_passes after).coded hafter
  simp only at hr
  split at hr
  · rename_i more heq
    obtain ⟨rfl, rfl⟩ := Prod.mk.inj (Except.ok.inj hr)
    rw [heq] at hskip
    exact ⟨by simpa using hvalue, hskip.tail (by decide)⟩
  · rename_i more heq
    obtain ⟨⟨ws, last⟩, hws, hr⟩ := bind_eq_ok hr
    obtain ⟨rfl, rfl⟩ := Prod.mk.inj (Except.ok.inj hr)
    rw [heq] at hskip
    obtain ⟨hitems, hrest⟩ := h.items ((skip_passes more).coded (hskip.tail (by decide))) hws
    exact ⟨List.forall_mem_cons.mpr ⟨hvalue, hitems⟩, hrest⟩
  · cases hr

theorem Reads.succ_fields (h : Reads digits fuel) (hcs : Coded cs)
    {before fields : List (String × Json)} (hbefore : SoundFields digits depth before)
    (hr : readFields digits (fuel + 1) depth before cs = .ok (fields, rest)) :
    SoundFields digits depth fields ∧ Coded rest := by
  rw [readFields.eq_def] at hr
  simp only at hr
  split at hr
  · rename_i more
    obtain ⟨⟨name, after⟩, hname, hr⟩ := bind_eq_ok hr
    obtain ⟨hjoined, hafter⟩ := readString_eq_ok (hcs.tail (by decide)) hname
    have hskip := (skip_passes after).coded hafter
    simp only at hr
    split at hr
    · rename_i colon heq
      rw [heq] at hskip
      obtain ⟨⟨v, behind⟩, hv, hr⟩ := bind_eq_ok hr
      obtain ⟨hvalue, hbehind⟩ :=
        h.value ((skip_passes colon).coded (hskip.tail (by decide))) hv
      have hput := hbefore.put hjoined hvalue
      have hnext := (skip_passes behind).coded hbehind
      simp only at hr
      split at hr
      · rename_i last hlast
        obtain ⟨rfl, rfl⟩ := Prod.mk.inj (Except.ok.inj hr)
        rw [hlast] at hnext
        exact ⟨hput, hnext.tail (by decide)⟩
      · rename_i last hlast
        rw [hlast] at hnext
        exact h.fields ((skip_passes last).coded (hnext.tail (by decide))) hput hr
      · cases hr
    · cases hr
  · cases hr

theorem reads (digits fuel : Nat) : Reads digits fuel := by
  induction fuel with
  | zero =>
    refine ⟨fun _ h => ?_, fun _ h => ?_, fun _ _ h => ?_⟩
    · rw [readValue] at h
      cases h
    · rw [readItems] at h
      cases h
    · rw [readFields] at h
      cases h
  | succ fuel ih =>
    exact ⟨fun hcs h => ih.succ_value hcs h, fun hcs h => ih.succ_items hcs h,
      fun hcs hbefore h => ih.succ_fields hcs hbefore h⟩

theorem readChecked_eq_ok {limits : Limits} {cs : List Char} {v : Json}
    (h : readChecked limits cs = .ok v) : ∃ fuel rest,
      readValue limits.digits fuel limits.depth (skip cs) = .ok (v, rest) := by
  unfold readChecked at h
  cases cs with
  | nil =>
    obtain ⟨⟨w, rest⟩, hw, h⟩ := bind_eq_ok h
    simp only at h
    split at h
    · rw [Except.ok.inj h] at hw
      exact ⟨_, rest, hw⟩
    · cases h
  | cons c cs =>
    simp only at h
    split at h
    · obtain ⟨_, hmark, -⟩ := bind_eq_ok h
      cases hmark
    · obtain ⟨⟨w, rest⟩, hw, h⟩ := bind_eq_ok h
      simp only at h
      split at h
      · rw [Except.ok.inj h] at hw
        exact ⟨_, rest, hw⟩
      · cases h

/-- What is read of a text of characters is proper and within the limits. -/
theorem sound_of_read {limits : Limits} {cs : List Char} {v : Json}
    (hr : readWithin limits (Text.ofChars cs).string = .ok v) :
    Sound limits.digits limits.depth v := by
  unfold readWithin at hr
  simp only at hr
  split at hr
  · rename_i w hw
    obtain rfl := Except.ok.inj hr
    obtain ⟨fuel, rest, hvalue⟩ := readChecked_eq_ok hw
    exact ((reads limits.digits fuel).value ((skip_passes _).coded (coded_ofChars cs)) hvalue).1
  · cases hr

/-! ## What stands inside a value -/

/-- A value that stands anywhere in another. -/
inductive Inside : Json → Json → Prop
  | refl (v : Json) : Inside v v
  | item {v w : Json} {items : List Json} (hw : w ∈ items) (h : Inside v w) : Inside v (.arr items)
  | value {v : Json} {f : String × Json} {fields : List (String × Json)} (hf : f ∈ fields)
      (h : Inside v f.2) : Inside v (.obj fields)

theorem Within.succ {v : Json} (h : Within digits depth v) : Within digits (depth + 1) v := by
  induction h with
  | null => exact .null
  | bool b => exact .bool b
  | int h => exact .int h
  | float x => exact .float x
  | str s => exact .str s
  | arr _ ih => exact .arr ih
  | obj _ ih => exact .obj ih

/-- What stands inside a sound value is sound. -/
theorem Sound.inside {v w : Json} (hw : Inside w v) {depth : Nat} (h : Sound digits depth v) :
    Sound digits depth w := by
  induction hw generalizing depth with
  | refl => exact h
  | item hu _ ih =>
    obtain ⟨⟨⟩, within⟩ := h
    obtain ⟨depth, rfl, hall⟩ := within_arr_iff.mp within
    rename_i hproper
    have hsound := ih ⟨hproper _ hu, hall _ hu⟩
    exact ⟨hsound.proper, hsound.within.succ⟩
  | value hf _ ih =>
    obtain ⟨⟨⟩, within⟩ := h
    obtain ⟨depth, rfl, hall⟩ := within_obj_iff.mp within
    rename_i _ _ hproper
    have hsound := ih ⟨hproper _ hf, hall _ hf⟩
    exact ⟨hsound.proper, hsound.within.succ⟩

/-- No floating point number stands anywhere in a value. -/
inductive Floatless : Json → Prop
  | null : Floatless .null
  | bool (b : Bool) : Floatless (.bool b)
  | int (n : Int) : Floatless (.int n)
  | str (s : String) : Floatless (.str s)
  | arr {items : List Json} (h : ∀ v ∈ items, Floatless v) : Floatless (.arr items)
  | obj {fields : List (String × Json)} (h : ∀ f ∈ fields, Floatless f.2) :
      Floatless (.obj fields)

theorem Proper.floatless {float : Double → Prop} {v : Json} (h : Proper float v)
    (hv : Floatless v) : Proper (fun _ => False) v := by
  induction h with
  | null => exact .null
  | bool b => exact .bool b
  | int n => exact .int n
  | float _ => cases hv
  | str h => exact .str h
  | arr _ ih =>
    cases hv with
    | arr hv => exact .arr fun u hu => ih u hu (hv u hu)
  | obj distinct names _ ih =>
    cases hv with
    | obj hv => exact .obj distinct names fun f hf => ih f hf (hv f hf)

end LintServer.Json
