/-
  LintServer.Proofs.RoundTrips — a path comes back from its address.

  A character is written as bytes that begin as no other character's do, so the bytes of a text fall
  apart into its characters again. Escaping keeps the bytes of a text, and leaves nothing in it that
  the parts of an address end at; so the address of a path is taken apart where it was put together.
  - `Text.Utf8.decodeLossy_encode`: the text of its own bytes.
  - `Uri.unescape_escape`: the text that was escaped.
  - `Uri.toPath_ofPath`: the path that an address was made of, if it is one of characters that
    begins with one slash and has no drive letter.
-/

import Mathlib.Data.List.Pairwise
import Mathlib.Data.List.SplitBy
import LintServer.Proofs.Addresses
import LintServer.Proofs.Outcomes

namespace LintServer

namespace Text.Utf8

/-! ## Bytes of a character -/

theorem toNat_lt (c : Char) : c.toNat < 0x110000 := by
  have h := c.valid
  rcases h with h | h
  · exact Nat.lt_trans h (by decide)
  · exact h.2

theorem toNat_not_surrogate (c : Char) : c.toNat < 0xD800 ∨ 0xDFFF < c.toNat := by
  rcases c.valid with h | h
  · exact .inl h
  · exact .inr h.1

/-- A byte that goes on with an open sequence, and is not its last one. -/
theorem parts_more {p : Pending} {b : Nat} (hl : p.low ≤ b) (hh : b ≤ p.high) (hm : 1 < p.missing)
    (bs : List Nat) :
    parts (some p) (b :: bs) =
      parts (some ⟨p.missing - 1, p.value * 64 + (b - 0x80), 0x80, 0xBF⟩) bs := by
  rw [parts, if_pos ⟨hl, hh⟩, if_neg (by omega)]

/-- A byte that ends an open sequence. -/
theorem parts_last {p : Pending} {b : Nat} (hl : p.low ≤ b) (hh : b ≤ p.high) (hm : p.missing ≤ 1)
    (bs : List Nat) :
    parts (some p) (b :: bs) =
      some (Char.ofNat (p.value * 64 + (b - 0x80))) :: parts none bs := by
  rw [parts, if_pos ⟨hl, hh⟩, if_pos hm]

theorem parts_first {b : Nat} {p : Pending} (h : first b = .inr p) (bs : List Nat) :
    parts none (b :: bs) = parts (some p) bs := by
  rw [parts, h]

/-- The range of a second byte leaves out what has a shorter spelling, and surrogates. -/
theorem first_of_three {n : Nat} (hl : 0x800 ≤ n) (hh : n < 0x10000)
    (hs : n < 0xD800 ∨ 0xDFFF < n) :
    ∃ low high, first (0xE0 + n / 4096) = .inr ⟨2, n / 4096, low, high⟩ ∧
      low ≤ 0x80 + n / 64 % 64 ∧ 0x80 + n / 64 % 64 ≤ high := by
  rw [first, if_neg (by omega), if_neg (by omega), if_neg (by omega)]
  by_cases h0 : n / 4096 = 0
  · rw [if_pos (by omega), h0]
    exact ⟨0xA0, 0xBF, rfl, by omega, by omega⟩
  · rw [if_neg (by omega)]
    by_cases hd : n / 4096 = 0xD
    · rw [if_pos (by omega), hd]
      exact ⟨0x80, 0x9F, rfl, by omega, by omega⟩
    · rw [if_neg (by omega), if_pos (by omega), Nat.add_sub_cancel_left]
      exact ⟨0x80, 0xBF, rfl, by omega, by omega⟩

/-- The range of a second byte leaves out what has a shorter spelling, and what is no character. -/
theorem first_of_four {n : Nat} (hl : 0x10000 ≤ n) (hh : n < 0x110000) :
    ∃ low high, first (0xF0 + n / 262144) = .inr ⟨3, n / 262144, low, high⟩ ∧
      low ≤ 0x80 + n / 4096 % 64 ∧ 0x80 + n / 4096 % 64 ≤ high := by
  rw [first, if_neg (by omega), if_neg (by omega), if_neg (by omega), if_neg (by omega),
    if_neg (by omega), if_neg (by omega)]
  by_cases h0 : n / 262144 = 0
  · rw [if_pos (by omega), h0]
    exact ⟨0x90, 0xBF, rfl, by omega, by omega⟩
  · rw [if_neg (by omega)]
    by_cases h4 : n / 262144 = 4
    · rw [if_neg (by omega), if_pos (by omega), h4]
      exact ⟨0x80, 0x8F, rfl, by omega, by omega⟩
    · rw [if_pos (by omega), Nat.add_sub_cancel_left]
      exact ⟨0x80, 0xBF, rfl, by omega, by omega⟩

/-- What follows the bytes of a character is read as if it stood alone. -/
theorem parts_encodeChar (c : Char) (bs : List Nat) :
    parts none (encodeChar c ++ bs) = some c :: parts none bs := by
  have hc := toNat_lt c
  have hs := toNat_not_surrogate c
  have ofNat_eq : ∀ {n}, n = c.toNat → Char.ofNat n = c := fun h => by rw [h, Char.ofNat_toNat]
  unfold encodeChar
  simp only
  by_cases h1 : c.toNat < 0x80
  · have hf : first c.toNat = .inl (some (Char.ofNat c.toNat)) := by rw [first, if_pos h1]
    rw [if_pos h1, List.singleton_append, parts, hf, Char.ofNat_toNat]
  rw [if_neg h1]
  by_cases h2 : c.toNat < 0x800
  · have hf : first (0xC0 + c.toNat / 64) = .inr ⟨1, c.toNat / 64, 0x80, 0xBF⟩ := by
      rw [first, if_neg (by omega), if_neg (by omega), if_pos (by omega), Nat.add_sub_cancel_left]
    rw [if_pos h2, List.cons_append, List.singleton_append, parts_first hf,
      parts_last (by simp) (by simp only; omega) (Nat.le_refl 1), ofNat_eq (by simp only; omega)]
  rw [if_neg h2]
  by_cases h3 : c.toNat < 0x10000
  · obtain ⟨low, high, hf, hl, hh⟩ := first_of_three (by omega) h3 hs
    rw [if_pos h3, List.cons_append, List.cons_append, List.singleton_append, parts_first hf,
      parts_more hl hh (by simp), parts_last (by simp) (by simp only; omega) (Nat.le_refl 1),
      ofNat_eq (by simp only; omega)]
  · obtain ⟨low, high, hf, hl, hh⟩ := first_of_four (by omega) hc
    rw [if_neg h3, List.cons_append, List.cons_append, List.cons_append, List.singleton_append,
      parts_first hf, parts_more hl hh (by simp),
      parts_more (by simp) (by simp only; omega) (by simp),
      parts_last (by simp) (by simp only; omega) (Nat.le_refl 1), ofNat_eq (by simp only; omega)]

/-- The bytes of a text are those of its characters again. -/
theorem parts_encode (cs : List Char) : parts none (encode cs) = cs.map some := by
  induction cs with
  | nil => rfl
  | cons c cs ih =>
    rw [encode, List.flatMap_cons, parts_encodeChar, List.map_cons]
    exact congrArg _ ih

theorem decodeLossy_encode (cs : List Char) : decodeLossy (encode cs) = cs := by
  rw [decodeLossy, parts_encode, List.map_map]
  exact List.map_id' cs

theorem encodeChar_lt (c : Char) : ∀ b ∈ encodeChar c, b < 256 := by
  have hc := toNat_lt c
  unfold encodeChar
  simp only
  intro b hb
  split at hb
  · obtain rfl := List.mem_singleton.mp hb
    omega
  · split at hb
    · simp only [List.mem_cons, List.not_mem_nil, or_false] at hb
      omega
    · split at hb
      all_goals
        simp only [List.mem_cons, List.not_mem_nil, or_false] at hb
        omega

end Text.Utf8

namespace Uri

/-! ## Escapes -/

theorem escapedBytes_cons {c : Char} (h : c ≠ '%') (cs : List Char) :
    escapedBytes (c :: cs) = c.toNat :: escapedBytes cs := by
  match cs with
  | [] => rfl
  | [_] => rfl
  | _ :: _ :: _ => rw [escapedBytes, if_neg h]

theorem hexValue?_upperHexDigit : ∀ n < 16, Json.hexValue? (upperHexDigit n) = some n := by decide

theorem escapedBytes_escapeByte {b : Nat} (h : b < 256) (cs : List Char) :
    escapedBytes (escapeByte b ++ cs) = b :: escapedBytes cs := by
  have hhigh := hexValue?_upperHexDigit (b / 16) (by omega)
  have hlow := hexValue?_upperHexDigit (b % 16) (by omega)
  rw [escapeByte, List.cons_append, List.cons_append, List.singleton_append, escapedBytes,
    if_pos rfl, hhigh, hlow]
  simp only
  rw [Nat.div_add_mod]

theorem escapedBytes_flatMap {bs : List Nat} (h : ∀ b ∈ bs, b < 256) (cs : List Char) :
    escapedBytes (bs.flatMap escapeByte ++ cs) = bs ++ escapedBytes cs := by
  induction bs with
  | nil => rfl
  | cons b bs ih =>
    rw [List.forall_mem_cons] at h
    rw [List.flatMap_cons, List.append_assoc, escapedBytes_escapeByte h.1, ih h.2, List.cons_append]

/-- What may stand in an escaped text. -/
def isEscaped (c : Char) : Bool := isPlain c || c == '%'

theorem isEscaped_upperHexDigit : ∀ n < 16, isEscaped (upperHexDigit n) = true := by decide

theorem toNat_le_of_le {c d : Char} (h : c ≤ d) : c.toNat ≤ d.toNat := UInt32.le_iff_toNat_le.mp h

theorem isPlain_ascii {c : Char} (h : isPlain c = true) : c.toNat < 0x80 := by
  have single : ∀ {d : Char}, (c == d) = true → d.toNat < 0x80 → c.toNat < 0x80 := fun h hd => by
    rwa [beq_iff_eq.mp h]
  have range : ∀ {d e : Char}, (decide (d ≤ c) && decide (c ≤ e)) = true → e.toNat < 0x80 →
      c.toNat < 0x80 := fun h he => by
    rw [Bool.and_eq_true, decide_eq_true_iff, decide_eq_true_iff] at h
    exact Nat.lt_of_le_of_lt (toNat_le_of_le h.2) he
  simp only [isPlain, isLetter, Text.isAsciiDigit, Bool.or_eq_true] at h
  rcases h with ((((((h | h) | h) | h) | h) | h) | h) | h
  · exact range h (by decide)
  · exact range h (by decide)
  · exact range h (by decide)
  all_goals exact single h (by decide)

theorem isEscaped_of_isPlain {c : Char} (h : isPlain c = true) : isEscaped c = true := by
  rw [isEscaped, h, Bool.true_or]

theorem isEscaped_ascii {c : Char} (h : isEscaped c = true) : c.toNat < 0x80 := by
  rcases Bool.or_eq_true_iff.mp h with h | h
  · exact isPlain_ascii h
  · rw [beq_iff_eq.mp h]
    decide

theorem isPlain_ne {c : Char} (h : isPlain c = true) : c ≠ '%' := by
  rintro rfl
  exact absurd h (by decide)

theorem escapedBytes_escapeChar (c : Char) (cs : List Char) :
    escapedBytes (escapeChar c ++ cs) = Text.Utf8.encodeChar c ++ escapedBytes cs := by
  unfold escapeChar
  by_cases h : isPlain c = true
  · have he : Text.Utf8.encodeChar c = [c.toNat] := by
      rw [Text.Utf8.encodeChar, if_pos (isPlain_ascii h)]
    rw [if_pos h, he, List.singleton_append, List.singleton_append,
      escapedBytes_cons (isPlain_ne h)]
  · rw [if_neg h, escapedBytes_flatMap (Text.Utf8.encodeChar_lt c)]

theorem escapedBytes_escaped (cs : List Char) :
    escapedBytes (cs.flatMap escapeChar) = Text.Utf8.encode cs := by
  induction cs with
  | nil => rfl
  | cons c cs ih => rw [List.flatMap_cons, escapedBytes_escapeChar, ih, Text.Utf8.encode,
      Text.Utf8.encode, List.flatMap_cons]

theorem isEscaped_of_mem_escapeChar {c e : Char} (h : e ∈ escapeChar c) : isEscaped e = true := by
  unfold escapeChar at h
  split at h
  · rename_i hc
    rw [List.mem_singleton.mp h]
    exact isEscaped_of_isPlain hc
  · obtain ⟨b, hb, he⟩ := List.mem_flatMap.mp h
    have hlt := Text.Utf8.encodeChar_lt c b hb
    simp only [escapeByte, List.mem_cons, List.not_mem_nil, or_false] at he
    rcases he with rfl | rfl | rfl
    · rfl
    · exact isEscaped_upperHexDigit _ (by omega)
    · exact isEscaped_upperHexDigit _ (by omega)

theorem isEscaped_of_mem {cs : List Char} {e : Char} (h : e ∈ cs.flatMap escapeChar) :
    isEscaped e = true := by
  obtain ⟨c, -, he⟩ := List.mem_flatMap.mp h
  exact isEscaped_of_mem_escapeChar he

/-- What needs an escape does not stand in an escaped text. -/
theorem notMem_escaped {d : Char} (h : isEscaped d = false) (cs : List Char) :
    d ∉ cs.flatMap escapeChar := fun hd => by
  rw [isEscaped_of_mem hd] at h
  cases h

theorem takeWhile_escaped {d : Char} (h : isEscaped d = false) (cs : List Char) :
    (cs.flatMap escapeChar).takeWhile (· != d) = cs.flatMap escapeChar :=
  List.takeWhile_eq_self_iff.mpr (Text.bne_of_notMem (notMem_escaped h cs))

theorem exists_byte (c : Char) : ∃ b bs, Text.Utf8.encodeChar c = b :: bs := by
  unfold Text.Utf8.encodeChar
  simp only
  split
  · exact ⟨_, _, rfl⟩
  · split
    · exact ⟨_, _, rfl⟩
    · split
      all_goals exact ⟨_, _, rfl⟩

/-- A character that stands for itself is no mark of a half, so the string of it is itself. -/
theorem codesOf_of_isPlain {c : Char} (h : isPlain c = true) : Text.codesOf (.char c) = [c] := by
  rw [Text.codesOf, if_neg]
  rintro rfl
  exact absurd h (by decide)

theorem escaped_of_noMark {cs : List Char} (h : '%' ∉ cs.flatMap escapeChar) :
    cs.flatMap escapeChar = Text.coded cs := by
  induction cs with
  | nil => rfl
  | cons c cs ih =>
    rw [List.flatMap_cons] at h ⊢
    have hc : isPlain c = true := by
      by_contra hn
      -- any other character is written with a mark, for it has at least one byte
      obtain ⟨b, bs, hb⟩ := exists_byte c
      refine h (List.mem_append_left _ ?_)
      rw [escapeChar, if_neg hn, hb, List.flatMap_cons]
      exact List.mem_cons_self
    rw [ih fun hm => h (List.mem_append_right _ hm), escapeChar, if_pos hc, Text.coded, Text.coded,
      List.flatMap_cons, codesOf_of_isPlain hc]

/-- Escaping is undone. -/
theorem unescape_escaped (cs : List Char) : unescape (cs.flatMap escapeChar) = Text.coded cs := by
  have ascii : ∀ e ∈ cs.flatMap escapeChar, isAscii e = true := fun e he => by
    rw [isAscii, decide_eq_true_iff]
    exact isEscaped_ascii (isEscaped_of_mem he)
  unfold unescape
  by_cases hm : (cs.flatMap escapeChar).contains '%' = true
  · rw [if_pos hm]
    -- everything is one run
    have hne : cs.flatMap escapeChar ≠ [] := by
      intro h
      rw [h] at hm
      cases hm
    have hrun : (cs.flatMap escapeChar).splitBy (fun a b => isAscii a == isAscii b) =
        [cs.flatMap escapeChar] := by
      refine List.splitBy_of_isChain hne (List.Pairwise.isChain ?_)
      refine List.pairwise_of_forall_mem_list fun a ha b hb => ?_
      rw [ascii a ha, ascii b hb]
      rfl
    rw [hrun, List.flatMap_singleton, unescapeRun, if_pos (List.all_eq_true.mpr ascii),
      escapedBytes_escaped, Text.Utf8.decodeLossy_encode]
  · rw [if_neg hm]
    exact escaped_of_noMark fun h => hm (List.contains_iff_mem.mpr h)

/-! ## Addresses of paths -/

/-- A path of characters that begins with one slash and has no drive letter. -/
structure Rooted (path : String) : Prop where
  slash : ∃ rest, path = (Text.ofChars ('/' :: rest)).string ∧ rest.head? ≠ some '/'
  noDrive : hasDrive path.toList = false

variable {path : String}

theorem escaped_slash (rest : List Char) :
    ('/' :: rest).flatMap escapeChar = '/' :: rest.flatMap escapeChar := by
  rw [List.flatMap_cons]
  rfl

/-- What is escaped begins with a slash only if the text does. -/
theorem head?_escaped {rest : List Char} (h : rest.head? ≠ some '/') :
    (rest.flatMap escapeChar).head? ≠ some '/' := by
  cases rest with
  | nil => exact h
  | cons c rest =>
    rw [List.flatMap_cons, escapeChar]
    by_cases hc : isPlain c = true
    · rw [if_pos hc]
      exact h
    · obtain ⟨b, bs, hb⟩ := exists_byte c
      rw [if_neg hc, hb, List.flatMap_cons]
      exact fun e => absurd (Option.some.inj e) (by decide)

theorem coded_slash (rest : List Char) : Text.coded ('/' :: rest) = '/' :: Text.coded rest := by
  rw [Text.coded, List.flatMap_cons]
  rfl

theorem head?_coded {rest : List Char} (h : rest.head? ≠ some '/') :
    (Text.coded rest).head? ≠ some '/' := by
  cases rest with
  | nil => exact h
  | cons c rest =>
    rw [Text.coded, List.flatMap_cons, Text.codesOf]
    split
    · exact fun e => absurd (Option.some.inj e) (by decide)
    · exact h

/-- A text of characters has no halves, so it can be escaped. -/
theorem escape_coded (cs : List Char) : escape (Text.coded cs) = .ok (cs.flatMap escapeChar) := by
  have hhalf : (cs.map Point.char).dropWhile (!·.isHalf) = [] := by
    rw [List.dropWhile_eq_nil_iff]
    intro p hp
    obtain ⟨c, -, rfl⟩ := List.mem_map.mp hp
    rfl
  have hcheck : Encoding.checkUtf8 (cs.map .char) = .ok () := by
    rw [Encoding.checkUtf8, Text.halves?, hhalf]
  have hchars : (cs.map Point.char).filterMap Point.char? = cs := by
    rw [List.filterMap_map]
    exact List.filterMap_some
  simp only [escape, Text.pointsOf_coded, hcheck, hchars]
  rfl

/-- One slash in front of a path leaves no room for a host. -/
theorem hostAndPath?_of_slash {rest : List Char} (h : rest.head? ≠ some '/') :
    hostAndPath? ('/' :: rest) = some ([], '/' :: rest) := by
  cases rest with
  | nil => rfl
  | cons c rest =>
    rw [hostAndPath?]
    rintro _ ⟨⟩
    exact h rfl

theorem escapePath_of_noDrive {rest : List Char} (h : hasDrive (Text.coded ('/' :: rest)) = false) :
    escapePath (smallDrive (withSlash (Text.coded ('/' :: rest)))) =
      .ok (('/' :: rest).flatMap escapeChar) := by
  have hs : smallDrive (withSlash (Text.coded ('/' :: rest))) = Text.coded ('/' :: rest) := by
    rw [coded_slash] at h ⊢
    show smallDrive ('/' :: Text.coded rest) = _
    unfold smallDrive
    rw [h, if_neg Bool.false_ne_true]
  rw [hs, escapePath, h, if_neg Bool.false_ne_true, escape_coded]

/-- The path of an address does not look like a host, so no slashes are written to keep it apart
from one. -/
theorem escaped_noHost {rest : List Char} (h : rest.head? ≠ some '/') :
    "//".toList.isPrefixOf (('/' :: rest).flatMap escapeChar) = false := by
  have hne := head?_escaped h
  rw [escaped_slash]
  cases he : rest.flatMap escapeChar with
  | nil => rfl
  | cons e es =>
    have hs : e ≠ '/' := fun h => hne (by rw [he, h]; rfl)
    rw [Bool.eq_false_iff, ne_eq, List.isPrefixOf_iff_prefix]
    rintro ⟨_, h⟩
    exact hs (List.cons.inj (List.cons.inj h).2).1.symm

/-- The address of a path of that kind is the scheme, no host, and the path with escapes. -/
theorem ofPath_of_rooted {rest : List Char} (hslash : rest.head? ≠ some '/')
    (hdrive : hasDrive (Text.coded ('/' :: rest)) = false) :
    ofPath (Text.ofChars ('/' :: rest)).string =
      .ok (String.ofList ("file://".toList ++ ('/' :: rest).flatMap escapeChar)) := by
  have hhost := hostAndPath?_of_slash (head?_coded hslash)
  rw [← coded_slash] at hhost
  rw [ofPath, Text.toList_ofChars, hhost]
  simp only [escapePath_of_noDrive hdrive]
  show (do
    let body ← if ([] : List Char).isEmpty && "//".toList.isPrefixOf
        (('/' :: rest).flatMap escapeChar) then pure (('/' :: rest).flatMap escapeChar)
      else (escape []).map fun host => '/' :: '/' :: (host ++ ('/' :: rest).flatMap escapeChar)
    return String.ofList ("file:".toList ++ body)) = _
  rw [escaped_noHost hslash]
  rfl

/-- The address is taken apart where it was put together. -/
theorem split_escaped (rest : List Char) :
    split (String.ofList ("file://".toList ++ ('/' :: rest).flatMap escapeChar)) =
      .ok { scheme := "file".toList, host := [], path := Text.coded ('/' :: rest) } := by
  have hdrop : ("file://".toList ++ ('/' :: rest).flatMap escapeChar).dropWhile
      (fun c => c.toNat ≤ 32) = "file://".toList ++ ('/' :: rest).flatMap escapeChar := rfl
  have hfilter : ("file://".toList ++ ('/' :: rest).flatMap escapeChar).filter
      (fun c => c != '\t' && c != '\n' && c != '\r') =
        "file://".toList ++ ('/' :: rest).flatMap escapeChar := by
    rw [List.filter_append]
    congr 1
    rw [List.filter_eq_self]
    intro e he
    have ne : ∀ {d : Char}, isEscaped d = false → (e != d) = true := fun hd =>
      Text.bne_of_notMem (notMem_escaped hd _) e he
    rw [ne (by decide), ne (by decide), ne (by decide)]
    rfl
  have hscheme : splitScheme ("file://".toList ++ ('/' :: rest).flatMap escapeChar) =
      ("file".toList, "//".toList ++ ('/' :: rest).flatMap escapeChar) := by
    rw [splitScheme, List.span_eq_takeWhile_dropWhile]
    rfl
  have hhost : splitHost ("//".toList ++ ('/' :: rest).flatMap escapeChar) =
      ([], ('/' :: rest).flatMap escapeChar) := by
    show (('/' :: rest).flatMap escapeChar).span (fun c => c != '/' && c != '?' && c != '#') = _
    rw [List.span_eq_takeWhile_dropWhile, escaped_slash]
    rfl
  have hhash := takeWhile_escaped (d := '#') (by decide) ('/' :: rest)
  have hquery := takeWhile_escaped (d := '?') (by decide) ('/' :: rest)
  unfold split
  simp only [String.toList_ofList, hdrop, hfilter, hscheme, hhost, hhash, hquery, unescape_escaped]
  rfl

/-- A path of that kind has an address, and comes back from it. -/
theorem ofPath_succeeds (hp : Rooted path) :
    ∃ uri, ofPath path = .ok uri ∧ toPath uri = .ok path := by
  obtain ⟨⟨rest, rfl, hslash⟩, hdrive⟩ := hp
  rw [Text.toList_ofChars] at hdrive
  have hpath : (Parts.mk "file".toList [] (Text.coded ('/' :: rest))).path? =
      some (Text.ofChars ('/' :: rest)).string := by
    show (if hasDrive (Text.coded ('/' :: rest)) = true then _
      else some (String.ofList (Text.coded ('/' :: rest)))) = _
    rw [hdrive, if_neg Bool.false_ne_true, ← Text.toList_ofChars, String.ofList_toList]
  refine ⟨_, ofPath_of_rooted hslash hdrive, ?_⟩
  rw [toPath, split_escaped]
  show Except.ok ((Parts.mk "file".toList [] (Text.coded ('/' :: rest))).path?.getD _) = _
  rw [hpath]
  rfl

theorem toPath_ofPath (hp : Rooted path) {uri : String} (h : ofPath path = .ok uri) :
    toPath uri = .ok path := by
  obtain ⟨other, ho, hback⟩ := ofPath_succeeds hp
  obtain rfl := Except.ok.inj (h.symm.trans ho)
  exact hback

/-- No two paths of that kind share an address. -/
theorem ofPath_injective {other : String} (hp : Rooted path) (ho : Rooted other) {uri : String}
    (h : ofPath path = .ok uri) (h' : ofPath other = .ok uri) : path = other :=
  Except.ok.inj ((toPath_ofPath hp h).symm.trans (toPath_ofPath ho h'))

end Uri

end LintServer
