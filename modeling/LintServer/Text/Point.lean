/-
  LintServer.Text.Point — texts as code points.

  A text is made of characters and of halves of surrogate pairs that stand alone: JSON text can
  write one half of a pair without the other. Where the code points of a text count it is a
  `Text`. Everywhere else texts are strings, which hold characters only: there a half is a mark
  with a private character behind it, and the mark itself is written twice. So every text has a
  string of its own (`ofString_string`), and a string without the mark stands for itself
  (`pointsOf_of_notMem`).
-/

namespace LintServer

/-- A code point: a character, or one of the 2048 halves of surrogate pairs. -/
inductive Point where
  | char (c : Char)
  | half (i : Fin 0x800)
  deriving DecidableEq, Repr

structure Text where
  points : List Point
  deriving DecidableEq, Repr

namespace Point

def isHalf : Point → Bool
  | .char _ => false
  | .half _ => true

def char? : Point → Option Char
  | .char c => some c
  | .half _ => none

/-- The 16-bit unit of a half. -/
def half? : Point → Option Nat
  | .char _ => none
  | .half i => some (0xD800 + i)

/-- The code point of a 16-bit unit. -/
def ofUnit (n : Nat) : Point :=
  if h : 0xD800 ≤ n ∧ n < 0xE000 then .half ⟨n - 0xD800, by omega⟩ else .char (Char.ofNat n)

end Point

namespace Text

/-! ## Texts in strings -/

/-- The character behind which a half stands, or the character itself. -/
def mark : Char := Char.ofNat 0x10FFFF

/-- The private character for a half. -/
def ofHalf (i : Fin 0x800) : Char := Char.ofNat (0xFD800 + i)

/-- The code point of a marked character. -/
def marked? (c : Char) : Option Point :=
  if c = mark then some (.char mark)
  else if h : 0xFD800 ≤ c.toNat ∧ c.toNat < 0xFE000 then some (.half ⟨c.toNat - 0xFD800, by omega⟩)
  else none

/-- The characters of a string for a code point. -/
def codesOf : Point → List Char
  | .char c => if c = mark then [mark, mark] else [c]
  | .half i => [mark, ofHalf i]

/-- The code points that the characters of a string stand for; a mark before any other character
is one itself. -/
def pointsOf : List Char → List Point
  | [] => []
  | [c] => [.char c]
  | c :: d :: cs =>
    if c = mark then
      match marked? d with
      | some p => p :: pointsOf cs
      | none => .char c :: pointsOf (d :: cs)
    else .char c :: pointsOf (d :: cs)

def ofString (s : String) : Text := ⟨pointsOf s.toList⟩

instance : Coe String Text := ⟨ofString⟩

def string (t : Text) : String := String.ofList (t.points.flatMap codesOf)

def ofChars (cs : List Char) : Text := ⟨cs.map .char⟩

/-- The characters of a string for a text of characters. -/
def coded (cs : List Char) : List Char := cs.flatMap fun c => codesOf (.char c)

theorem pointsOf_cons_of_ne {c : Char} (h : c ≠ mark) (cs : List Char) :
    pointsOf (c :: cs) = .char c :: pointsOf cs := by
  cases cs with
  | nil => rfl
  | cons d cs => rw [pointsOf, if_neg h]

theorem pointsOf_marked {d : Char} {p : Point} (h : marked? d = some p) (cs : List Char) :
    pointsOf (mark :: d :: cs) = p :: pointsOf cs := by
  rw [pointsOf, if_pos rfl, h]

theorem toNat_ofHalf (i : Fin 0x800) : (ofHalf i).toNat = 0xFD800 + i := by
  have h : (0xFD800 + i.val).isValidChar := .inr ⟨by omega, by omega⟩
  rw [ofHalf, Char.ofNat, dif_pos h]
  rfl

theorem marked?_ofHalf (i : Fin 0x800) : marked? (ofHalf i) = some (.half i) := by
  have hn := toNat_ofHalf i
  have hne : ofHalf i ≠ mark := by
    intro h
    have hmark : mark.toNat = 0x10FFFF := rfl
    rw [h, hmark] at hn
    omega
  rw [marked?, if_neg hne, dif_pos ⟨by omega, by omega⟩]
  simp [hn]

/-- A code point is read off its characters, whatever follows. -/
theorem pointsOf_codesOf (p : Point) (cs : List Char) :
    pointsOf (codesOf p ++ cs) = p :: pointsOf cs := by
  cases p with
  | char c =>
    by_cases h : c = mark
    · rw [codesOf, if_pos h, h]
      exact pointsOf_marked rfl cs
    · rw [codesOf, if_neg h]
      exact pointsOf_cons_of_ne h cs
  | half i => exact pointsOf_marked (marked?_ofHalf i) cs

theorem pointsOf_flatMap (ps : List Point) : pointsOf (ps.flatMap codesOf) = ps := by
  induction ps with
  | nil => rfl
  | cons p ps ih => rw [List.flatMap_cons, pointsOf_codesOf, ih]

theorem pointsOf_coded (cs : List Char) : pointsOf (coded cs) = cs.map .char := by
  rw [← pointsOf_flatMap (cs.map .char), List.flatMap_map]
  rfl

theorem ofString_string (t : Text) : ofString t.string = t := by
  rw [ofString, string, String.toList_ofList, pointsOf_flatMap]

theorem toList_ofChars (cs : List Char) : (ofChars cs).string.toList = coded cs := by
  rw [string, String.toList_ofList, ofChars, List.flatMap_map]
  rfl

/-- A string without the mark stands for its own characters. -/
theorem pointsOf_of_notMem {cs : List Char} (h : mark ∉ cs) : pointsOf cs = cs.map .char := by
  induction cs with
  | nil => rfl
  | cons c cs ih =>
    rw [List.mem_cons, not_or] at h
    rw [pointsOf_cons_of_ne (Ne.symm h.1), ih h.2, List.map_cons]

/-! ## Halves -/

/-- The characters of a text, with U+FFFD for a half. -/
def shownChars (s : String) : List Char :=
  (pointsOf s.toList).map fun p => p.char?.getD (Char.ofNat 0xFFFD)

/-- The first run of halves: where it begins, and the units of the halves in it. -/
def halves? (ps : List Point) : Option (Nat × List Nat) :=
  match ps.dropWhile (!·.isHalf) with
  | [] => none
  | rest => some (ps.length - rest.length, (rest.takeWhile Point.isHalf).filterMap Point.half?)

end Text

end LintServer
