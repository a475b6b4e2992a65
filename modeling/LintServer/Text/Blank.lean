/-
  LintServer.Text.Blank — blanks, trimming and cutting of text.

  A blank is any character that Unicode counts as white space, the four information
  separators U+001C to U+001F included. A byte order mark and a zero-width space are not
  blanks.
-/

namespace LintServer.Text

def isBlank (c : Char) : Bool :=
  let n := c.toNat
  (9 ≤ n && n ≤ 13) || (28 ≤ n && n ≤ 32) || n == 0x85 || n == 0xA0 || n == 0x1680 ||
    (0x2000 ≤ n && n ≤ 0x200A) || n == 0x2028 || n == 0x2029 || n == 0x202F || n == 0x205F ||
    n == 0x3000

/-- Whether a blank may stand around a number: any but an information separator. -/
def isNumberBlank (c : Char) : Bool := isBlank c && !(28 ≤ c.toNat && c.toNat ≤ 31)

/-- The characters without those at both ends that `drop` picks. -/
def trimBy (drop : Char → Bool) (cs : List Char) : List Char :=
  ((cs.dropWhile drop).reverse.dropWhile drop).reverse

/-- The characters without the blanks at both ends. -/
def trimChars (cs : List Char) : List Char := trimBy isBlank cs

def trim (s : String) : String := String.ofList (trimChars s.toList)

section

variable {α : Type} [DecidableEq α]

/-- The pieces between the separators: one more than there are separators. -/
def splitChars (sep : α) : List α → List (List α)
  | [] => [[]]
  | c :: cs =>
    match splitChars sep cs with
    | [] => [[c]]
    | piece :: pieces => if c = sep then [] :: piece :: pieces else (c :: piece) :: pieces

theorem splitChars_ne_nil (sep : α) (cs : List α) : splitChars sep cs ≠ [] := by
  cases cs with
  | nil => simp [splitChars]
  | cons c cs =>
    rw [splitChars]
    repeat' split
    all_goals simp

theorem splitChars_cons_self (sep : α) (cs : List α) :
    splitChars sep (sep :: cs) = [] :: splitChars sep cs := by
  rw [splitChars]
  split
  · rename_i h
    exact absurd h (splitChars_ne_nil sep cs)
  · rename_i first pieces h
    rw [if_pos rfl, h]

/-- A character that separates nothing stands in the first piece. -/
theorem splitChars_cons_of_ne {sep c : α} (hc : c ≠ sep) (cs : List α) :
    ∃ first pieces, splitChars sep cs = first :: pieces ∧
      splitChars sep (c :: cs) = (c :: first) :: pieces := by
  cases h : splitChars sep cs with
  | nil => exact absurd h (splitChars_ne_nil sep cs)
  | cons first pieces => exact ⟨first, pieces, rfl, by rw [splitChars, h]; exact if_neg hc⟩

theorem splitChars_of_notMem {sep : α} {cs : List α} (h : sep ∉ cs) :
    splitChars sep cs = [cs] := by
  induction cs with
  | nil => rfl
  | cons c cs ih =>
    rw [List.mem_cons, not_or] at h
    rw [splitChars, ih h.2]
    exact if_neg (Ne.symm h.1)

theorem notMem_of_mem_splitChars {sep : α} {cs piece : List α}
    (h : piece ∈ splitChars sep cs) : sep ∉ piece := by
  induction cs generalizing piece with
  | nil =>
    rw [List.mem_singleton.mp h]
    exact List.not_mem_nil
  | cons c cs ih =>
    by_cases hc : c = sep
    · subst hc
      rw [splitChars_cons_self] at h
      rcases List.mem_cons.mp h with rfl | h
      · exact List.not_mem_nil
      · exact ih h
    · obtain ⟨first, pieces, hs, hcs⟩ := splitChars_cons_of_ne hc cs
      rw [hcs] at h
      rw [hs] at ih
      rcases List.mem_cons.mp h with rfl | h
      · exact fun hm => (List.mem_cons.mp hm).elim (Ne.symm hc) (ih List.mem_cons_self)
      · exact ih (List.mem_cons_of_mem first h)

end

def split (sep : Char) (s : String) : List String := (splitChars sep s.toList).map String.ofList

/-- What follows `lead`, when the characters begin with it. -/
def after? : (lead cs : List Char) → Option (List Char)
  | [], cs => some cs
  | _ :: _, [] => none
  | l :: lead, c :: cs => if l = c then after? lead cs else none

/-- Whether the needle stands somewhere in the characters. -/
def occursIn (needle : List Char) : List Char → Bool
  | [] => needle.isEmpty
  | c :: cs => needle.isPrefixOf (c :: cs) || occursIn needle cs

/-- The texts joined, with `sep` between neighbours. -/
def joined (sep : String) : List String → String
  | [] => ""
  | [s] => s
  | s :: rest => s ++ sep ++ joined sep rest

end LintServer.Text
