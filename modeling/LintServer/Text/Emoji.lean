/-
  LintServer.Text.Emoji — emoji called by their names.

  A name between two colons, without blanks, calls for an emoji. After the name may stand
  whether it is to look like an emoji or like text, and a variation selector then follows the
  character. Capitals count as small letters. A name that no emoji has stays as it is, and the
  colon behind it opens no other name.
-/

import LintServer.Text.Blank
import LintServer.Text.EmojiNames

namespace LintServer.Text

/-- The words of a text and the word being read, from the last to the first. -/
structure Reading where
  words : List String := []
  word : List Char := []

namespace Reading

def close (r : Reading) : Reading :=
  if r.word.isEmpty then r else { words := String.ofList r.word.reverse :: r.words }

def next (r : Reading) (c : Char) : Reading :=
  if isBlank c then r.close else { r with word := c :: r.word }

end Reading

/-- The words between the blanks. -/
def wordsOf (s : String) : List String := (s.foldl Reading.next {}).close.words.reverse

def codeDigit (c : Char) : Nat :=
  if c.isDigit then c.toNat - '0'.toNat else c.toNat - 'A'.toNat + 10

/-- A code point in hexadecimal. -/
def codePoint (cs : List Char) : Nat := cs.foldl (fun n c => 16 * n + codeDigit c) 0

/-- The characters of code points with dashes between them. -/
def ofCodes (codes : String) : List Char :=
  (splitChars '-' codes.toList).map fun code => Char.ofNat (codePoint code)

/-- Words that take turns as names and code points. -/
def namedCodes : List String → List (String × String)
  | name :: codes :: rest => (name, codes) :: namedCodes rest
  | _ => []

def emojiTable : List (String × String) := namedCodes (wordsOf emojiNames)

/-- The small form of a letter that a name can have. -/
def smallChar (c : Char) : Char :=
  let n := c.toNat
  if (65 ≤ n ∧ n ≤ 90) ∨ (0xC0 ≤ n ∧ n ≤ 0xDE ∧ n ≠ 0xD7) then Char.ofNat (n + 32)
  else if n = 0x212A then 'k'
  else if n = 0x212B then 'å'
  else c

/-- How an emoji is to look. -/
inductive Look where
  | plain
  | emoji
  | text
  deriving DecidableEq, Repr

/-- What stands between the name and the colon. -/
def Look.mark : Look → String
  | .plain => ""
  | .emoji => "-emoji"
  | .text => "-text"

/-- What follows the emoji. -/
def Look.selector : Look → List Char
  | .plain => []
  | .emoji => ['\uFE0F']
  | .text => ['\uFE0E']

/-- An emoji called by its name. -/
structure EmojiCall where
  name : List Char
  look : Look

namespace EmojiCall

def source (e : EmojiCall) : List Char := ':' :: e.name ++ e.look.mark.toList ++ [':']

def shown (e : EmojiCall) : List Char :=
  match emojiTable.lookup (String.ofList (e.name.map smallChar)) with
  | some codes => ofCodes codes ++ e.look.selector
  | none => e.source

/-- The call whose first colon has been read, and what follows it. The name is the shortest
possible; the part of it that has been read is `read`, from the last to the first. -/
def parse? (read : List Char) : List Char → Option (EmojiCall × List Char)
  | [] => none
  | c :: cs =>
    match after? "-emoji:".toList (c :: cs) with
    | some rest => some (⟨read.reverse, .emoji⟩, rest)
    | none =>
      match after? "-text:".toList (c :: cs) with
      | some rest => some (⟨read.reverse, .text⟩, rest)
      | none =>
        if c = ':' then some (⟨read.reverse, .plain⟩, cs)
        else if isBlank c then none
        else parse? (c :: read) cs

end EmojiCall

/-- The characters with emoji in place of their names. -/
def emojiShown : (fuel : Nat) → List Char → List Char
  | _, [] => []
  | 0, cs => cs
  | fuel + 1, c :: cs =>
    if c = ':' then
      match EmojiCall.parse? [] cs with
      | some (call, rest) => call.shown ++ emojiShown fuel rest
      | none => c :: emojiShown fuel cs
    else c :: emojiShown fuel cs

def withEmoji (cs : List Char) : List Char := emojiShown cs.length cs

end LintServer.Text
