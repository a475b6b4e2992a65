/-
  LintServer.CommandLine.Markup — texts with tags for their styles.

  A tag stands in brackets and begins with a small letter or one of three signs. A tag that
  begins with a slash closes the last open tag, or the last one of the name it gives. Tags are
  not shown, and a tag that closes nothing is a failure. Backslashes before a tag stand for
  half as many, and an odd one makes the tag a text. Emoji are called by their names in the
  texts between tags, and characters that would move the cursor are left out.
-/

import LintServer.Failure
import LintServer.Text.Emoji

namespace LintServer.CommandLine

/-- A part of a text with tags. -/
inductive Piece where
  | plain (text : List Char)
  | tag (name : List Char)
  deriving DecidableEq, Repr

namespace Piece

def beginsTag (c : Char) : Bool := ('a' ≤ c && c ≤ 'z') || c = '#' || c = '/' || c = '@'

/-- What stands in the brackets of a tag, and what follows them. -/
def tag? : List Char → Option (List Char × List Char)
  | '[' :: c :: inner =>
    if !beginsTag c then none
    else match inner.span fun c => c != '[' && c != ']' with
      | (more, ']' :: rest) => some (c :: more, rest)
      | _ => none
  | _ => none

/-- A text, if there is one. -/
def texts (text : List Char) : List Piece := if text.isEmpty then [] else [.plain text]

/-- A tag after a number of backslashes. The name of a tag ends at an equals sign. -/
def escaped (slashes : Nat) (inner : List Char) : List Piece :=
  texts (List.replicate (slashes / 2) '\\') ++
    [if slashes % 2 = 1 then .plain ('[' :: inner ++ [']'])
      else .tag (inner.takeWhile (· != '='))]

/-- The pieces of a text, with the text before them that has been read, from the last character
to the first. -/
def parse : (fuel : Nat) → (read : List Char) → List Char → List Piece
  | 0, read, cs => texts (read.reverse ++ cs)
  | fuel + 1, read, cs =>
    let (slashes, rest) := cs.span (· == '\\')
    match tag? rest with
    | some (inner, later) =>
      texts read.reverse ++ escaped slashes.length inner ++ parse fuel [] later
    | none =>
      match rest with
      | [] => texts (read.reverse ++ slashes)
      | c :: later => parse fuel (c :: (slashes ++ read)) later

/-- A bracket that begins no tag may have a backslash before it. -/
def bracketsShown : List Char → List Char
  | [] => []
  | '\\' :: '[' :: cs => '[' :: bracketsShown cs
  | c :: cs => c :: bracketsShown cs

/-- Bell, backspace, vertical tab, form feed, carriage return. -/
def isMoving (c : Char) : Bool :=
  c.toNat = 7 || c.toNat = 8 || c.toNat = 11 || c.toNat = 12 || c.toNat = 13

def shown : Piece → List Char
  | .plain text => (Text.withEmoji (bracketsShown text)).filter (!isMoving ·)
  | .tag _ => []

end Piece

def unmatchedTag : Failure.Kind := .outside "MarkupError"

/-- The name of a style, however it is written. -/
def styleName (cs : List Char) : List Char := (Text.trimChars cs).map Text.smallChar

/-- The open tags after a piece, the last one first. -/
def openAfter (tags : List (List Char)) : Piece → Except Failure (List (List Char))
  | .plain _ => .ok tags
  | .tag ('/' :: name) =>
    let closed := if (styleName name).isEmpty then tags.head? else some (styleName name)
    match closed with
    | some tag =>
      if tags.contains tag then .ok (tags.erase tag)
      else .error (.saying unmatchedTag (String.ofList name))
    | none => .error (.saying unmatchedTag "/")
  | .tag name => .ok (styleName name :: tags)

/-- What is shown of a text with tags. -/
def unmarked (s : String) : Except Failure (List Char) := do
  let cs := Text.shownChars s
  let pieces := Piece.parse (cs.length + 1) [] cs
  let _ ← pieces.foldlM openAfter []
  return pieces.flatMap Piece.shown

end LintServer.CommandLine
