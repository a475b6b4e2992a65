/-
  LintServer.CommandLine.Terminal — texts and tables as a terminal shows them.

  A table has a title in the middle above it, a row of headings, and its columns are as wide as
  what stands in them. The width of a text does not count its tabs, and is the width of the
  longest of its lines, which here also end at separators that do not begin another line when
  the text is shown; so a text can be too wide for its column, and is then broken into lines. A
  line of a table is told by its cells, and a cell with several lines makes its row as high.
-/

import LintServer.CommandLine.Markup
import LintServer.CommandLine.Wrapping

namespace LintServer.CommandLine

/-- A line of output: a text, or a line of a table by its cells. -/
inductive Line where
  | text (s : String)
  | row (cells : List String)
  deriving DecidableEq, Repr

/-- A text as it is shown, without line ends after it. -/
def printed (s : String) : Except Failure String := do
  let text := List.intercalate ['\n'] (linesOf (← unmarked s))
  return (Text.ofChars (text.reverse.dropWhile (· == '\n')).reverse).string

/-- Lines that are not blank, without the blanks around them. -/
def trimmedLines (lines : List (List Char)) : List Line :=
  ((lines.map Text.trimChars).filter (!·.isEmpty)).map fun cs => .text (Text.ofChars cs).string

def textLines (s : String) : Except Failure (List Line) := do
  return trimmedLines (linesOf (← unmarked s))

/-! ## Tables -/

/-- Whether a character ends a line when the width of a text is taken. -/
def endsLine (c : Char) : Bool :=
  let n := c.toNat
  n = 10 || (28 ≤ n && n ≤ 30) || n = 0x85 || n = 0x2028 || n = 0x2029

/-- The cells taken by the longest line of a text, the line that has been read so far taking
`taken` of them. -/
def longest (taken : Nat) : List Char → Nat
  | [] => taken
  | c :: cs => if endsLine c then max taken (longest 0 cs) else longest (taken + Text.charCells c) cs

/-- A table that is shown. -/
structure Listing where
  title : String
  headings : List String
  rows : List (List String)

namespace Listing

/-- Columns side by side, `height` lines of them. -/
def sideBySide : (height : Nat) → (columns : List (List (List Char))) → List Line
  | 0, _ => []
  | height + 1, columns =>
    .row (columns.map fun column => (Text.ofChars (column.headD [])).string) ::
      sideBySide height (columns.map List.tail)

/-- The lines of a row, in columns of given widths. -/
def rowLines (widths : List Nat) (row : List (List Char)) : List Line :=
  let columns := List.zipWith (fun width cell => (fitted width cell).map Text.trimChars) widths row
  sideBySide ((columns.map List.length).foldl max 0) columns

/-- The cells that a table takes: each column has a blank on both sides, and a rule stands
before each column and after the last. -/
def width (columns : List Nat) : Nat := columns.foldl (fun n w => n + w + 3) 1

def lines (t : Listing) : Except Failure (List Line) := do
  let rows ← (t.headings :: t.rows).mapM fun row => row.mapM unmarked
  let widths := rows.foldl (fun ws row => List.zipWith max ws (row.map (longest 0)))
    (t.headings.map fun _ => 0)
  let title ← unmarked t.title
  return trimmedLines (folded (width widths) title) ++ rows.flatMap (rowLines widths)

end Listing

end LintServer.CommandLine
