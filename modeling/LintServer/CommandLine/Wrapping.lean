/-
  LintServer.CommandLine.Wrapping — texts in a limited number of cells.

  A tab goes on to the next multiple of eight cells. A line that is too long is broken before
  words, blanks staying with the word before them. A word that is too long for any line is
  either folded over several lines or has a line of its own, whose end is cut off and replaced
  by an ellipsis.
-/

import LintServer.Text.Blank
import LintServer.Text.Cells

namespace LintServer.CommandLine

def tabWidth : Nat := 8

/-- The characters of a line with tabs written as spaces, from a cell on. -/
def expandTabs (cell : Nat) : List Char → List Char
  | [] => []
  | c :: cs =>
    if c = '\t' then
      let width := tabWidth - cell % tabWidth
      List.replicate width ' ' ++ expandTabs (cell + width) cs
    else c :: expandTabs (cell + Text.charCells c) cs

/-- The lines of a text, without tabs. -/
def linesOf (cs : List Char) : List (List Char) := (Text.splitChars '\n' cs).map (expandTabs 0)

/-! ## Breaking lines -/

/-- A line cut wherever a blank is followed by something else. -/
def cutAfterBlanks : List Char → List (List Char)
  | [] => []
  | c :: cs =>
    match cutAfterBlanks cs with
    | (d :: word) :: words =>
      if Text.isBlank c && !Text.isBlank d then [c] :: (d :: word) :: words
      else (c :: d :: word) :: words
    | words => [c] :: words

/-- The words of a line with the blanks after them; the first also has those before it. -/
def wordsIn (line : List Char) : List (List Char) :=
  match cutAfterBlanks line with
  | first :: second :: words =>
    if first.all Text.isBlank then (first ++ second) :: words else first :: second :: words
  | words => words

def trimEnd (cs : List Char) : List Char := (cs.reverse.dropWhile Text.isBlank).reverse

/-- Lines that are finished, from the last to the first, the characters of the line being
filled, also from the last to the first, and how many cells of it are taken. -/
structure Filling where
  finished : List (List Char) := []
  line : List Char := []
  taken : Nat := 0

namespace Filling

def add (f : Filling) (cs : List Char) : Filling :=
  { f with line := cs.reverse ++ f.line, taken := f.taken + Text.cells cs }

/-- The characters begin a line. -/
def begin (f : Filling) (cs : List Char) : Filling :=
  { finished := if f.line.isEmpty then f.finished else f.line.reverse :: f.finished
    line := cs.reverse
    taken := Text.cells cs }

/-- The characters fill the line and as many others as they need. -/
def fold (width : Nat) (f : Filling) (cs : List Char) : Filling :=
  cs.foldl (fun f c => if f.taken + Text.charCells c ≤ width then f.add [c] else f.begin [c])
    (f.begin [])

/-- A word is added to the line if there is room for it, and begins another if not. -/
def word (width : Nat) (folds : Bool) (f : Filling) (w : List Char) : Filling :=
  let size := Text.cells (trimEnd w)
  if f.taken + size ≤ width then f.add w
  else if folds && width < size then f.fold width w
  else f.begin w

def lines (f : Filling) : List (List Char) := (f.line.reverse :: f.finished).reverse

end Filling

/-- A line broken so that as many words as fit stand in `width` cells. -/
def broken (width : Nat) (folds : Bool) (line : List Char) : List (List Char) :=
  ((wordsIn line).foldl (Filling.word width folds) {}).lines

/-! ## Cutting lines -/

/-- The line without blanks at its end, as far as it has more than `width` characters. -/
def shedBlanks (width : Nat) (line : List Char) : List Char :=
  let excess := min (line.length - width) (line.length - (trimEnd line).length)
  line.take (line.length - excess)

/-- The beginning of a line that takes `total` cells; where a wide character does not fit, a
space stands for half of it. The last character is looked for between two places. -/
def beginning (total : Nat) (line : List Char) : (fuel low high : Nat) → List Char
  | 0, _, _ => line
  | fuel + 1, low, high =>
    let middle := (low + high) / 2
    let head := line.take (middle + 1)
    let size := Text.cells head
    if size = total + 1 ∧ (head.getLast?.map Text.charCells) = some 2 then head.dropLast ++ [' ']
    else if size = total then head
    else if total < size then beginning total line fuel low middle
    else beginning total line fuel middle high

/-- A line with an ellipsis in place of what is beyond `width` cells. -/
def shortened (width : Nat) (line : List Char) : List Char :=
  if Text.cells line ≤ width then line
  else beginning (width - 1) line (line.length + 1) 0 line.length ++ ['…']

/-- The text in lines of `width` cells, words that are too long folded. -/
def folded (width : Nat) (cs : List Char) : List (List Char) :=
  (linesOf cs).flatMap (broken width true)

/-- The text in lines of `width` cells, words that are too long shortened. -/
def fitted (width : Nat) (cs : List Char) : List (List Char) :=
  ((linesOf cs).flatMap (broken width false)).map fun line =>
    shortened width (shedBlanks width line)

end LintServer.CommandLine
