/-
  LintServer.Text.Quoted — a text between quotes, as it is shown inside other values.

  The quote is single, unless the text holds a single quote and no double one. The quote
  and the backslash are escaped, tab, line feed and carriage return have their letters, and
  whatever is not printable is written by its code point in two, four or eight hexadecimal
  digits. A half of a surrogate pair has four.
-/

import LintServer.Text.Point
import LintServer.Text.Printable

namespace LintServer.Text

def hexDigit (n : Nat) : Char :=
  if n < 10 then Char.ofNat (48 + n) else Char.ofNat (87 + n)

/-- The last `width` hexadecimal digits of `n`, in lower case. -/
def hex : (width n : Nat) → List Char
  | 0, _ => []
  | width + 1, n => hex width (n / 16) ++ [hexDigit (n % 16)]

def quoteFor (cs : List Char) : Char :=
  if cs.contains '\'' && !cs.contains '"' then '"' else '\''

def quotedChar (quote c : Char) : List Char :=
  let n := c.toNat
  if c = quote ∨ c = '\\' then ['\\', c]
  else if c = '\t' then ['\\', 't']
  else if c = '\n' then ['\\', 'n']
  else if c = '\r' then ['\\', 'r']
  else if isPrintable c then [c]
  else if n < 0x100 then '\\' :: 'x' :: hex 2 n
  else if n < 0x10000 then '\\' :: 'u' :: hex 4 n
  else '\\' :: 'U' :: hex 8 n

def quotedPoint (quote : Char) : Point → List Char
  | .char c => quotedChar quote c
  | .half i => '\\' :: 'u' :: hex 4 (0xD800 + i)

def quoted (s : String) : String :=
  let quote := quoteFor s.toList
  String.ofList (quote :: ((pointsOf s.toList).flatMap (quotedPoint quote) ++ [quote]))

end LintServer.Text
