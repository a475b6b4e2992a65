/-
  LintServer.Toml.Reader — reading TOML 1.0 text.

  A line end is a line feed, or a carriage return with it. Control characters other than the
  tab stand nowhere, except the line feed where a text may span lines. A number, a date or a
  time is taken as far as it goes; what follows is then looked at as what stands after a
  value. A text that breaks a rule is no document, whichever rule it is. Apart from that the
  reader has limits: on the digits of a decimal integer and on how deeply values are nested.

  Every recursive call gets one unit of fuel less; the length of the text bounds their
  number.
-/

import LintServer.Json.Reader
import LintServer.Text.Blank
import LintServer.Toml.Basic

namespace LintServer.Toml

/-- Why a text is not read. -/
inductive Trouble where
  | malformed
  | longNumber (digits : Nat)
  | tooDeep
  deriving DecidableEq, Repr

abbrev Read (α : Type) := Except Trouble α

/-- What was found; nothing found is malformed. -/
def orMalformed {α : Type} : Option α → Read α
  | some a => .ok a
  | none => .error .malformed

def isSpace (c : Char) : Bool := c == ' ' || c == '\t'

def isSpaceOrBreak (c : Char) : Bool := isSpace c || c == '\n'

def isControl (c : Char) : Bool := c.toNat < 32 || c.toNat == 127

/-- What no text on one line and no comment may hold. -/
def isBarred (c : Char) : Bool := isControl c && c != '\t'

/-- What no text over several lines may hold. -/
def isBarredInLines (c : Char) : Bool := isControl c && c != '\t' && c != '\n'

def skip (cs : List Char) : List Char := cs.dropWhile isSpace

/-- What follows a comment, if one stands here. -/
def skipComment : List Char → Option (List Char)
  | '#' :: cs =>
    let (comment, rest) := cs.span (· != '\n')
    if comment.any isBarred then none else some rest
  | cs => some cs

/-- What follows the blanks, line breaks and comments between the items of an array. -/
def skipFiller : (fuel : Nat) → List Char → Option (List Char)
  | 0, _ => none
  | fuel + 1, cs =>
    match cs.dropWhile isSpaceOrBreak with
    | '#' :: rest => do skipFiller fuel (← skipComment ('#' :: rest))
    | rest => some rest

def isBareChar (c : Char) : Bool :=
  ('a' ≤ c && c ≤ 'z') || ('A' ≤ c && c ≤ 'Z') || ('0' ≤ c && c ≤ '9') || c == '-' || c == '_'

/-! ### Texts -/

def scalarOfHex? (ds : List Char) : Option Char := do
  let values ← ds.mapM Json.hexValue?
  let n := values.foldl (fun n d => 16 * n + d) 0
  if n < 0xD800 ∨ (0xE000 ≤ n ∧ n < 0x110000) then some (Char.ofNat n) else none

def hexScalar? (width : Nat) (cs : List Char) : Option (Char × List Char) := do
  let ds := cs.take width
  if ds.length = width then return (← scalarOfHex? ds, cs.drop width) else none

/-- What an escape stands for; `cs` is what follows the backslash. Where a text may span
lines, a backslash at the end of a line stands for nothing, together with the line break and
the blanks that follow. -/
def readEscape (overLines : Bool) (cs : List Char) : Option (List Char × List Char) :=
  match cs with
  | [] => none
  | c :: rest =>
    if overLines && isSpaceOrBreak c then
      match skip (c :: rest) with
      | [] => some ([], [])
      | d :: more => if d = '\n' then some ([], more.dropWhile isSpaceOrBreak) else none
    else if c = 'u' then (hexScalar? 4 rest).map fun (x, rest) => (Text.codesOf (.char x), rest)
    else if c = 'U' then (hexScalar? 8 rest).map fun (x, rest) => (Text.codesOf (.char x), rest)
    else if c = '/' then none
    else (Json.shortEscape? c).map fun x => ([x], rest)

/-- A text in double quotes, behind the opening ones. -/
def readBasic (overLines : Bool) : (fuel : Nat) → List Char → Option (List Char × List Char)
  | 0, _ => none
  | _ + 1, [] => none
  | fuel + 1, c :: cs =>
    if c = '"' then
      if !overLines then some ([], cs)
      else match cs with
        | '"' :: '"' :: rest => some ([], rest)
        | _ => (readBasic overLines fuel cs).map fun (xs, rest) => (c :: xs, rest)
    else if c = '\\' then do
      let (xs, rest) ← readEscape overLines cs
      let (ys, rest) ← readBasic overLines fuel rest
      return (xs ++ ys, rest)
    else if (if overLines then isBarredInLines c else isBarred c) then none
    else (readBasic overLines fuel cs).map fun (xs, rest) => (c :: xs, rest)

/-- A text in single quotes, behind the opening one. -/
def readLiteral (cs : List Char) : Option (List Char × List Char) :=
  match cs.span (· != '\'') with
  | (xs, _ :: rest) => if xs.any isBarred then none else some (xs, rest)
  | (_, []) => none

/-- A text in three single quotes, behind the opening ones. -/
def readLiteralLines : List Char → Option (List Char × List Char)
  | [] => none
  | c :: cs =>
    if "'''".toList.isPrefixOf (c :: cs) then some ([], cs.drop 2)
    else if isBarredInLines c then none
    else (readLiteralLines cs).map fun (xs, rest) => (c :: xs, rest)

/-- A quote, or two, right behind the closing ones still belong to the text. -/
def extraQuotes (quote : Char) (found : List Char × List Char) : List Char × List Char :=
  let extra := min 2 (found.2.takeWhile (· == quote)).length
  (found.1 ++ List.replicate extra quote, found.2.drop extra)

/-- Without a line break at the very front. -/
def dropBreak : List Char → List Char
  | '\n' :: cs => cs
  | cs => cs

/-- A text at the front of `cs`, which begins with a quote. -/
def readText (fuel : Nat) (cs : List Char) : Option (List Char × List Char) :=
  match cs with
  | '"' :: '"' :: '"' :: rest =>
    (readBasic true fuel (dropBreak rest)).map (extraQuotes '"')
  | '"' :: rest => readBasic false fuel rest
  | '\'' :: '\'' :: '\'' :: rest =>
    (readLiteralLines (dropBreak rest)).map (extraQuotes '\'')
  | '\'' :: rest => readLiteral rest
  | _ => none

/-! ### Keys -/

def readKeyPart (fuel : Nat) (cs : List Char) : Option (String × List Char) :=
  match cs with
  | '"' :: rest => (readBasic false fuel rest).map fun (xs, rest) => (String.ofList xs, rest)
  | '\'' :: rest => (readLiteral rest).map fun (xs, rest) => (String.ofList xs, rest)
  | _ =>
    match cs.span isBareChar with
    | ([], _) => none
    | (xs, rest) => some (String.ofList xs, rest)

/-- A key with its dotted parts, and the blanks behind it. -/
def readKey : (fuel : Nat) → List Char → Option (Key × List Char)
  | 0, _ => none
  | fuel + 1, cs => do
    let (part, rest) ← readKeyPart (fuel + 1) cs
    match skip rest with
    | '.' :: rest =>
      let (parts, rest) ← readKey fuel (skip rest)
      return (part :: parts, rest)
    | rest => return ([part], rest)

/-! ### Numbers, dates and times -/

/-- Digits that go on a number, each with an underscore before it or not, and what follows. -/
def takeMore (isDigit : Char → Bool) : List Char → List Char × List Char
  | [] => ([], [])
  | '_' :: d :: cs =>
    if isDigit d then
      let (ds, rest) := takeMore isDigit cs
      (d :: ds, rest)
    else ([], '_' :: d :: cs)
  | c :: cs =>
    if isDigit c then
      let (ds, rest) := takeMore isDigit cs
      (c :: ds, rest)
    else ([], c :: cs)

/-- Digits with single underscores between them, and what follows. -/
def takeGrouped (isDigit : Char → Bool) : List Char → List Char × List Char
  | [] => ([], [])
  | c :: cs =>
    if isDigit c then
      let (ds, rest) := takeMore isDigit cs
      (c :: ds, rest)
    else ([], c :: cs)

def basedNumber? (base : Nat) (isDigit : Char → Bool) (cs : List Char) :
    Option (Value × List Char) :=
  match takeGrouped isDigit cs with
  | ([], _) => none
  | (ds, rest) =>
    let n := ds.foldl (fun n d => base * n + (Json.hexValue? d).getD 0) 0
    some (.int n, rest)

def prefixedNumber? : List Char → Option (Value × List Char)
  | '0' :: 'x' :: cs => basedNumber? 16 (fun c => (Json.hexValue? c).isSome) cs
  | '0' :: 'o' :: cs => basedNumber? 8 (fun c => '0' ≤ c && c ≤ '7') cs
  | '0' :: 'b' :: cs => basedNumber? 2 (fun c => c == '0' || c == '1') cs
  | _ => none

def takeSign : List Char → Bool × List Char
  | '-' :: cs => (true, cs)
  | '+' :: cs => (false, cs)
  | cs => (false, cs)

def wholePart? : List Char → Option (List Char × List Char)
  | '0' :: cs => some (['0'], cs)
  | cs =>
    match takeGrouped Text.isAsciiDigit cs with
    | ([], _) => none
    | found => some found

def fractionPart : List Char → List Char × List Char
  | '.' :: cs =>
    match takeGrouped Text.isAsciiDigit cs with
    | ([], _) => ([], '.' :: cs)
    | found => found
  | cs => ([], cs)

def exponentPart (cs : List Char) : Option Int × List Char :=
  match cs with
  | c :: rest =>
    if c = 'e' ∨ c = 'E' then
      let (negative, digits) := takeSign rest
      match takeGrouped Text.isAsciiDigit digits with
      | ([], _) => (none, cs)
      | (ds, beyond) =>
        let n : Int := Text.asciiNumeral ds
        (some (if negative then -n else n), beyond)
    else (none, cs)
  | [] => (none, cs)

/-- A decimal number as it is written. -/
structure Decimal where
  negative : Bool
  whole : List Char
  fraction : List Char
  exponent : Option Int

def decimal? (cs : List Char) : Option (Decimal × List Char) := do
  let (negative, body) := takeSign cs
  let (whole, rest) ← wholePart? body
  let (fraction, rest) := fractionPart rest
  let (exponent, rest) := exponentPart rest
  return ({ negative, whole, fraction, exponent }, rest)

/-- The number that is written; an integer has neither a fraction nor an exponent. -/
def Decimal.value (d : Decimal) : Read Value :=
  if d.fraction.isEmpty && d.exponent.isNone then
    if Text.maxDigits < d.whole.length then .error (.longNumber d.whole.length)
    else
      let n : Int := Text.asciiNumeral d.whole
      .ok (.int (if d.negative then -n else n))
  else
    let digits := Text.asciiNumeral (d.whole ++ d.fraction)
    .ok (.float (Double.ofDecimal d.negative digits (d.exponent.getD 0 - d.fraction.length)))

def specialNumber? (cs : List Char) : Option (Value × List Char) :=
  let (negative, body) := takeSign cs
  if "inf".toList.isPrefixOf body then some (.float (.infinite negative), body.drop 3)
  else if "nan".toList.isPrefixOf body then some (.float .nan, body.drop 3)
  else none

/-- Two digits that write a number from `low` to `high`. -/
def twoDigits? (low high : Nat) : List Char → Option (Nat × List Char)
  | a :: b :: rest =>
    let n := Text.asciiNumeral [a, b]
    if Text.isAsciiDigit a && Text.isAsciiDigit b && low ≤ n && n ≤ high then some (n, rest)
    else none
  | _ => none

/-- A number of millionths, from the digits after the seconds' point. Those beyond the sixth
count nothing. -/
def micros (digits : List Char) : Nat :=
  Text.asciiNumeral ((digits ++ List.replicate 6 '0').take 6)

/-- A time of day, with any number of digits after the seconds' point. -/
def readTime? (cs : List Char) : Option (TimeOfDay × List Char) := do
  let (hour, rest) ← twoDigits? 0 23 cs
  let rest ← Text.after? [':'] rest
  let (minute, rest) ← twoDigits? 0 59 rest
  let rest ← Text.after? [':'] rest
  let (second, rest) ← twoDigits? 0 59 rest
  match rest with
  | '.' :: more =>
    let (digits, behind) := more.span Text.isAsciiDigit
    if digits.isEmpty then return ({ hour, minute, second }, rest)
    else return ({ hour, minute, second, micros := micros digits }, behind)
  | _ => return ({ hour, minute, second }, rest)

/-- Behind a time, the distance from universal time if it is given. -/
def readOffset (cs : List Char) : Option Int × List Char :=
  match cs with
  | 'Z' :: rest => (some 0, rest)
  | 'z' :: rest => (some 0, rest)
  | c :: rest =>
    if c = '+' ∨ c = '-' then
      match ((do
        let (hours, rest) ← twoDigits? 0 23 rest
        let rest ← Text.after? [':'] rest
        let (minutes, rest) ← twoDigits? 0 59 rest
        return (60 * hours + minutes, rest)) : Option (Nat × List Char)) with
      | some (minutes, rest) => (some (if c = '-' then -minutes else minutes), rest)
      | none => (none, cs)
    else (none, cs)
  | [] => (none, [])

/-- A date, with a time of day behind it or not; none inside where there is no such day. -/
def readDate? (cs : List Char) : Option (Option Stamp × List Char) := do
  let year := cs.take 4
  if year.length < 4 || !year.all Text.isAsciiDigit then none
  let year := Text.asciiNumeral year
  let rest ← Text.after? ['-'] (cs.drop 4)
  let (month, rest) ← twoDigits? 1 12 rest
  let rest ← Text.after? ['-'] rest
  let (day, rest) ← twoDigits? 1 31 rest
  let date : Day := { year, month, day }
  let found (s : Stamp) := if date.isReal then some s else none
  match rest with
  | c :: behind =>
    if c = 'T' ∨ c = 't' ∨ c = ' ' then
      match readTime? behind with
      | some (time, behind) =>
        let (offset, behind) := readOffset behind
        return (found (.both date time offset), behind)
      | none => return (found (.day date), rest)
    else return (found (.day date), rest)
  | [] => return (found (.day date), [])

def readNumber (cs : List Char) : Read (Value × List Char) :=
  match prefixedNumber? cs with
  | some found => .ok found
  | none =>
    match decimal? cs with
    | some (d, rest) => d.value.map (·, rest)
    | none => orMalformed (specialNumber? cs)

/-- A value that is written in one go: a date, a time, a number. -/
def readPlain (cs : List Char) : Read (Value × List Char) :=
  match readDate? cs with
  | some (some stamp, rest) => .ok (.stamp stamp, rest)
  | some (none, _) => .error .malformed
  | none =>
    match readTime? cs with
    | some (time, rest) => .ok (.stamp (.time time), rest)
    | none => readNumber cs

/-! ### Values -/

/-- A table that is being written between braces, and the paths closed in it. -/
structure Inline where
  fields : Fields := []
  frozen : Marks := {}

def Inline.assign (t : Inline) (key : Key) (v : Value) : Option Inline := do
  if t.frozen.isFrozen key then none
  let name ← key.getLast?
  let fields ← modify false (addField name v) key.dropLast t.fields
  return { fields, frozen := if State.isClosed v then t.frozen.freeze key else t.frozen }

/-- How many levels values may be nested: an array counts for two, a table for three. -/
def maxDepth : Nat := 980

mutual

/-- The value at the front of the text, in which `depth` more levels may be nested. -/
def readValue : (fuel depth : Nat) → List Char → Read (Value × List Char)
  | 0, _, _ => .error .malformed
  | _ + 1, _, [] => .error .malformed
  | fuel + 1, depth, c :: cs =>
    if c = '"' ∨ c = '\'' then
      orMalformed <| (readText (fuel + 1) (c :: cs)).map fun (xs, rest) =>
        (.str (String.ofList xs), rest)
    else if "true".toList.isPrefixOf (c :: cs) then .ok (.bool true, cs.drop 3)
    else if "false".toList.isPrefixOf (c :: cs) then .ok (.bool false, cs.drop 4)
    else if c = '[' then do
      if depth < 2 then throw .tooDeep
      match ← orMalformed (skipFiller fuel cs) with
      | ']' :: rest => return (.arr [], rest)
      | rest =>
        let (items, rest) ← readItems fuel (depth - 2) rest
        return (.arr items, rest)
    else if c = '{' then
      if depth < 3 then .error .tooDeep
      else match skip cs with
        | '}' :: rest => .ok (.table [], rest)
        | rest => do
          let (fields, rest) ← readInline fuel (depth - 3) {} rest
          return (.table fields, rest)
    else readPlain (c :: cs)

/-- The items up to the closing bracket, at least one; a comma may follow the last. -/
def readItems : (fuel depth : Nat) → List Char → Read (List Value × List Char)
  | 0, _, _ => .error .malformed
  | fuel + 1, depth, cs => do
    let (v, rest) ← readValue fuel depth cs
    match ← orMalformed (skipFiller fuel rest) with
    | ']' :: rest => return ([v], rest)
    | ',' :: rest =>
      match ← orMalformed (skipFiller fuel rest) with
      | ']' :: rest => return ([v], rest)
      | rest =>
        let (vs, rest) ← readItems fuel depth rest
        return (v :: vs, rest)
    | _ => throw .malformed

/-- The fields up to the closing brace, at least one. -/
def readInline : (fuel depth : Nat) → Inline → List Char → Read (Fields × List Char)
  | 0, _, _, _ => .error .malformed
  | fuel + 1, depth, table, cs => do
    let (key, rest) ← orMalformed (readKey fuel cs)
    let rest ← orMalformed (Text.after? ['='] rest)
    let (v, rest) ← readValue fuel depth (skip rest)
    let table ← orMalformed (table.assign key v)
    match skip rest with
    | '}' :: rest => return (table.fields, rest)
    | ',' :: rest => readInline fuel depth table (skip rest)
    | _ => throw .malformed

end

/-! ### Documents -/

/-- A header, behind its opening bracket. -/
def readHeader (fuel : Nat) (s : State) : List Char → Option (State × List Char)
  | '[' :: cs => do
    let (key, rest) ← readKey fuel (skip cs)
    let rest ← Text.after? [']', ']'] rest
    return (← s.openItem key, rest)
  | cs => do
    let (key, rest) ← readKey fuel (skip cs)
    let rest ← Text.after? [']'] rest
    return (← s.openTable key, rest)

def readAssignment (fuel : Nat) (s : State) (cs : List Char) : Read (State × List Char) := do
  let (key, rest) ← orMalformed (readKey fuel cs)
  let rest ← orMalformed (Text.after? ['='] rest)
  let (v, rest) ← readValue fuel maxDepth (skip rest)
  return (← orMalformed (s.assign key v), rest)

/-- The end of a statement: blanks, a comment, and a line break or the end of the text. -/
def endStatement (cs : List Char) : Read (List Char) := do
  match ← orMalformed (skipComment (skip cs)) with
  | [] => return []
  | '\n' :: rest => return rest
  | _ => throw .malformed

def readStatements : (fuel : Nat) → State → List Char → Read State
  | 0, _, _ => .error .malformed
  | fuel + 1, s, cs =>
    match skip cs with
    | [] => .ok s
    | '\n' :: rest => readStatements fuel s rest
    | '#' :: rest => do readStatements fuel s (← endStatement ('#' :: rest))
    | '[' :: rest => do
      let (s, rest) ← orMalformed (readHeader fuel s rest)
      readStatements fuel s (← endStatement rest)
    | rest => do
      let (s, rest) ← readAssignment fuel s rest
      readStatements fuel s (← endStatement rest)

/-- Every carriage return with a line feed becomes a line feed. -/
def plainBreaks : List Char → List Char
  | [] => []
  | '\r' :: '\n' :: cs => '\n' :: plainBreaks cs
  | c :: cs => c :: plainBreaks cs

/-- The fields of a document. -/
def read (text : List Char) : Read Fields :=
  let cs := plainBreaks text
  (readStatements (2 * cs.length + 3) {} cs).map (·.fields)

end LintServer.Toml
