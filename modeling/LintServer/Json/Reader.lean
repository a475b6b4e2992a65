/-
  LintServer.Json.Reader — reading JSON text.

  The reader accepts the JSON grammar and the three words `NaN`, `Infinity` and
  `-Infinity`. A number is taken as far as it goes; what follows it is then looked at as
  what stands after a value. How many digits an integer may have and how deeply values may be
  nested is limited; the limits are 4300 digits and 988 levels unless others are given.

  Every recursive call gets one unit of fuel less. A call either takes a character off the
  text or is followed by one that does, so twice the length of the text is enough, and what
  is left of it at a text's opening quote covers the characters of that text.

  An error says what is wrong and how many characters are left there; the place in the text
  follows from that.
-/

import LintServer.Json.Basic
import LintServer.Text.Point

namespace LintServer.Json

inductive Trouble where
  | value
  | comma
  | colon
  | propertyName
  | unterminated
  | control
  | escape
  | unicodeEscape
  | extraData
  | byteOrderMark
  /-- An integer has too many digits. -/
  | longNumber (digits : Nat)
  /-- An array or an object is nested too deeply. -/
  | tooDeep (what : String)
  deriving DecidableEq, Repr

def Trouble.text : Trouble → String
  | .value => "Expecting value"
  | .comma => "Expecting ',' delimiter"
  | .colon => "Expecting ':' delimiter"
  | .propertyName => "Expecting property name enclosed in double quotes"
  | .unterminated => "Unterminated string starting at"
  | .control => "Invalid control character at"
  | .escape => "Invalid \\escape"
  | .unicodeEscape => "Invalid \\uXXXX escape"
  | .extraData => "Extra data"
  | .byteOrderMark => "Unexpected UTF-8 BOM (decode using utf-8-sig)"
  | .longNumber digits => Text.tooManyDigits digits
  | .tooDeep what =>
    "maximum recursion depth exceeded while decoding a JSON " ++ what ++ " from a unicode string"

/-- Whether a text that breaks off here is no JSON at all. The others are limits of the
reader, and are told without a place. -/
def Trouble.isSyntax : Trouble → Bool
  | .longNumber _ | .tooDeep _ => false
  | _ => true

/-- What is wrong, and the number of characters from there to the end. -/
structure Stop where
  trouble : Trouble
  left : Nat
  deriving DecidableEq, Repr

def isSpace (c : Char) : Bool := c == ' ' || c == '\t' || c == '\n' || c == '\r'

def skip (cs : List Char) : List Char := cs.dropWhile isSpace

def stopAt {α : Type} (trouble : Trouble) (cs : List Char) : Except Stop α :=
  .error { trouble, left := cs.length }

def hexValue? (c : Char) : Option Nat :=
  if '0' ≤ c ∧ c ≤ '9' then some (c.toNat - 48)
  else if 'a' ≤ c ∧ c ≤ 'f' then some (c.toNat - 87)
  else if 'A' ≤ c ∧ c ≤ 'F' then some (c.toNat - 55)
  else none

/-- The number that four hexadecimal digits write. -/
def hexFour? (a b c d : Char) : Option Nat := do
  let a ← hexValue? a
  let b ← hexValue? b
  let c ← hexValue? c
  let d ← hexValue? d
  return ((a * 16 + b) * 16 + c) * 16 + d

def isHighSurrogate (n : Nat) : Bool := 0xD800 ≤ n && n < 0xDC00
def isLowSurrogate (n : Nat) : Bool := 0xDC00 ≤ n && n < 0xE000

/-- The character of a pair of surrogates. -/
def pairChar (high low : Nat) : Char :=
  Char.ofNat (0x10000 + (high - 0xD800) * 0x400 + (low - 0xDC00))

def shortEscape? (c : Char) : Option Char :=
  if c = '"' ∨ c = '\\' ∨ c = '/' then some c
  else if c = 'b' then some (Char.ofNat 8)
  else if c = 'f' then some (Char.ofNat 12)
  else if c = 'n' then some '\n'
  else if c = 'r' then some '\r'
  else if c = 't' then some '\t'
  else none

/-- The unit whose digits begin `cs`, which stands right behind the letter u. The text has
to go on after the digits. -/
def readUnit (cs : List Char) : Except Stop (Nat × List Char) :=
  match cs with
  | a :: b :: c :: d :: e :: rest =>
    match hexFour? a b c d with
    | some n => .ok (n, e :: rest)
    | none => .error { trouble := .unicodeEscape, left := cs.length + 1 }
  | _ => .error { trouble := .unicodeEscape, left := cs.length + 1 }

/-- The code point that an escape stands for; `cs` is what follows the letter u. -/
def readUnicode (cs : List Char) : Except Stop (Point × List Char) := do
  let (n, rest) ← readUnit cs
  if isHighSurrogate n then
    match rest with
    | '\\' :: 'u' :: more =>
      if more.length < 5 then return (.ofUnit n, rest)
      let (m, beyond) ← readUnit more
      if isLowSurrogate m then return (.char (pairChar n m), beyond) else return (.ofUnit n, rest)
    | _ => return (.ofUnit n, rest)
  else return (.ofUnit n, rest)

/-- The characters up to the closing quote. `opened` is the text from the opening quote on. -/
def readChars (opened : List Char) : (fuel : Nat) → List Char → Except Stop (List Char × List Char)
  | 0, _ => stopAt .unterminated opened
  | _ + 1, [] => stopAt .unterminated opened
  | fuel + 1, c :: cs =>
    if c = '"' then .ok ([], cs)
    else if c = '\\' then
      match cs with
      | [] => stopAt .unterminated opened
      | 'u' :: rest => do
        let (p, rest) ← readUnicode rest
        let (xs, rest) ← readChars opened fuel rest
        return (Text.codesOf p ++ xs, rest)
      | e :: rest =>
        match shortEscape? e with
        | none => stopAt .escape (c :: cs)
        | some x => do
          let (xs, rest) ← readChars opened fuel rest
          return (x :: xs, rest)
    else if c.toNat < 32 then stopAt .control (c :: cs)
    else do
      let (xs, rest) ← readChars opened fuel cs
      return (c :: xs, rest)

/-- The text whose opening quote begins `opened`; `cs` is what follows the quote. -/
def readString (fuel : Nat) (opened cs : List Char) : Except Stop (String × List Char) := do
  let (xs, rest) ← readChars opened fuel cs
  return (String.ofList xs, rest)

/-- The digits at the front, and what follows. -/
def takeDigits (cs : List Char) : List Char × List Char := cs.span Text.isAsciiDigit

/-- Whether a minus stands at the front, and what follows it. -/
def takeMinus : List Char → Bool × List Char
  | '-' :: cs => (true, cs)
  | cs => (false, cs)

def integerPart? : List Char → Option (List Char × List Char)
  | '0' :: cs => some (['0'], cs)
  | c :: cs => if Text.isAsciiDigit c then some (takeDigits (c :: cs)) else none
  | [] => none

def fractionPart : List Char → List Char × List Char
  | '.' :: cs =>
    match takeDigits cs with
    | ([], _) => ([], '.' :: cs)
    | found => found
  | cs => ([], cs)

/-- The exponent at the front, none when no digits follow its mark. -/
def exponentPart (cs : List Char) : Option Int × List Char :=
  match cs with
  | c :: rest =>
    if c = 'e' ∨ c = 'E' then
      let (negative, digits) := match rest with
        | '-' :: more => (true, takeDigits more)
        | '+' :: more => (false, takeDigits more)
        | more => (false, takeDigits more)
      match digits with
      | ([], _) => (none, cs)
      | (ds, beyond) =>
        let n : Int := Text.asciiNumeral ds
        (some (if negative then -n else n), beyond)
    else (none, cs)
  | [] => (none, cs)

/-- The number at the front of the text. An integer has no more than `digits` digits. -/
def readNumber (digits : Nat) (cs : List Char) : Except Stop (Json × List Char) :=
  let (negative, body) := takeMinus cs
  match integerPart? body with
  | none => stopAt .value cs
  | some (whole, rest) =>
    let (fraction, rest) := fractionPart rest
    let (exponent, rest) := exponentPart rest
    if fraction.isEmpty && exponent.isNone then
      if digits < whole.length then stopAt (.longNumber whole.length) cs
      else
        let n : Int := Text.asciiNumeral whole
        .ok (.int (if negative then -n else n), rest)
    else
      let mantissa := Text.asciiNumeral (whole ++ fraction)
      let power := exponent.getD 0 - fraction.length
      .ok (.float (Double.ofDecimal negative mantissa power), rest)

/-- The words that stand for values. -/
def words : List (List Char × Json) :=
  [("null".toList, .null), ("true".toList, .bool true), ("false".toList, .bool false),
   ("NaN".toList, .float .nan), ("Infinity".toList, .float (.infinite false)),
   ("-Infinity".toList, .float (.infinite true))]

def readWord? (cs : List Char) : Option (Json × List Char) :=
  words.findSome? (fun (word, v) =>
    if word.isPrefixOf cs then some (v, cs.drop word.length) else none)

mutual

/-- The value at the front of the text, in which `depth` more levels may be nested. -/
def readValue (digits : Nat) : (fuel depth : Nat) → List Char → Except Stop (Json × List Char)
  | 0, _, cs => stopAt .value cs
  | _ + 1, _, [] => stopAt .value []
  | fuel + 1, depth, c :: cs =>
    if c = '"' then do
      let (s, rest) ← readString fuel (c :: cs) cs
      return (.str s, rest)
    else if c = '{' then
      if depth = 0 then stopAt (.tooDeep "object") (c :: cs)
      else match skip cs with
        | '}' :: rest => .ok (.obj [], rest)
        | rest => do
          let (fields, rest) ← readFields digits fuel (depth - 1) [] rest
          return (.obj fields, rest)
    else if c = '[' then
      if depth = 0 then stopAt (.tooDeep "array") (c :: cs)
      else match skip cs with
        | ']' :: rest => .ok (.arr [], rest)
        | rest => do
          let (items, rest) ← readItems digits fuel (depth - 1) rest
          return (.arr items, rest)
    else
      match readWord? (c :: cs) with
      | some found => .ok found
      | none => readNumber digits (c :: cs)

/-- The items up to the closing bracket, at least one. -/
def readItems (digits : Nat) : (fuel depth : Nat) → List Char → Except Stop (List Json × List Char)
  | 0, _, cs => stopAt .value cs
  | fuel + 1, depth, cs => do
    let (v, rest) ← readValue digits fuel depth cs
    match skip rest with
    | ']' :: rest => return ([v], rest)
    | ',' :: rest =>
      let (vs, rest) ← readItems digits fuel depth (skip rest)
      return (v :: vs, rest)
    | rest => stopAt .comma rest

/-- The fields up to the closing brace, at least one, put into those read before. -/
def readFields (digits : Nat) :
    (fuel depth : Nat) → List (String × Json) → List Char →
      Except Stop (List (String × Json) × List Char)
  | 0, _, _, cs => stopAt .value cs
  | fuel + 1, depth, before, cs =>
    match cs with
    | '"' :: more => do
      let (name, rest) ← readString fuel cs more
      match skip rest with
      | ':' :: rest =>
        let (v, rest) ← readValue digits fuel depth (skip rest)
        let fields := Table.put name v before
        match skip rest with
        | '}' :: rest => return (fields, rest)
        | ',' :: rest => readFields digits fuel depth fields (skip rest)
        | rest => stopAt .comma rest
      | rest => stopAt .colon rest
    | _ => stopAt .propertyName cs

end

/-- Where and why a text is not JSON. -/
structure SyntaxError where
  trouble : Trouble
  line : Nat
  column : Nat
  index : Nat
  deriving DecidableEq, Repr

def SyntaxError.message (e : SyntaxError) : String :=
  if e.trouble.isSyntax then
    e.trouble.text ++ ": line " ++ toString e.line ++ " column " ++ toString e.column ++
      " (char " ++ toString e.index ++ ")"
  else e.trouble.text

/-- The place behind a beginning of the text: lines are counted from one and end in line feeds;
columns are counted from one after the last of them. -/
def SyntaxError.behind (trouble : Trouble) (before : List Point) : SyntaxError where
  trouble
  line := 1 + before.count (.char '\n')
  column := 1 + (before.reverse.takeWhile (· != .char '\n')).length
  index := before.length

def readChecked (limits : Limits) (cs : List Char) : Except Stop Json := do
  match cs with
  | c :: _ => if c = Char.ofNat 0xFEFF then stopAt .byteOrderMark cs
  | [] => pure ()
  let (v, rest) ← readValue limits.digits (2 * cs.length + 2) limits.depth (skip cs)
  match skip rest with
  | [] => return v
  | rest => stopAt .extraData rest

def readWithin (limits : Limits) (text : String) : Except SyntaxError Json :=
  let cs := text.toList
  match readChecked limits cs with
  | .ok v => .ok v
  | .error stop =>
    .error (.behind stop.trouble (Text.pointsOf (cs.take (cs.length - stop.left))))

def read (text : String) : Except SyntaxError Json := readWithin {} text

end LintServer.Json
