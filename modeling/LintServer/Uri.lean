/-
  LintServer.Uri — file addresses and the paths they stand for.

  An address is `scheme:`, then `//host`, then a path that ends at the first `?` or `#`; each
  of them has its percent escapes decoded, as UTF-8 in each run of ASCII characters. Only
  addresses of the scheme `file` stand for paths, but the host of every address has to be one.
  A path with a drive letter loses the slash before it, and the letter is written small.

  The other way, a path that begins with two slashes has its host between them and the next
  slash, and it is an error when there is none. Halves of surrogate pairs cannot be escaped.
-/

import LintServer.Encoding
import LintServer.Uri.Authority

namespace LintServer.Uri

def isAscii (c : Char) : Bool := c.toNat < 128

def isLetter (c : Char) : Bool := ('a' ≤ c && c ≤ 'z') || ('A' ≤ c && c ≤ 'Z')

def lower (c : Char) : Char :=
  if 'A' ≤ c ∧ c ≤ 'Z' then Char.ofNat (c.toNat + 32) else c

def isSchemeChar (c : Char) : Bool :=
  isLetter c || Text.isAsciiDigit c || c == '+' || c == '-' || c == '.'

/-- The bytes of a run of ASCII characters; what looks like an escape and is none stays. -/
def escapedBytes : List Char → List Nat
  | [] => []
  | [c] => [c.toNat]
  | [c, d] => [c.toNat, d.toNat]
  | c :: d :: e :: cs =>
    if c = '%' then
      match Json.hexValue? d, Json.hexValue? e with
      | some h, some l => (16 * h + l) :: escapedBytes cs
      | _, _ => c.toNat :: escapedBytes (d :: e :: cs)
    else c.toNat :: escapedBytes (d :: e :: cs)

def unescapeRun (run : List Char) : List Char :=
  if run.all isAscii then Text.coded (Text.Utf8.decodeLossy (escapedBytes run)) else run

def unescape (cs : List Char) : List Char :=
  if cs.contains '%' then
    (cs.splitBy (fun a b => isAscii a == isAscii b)).flatMap unescapeRun
  else cs

/-- The characters that stand for themselves in an escaped path. -/
def isPlain (c : Char) : Bool :=
  isLetter c || Text.isAsciiDigit c || c == '_' || c == '.' || c == '-' || c == '~' || c == '/'

def upperHexDigit (n : Nat) : Char :=
  if n < 10 then Char.ofNat (48 + n) else Char.ofNat (55 + n)

def escapeByte (b : Nat) : List Char := ['%', upperHexDigit (b / 16), upperHexDigit (b % 16)]

def escapeChar (c : Char) : List Char :=
  if isPlain c then [c] else (Text.Utf8.encodeChar c).flatMap escapeByte

def escape (cs : List Char) : Except Failure (List Char) := do
  let points := Text.pointsOf cs
  Encoding.checkUtf8 points
  return (points.filterMap Point.char?).flatMap escapeChar

structure Parts where
  scheme : List Char
  host : List Char
  path : List Char
  deriving DecidableEq, Repr

/-- The scheme in small letters, and what follows its colon. -/
def splitScheme (cs : List Char) : List Char × List Char :=
  match cs.span (· != ':') with
  | (c :: name, _ :: rest) =>
    if isLetter c && (c :: name).all isSchemeChar then ((c :: name).map lower, rest) else ([], cs)
  | _ => ([], cs)

def splitHost : List Char → List Char × List Char
  | '/' :: '/' :: cs => cs.span (fun c => c != '/' && c != '?' && c != '#')
  | cs => ([], cs)

/-- The address taken apart. Control characters and blanks before it do not count, nor do
tabs and line ends inside it. -/
def split (uri : String) : Except Failure Parts := do
  let cs := uri.toList.dropWhile (fun c => c.toNat ≤ 32)
  let cs := cs.filter (fun c => c != '\t' && c != '\n' && c != '\r')
  let (scheme, rest) := splitScheme cs
  let (host, rest) := splitHost rest
  checkAuthority host
  let path := (rest.takeWhile (· != '#')).takeWhile (· != '?')
  return { scheme := unescape scheme, host := unescape host, path := unescape path }

def hasDrive : List Char → Bool
  | '/' :: c :: ':' :: _ => isLetter c
  | _ => false

/-- The path that the parts of a file's address stand for. -/
def Parts.path? (parts : Parts) : Option String :=
  if parts.scheme != "file".toList then none
  else if !parts.host.isEmpty && !parts.path.isEmpty then
    some (String.ofList ('/' :: '/' :: (parts.host ++ parts.path)))
  else if hasDrive parts.path then
    match parts.path with
    | _ :: c :: rest => some (String.ofList (lower c :: rest))
    | path => some (String.ofList path)
  else some (String.ofList parts.path)

/-- The path an address stands for; an address of another scheme is left as it is. -/
def toPath (uri : String) : Except Failure String := do
  return ((← split uri).path?).getD uri

/-- The host and the path of a path's text; none when two slashes are followed by no third. -/
def hostAndPath? : List Char → Option (List Char × List Char)
  | '/' :: '/' :: cs =>
    match cs.span (· != '/') with
    | (_, []) => none
    | found => some found
  | cs => some ([], cs)

def withSlash (cs : List Char) : List Char :=
  match cs with
  | '/' :: _ => cs
  | _ => '/' :: cs

def smallDrive (cs : List Char) : List Char :=
  if hasDrive cs then
    match cs with
    | s :: c :: rest => s :: lower c :: rest
    | rest => rest
  else cs

/-- The escaped path; a drive letter and its colon stay. -/
def escapePath (cs : List Char) : Except Failure (List Char) :=
  if hasDrive cs then (escape (cs.drop 3)).map (cs.take 3 ++ ·) else escape cs

/-- What is said of a path of two slashes that are followed by no third. -/
def noHostEnd : Failure := .saying .badValue "substring not found"

/-- The address of a path. With no host, a path of two slashes follows the scheme directly. -/
def ofPath (path : String) : Except Failure String :=
  match hostAndPath? path.toList with
  | none => .error noHostEnd
  | some (host, rest) => do
    let rest ← escapePath (smallDrive (withSlash rest))
    let body ← if host.isEmpty && "//".toList.isPrefixOf rest then pure rest
      else (escape host).map fun host => '/' :: '/' :: (host ++ rest)
    return String.ofList ("file:".toList ++ body)

end LintServer.Uri
