/-
  LintServer.Uri.Authority — what may stand between the two slashes and the path.

  Brackets come in pairs, and hold the address of a host: nothing stands before them but a
  user, and nothing behind them but a colon and more. The address is of version 6, or of one to
  come, which begins with a `v`. Beyond ASCII there is no character that is another form of
  one that ends or divides an authority.
-/

import LintServer.Failure
import LintServer.Json.Reader

namespace LintServer.Uri

def refused {α : Type} (why : String) : Except Failure α := .error (.saying .badValue why)

def badBrackets : String := "Invalid IPv6 URL"

/-- One of the four numbers of an address of version 4: up to 255, and no zeros before it. -/
def isOctet (cs : List Char) : Bool :=
  !cs.isEmpty && cs.all Text.isAsciiDigit && cs.length ≤ 3 &&
    (cs == ['0'] || cs.head? != some '0') && Text.asciiNumeral cs ≤ 255

def isVersion4 (cs : List Char) : Bool :=
  let octets := Text.splitChars '.' cs
  octets.length == 4 && octets.all isOctet

/-- One of the eight groups of an address of version 6. -/
def isGroup (cs : List Char) : Bool :=
  !cs.isEmpty && cs.length ≤ 4 && cs.all fun c => (Json.hexValue? c).isSome

/-- The parts between colons; an address of version 4 at the end counts for two. None if there
are too few. -/
def groups? (cs : List Char) : Option (List (List Char)) :=
  let parts := Text.splitChars ':' cs
  let last := parts.getLast?.getD []
  if parts.length < 3 then none
  else if !last.contains '.' then some parts
  else if isVersion4 last then some (parts.dropLast ++ [['0'], ['0']])
  else none

/-- The parts without the one next to the gap when the address begins or ends with the gap;
none if the address begins or ends with a single colon. -/
def besideGap? (parts : List (List Char)) (outer : Option (List Char)) : Option (List (List Char)) :=
  if outer != some [] then some parts
  else if parts.length = 1 then some []
  else none

/-- Whether the parts are the groups of an address. Eight stand there, or fewer with one gap
between two colons. -/
def areGroups (parts : List (List Char)) : Bool :=
  let inner := parts.drop 1 |>.dropLast
  match inner.count [] with
  | 0 => parts.length == 8 && parts.all isGroup
  | 1 =>
    let before := parts.take (1 + (inner.takeWhile (· != [])).length)
    let after := parts.drop (before.length + 1)
    match besideGap? before parts.head?, besideGap? after parts.getLast? with
    | some before, some after =>
      before.length + after.length ≤ 7 && before.all isGroup && after.all isGroup
    | _, _ => false
  | _ => false

/-- An address of version 6. Behind a percent sign it names an interface. -/
def isVersion6 (cs : List Char) : Bool :=
  let (address, scope) := cs.span (· != '%')
  let named := match scope with
    | [] => true
    | _ :: name => !name.isEmpty && !name.contains '%'
  named && (groups? address).any fun parts => parts.length ≤ 9 && areGroups parts

/-- An address of a version to come: its number in hexadecimal, a dot, and something. -/
def isFuture (cs : List Char) : Bool :=
  match (cs.drop 1).span fun c => (Json.hexValue? c).isSome with
  | (_ :: _, '.' :: _ :: _) => true
  | _ => false

def checkHost (host : List Char) : Except Failure Unit :=
  if host.head? == some 'v' then
    if isFuture host then .ok () else refused "IPvFuture address is invalid"
  else if isVersion4 host then refused "An IPv4 address cannot be in brackets"
  else if isVersion6 host then .ok ()
  else refused (Text.quoted (String.ofList host) ++
    " does not appear to be an IPv4 or IPv6 address")

/-- What follows the last mark, everything if there is none. -/
def afterLast (mark : Char) (cs : List Char) : List Char :=
  (cs.reverse.takeWhile (· != mark)).reverse

def checkBracketed (authority : List Char) : Except Failure Unit :=
  let place := afterLast '@' authority
  match place.span (· != '[') with
  | (before, _ :: bracketed) =>
    let (host, rest) := bracketed.span (· != ']')
    if !before.isEmpty then refused badBrackets
    else match rest with
      | _ :: c :: _ => if c = ':' then checkHost host else refused badBrackets
      | _ => checkHost host
  | (place, []) => checkHost (place.takeWhile (· != ':'))

/-- Characters of which another form holds a slash, a question mark, a number sign, an at sign
or a colon. -/
def disguised : List Nat :=
  [0x2047, 0x2048, 0x2049, 0x2100, 0x2101, 0x2105, 0x2106, 0x2A74, 0xFE13, 0xFE16, 0xFE55,
   0xFE56, 0xFE5F, 0xFE6B, 0xFF03, 0xFF0F, 0xFF1A, 0xFF1F, 0xFF20]

def checkAuthority (cs : List Char) : Except Failure Unit := do
  if cs.contains '[' != cs.contains ']' then refused badBrackets
  if cs.contains '[' then checkBracketed cs
  if cs.any fun c => disguised.contains c.toNat then
    refused ("netloc '" ++ String.ofList cs ++
      "' contains invalid characters under NFKC normalization")

end LintServer.Uri
