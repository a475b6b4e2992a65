/-
  LintServer.Validation.ConfigMessage — messages that name a broken configuration file.

  The linter reports one in three ways, tried in this order:
  - the file could not be read: its path stands on the line of that sentence, and an error on
    the next line;
  - a rule is configured wrongly: the path and a colon stand on a line of their own, and the
    next line with something on it names the rule;
  - a module was not found: the path stands behind the words that tell where it was asked for.
  A path never spans lines. Lines end in a line feed; a carriage return belongs to its line.
-/

import LintServer.Failure

namespace LintServer.ConfigMessage

/-- The first place in the text, going from left to right, at which `at?` finds something. -/
def search (at? : List Char → Option (List Char)) : List Char → Option (List Char)
  | [] => at? []
  | c :: cs =>
    match at? (c :: cs) with
    | some found => some found
    | none => search at? cs

def line (cs : List Char) : List Char := cs.takeWhile (· != '\n')

/-- What follows the line break after the first line. -/
def afterLine? (cs : List Char) : Option (List Char) :=
  match cs.dropWhile (· != '\n') with
  | _ :: rest => some rest
  | [] => none

def blanks (cs : List Char) : Nat := (cs.takeWhile Text.isBlank).length

/-- Whether an error stands at the front: its word and at least one blank. -/
def isError (cs : List Char) : Bool :=
  match Text.after? "Error:".toList cs with
  | some rest => 0 < blanks rest
  | none => false

/-- The rest of the line after `count` blanks, or fewer but at least one, when an error
stands on the next line. -/
def unreadable? (cs : List Char) : (count : Nat) → Option (List Char)
  | 0 => none
  | count + 1 =>
    let rest := cs.drop (count + 1)
    match afterLine? rest with
    | some next => if isError next then some (line rest) else unreadable? cs count
    | none => unreadable? cs count

def unreadableFile? (cs : List Char) : Option (List Char) := do
  let rest ← Text.after? "Cannot read config file:".toList cs
  unreadable? rest (blanks rest)

/-- The first line without its colon, when what follows names a wrongly configured rule. -/
def misconfigured? (cs : List Char) : Option (List Char) := do
  let next ← afterLine? cs
  let rest ← Text.after? "Configuration for rule \"".toList (next.dropWhile Text.isBlank)
  let head := line cs
  if head.getLast? == some ':' && Text.occursIn "\" is ".toList (line rest) then
    some head.dropLast
  else none

/-- Behind the name of a module, the rest of the line that tells where it was asked for. -/
def missingModule? (cs : List Char) : Option (List Char) := do
  let name ← Text.after? "Cannot find module '".toList cs
  let rest ← Text.after? "'\nReferenced from:".toList (name.dropWhile (· != '\''))
  if blanks rest = 0 then none else some (line (rest.dropWhile Text.isBlank))

/-- The path of the configuration file that a message calls broken. -/
def file? (message : String) : Option String :=
  let cs := message.toList
  (search unreadableFile? cs <|> search misconfigured? cs <|> search missingModule? cs).map
    String.ofList

/-- The path of the configuration file that a failure calls broken. -/
def ofFailure? (f : Failure) : Option String :=
  match f.raw with
  | none => none
  | some message => if message.isEmpty then none else file? message

end LintServer.ConfigMessage
