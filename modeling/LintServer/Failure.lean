/-
  LintServer.Failure — what can go wrong, and how it is told.

  A failure has a kind and the details it was raised with. The linter's own failures also
  carry a message, which may span several lines, and a template that tags failures with a
  known meaning. What an engine raises can come from outside and carry anything in these
  places, so they hold data of any shape.
-/

import LintServer.Json.Text
import LintServer.Text.Blank

namespace LintServer

inductive Failure.Kind where
  /-- The linter could not lint. -/
  | lint
  /-- The linter has no configuration for the file. -/
  | noConfig
  /-- The engine of a document could not be loaded. -/
  | libraryLoad
  /-- No executable was found for a document. -/
  | unresolved
  /-- A field of the configuration has a value it cannot have. -/
  | badConfig
  | badValue
  | wrongType
  | missingKey
  | missingField
  | outOfRange
  | undecodable
  | unencodable
  /-- Values are nested too deeply. -/
  | tooDeep
  /-- Something was asked for before it was there. -/
  | notReady
  | exhausted
  | denied
  | cancelled
  /-- Raised outside the program, under a name of its own. -/
  | outside (name : String)
  /-- Raised, though it is no failure at all. -/
  | thing
  deriving DecidableEq, Repr, Inhabited

/-- The name under which a kind is reported. -/
def Failure.Kind.name : Failure.Kind → String
  | .lint => "LintError"
  | .noConfig => "NoConfigError"
  | .libraryLoad => "LibraryLoadError"
  | .unresolved => "ModuleResolutionError"
  | .badConfig => "ValueError"
  | .badValue => "ValueError"
  | .wrongType => "TypeError"
  | .missingKey => "KeyError"
  | .missingField => "AttributeError"
  | .outOfRange => "OverflowError"
  | .undecodable => "UnicodeDecodeError"
  | .unencodable => "UnicodeEncodeError"
  | .tooDeep => "RecursionError"
  | .notReady => "RuntimeError"
  | .exhausted => "StopIteration"
  | .denied => "PermissionError"
  | .cancelled => "CancelledError"
  | .outside name => name
  | .thing => "object"

/-- The kind reported under a name; a name of no kind is one from outside. -/
def Failure.Kind.ofName (name : String) : Failure.Kind :=
  match [Failure.Kind.lint, .noConfig, .libraryLoad, .unresolved, .badValue, .wrongType,
      .missingKey, .missingField, .outOfRange, .undecodable, .unencodable, .tooDeep, .notReady,
      .exhausted, .denied, .cancelled, .thing].find? (·.name == name) with
  | some kind => kind
  | none => .outside name

structure Failure where
  kind : Failure.Kind
  details : List Json := []
  message : Option Json := none
  template : Option Json := none
  /-- The failure in words, where they are not made of the details. -/
  words : Option String := none
  deriving Repr, Inhabited

namespace Failure

def noConfigTemplate : String := "no-config-found"
def noConfigMessage : String := "No ESLint configuration found."

/-- A failure that says one thing. -/
def saying (kind : Kind) (text : String) : Failure := { kind, details := [.str text] }

/-- A failure of the linter, with a message and a template of any shape. -/
def lintWith (message template : Json) : Failure :=
  { kind := .lint, details := [message], message := some message, template := some template }

def noConfigWith (message : Json) : Failure :=
  { lintWith message (.str noConfigTemplate) with kind := .noConfig }

def lint (message : String) (template : Json := .null) : Failure :=
  lintWith (.str message) template

def noConfig (message : String := noConfigMessage) : Failure := noConfigWith (.str message)

def libraryLoad (message : String) : Failure := saying .libraryLoad message

def unresolved (searched : List String) : Failure :=
  saying .unresolved ("Failed to resolve the eslint executable. Searched: " ++
    (if searched.isEmpty then "<nowhere>" else Text.joined ", " searched))

/-- Whether the failure is one of the linter's own. -/
def isLint (f : Failure) : Bool := f.kind == .lint || f.kind == .noConfig

/-- Whether it is about finding or loading an engine. -/
def isLibraryLoad (f : Failure) : Bool := f.kind == .libraryLoad || f.kind == .unresolved

def isCancelled (f : Failure) : Bool := f.kind == .cancelled

/-- The details in words: one by itself, several in brackets. -/
def detailText (kind : Kind) : List Json → String
  | [] => ""
  | [detail] => if kind = .missingKey then detail.shown else detail.text
  | details => "(" ++ Text.joined ", " (details.map Json.shown) ++ ")"

/-- The failure in words. -/
def text (f : Failure) : String := f.words.getD (detailText f.kind f.details)

/-- The failure in words, after the name of its kind. -/
def named (f : Failure) : String := f.kind.name ++ ": " ++ f.text

/-- The unprocessed message, if the failure carries one: its message when that is a text,
else its first detail when that is one. -/
def raw (f : Failure) : Option String :=
  match f.message with
  | some (.str message) => some message
  | _ =>
    if f.kind = .thing then none
    else match f.details with
      | .str detail :: _ => some detail
      | _ => none

/-- What there is when it is raised: what is no failure at all cannot be. -/
def raised (f : Failure) : Failure :=
  if f.kind = .thing then saying .wrongType "exceptions must derive from BaseException" else f

/-- Each line end becomes one space, a carriage return before a line feed going with it. -/
def onOneLine : List Char → List Char
  | [] => []
  | '\r' :: '\n' :: cs => ' ' :: onOneLine cs
  | '\n' :: cs => ' ' :: onOneLine cs
  | c :: cs => c :: onOneLine cs

def cliMark : String := "CLI: "

/-- The message for the user: on one line, without the mark of the linter's command line. A
failure without a message gets one that names the file. -/
def userMessage (f : Failure) (file : String) : String :=
  match f.raw with
  | none => "An unknown error occurred while validating file: " ++ file
  | some message =>
    let line := onOneLine message.toList
    String.ofList ((Text.after? cliMark.toList line).getD line)

/-- Whether the failure says that the linter has no configuration. -/
def isNoConfig (f : Failure) : Bool :=
  (match f.template with
    | some (.str t) => t == noConfigTemplate
    | _ => false) || f.raw == some noConfigMessage

end Failure

end LintServer
