/-
  LintServer.Engine.Failing — what the linter says when it fails.

  The linter opens its report of a crash with a banner, at the beginning of a line: a fixed
  sentence, then blanks, then maybe a line with its version, then blanks. Banners are taken
  out wherever they stand, and the blanks around what is left. What is left tells whether a
  configuration was missing.
-/

import LintServer.Failure

namespace LintServer.Engine

def banner : List Char := "Oops! Something went wrong! :(".toList

def versionMark : List Char := "ESLint: ".toList

/-- What follows a line with the linter's version; without such a line, everything. -/
def afterVersion (cs : List Char) : List Char :=
  match Text.after? versionMark cs with
  | none => cs
  | some line =>
    match line.dropWhile (· != '\n') with
    | _ :: rest => rest
    | [] => cs

/-- What follows a banner at the front of the characters. -/
def afterBanner? (cs : List Char) : Option (List Char) :=
  (Text.after? banner cs).map fun rest =>
    (afterVersion (rest.dropWhile Text.isBlank)).dropWhile Text.isBlank

/-- The characters without banners; `atStart` says that a line begins here. -/
def withoutBanners : (fuel : Nat) → (atStart : Bool) → List Char → List Char
  | 0, _, cs => cs
  | _ + 1, _, [] => []
  | fuel + 1, atStart, c :: cs =>
    match if atStart then afterBanner? (c :: cs) else none with
    | some rest =>
      let taken := (c :: cs).take (cs.length + 1 - rest.length)
      withoutBanners fuel (taken.getLast? == some '\n') rest
    | none => c :: withoutBanners fuel (c == '\n') cs

def clean (text : String) : String :=
  let cs := Text.trimChars text.toList
  String.ofList (Text.trimChars (withoutBanners (cs.length + 1) true cs))

def noConfigMarks : List String :=
  [Failure.noConfigMessage, "ESLint couldn't find a configuration file"]

def failureOf (text : String) : Failure :=
  let message := clean text
  if noConfigMarks.any (fun mark => Text.occursIn mark.toList message.toList) then
    .noConfig message
  else .lint message

end LintServer.Engine
