/-
  LintServer.Failure.System — failures that an operating system reports.

  Two details are a number and what it means; up to three more may follow, the first and the
  last of them files that the failure is about. Some numbers make a failure of a kind of its
  own. A failure about files keeps only its number and meaning as details. With another count
  of details the failure says nothing but them.

  A failure of something that would have had to wait can have a count in place of the file.
-/

import LintServer.Json.Shape

namespace LintServer.Failure

def systemKind : Kind := .outside "OSError"

def wouldWait : Kind := .outside "BlockingIOError"

/-- The kinds that belong to numbers. -/
def numbered : List (Int × Kind) :=
  [(1, .denied), (2, .outside "FileNotFoundError"), (3, .outside "ProcessLookupError"),
   (4, .outside "InterruptedError"), (10, .outside "ChildProcessError"), (11, wouldWait),
   (13, .denied), (17, .outside "FileExistsError"), (20, .outside "NotADirectoryError"),
   (21, .outside "IsADirectoryError"), (32, .outside "BrokenPipeError"),
   (103, .outside "ConnectionAbortedError"), (104, .outside "ConnectionResetError"),
   (108, .outside "BrokenPipeError"), (110, .outside "TimeoutError"),
   (111, .outside "ConnectionRefusedError"), (114, wouldWait), (115, wouldWait)]

/-- The kind of a failure with the given number, if that is one. -/
def kindOfNumber (number : Json) : Kind :=
  match number.asNumber with
  | .int n => (numbered.lookup n).getD systemKind
  | _ => systemKind

/-- Refuses what cannot be a count. -/
def checkCount : Json → Except Failure Unit
  | .float _ =>
    .error (.saying .wrongType "'float' object cannot be interpreted as an integer")
  | .int n =>
    if -0x8000000000000000 ≤ n ∧ n < 0x8000000000000000 then .ok ()
    else .error (.saying .badValue "cannot fit 'int' into an index-sized integer")
  | _ => .ok ()

/-- The files that the details after the meaning name. -/
def filesIn (kind : Kind) : List Json → Except Failure (List Json)
  | [] => .ok []
  | file :: rest =>
    if file.isNull then .ok []
    else if kind = wouldWait ∧ file.isNumber then (checkCount file).map fun _ => []
    else .ok (file :: ((rest.drop 1).filter (!·.isNull)))

def ofSystem (details : List Json) : Except Failure Failure :=
  match details with
  | number :: meaning :: rest =>
    if 3 < rest.length then .ok { kind := systemKind, details }
    else do
      let kind := kindOfNumber number
      let files ← filesIn kind rest
      let about := if files.isEmpty then "" else ": " ++ Text.joined " -> " (files.map Json.shown)
      return {
        kind
        details := if files.isEmpty then details else [number, meaning]
        words := some ("[Errno " ++ number.text ++ "] " ++ meaning.text ++ about) }
  | details => .ok { kind := systemKind, details }

/-- The failure with a number and its meaning that is about one file. -/
def aboutFile (number : Int) (meaning file : String) : Failure where
  kind := kindOfNumber (.int number)
  details := [.int number, .str meaning]
  words := some ("[Errno " ++ toString number ++ "] " ++ meaning ++ (": " ++ Text.quoted file))

theorem ofSystem_aboutFile (number : Int) (meaning file : String) :
    ofSystem [.int number, .str meaning, .str file] = .ok (aboutFile number meaning file) := by
  have hfiles : filesIn (kindOfNumber (.int number)) [.str file] = .ok [.str file] := by
    rw [filesIn, if_neg (show ¬ (Json.str file).isNull = true from nofun),
      if_neg fun h => Bool.false_ne_true h.2]
    rfl
  simp only [ofSystem, hfiles]
  rfl

end LintServer.Failure
