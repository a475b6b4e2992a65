/-
  LintServer.Validation.Classify — what a failed lint run means, and what the user is told.

  Classifiers are asked in order, and the first that knows the failure decides the status. A
  missing configuration is told once per document, and a broken configuration file once per
  file, until what was told is forgotten. A broken file that is open in the editor is only
  logged. Any other failure is shown each time; a pass over many documents leaves those to
  its end.
-/

import LintServer.Effect
import LintServer.Validation.ConfigMessage

namespace LintServer

/-- What the user has been told: documents without a configuration and broken configuration
files, with the engine that found out. -/
structure Reported where
  noConfig : List (String × String) := []
  broken : List (String × String) := []
  deriving DecidableEq, Repr, Inhabited

inductive Classifier where
  | noConfig
  | configSyntax
  | generic
  deriving DecidableEq, Repr

/-- A failed lint run of a document. -/
structure Failed where
  document : Document
  engine : String
  failure : Failure
  deriving Repr

/-- What comes of a failed run: no status if it was not recognised, a failure if telling the
user failed. -/
structure Verdict where
  reported : Reported
  effects : List Effect
  status : Except Failure (Option Status)

namespace Classifier

def name : Classifier → String
  | .noConfig => "no-config"
  | .configSyntax => "config-syntax"
  | .generic => "generic"

/-- For one document. -/
def single : List Classifier := [.noConfig, .configSyntax, .generic]

/-- For many documents. -/
def batch : List Classifier := [.noConfig, .configSyntax]

/-- What the user is told; there has to be a path for the document. -/
def userMessage (x : Failed) : Except Failure String :=
  x.document.path.map x.failure.userMessage

def unrecognised (r : Reported) : Verdict := ⟨r, [], .ok none⟩

/-- The verdict with a message for the user, or without one if there can be none. -/
def telling (r : Reported) (x : Failed) (tell : String → Verdict) : Verdict :=
  match userMessage x with
  | .error f => ⟨r, [], .error f⟩
  | .ok text => tell text

def judgeNoConfig (r : Reported) (x : Failed) : Verdict :=
  let uri := x.document.uri
  if !x.failure.isNoConfig then unrecognised r
  else if Table.has r.noConfig uri then ⟨r, [], .ok (some .warn)⟩
  else telling r x fun text =>
    ⟨{ r with noConfig := Table.put uri x.engine r.noConfig }, [.told (.noConfig text uri)],
      .ok (some .warn)⟩

/-- A broken file whose path has no address is told of, and then judging fails. -/
def judgeConfigSyntax (ds : Documents) (r : Reported) (x : Failed) : Verdict :=
  match ConfigMessage.ofFailure? x.failure with
  | none => unrecognised r
  | some file =>
    if Table.has r.broken file then ⟨r, [], .ok (some .warn)⟩
    else telling r x fun text =>
      let logged := [.warning text, .told (.logWarning text)]
      match Uri.ofPath file with
      | .error f => ⟨r, logged, .error f⟩
      | .ok uri =>
        let shown := if (ds.get? uri).isNone then [.told (.showInfo text)] else []
        ⟨{ r with broken := Table.put file x.engine r.broken }, logged ++ shown, .ok (some .warn)⟩

def judgeGeneric (r : Reported) (x : Failed) : Verdict :=
  telling r x fun text =>
    ⟨r, [.error ("Validating " ++ x.document.uri ++ " failed: " ++ text), .told (.showError text)],
      .ok (some .error)⟩

def judge (c : Classifier) (ds : Documents) (r : Reported) (x : Failed) : Verdict :=
  match c with
  | .noConfig => judgeNoConfig r x
  | .configSyntax => judgeConfigSyntax ds r x
  | .generic => judgeGeneric r x

def decided (c : Classifier) (d : Document) (s : Status) : Effect :=
  .debug (d.uri ++ ": " ++ c.name ++ " error -> " ++ s.name)

/-- The verdict of the first classifier of the chain that recognises the failure. -/
def classify (ds : Documents) (r : Reported) (x : Failed) : List Classifier → Verdict
  | [] => unrecognised r
  | c :: rest =>
    let v := c.judge ds r x
    match v.status with
    | .error _ => v
    | .ok (some s) => { v with effects := v.effects ++ [decided c x.document s] }
    | .ok none => classify ds r x rest

end Classifier

end LintServer
