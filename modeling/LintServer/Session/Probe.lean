/-
  LintServer.Session.Probe — does a broken configuration file lint again?

  A file is probed by linting nothing, under a name beside it, with the engine that found it
  broken. A file in no folder is never probed. When configuration files have changed, missing
  configurations will be told again, each changed file known to be broken is probed and
  forgotten if it lints again, and then all open documents are validated.
-/

import LintServer.Session.Pass

namespace LintServer.Session

/-- The file under whose name a configuration file is probed. -/
def probeFile? (s : Session) (file : String) : Option String :=
  let folder := Path.folderOf file
  if folder.isEmpty then none else some (Path.inFolder folder s.config.probeName)

def stillFails (file : String) (f : Failure) : Effect :=
  .debug (file ++ " still fails: " ++ f.text)

/-- A probe for its own sake has ended. -/
def endProbe (call : Nat) (file : String) (outcome : Except Failure (Option Report))
    (s : Session) : Session :=
  match outcome with
  | .error f => (s.emit [stillFails file f]).done call (.ok (.truth false))
  | .ok _ => s.done call (.ok (.truth true))

def beginProbe (env : Surroundings) (call : Nat) (file engine : String) (s : Session) : Session :=
  match s.probeFile? file with
  | none => s.done call (.ok (.truth false))
  | some name =>
    let (s, run) := s.invoke env engine "" name
    match run.held with
    | some name => s.keep name (.probe call file) run
    | none => s.endProbe call file run.outcome

/-- A changed file was probed. -/
def reconsidered (file : String) (outcome : Except Failure (Option Report)) (s : Session) :
    Session :=
  match outcome with
  | .error f => s.emit [stillFails file f]
  | .ok _ =>
    { s with reported.broken := Table.erase s.reported.broken file }.emit
      [.info ("Configuration file " ++ file ++ " is valid again")]

/-- The engine with which a changed file is probed, and the name it is probed under. -/
def probeOf? (s : Session) (file : String) : Option (String × String) := do
  return (← Table.get? s.reported.broken file, ← s.probeFile? file)

/-- The changed files are probed one after another; then all documents are validated. -/
def reconsider (env : Surroundings) (call : Nat) : List String → Session → Session
  | [], s => s.beginAll call
  | uri :: rest, s =>
    match Uri.toPath uri with
    | .error f => s.done call (.error f)
    | .ok file =>
      match s.probeOf? file with
      | none => reconsider env call rest s
      | some (engine, name) =>
        let (s, run) := s.invoke env engine "" name
        match run.held with
        | some name => s.keep name (.reconsider call file rest) run
        | none => reconsider env call rest (s.reconsidered file run.outcome)

def forgetNoConfig (s : Session) : Session := { s with reported.noConfig := [] }

end LintServer.Session
