/-
  LintServer.Main — the program.

  The first line of the input describes the world in JSON; an empty line stands for a world
  with nothing in it. A server then takes one message of the editor per line, and writes one
  per line, until it is told to exit or the input ends.
-/

import LintServer.CommandLine.Basic
import LintServer.Server.Outgoing
import LintServer.World.Json

namespace LintServer

def lineText : CommandLine.Line → String
  | .text s => s
  | .row cells => Text.joined " | " cells

def outputLines : CommandLine.Output → List String
  | .lines ls => ls.map lineText
  | .json v => [v.write]
  | .usage => [CommandLine.usage]

/-- What is written to the error stream. -/
def errorLines (o : CommandLine.Outcome) : List String :=
  (if o.errors.isEmpty then [] else [o.errors]) ++
    (o.raised.map fun f => f.kind.name ++ ": " ++ f.text).toList

def exitCode? : Effect → Option Int
  | .exited code => some code
  | _ => none

/-- The server after a line of input, what it sends, and the code if it exits. -/
def answered (w : World) (s : Server) (line : String) : Server × List String × Option Int :=
  match (Json.read line).toOption.bind Incoming.ofJson? with
  | none => (s, [], none)
  | some m =>
    let after := s.receive (.ofWorld w []) m
    let es := after.session.history.drop s.session.history.length
    (after, (Outgoing.all s.requests es).filterMap fun e => e.2.map Json.write,
      es.findSome? exitCode?)

partial def serving (input output : IO.FS.Stream) (w : World) (s : Server) : IO Int := do
  let line ← input.getLine
  if line.isEmpty then return 0
  let (s, sent, exit) := answered w s line
  sent.forM output.putStrLn
  output.flush
  match exit with
  | some code => return code
  | none => serving input output w s

end LintServer

open LintServer in
def main (args : List String) : IO UInt32 := do
  let input ← IO.getStdin
  let output ← IO.getStdout
  let described ← input.getLine
  let w := World.ofJson ((Json.read described).toOption.getD .null)
  let o := CommandLine.run w args
  (outputLines o.output).forM output.putStrLn
  (errorLines o).forM (← IO.getStderr).putStrLn
  match o.started with
  | none => return o.code.toNat.toUInt32
  | some config => return (← serving input output w (Server.ofConfig config)).toNat.toUInt32
