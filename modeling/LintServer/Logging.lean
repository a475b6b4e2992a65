/-
  LintServer.Logging — where log records go.

  The output carries the protocol, so records go to the error stream and, if one is named, to
  a file, which is turned over at 10 MB and kept five times.
-/

import LintServer.Json.Shape

namespace LintServer

inductive Sink where
  /-- The sinks there were before are taken away. -/
  | reset
  | errorStream (level : Json) (format : String)
  | file (path level : Json) (format rotation : String) (retention : Int)
  /-- A record about the sinks. -/
  | noted (text : String)
  deriving Repr

namespace Sink

/-- A placeholder, which stands in braces. -/
def slot (name : String) : String := "\x7b" ++ name ++ "\x7d"

def timeSlot : String := slot "time:YYYY-MM-DD HH:mm:ss"

def streamFormat : String := timeSlot ++ " | " ++ slot "level" ++ " | " ++ slot "message"

def fileFormat : String :=
  timeSlot ++ " | " ++ slot "level" ++ " | " ++ slot "name" ++ ":" ++ slot "function" ++ ":" ++
    slot "line" ++ " | " ++ slot "message"

/-- The sinks for a level, which is taken as it comes, and maybe a file; and why the file could
not be noted. -/
def setUp (level file : Json) : List Sink × Option Failure :=
  let stream := [.reset, .errorStream level streamFormat]
  if file.isTruthy then
    let sinks := stream ++ [.file file level fileFormat "10 MB" 5]
    match file.checkWritten with
    | .ok () => (sinks ++ [.noted ("Logging to " ++ file.text)], none)
    | .error f => (sinks, some f)
  else (stream, none)

end Sink

end LintServer
