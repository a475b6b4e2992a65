/-
  LintServer.Effect — everything the server does that can be seen from outside.

  The history of a run is the list of its effects, in the order they happened.
-/

import LintServer.Config.Basic
import LintServer.Message

namespace LintServer

inductive Level where
  | debug
  | info
  | warning
  | error
  deriving DecidableEq, Repr

def Level.name : Level → String
  | .debug => "DEBUG"
  | .info => "INFO"
  | .warning => "WARNING"
  | .error => "ERROR"

inductive Effect where
  | told (message : Message)
  | logged (level : Level) (text : String)
  /-- A request of the editor was answered. -/
  | answered (id result : Json)
  /-- A request of the editor was refused, with a code and a reason. -/
  | refused (id : Json) (code : Int) (reason : String)
  /-- What a message of the editor had begun has failed. -/
  | gaveUp (failure : Failure)
  /-- A lint engine was called. -/
  | linted (engine : String) (content : Text) (file : String) (options : List (String × Json))
  /-- A program was started, or was to be started. -/
  | launched (command : List String) (folder : Option String)
  /-- A program was given its input. -/
  | fed (input : Text)
  /-- The linter of a document was looked for, for an entry of the library. -/
  | searched (entry : Nat) (uri : String)
  | built (path : String)
  | loaded (path : String)
  | unloaded (uri : String) (failure : Failure)
  | scheduled (delay : Delay)
  | slept (delay : Delay)
  /-- A handler for a signal was installed. -/
  | handled (signal : Int)
  | terminated (code : Int)
  | closed
  | exited (code : Int)
  deriving Repr

namespace Effect

def debug (text : String) : Effect := .logged .debug text
def info (text : String) : Effect := .logged .info text
def warning (text : String) : Effect := .logged .warning text
def error (text : String) : Effect := .logged .error text

/-- What an effect tells the editor of a running server: of a library, that it was loaded or
that there is none, and of work, that it failed. -/
def message? : Effect → Option Message
  | .told m => some m
  | .loaded path => some (.logInfo ("ESLint library loaded from: " ++ path))
  | .unloaded uri _ => some (.noLibrary uri)
  | .gaveUp f => some (.showError ("Error in server: " ++ f.named))
  | _ => none

/-- The log record of an effect. -/
def record? : Effect → Option (Level × String)
  | .logged level text => some (level, text)
  | _ => none

end Effect

end LintServer
