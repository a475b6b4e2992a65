/-
  LintServer.Server.Basic — the language server.

  Every message of the editor is handled as it comes. What a handler begins goes on beside
  the handlers of later messages; if it fails, the user is told. There are no documents to ask
  for before the server was set up. Documents are kept under their address with its escapes
  decoded, but looked for by the address as it was sent. After a shutdown only an exit is still
  heard.
-/

import LintServer.Exit
import LintServer.Fix.Json
import LintServer.Server.Incoming
import LintServer.Session.Step

namespace LintServer

structure Server where
  session : Session := {}
  exit : Exit := {}
  /-- Whether the editor asked for a shutdown. -/
  isDown : Bool := false
  /-- How many calls were begun. -/
  calls : Nat := 0
  /-- The requests to the editor that were answered, by number. -/
  answered : List Nat := []

namespace Server

def name : String := "eslint-bridge"
def version : String := "0.3.0"

def ofConfig (config : Config) : Server where
  session := { config, search := { eslintPath := config.eslintPath }, isOpen := false }
  exit := { delay := config.exitDelay }

def emit (es : List Effect) (s : Server) : Server := { s with session := s.session.emit es }

/-- A step of the exit, with its effects. -/
def leaving (step : Exit → Exit × List Effect) (s : Server) : Server :=
  let (exit, es) := step s.exit
  { s with exit }.emit es

/-- Work that a handler begins. -/
def begin (goal : Session.Goal) (s : Server) : Server :=
  { s with session := s.session.call s.calls goal, calls := s.calls + 1 }

/-- All that is ready is done. -/
def settle (env : Surroundings) (s : Server) : Server :=
  { s with session := s.session.settle env }

/-! ## Handlers -/

/-- The address that a document is kept under. -/
def keyOf (uri : String) : String := String.ofList (Uri.unescape uri.toList)

def document? (s : Server) (uri : String) : Option Document := s.session.documents.get? uri

/-- A handler fails at once. -/
def giveUp (f : Failure) (s : Server) : Server := s.emit [.gaveUp f]

/-- What a handler does that needs documents to ask for. -/
def whenOpen (handler : Server → Server) (s : Server) : Server :=
  if s.session.isOpen then handler s else s.giveUp Session.notOpen

/-- The code of a failure inside the server. -/
def internalError : Int := -32603

/-- The code of a request of no known method. -/
def unknownMethod : Int := -32601

/-- The answer to a request, or why there is none. -/
def reply (id : Json) (result : Except Failure Json) (s : Server) : Server :=
  match result with
  | .ok v => s.emit [.answered id v]
  | .error f => s.emit [.refused id internalError f.named]

def isSet (text : Option String) : Bool := text.any (!·.isEmpty)

/-- The folder of the workspace: a path wins over an address, and an empty one is none. -/
def rootOf (rootPath rootUri : Option String) : Except Failure (Option String) :=
  if isSet rootPath then .ok rootPath
  else if isSet rootUri then rootUri.mapM Uri.toPath
  else .ok none

/-- Whether there is a workspace with such a root: its address has to be one, and a path that
comes without an address has to have one. -/
def checkRoot (rootPath rootUri : Option String) : Except Failure Unit :=
  match rootUri, rootPath with
  | some uri, _ => (Uri.toPath uri).map fun _ => ()
  | none, some path => (Uri.ofPath path).map fun _ => ()
  | none, none => .ok ()

def info : Json := .obj [("name", .str name), ("version", .str version)]

/-- The server begins with a workspace in which no document is open. -/
def begun (options : Json) (root : Option String) (s : Server) : Server :=
  let search := s.session.search
  let root := root.orElse fun _ => search.workspaceRoot
  let search := { search with nodePath := options.child "nodePath", workspaceRoot := root }
  { s with session := { s.session with search, documents := [], isOpen := true } }.emit
    [.info ("Initialized for workspace " ++ root.getD "None")]

def setUp (id options : Json) (rootPath rootUri : Option String) (s : Server) : Server :=
  match (do checkRoot rootPath rootUri; rootOf rootPath rootUri) with
  | .error f => s.reply id (.error f)
  | .ok root => (s.begun options root).reply id (.ok (.obj [("serverInfo", info)]))

/-- A document is kept under its decoded address. -/
def keep (key : String) (d : Document) (s : Server) : Server :=
  { s with session.documents := Table.put key d s.session.documents }

/-- Validate a document that was opened, with a linter that is looked for if it was not
before. -/
def validateOpened (uri : String) (s : Server) : Server :=
  match s.document? uri with
  | none => s
  | some d =>
    if !s.session.config.supports d.language then s
    else
      let s := { s with session := s.session.ensure d }
      if s.session.settings.onType then s.begin (.validate d) else s

/-- A document is kept, unless its address is none, and validated. -/
def didOpen (d : Document) (s : Server) : Server :=
  match d.path with
  | .error f => s.giveUp f
  | .ok _ => (s.keep (keyOf d.uri) d).validateOpened d.uri

/-- Validate a document if that is to be done now and the document is not to be ignored. -/
def revalidate (uri : String) (now : Bool) (s : Server) : Server :=
  match s.document? uri with
  | none => s
  | some d => if !now || s.session.ignores d then s else s.begin (.validate d)

/-- The text of a document after full changes, each with the new version. -/
def changed (version : Int) (texts : List Text) (d : Document) : Document :=
  texts.foldl (fun d text => { d with version, text }) d

/-- A document that is not open cannot be changed. -/
def didChange (uri : String) (version : Int) (texts : List Text) (s : Server) : Server :=
  let key := keyOf uri
  let revalidated := fun (s : Server) => s.revalidate uri s.session.settings.onType
  if texts.isEmpty then revalidated s
  else match s.document? key with
    | none => s.giveUp (.saying .missingKey key)
    | some d => revalidated (s.keep key (changed version texts d))

def didSave (uri : String) (s : Server) : Server := s.revalidate uri s.session.settings.onSave

def didClose (uri : String) (s : Server) : Server :=
  let s := { s with session.documents := s.session.documents.closed (keyOf uri) }
  if s.session.library.has uri then
    { s with session := s.session.forgotten uri }.emit [.told (.diagnostics uri [])]
  else s

def didChangeConfiguration (settings : Json) (s : Server) : Server :=
  let s := { s with session.settings := .ofClient settings }
  if s.session.settings.enable then s.begin .validateAll else s

/-- The commands offered for an address, none if there is no such document. -/
def commandsAt (uri : String) (keys : List String) (s : Server) : Except Failure (List Command) :=
  if !s.session.isOpen then .error Session.notOpen
  else match s.document? uri with
    | none => .ok []
    | some d => Command.forDocument (some d) (s.session.registry.lookup uri) keys

def codeAction (id : Json) (uri : String) (keys : List String) (s : Server) : Server :=
  s.reply id ((s.commandsAt uri keys).map fun commands => .arr (commands.map Command.toJson))

/-- The address in the parameters of a request for all fixes, which may be spelled in two
ways. -/
def addressIn (params : Json) : Json :=
  (params.path ["textDocument", "uri"]).orElse (params.path ["text_document", "uri"])

/-- All fixes of the document with an address of any shape, none if there is no such document. -/
def fixesAt (address : Json) (s : Server) : Except Failure (Option AllFixes) :=
  if !address.isTruthy then .ok none
  else if !s.session.isOpen then .error Session.notOpen
  else match address with
    | .arr _ => Json.wrong .wrongType "unhashable type: 'list'"
    | .str uri =>
      match s.document? uri with
      | none => .ok none
      | some d => AllFixes.ofTable (some d) (s.session.registry.lookup uri)
    | _ => .ok none

def allFixes (id params : Json) (s : Server) : Server :=
  s.reply id ((s.fixesAt (addressIn params)).map fun all => (all.map AllFixes.toJson).getD .null)

/-- Everything is forgotten, and whatever handlers had begun is dropped. -/
def shutdown (id : Json) (s : Server) : Server :=
  { s with session := s.session.shutdown.dropWork, isDown := true }.emit [.answered id .null]

def exitCode (s : Server) : Int := if s.isDown then 0 else 1

def leave (s : Server) : Server :=
  (s.leaving (Exit.called s.exitCode)).emit [.closed, .exited s.exitCode]

/-- How many requests the editor was sent. -/
def requests (s : Server) : Nat :=
  ((s.session.history.filterMap Effect.message?).filter Message.isRequest).length

def response (number : Nat) (failure : Option String) (s : Server) : Server :=
  if number = 0 ∨ s.requests < number ∨ s.answered.contains number then s
  else
    { s with answered := number :: s.answered }.emit
      (failure.map fun text => Effect.debug ("Client request failed: " ++ text)).toList

def handle (s : Server) : Incoming → Server
  | .setUp id options rootPath rootUri => s.setUp id options rootPath rootUri
  | .initialized => s.leaving (Exit.install [Exit.terminationSignal])
  | .didOpen d => s.whenOpen (didOpen d)
  | .didChange uri version texts => s.whenOpen (didChange uri version texts)
  | .didSave uri => s.whenOpen (didSave uri)
  | .didClose uri => s.whenOpen (didClose uri)
  | .didChangeConfiguration settings => s.didChangeConfiguration settings
  | .didChangeWatchedFiles uris => s.begin (.reconsider uris)
  | .codeAction id uri keys => s.codeAction id uri keys
  | .allFixes id params => s.allFixes id params
  | .shutdown id => s.shutdown id
  | .exit => s.leave
  | .execute id command => s.reply id (.error (.saying .missingKey command))
  | .unknown id method => s.emit [.refused id unknownMethod ("Method Not Found: " ++ method)]
  | .response number failure => s.response number failure

/-- Whether a message is still heard. -/
def hears (s : Server) : Incoming → Bool
  | .exit => true
  | _ => !s.isDown

/-- A message of the editor, and the work that follows. -/
def receive (env : Surroundings) (m : Incoming) (s : Server) : Server :=
  if s.hears m then (s.handle m).settle env else s

/-- A signal arrives; how that fails, if it does. -/
def signal (n : Int) (s : Server) : Server × Option Failure :=
  (s.leaving fun e => (e.signal n).1, (s.exit.signal n).2)

/-- Time passes; how that fails, if it does. -/
def advance (seconds : Delay) (s : Server) : Server × Option Failure :=
  (s.leaving fun e => (e.advance seconds).1, (s.exit.advance seconds).2)

/-- A lint run that was held under a name ends; whether there was one. -/
def release (env : Surroundings) (name : String) (s : Server) : Server × Bool :=
  let (session, found) := s.session.release name
  ({ s with session }.settle env, found)

/-- A resolution that waited goes on; whether there was one. -/
def releaseLibrary (env : Surroundings) (uri : String) (s : Server) : Server × Bool :=
  let (session, found) := s.session.releaseLibrary uri
  ({ s with session }.settle env, found)

end Server

/-- The world as a server sees it, in which the linters of some documents are slow to find. -/
def Surroundings.ofWorld (w : World) (slow : List String) : Surroundings where
  find search d := search.resolve w d
  waits := slow.contains
  build _ := .ok ()
  run engine content file options := Engine.run w engine content (some file) (.obj options)

end LintServer
