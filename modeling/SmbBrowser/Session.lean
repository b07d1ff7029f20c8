import SmbBrowser.Handle
import SmbBrowser.ScratchPool
import SmbBrowser.Transcript.Playback

/-!
A session: one connection to a share, the handles that were made on it, and all that it remembers.
Every operation is a function of the session, so what a failed operation did stays done.
-/

namespace SmbBrowser

/-- The place of a tree handle in a session. -/
structure TreeRef where
  /-- The position in the session's table of trees. -/
  index : Nat
  deriving DecidableEq

/-- The place of a file handle in a session. -/
structure FileRef where
  /-- The position in the session's table of files. -/
  index : Nat
  deriving DecidableEq

/-- A share as it was connected. -/
structure ConnectedTree where
  /-- The number the server gave it. -/
  tid : TreeId
  /-- The generation that its connecting began. -/
  generation : Nat
  /-- How often the connection had been lost by then. -/
  epoch : Nat

/-- A file as it was opened. -/
structure OpenFile where
  /-- The tree it was opened on. -/
  tree : TreeRef
  /-- The name the server gave it. -/
  fid : FileId
  /-- The path it was opened under. -/
  path : String
  /-- What its opener asked for. -/
  mode : OpenMode

/-- The points at which a listing is called. -/
inductive Hook where
  | start
  | isDone
  | fetchMore
  | finish
  deriving DecidableEq

/-- One call of a listing. -/
structure HookCall where
  /-- The listing's label. -/
  listing : String
  /-- The point at which it was called. -/
  hook : Hook
  deriving DecidableEq

/-- What can pass between a client and its server. -/
inductive Passage where
  /-- A request was sent, and this is what came of it. -/
  | asked (sent : SentRequest) (answer : Except Fault Response)
  /-- The connection was given up for lost. -/
  | lost

/-- A connection to a share and everything that hangs off it. -/
structure Session where
  /-- What the client runs with. -/
  settings : Settings
  /-- The scratch buffers. -/
  pool : ScratchPool
  /-- The other side. -/
  server : Playback
  /-- The share, as `\\host\share`. -/
  sharePath : String
  /-- The domain the server reports. -/
  oemDomain : String
  /-- How often the share was connected. -/
  generation : Nat := 0
  /-- How often the connection was lost. -/
  resets : Nat := 0
  /-- The connection can be used. -/
  connected : Bool := false
  /-- The tree that was connected last, while it is not given up; nobody need know it any more. -/
  current : Option TreeRef := none
  /-- Every tree handle ever made. -/
  trees : Array (Handle ConnectedTree) := #[]
  /-- Every file handle ever made. -/
  files : Array (Handle OpenFile) := #[]
  /-- What happened so far. -/
  log : Array Event := #[]
  /-- Which listings were called so far. -/
  hooks : Array HookCall := #[]
  /-- What passed between the two sides so far. -/
  passages : Array Passage := #[]

namespace Session

/-- A session that has not connected yet. -/
def new (settings : Settings) (server : Playback) (sharePath oemDomain : String) : Session :=
  { settings, server, sharePath, oemDomain, pool := .ofSettings settings }

/-- Writes an event to the log. -/
def note (session : Session) (event : Event) : Session :=
  { session with log := session.log.push event }

/-- Writes events to the log. -/
def noteAll (session : Session) (events : List Event) : Session :=
  { session with log := session.log ++ events }

/-- Writes to the log why something failed, if it failed. -/
def noteFailure (session : Session) (event : Fault → Event) : Except Fault Unit → Session
  | .ok () => session
  | .error fault => session.note (event fault)

/-- Remembers that a listing was called. -/
def noteHook (session : Session) (listing : String) (hook : Hook) : Session :=
  { session with hooks := session.hooks.push { listing, hook } }

/-- Remembers what passed between the two sides. -/
def pass (session : Session) (passage : Passage) : Session :=
  { session with passages := session.passages.push passage }

/-- What handles see of the connection. -/
def link (session : Session) : Link := ⟨session.generation, session.connected⟩

/-- Gives the connection up for lost; every handle made on it becomes invalid. -/
def invalidate (session : Session) : Session :=
  let lost := { session with resets := session.resets + 1, connected := false }.pass .lost
  if session.connected then lost.note (.treeInvalidated session.sharePath) else lost

/-- What an answer says about the connection itself. -/
def heed (session : Session) (request : Request) (answer : Except Fault Response) : Session :=
  match answer with
  | .error (.io text) => (session.note (.exchangeFailed request.kind text)).invalidate
  | .error (.status status) =>
    if status.dropsConnection then
      (session.note (.connectionLost request.kind status)).invalidate
    else session
  | _ => session

/-- Sends a request with a scratch buffer on loan, and gives the buffer back. -/
def exchange (session : Session) (tid : Option TreeId) (request : Request) (delivery : Delivery) :
    Except Fault Response × Session :=
  let (scratch, pool) := session.pool.take
  let ((answer, event), server) := session.server.exchange tid request delivery scratch.size
  let sent : SentRequest := { tid, request, delivery, scratch := scratch.size }
  let session := ({ session with pool, server }.pass (.asked sent answer)).note event
  let session := session.heed request answer
  -- The buffer has the pool's own size, so there is nothing to log about its return.
  (answer, { session with pool := (session.pool.giveBack scratch).2 })

end Session

end SmbBrowser
