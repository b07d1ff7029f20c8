import SmbBrowser.Session

/-!
Tree handles: the first acquisition connects the share, further ones share the tree, and the last
release disconnects it unless its connection was lost before.
-/

namespace SmbBrowser.Session

/-- The handle at a place. -/
def tree? (session : Session) (tree : TreeRef) : Option (Handle ConnectedTree) :=
  session.trees[tree.index]?

/-- Stores a handle at its place. -/
def putTree (session : Session) (tree : TreeRef) (handle : Handle ConnectedTree) : Session :=
  { session with trees := session.trees.setIfInBounds tree.index handle }

/-- A tree as it is named in the log. -/
def describeTree (session : Session) (tree : ConnectedTree) : String :=
  "tree " ++ session.sharePath ++ " tid=" ++ tree.tid.display

/-- Gives a tree up, unless a later one has taken its place. -/
def detach (session : Session) (generation : Nat) : Session :=
  if session.generation = generation then { session with current := none, connected := false }
  else session

/-- Gives a tree back to the server; after a lost connection there is nothing to give back. -/
def disconnect (tree : ConnectedTree) (session : Session) : Except Fault Unit × Session :=
  let (result, session) :=
    if session.resets = tree.epoch then
      let (answer, session) := session.exchange (some tree.tid) .treeDisconnect .cleanup
      (answer.map fun _ => (), session)
    else (.ok (), session.note (.staleDisconnect tree.tid))
  let session := session.detach tree.generation
  (result, session.note (.treeDisconnected session.sharePath tree.tid))

/-- Where a tree handle lives. -/
def treeHome (tree : TreeRef) : Handle.Home ConnectedTree Session where
  put handle session := session.putTree tree handle
  note event session := session.note event
  describe resource session := session.describeTree resource
  close := disconnect

/-- The handle is open and held, on the connection that it was made on. -/
def isTreeValid (session : Session) (tree : TreeRef) : Bool :=
  (session.tree? tree).any (·.isValid session.link)

/-- Somebody still knows the handle. -/
def isTreeKnown (session : Session) (tree : TreeRef) : Bool :=
  (session.tree? tree).any fun handle => 0 < handle.keepers

/-- One more reference to a tree, held by one more place. -/
def acquireTree (session : Session) (tree : TreeRef) : Except Fault Unit × Session :=
  match session.tree? tree with
  | none => (.error .handleClosed, session)
  | some handle =>
    match handle.acquire with
    | .error fault => (.error fault, session)
    | .ok handle => (.ok (), session.putTree tree handle)

/-- Gives one reference to a tree back. -/
def releaseTree (session : Session) (tree : TreeRef) : Except Fault Unit × Session :=
  match session.tree? tree with
  | none => (.ok (), session)
  | some handle => handle.release (treeHome tree) session

/-- One more place that knows a tree, without a reference of its own. -/
def keepTree (session : Session) (tree : TreeRef) : Session :=
  match session.tree? tree with
  | none => session
  | some handle => session.putTree tree handle.keep

/-- One place fewer that knows a tree; a tree that is held but no longer known is reported. -/
def forgetTree (session : Session) (tree : TreeRef) : Session :=
  match session.tree? tree with
  | none => session
  | some handle =>
    let handle := handle.forget
    let session := session.putTree tree handle
    if handle.keepers = 0 && handle.isLeaked then
      session.note
        (.handleLeaked (session.describeTree handle.resource) handle.refs handle.traced)
    else session

/-- Connects the share and makes a handle on the tree. -/
def connect (session : Session) : Except Fault TreeRef × Session :=
  match session.exchange none (.treeConnect session.sharePath) .plain with
  | (.error fault, session) => (.error fault, session)
  | (.ok (.treeConnect tid), session) =>
    let generation := session.generation + 1
    let session := { session with generation, connected := true }
    let session := session.note (.treeConnected session.sharePath tid generation)
    let handle : Handle ConnectedTree :=
      { resource := { tid, generation, epoch := session.resets }
        generation := some generation
        traced := session.settings.traceResourceUsage }
    let tree : TreeRef := ⟨session.trees.size⟩
    (.ok tree, { session with trees := session.trees.push handle, current := some tree })
  | (.ok _, session) => (.error (.protocol "unexpected reply to TREE_CONNECT"), session)

/-- The tree that was connected last, while it is valid and known. -/
def reusable? (session : Session) : Option TreeRef :=
  session.current.filter fun tree => session.isTreeKnown tree && session.isTreeValid tree

/-- A reference to the connected tree; the share is connected if no tree can be shared. -/
def acquire (session : Session) : Except Fault TreeRef × Session :=
  match session.reusable? with
  | some tree =>
    match session.acquireTree tree with
    | (.ok (), session) => (.ok tree, session)
    | (.error _, session) => session.connect
  | none => session.connect

/-- The tree that was connected last, while it is known and open. -/
def active? (session : Session) : Option TreeRef :=
  session.current.filter fun tree =>
    session.isTreeKnown tree && (session.tree? tree).any fun handle => !handle.closed

/-- Sends a request on a tree, which must be valid. -/
def send (session : Session) (tree : TreeRef) (request : Request) (delivery : Delivery) :
    Except Fault Response × Session :=
  match session.tree? tree with
  | none => (.error .handleClosed, session)
  | some handle =>
    match handle.ensureValid session.link with
    | .error fault => (.error fault, session)
    | .ok () => session.exchange (some handle.resource.tid) request delivery

end SmbBrowser.Session
