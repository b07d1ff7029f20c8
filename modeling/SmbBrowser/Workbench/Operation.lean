import SmbBrowser.Listing.Plan
import SmbBrowser.Workbench.Choice
import SmbBrowser.Workbench.Handles
import SmbBrowser.Workbench.Reader

/-! What can be done with a workbench, as data, and what comes of it. -/

namespace SmbBrowser

/-- What can be done with a session and the objects on its workbench. -/
inductive Operation where
  /-- Acquires the connected tree. -/
  | connect (name : String)
  /-- Looks at the connected tree, and keeps it if there is a name for it. -/
  | active (name : Option String)
  /-- Gives the connection up for lost. -/
  | invalidate
  /-- Tells what the session works with. -/
  | describe
  /-- Adds to the server's script. -/
  | expect (exchange : Exchange)
  /-- Counts the requests of a kind. -/
  | count (kind : String)
  /-- Tells the kinds of the requests sent. -/
  | sentKinds
  /-- Lists the entries of a place. -/
  | list (name : String) (locator : Locator) (options : ListOptions)
  /-- Lists the resources of a place. -/
  | listResources (name : String) (locator : Locator) (options : ListOptions)
    (choice : Option ResourceChoice)
  /-- Makes a listing and a cursor over it. -/
  | openCursor (name : String) (plan : ListingPlan) (settings : Option Settings)
    (choice : Option NameChoice)
  /-- Makes a listing. -/
  | makeListing (name : String) (plan : ListingPlan) (settings : Option Settings)
  /-- Lays entries and failures down, to be read. -/
  | layDown (name : String) (items : List (Except Fault Entry))
  /-- Lets go of an object. -/
  | drop (name : String)
  /-- Looks at an object. -/
  | view (name : String)
  /-- Acquires a handle under a further name. -/
  | acquire (name further : String)
  /-- Releases a handle. -/
  | release (name : String)
  /-- Closes a tree behind its handle's back. -/
  | closeTree (name : String)
  /-- Sends a request on a tree. -/
  | send (name : String) (request : Request) (delivery : Delivery)
  /-- Opens a file on a tree. -/
  | openFile (name file path : String) (mode : OpenMode)
  /-- Makes a handle on a file that the server has opened. -/
  | adoptFile (name file : String) (fid : FileId) (path : String) (mode : OpenMode)
  /-- Makes a resource of an entry. -/
  | child (name resource : String) (parent : Locator) (entry : Entry)
  /-- Knows the tree of a file under a name of its own. -/
  | treeOf (name tree : String)
  /-- Calls a listing. -/
  | call (name : String) (hook : Hook) (tree : String)
  /-- Reads on; what was read is kept if there is a name for it and it can be kept. -/
  | next (name : String) (keepAs : Option String)
  /-- Reads on to the end, or `pulls` times. -/
  | drain (name : String) (pulls : Nat)
  /-- Closes a source or a stream, or a cursor that somebody else reads. -/
  | close (name : String)
  /-- Makes the means to close a cursor. -/
  | closer (name further : String)
  /-- Reads only names from now on. -/
  | adapt (name further : String) (choice : NameChoice) (filter : Option NameChoice)

/-- What a tree shows of itself. -/
structure TreeView where
  handle : HandleView
  tid : TreeId
  dialect : Dialect
  share : String

/-- What a file shows of itself. -/
structure FileView where
  handle : HandleView
  fid : FileId
  path : String
  mode : OpenMode
  /-- The outstanding references of its tree. -/
  treeRefs : Nat
  /-- Its tree is valid. -/
  treeValid : Bool

/-- What a listing holds on the server. -/
inductive ListingHold where
  | nothing
  /-- A search, once it is begun. -/
  | search (sid : Option SearchId)
  /-- An open directory. -/
  | directory (handle : Option HandleView)

/-- What a listing shows of itself. -/
structure ListingView where
  label : String
  /-- The names of the page. -/
  results : List String
  isDone : Bool
  hold : ListingHold

/-- What a resource shows of itself. -/
structure ResourceView where
  resource : Resource
  /-- The outstanding references of its tree. -/
  treeRefs : Nat

/-- What a session works with. -/
structure SessionView where
  sharePath : String
  oemDomain : String
  dialect : Dialect
  settings : Settings
  /-- How many scratch buffers are kept. -/
  poolCapacity : Nat
  /-- The size of a scratch buffer. -/
  bufferSize : Nat

/-- What comes of an operation. -/
inductive Answer where
  /-- It is done. -/
  | done
  /-- There is nothing to show. -/
  | nothing
  /-- It failed. -/
  | failed (fault : Fault)
  /-- There is no object of that name. -/
  | unknownName
  /-- The object is of a sort that this cannot be done with. -/
  | unfit
  /-- Whether there was such an object. -/
  | had (found : Bool)
  /-- What a listing says. -/
  | said (yes : Bool)
  | counted (count : Nat)
  | kinds (kinds : List String)
  | session (view : SessionView)
  | tree (view : TreeView)
  | file (view : FileView)
  | listing (view : ListingView)
  | reader (view : ReaderView)
  | resource (view : ResourceView)
  | response (response : Response)
  | entry (entry : Entry)
  | name (name : String)
  /-- Nothing is left to read. -/
  | ended
  /-- What was read, and whether it was read to the end. -/
  | drained (items : List (Except Fault Drawn)) (ended : Bool)

namespace Workbench

/-- What a tree shows of itself. -/
def viewTree (bench : Workbench) (tree : TreeRef) : Answer :=
  let session := bench.session
  match session.tree? tree with
  | none => .nothing
  | some handle =>
    .tree
      { handle := handle.view session.link (session.describeTree handle.resource)
        tid := handle.resource.tid
        dialect := session.server.dialect
        share := session.sharePath }

/-- What a file handle shows of itself, apart from the file. -/
def viewFileHandle (bench : Workbench) (handle : Handle OpenFile) : HandleView :=
  handle.view bench.session.link (Session.describeFile handle.resource)

/-- The outstanding references of a tree. -/
def treeRefs (bench : Workbench) (tree : TreeRef) : Nat :=
  ((bench.session.tree? tree).map (·.refs)).getD 0

/-- What a file shows of itself. -/
def viewFile (bench : Workbench) (file : FileRef) : Answer :=
  match bench.session.file? file with
  | none => .nothing
  | some handle =>
    .file
      { handle := bench.viewFileHandle handle
        fid := handle.resource.fid
        path := handle.resource.path
        mode := handle.resource.mode
        treeRefs := bench.treeRefs handle.resource.tree
        treeValid := bench.session.isTreeValid handle.resource.tree }

/-- What a listing holds on the server. -/
def holdOf (bench : Workbench) : Listing → ListingHold
  | .search listing => .search listing.sid
  | .directory listing =>
    .directory ((listing.dir.bind bench.session.file?).map bench.viewFileHandle)
  | _ => .nothing

/-- What a listing shows of itself; it is asked whether another page follows. -/
def viewListing (bench : Workbench) (listing : Listing) : Answer × Workbench :=
  let answer : Answer :=
    .listing
      { label := listing.label
        results := listing.results.map (·.name)
        isDone := listing.isDone
        hold := bench.holdOf listing }
  (answer, bench.withSession (bench.session.noteHook listing.label .isDone))

/-- What a resource shows of itself. -/
def viewResource (bench : Workbench) (resource : Resource) : Answer :=
  .resource { resource, treeRefs := bench.treeRefs resource.tree }

/-- What the session works with. -/
def viewSession (bench : Workbench) : Answer :=
  let session := bench.session
  .session
    { sharePath := session.sharePath
      oemDomain := session.oemDomain
      dialect := session.server.dialect
      settings := session.settings
      poolCapacity := session.pool.capacity
      bufferSize := session.pool.bufferSize }

/-- What an object shows of itself. -/
def viewItem (bench : Workbench) : Item → Answer × Workbench
  | .tree tree => (bench.viewTree tree, bench)
  | .file file => (bench.viewFile file, bench)
  | .listing listing => bench.viewListing listing
  | .closer _ => (.unfit, bench)
  | .resource resource => (bench.viewResource resource, bench)
  | .reader reader => (.reader (reader.view bench), bench)

end Workbench

end SmbBrowser
