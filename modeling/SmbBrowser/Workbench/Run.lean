import SmbBrowser.Workbench.Operation

/-! Carrying out operations on a workbench, one at a time, and reporting on each. -/

namespace SmbBrowser

namespace Workbench

/-- An answer about a result that is either there or a failure. -/
def answerWith {α : Type} (shown : α → Answer) : Except Fault α → Answer
  | .ok value => shown value
  | .error fault => .failed fault

/-- Puts a tree that was got, if it was got, under a name. -/
def storeTree (bench : Workbench) (name : String) :
    Except Fault TreeRef × Session → Answer × Workbench
  | (.error fault, session) => (.failed fault, bench.withSession session)
  | (.ok tree, session) =>
    let bench := bench.withSession session
    (bench.viewTree tree, bench.put name (.tree tree))

/-- Puts a file that was got, if it was got, under a name. -/
def storeFile (bench : Workbench) (name : String) :
    Except Fault FileRef × Session → Answer × Workbench
  | (.error fault, session) => (.failed fault, bench.withSession session)
  | (.ok file, session) =>
    let bench := bench.withSession session
    (bench.viewFile file, bench.put name (.file file))

/-- Puts a cursor that was got, if it was got, under a name. -/
def storeCursor (bench : Workbench) (name : String) :
    Except Fault (Cursor Listing) × Session → Answer × Workbench
  | (.error fault, session) => (.failed fault, bench.withSession session)
  | (.ok cursor, session) =>
    let (place, bench) := (bench.withSession session).addCursor cursor
    let reader := Reader.cursor place
    (.reader (reader.view bench), bench.put name (.reader reader))

/-- Puts a stream of resources that was got, if it was got, under a name. -/
def storeResources (bench : Workbench) (name : String) :
    Except Fault (ResourceStream (Cursor Listing) Resource) × Session → Answer × Workbench
  | (.error fault, session) => (.failed fault, bench.withSession session)
  | (.ok stream, session) =>
    let (place, bench) := (bench.withSession session).addCursor stream.source
    let reader := Reader.resources ⟨place, stream⟩
    (.reader (reader.view bench), bench.put name (.reader reader))

/-- Does something with the object under a name. -/
def useItem (bench : Workbench) (name : String) (use : Item → Answer × Workbench) :
    Answer × Workbench :=
  match bench.items.get? name with
  | none => (.unknownName, bench)
  | some item => use item

/-- Does something with the tree under a name. -/
def useTree (bench : Workbench) (name : String) (use : TreeRef → Answer × Workbench) :
    Answer × Workbench :=
  bench.useItem name fun
    | .tree tree => use tree
    | _ => (.unfit, bench)

/-- Does something with the reader under a name. -/
def useReader (bench : Workbench) (name : String) (use : Reader → Answer × Workbench) :
    Answer × Workbench :=
  bench.useItem name fun
    | .reader reader => use reader
    | _ => (.unfit, bench)

/-- Acquires a handle under a further name. -/
def acquire (bench : Workbench) (name further : String) : Answer × Workbench :=
  bench.useItem name fun
    | .tree tree =>
      let (result, session) := bench.session.acquireTree tree
      bench.storeTree further (result.map fun () => tree, session)
    | .file file =>
      let (result, session) := bench.session.acquireFile file
      bench.storeFile further (result.map fun () => file, session)
    | _ => (.unfit, bench)

/-- Releases a handle. -/
def release (bench : Workbench) (name : String) : Answer × Workbench :=
  bench.useItem name fun
    | .tree tree =>
      let (result, session) := bench.session.releaseTree tree
      (answerWith (fun () => .done) result, bench.withSession session)
    | .file file =>
      let (result, session) := bench.session.releaseFile file
      (answerWith (fun () => .done) result, bench.withSession session)
    | _ => (.unfit, bench)

/-- Looks at the connected tree, and keeps it if there is a name for it. -/
def active (bench : Workbench) (name : Option String) : Answer × Workbench :=
  match bench.session.active? with
  | none => (.nothing, bench)
  | some tree =>
    match name with
    | none => (bench.viewTree tree, bench)
    | some name => bench.storeTree name (.ok tree, bench.session.keepTree tree)

/-- Knows the tree of a file under a name of its own. -/
def treeOf (bench : Workbench) (name tree : String) : Answer × Workbench :=
  bench.useItem name fun
    | .file file =>
      match bench.session.file? file with
      | none => (.nothing, bench)
      | some handle =>
        let owner := handle.resource.tree
        bench.storeTree tree (.ok owner, bench.session.keepTree owner)
    | _ => (.unfit, bench)

/-- Closes a tree behind its handle's back. -/
def closeTree (bench : Workbench) (name : String) : Answer × Workbench :=
  bench.useTree name fun tree =>
    match bench.session.tree? tree with
    | none => (.nothing, bench)
    | some handle =>
      let (result, session) := Session.disconnect handle.resource bench.session
      (answerWith (fun () => .done) result, bench.withSession session)

/-- Makes a listing, with settings of its own if they are given. -/
def plan (bench : Workbench) (plan : ListingPlan) (settings : Option Settings) :
    Except Fault Listing :=
  plan.make (settings.getD bench.session.settings)

/-- Makes a resource of an entry. -/
def child (bench : Workbench) (name resource : String) (parent : Locator) (entry : Entry) :
    Answer × Workbench :=
  bench.useTree name fun tree =>
    match Resource.ofEntry parent tree entry bench.session with
    | (.error fault, session) => (.failed fault, bench.withSession session)
    | (.ok made, session) =>
      let bench := bench.withSession session
      (bench.viewResource made, bench.put resource (.resource made))

/-- Calls a listing at one of its points. -/
def callListing (listing : Listing) (hook : Hook) (tree : TreeRef) (session : Session) :
    Answer × Listing × Session :=
  let session := session.noteHook listing.label hook
  match hook with
  | .start =>
    let (result, listing, session) := listing.start tree session
    (answerWith .said result, listing, session)
  | .isDone => (.said listing.isDone, listing, session)
  | .fetchMore =>
    let (result, listing, session) := listing.fetchMore tree session
    (answerWith .said result, listing, session)
  | .finish =>
    let (result, listing, session) := listing.finish tree session
    (answerWith (fun () => .done) result, listing, session)

/-- Calls the listing under a name. -/
def call (bench : Workbench) (name : String) (hook : Hook) (tree : String) : Answer × Workbench :=
  bench.useItem name fun
    | .listing listing =>
      bench.useTree tree fun tree =>
        let (answer, listing, session) := callListing listing hook tree bench.session
        (answer, (bench.withSession session).replace name (.listing listing))
    | _ => (.unfit, bench)

/-- Reads on; a resource is kept if there is a name for it, and else given back. -/
def next (bench : Workbench) (name : String) (keepAs : Option String) : Answer × Workbench :=
  bench.useReader name fun reader =>
    let (result, reader, bench) := reader.draw bench
    let bench := bench.replace name (.reader reader)
    match result with
    | .error fault => (.failed fault, bench)
    | .ok none => (.ended, bench)
    | .ok (some (.entry entry)) => (.entry entry, bench)
    | .ok (some (.name drawn)) => (.name drawn, bench)
    | .ok (some (.resource resource)) =>
      let answer := bench.viewResource resource
      match keepAs with
      | some kept => (answer, bench.put kept (.resource resource))
      | none => (answer, bench.withSession (resource.discard bench.session))

/-- Reads on to the end, or `pulls` times; failures do not stop it, and nothing is kept. -/
def drawAll : Nat → Reader → Workbench →
    (List (Except Fault Drawn) × Bool) × Reader × Workbench
  | 0, reader, bench => (([], false), reader, bench)
  | pulls + 1, reader, bench =>
    match reader.draw bench with
    | (.ok none, reader, bench) => (([], true), reader, bench)
    | (.ok (some drawn), reader, bench) =>
      let ((items, ended), rest) := drawAll pulls reader (drawn.discard bench)
      ((.ok drawn :: items, ended), rest)
    | (.error fault, reader, bench) =>
      let ((items, ended), rest) := drawAll pulls reader bench
      ((.error fault :: items, ended), rest)

/-- Reads on to the end, or `pulls` times. -/
def drain (bench : Workbench) (name : String) (pulls : Nat) : Answer × Workbench :=
  bench.useReader name fun reader =>
    let ((items, ended), reader, bench) := drawAll pulls reader bench
    (.drained items ended, bench.replace name (.reader reader))

/-- Closes a source or a stream, or a cursor that somebody else reads. -/
def close (bench : Workbench) (name : String) : Answer × Workbench :=
  bench.useItem name fun
    | .closer place => (.done, bench.closeCursor place)
    | .reader reader =>
      let (reader, bench) := reader.close bench
      (.reader (reader.view bench), bench.replace name (.reader reader))
    | _ => (.unfit, bench)

/-- Makes the means to close a cursor. -/
def closer (bench : Workbench) (name further : String) : Answer × Workbench :=
  bench.useItem name fun
    | .closer place | .reader (.cursor place) => (.done, bench.put further (.closer place))
    | _ => (.unfit, bench)

/-- Reads only names from now on. -/
def adapt (bench : Workbench) (name further : String) (choice : NameChoice)
    (filter : Option NameChoice) : Answer × Workbench :=
  bench.useReader name fun reader =>
    match reader.adapt choice.wants (filter.map NameChoice.wants) bench with
    | none => (.unfit, bench)
    | some adapted =>
      -- What was read from is now part of the stream, so it is not dropped.
      let bench := { bench with items := bench.items.erase name }
      (.done, bench.put further (.reader adapted))

/-- Carries out an operation. -/
def perform (bench : Workbench) : Operation → Answer × Workbench
  | .connect name => bench.storeTree name bench.session.acquire
  | .active name => bench.active name
  | .invalidate => (.done, bench.withSession bench.session.invalidate)
  | .describe => (bench.viewSession, bench)
  | .expect exchange =>
    let session := bench.session
    (.done, bench.withSession { session with server := session.server.expect exchange })
  | .count kind => (.counted (bench.session.server.count kind), bench)
  | .sentKinds => (.kinds bench.session.server.sentKinds, bench)
  | .list name locator options => bench.storeCursor name (bench.session.list locator options)
  | .listResources name locator options choice =>
    bench.storeResources name
      (bench.session.listResources locator options (choice.map ResourceChoice.wants))
  | .openCursor name plan settings choice =>
    match bench.plan plan settings with
    | .error fault => (.failed fault, bench)
    | .ok listing =>
      bench.storeCursor name
        (Cursor.ofListing listing (choice.map NameChoice.wants) bench.session)
  | .makeListing name plan settings =>
    match bench.plan plan settings with
    | .error fault => (.failed fault, bench)
    | .ok listing =>
      let (answer, bench) := bench.viewListing listing
      (answer, bench.put name (.listing listing))
  | .layDown name items => (.done, bench.put name (.reader (.fixed { items })))
  | .drop name => (.had (bench.items.get? name).isSome, bench.drop name)
  | .view name => bench.useItem name bench.viewItem
  | .acquire name further => bench.acquire name further
  | .release name => bench.release name
  | .closeTree name => bench.closeTree name
  | .send name request delivery =>
    bench.useTree name fun tree =>
      let (answer, session) := bench.session.send tree request delivery
      (answerWith .response answer, bench.withSession session)
  | .openFile name file path mode =>
    bench.useTree name fun tree => bench.storeFile file (bench.session.openFile tree path mode)
  | .adoptFile name file fid path mode =>
    bench.useTree name fun tree =>
      bench.storeFile file (bench.session.adoptFile tree fid path mode)
  | .child name resource parent entry => bench.child name resource parent entry
  | .treeOf name tree => bench.treeOf name tree
  | .call name hook tree => bench.call name hook tree
  | .next name keepAs => bench.next name keepAs
  | .drain name pulls => bench.drain name pulls
  | .close name => bench.close name
  | .closer name further => bench.closer name further
  | .adapt name further choice filter => bench.adapt name further choice filter

end Workbench

/-- What there is to tell after an operation. -/
structure Report where
  /-- What came of it. -/
  answer : Answer
  /-- The requests sent meanwhile. -/
  sent : List SentRequest
  /-- The calls of rehearsed listings meanwhile. -/
  calls : List Hook
  /-- What else happened meanwhile. -/
  log : List Event
  /-- How often the share was connected. -/
  generation : Nat
  /-- The connection can be used. -/
  connected : Bool
  /-- The outstanding references of the connected tree. -/
  refs : Option Nat
  /-- How many exchanges are still to come. -/
  remaining : Nat
  /-- How many scratch buffers are idle. -/
  free : Nat

namespace Workbench

/-- What there is to tell about the time between two points of a session. -/
def report (before after : Workbench) (answer : Answer) : Report :=
  let (old, new) := (before.session, after.session)
  let calls := (new.hooks.toList.drop old.hooks.size).filter (·.listing = RehearsedListing.title)
  { answer
    sent := new.server.sent.toList.drop old.server.sent.size
    calls := calls.map (·.hook)
    log := new.log.toList.drop old.log.size
    generation := new.generation
    connected := new.connected
    refs := new.active?.map after.treeRefs
    remaining := new.server.remaining
    free := new.pool.free }

/-- Carries out an operation and reports on it. -/
def step (bench : Workbench) (operation : Operation) : Report × Workbench :=
  let (answer, after) := bench.perform operation
  (report bench after answer, after)

/-- Carries out operations one after the other. -/
def run : List Operation → Workbench → List Report × Workbench
  | [], bench => ([], bench)
  | operation :: operations, bench =>
    let (report, bench) := bench.step operation
    let (reports, bench) := run operations bench
    (report :: reports, bench)

/-- Lets go of everything and reports on that. -/
def finish (bench : Workbench) : Report := report bench bench.clear .nothing

end Workbench

end SmbBrowser
