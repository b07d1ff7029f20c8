import SmbBrowser.Browse
import SmbBrowser.Workbench.Registry

/-!
Workbenches: a session with named objects on it. This module has the objects, and what can be read
from them; a cursor lives in a table of its own, so that everything that refers to it finds it.
-/

namespace SmbBrowser

/-- The place of a cursor on a workbench. -/
structure CursorRef where
  /-- The position in the workbench's table of cursors. -/
  index : Nat
  deriving DecidableEq

/-- A stream over a cursor of the workbench; the cursor itself stays in the table. -/
structure CursorStream (Item : Type) where
  /-- The cursor. -/
  cursor : CursorRef
  /-- The stream, whose own copy of the cursor is replaced before each use. -/
  stream : ResourceStream (Cursor Listing) Item

/-- Something to read from. -/
inductive Reader where
  /-- The entries of a listing. -/
  | cursor (cursor : CursorRef)
  /-- The entries laid down beforehand. -/
  | fixed (source : FixedSource)
  /-- The names of the entries of a listing. -/
  | names (names : CursorStream String)
  /-- The names of the entries laid down beforehand. -/
  | fixedNames (names : ResourceStream FixedSource String)
  /-- The resources of a place. -/
  | resources (resources : CursorStream Resource)

/-- An object on a workbench. -/
inductive Item where
  | tree (tree : TreeRef)
  | file (file : FileRef)
  /-- A listing that nobody reads for the holder. -/
  | listing (listing : Listing)
  /-- The means to close a cursor that somebody else reads. -/
  | closer (cursor : CursorRef)
  | resource (resource : Resource)
  | reader (reader : Reader)

/-- What was read. -/
inductive Drawn where
  | entry (entry : Entry)
  | name (name : String)
  | resource (resource : Resource)

/-- The state of something to read from. -/
inductive ReaderView where
  /-- How far a cursor has come. -/
  | cursor (state : CursorState)
  /-- How often a fixed source was closed, and how much it still has. -/
  | fixed (closes left : Nat)

/-- A session with objects on it. -/
structure Workbench where
  /-- The session. -/
  session : Session
  /-- Every cursor ever made. -/
  cursors : Array (Cursor Listing) := #[]
  /-- The objects. -/
  items : Registry Item := {}

namespace Workbench

/-- The workbench at a later point of its session. -/
def withSession (bench : Workbench) (session : Session) : Workbench := { bench with session }

/-- Puts a cursor into the table. -/
def addCursor (bench : Workbench) (cursor : Cursor Listing) : CursorRef × Workbench :=
  (⟨bench.cursors.size⟩, { bench with cursors := bench.cursors.push cursor })

/-- The cursor at a place. -/
def cursor? (bench : Workbench) (cursor : CursorRef) : Option (Cursor Listing) :=
  bench.cursors[cursor.index]?

/-- Stores a cursor at its place. -/
def putCursor (bench : Workbench) (place : CursorRef) (cursor : Cursor Listing) : Workbench :=
  { bench with cursors := bench.cursors.setIfInBounds place.index cursor }

/-- Closes a cursor. -/
def closeCursor (bench : Workbench) (place : CursorRef) : Workbench :=
  match bench.cursor? place with
  | none => bench
  | some cursor =>
    let (cursor, session) := cursor.close bench.session
    (bench.putCursor place cursor).withSession session

/-- The stream with the cursor as it is now. -/
def freshen {Item : Type} (bench : Workbench) (stream : CursorStream Item) :
    ResourceStream (Cursor Listing) Item :=
  match bench.cursor? stream.cursor with
  | none => stream.stream
  | some source => { stream.stream with source }

/-- The stream after a use, with its cursor put back into the table. -/
def settle {Item : Type} (bench : Workbench) (place : CursorRef)
    (stream : ResourceStream (Cursor Listing) Item) (session : Session) :
    CursorStream Item × Workbench :=
  (⟨place, stream⟩, (bench.putCursor place stream.source).withSession session)

/-- The next item of a stream, or none at the end. -/
def nextOf {Item : Type} (stream : CursorStream Item) (bench : Workbench) :
    Except Fault (Option Item) × CursorStream Item × Workbench :=
  let (result, used, session) := (bench.freshen stream).next bench.session
  (result, bench.settle stream.cursor used session)

/-- Closes a stream. -/
def closeStream {Item : Type} (stream : CursorStream Item) (bench : Workbench) :
    CursorStream Item × Workbench :=
  let (used, session) := (bench.freshen stream).close bench.session
  bench.settle stream.cursor used session

/-- Drops a stream. -/
def dropStream {Item : Type} (stream : CursorStream Item) (bench : Workbench) : Workbench :=
  let (used, session) := (bench.freshen stream).drop bench.session
  (bench.settle stream.cursor used session).2

end Workbench

namespace Reader

/-- Reads the next thing, or none at the end. -/
def draw (reader : Reader) (bench : Workbench) :
    Except Fault (Option Drawn) × Reader × Workbench :=
  match reader with
  | .cursor place =>
    match bench.cursor? place with
    | none => (.ok none, reader, bench)
    | some here =>
      let (result, after, session) := here.pull bench.session
      (result.map (·.map .entry), reader, (bench.putCursor place after).withSession session)
  | .fixed source =>
    let (result, source, session) := source.pull bench.session
    (result.map (·.map .entry), .fixed source, bench.withSession session)
  | .names stream =>
    let (result, stream, bench) := bench.nextOf stream
    (result.map (·.map .name), .names stream, bench)
  | .fixedNames stream =>
    let (result, stream, session) := stream.next bench.session
    (result.map (·.map .name), .fixedNames stream, bench.withSession session)
  | .resources stream =>
    let (result, stream, bench) := bench.nextOf stream
    (result.map (·.map .resource), .resources stream, bench)

/-- The state of what is read from. -/
def view (reader : Reader) (bench : Workbench) : ReaderView :=
  let stateOf (place : CursorRef) : ReaderView :=
    .cursor (((bench.cursor? place).map (·.state)).getD .closed)
  match reader with
  | .cursor place => stateOf place
  | .fixed source => .fixed source.closes source.items.length
  | .names stream => stateOf stream.cursor
  | .fixedNames stream => .fixed stream.source.closes stream.source.items.length
  | .resources stream => stateOf stream.cursor

/-- Closes what is read from. -/
def close (reader : Reader) (bench : Workbench) : Reader × Workbench :=
  match reader with
  | .cursor place => (reader, bench.closeCursor place)
  | .fixed source => (.fixed source.close, bench)
  | .names stream =>
    let (stream, bench) := bench.closeStream stream
    (.names stream, bench)
  | .fixedNames stream =>
    let (stream, session) := stream.close bench.session
    (.fixedNames stream, bench.withSession session)
  | .resources stream =>
    let (stream, bench) := bench.closeStream stream
    (.resources stream, bench)

/-- Drops what is read from; a source of the caller's own is not closed by that. -/
def drop (reader : Reader) (bench : Workbench) : Workbench :=
  match reader with
  | .cursor place => bench.closeCursor place
  | .fixed _ => bench
  | .names stream => bench.dropStream stream
  | .fixedNames stream => bench.withSession (stream.drop bench.session).2
  | .resources stream => bench.dropStream stream

/-- The names of what is read from, if they are wanted; names themselves have no names. -/
def adapt (reader : Reader) (wants : NameFilter) (filter : Option NameFilter)
    (bench : Workbench) : Option Reader :=
  match reader with
  | .cursor place => do
    let source ← bench.cursor? place
    return .names ⟨place, { source, adapter := .names wants, filter }⟩
  | .fixed source => some (.fixedNames { source, adapter := .names wants, filter })
  | _ => none

end Reader

/-- Gives back what was read, if it has to be given back. -/
def Drawn.discard (drawn : Drawn) (bench : Workbench) : Workbench :=
  match drawn with
  | .resource drawn => bench.withSession (drawn.discard bench.session)
  | _ => bench

/-- Lets go of an object. -/
def Item.drop (item : Item) (bench : Workbench) : Workbench :=
  match item with
  | .tree place => bench.withSession (bench.session.forgetTree place)
  | .file place => bench.withSession (bench.session.forgetFile place)
  | .listing content => bench.withSession (content.forget bench.session)
  | .closer _ => bench
  | .resource content => bench.withSession (content.discard bench.session)
  | .reader content => content.drop bench

namespace Workbench

/-- Puts an object under a name and lets go of the one that was there. -/
def put (bench : Workbench) (name : String) (item : Item) : Workbench :=
  let bench := match bench.items.get? name with
    | none => bench
    | some old => old.drop { bench with items := bench.items.erase name }
  { bench with items := bench.items.put name item }

/-- Changes the object under a name. -/
def replace (bench : Workbench) (name : String) (item : Item) : Workbench :=
  { bench with items := bench.items.put name item }

/-- Lets go of the object under a name, if there is one. -/
def drop (bench : Workbench) (name : String) : Workbench :=
  match bench.items.get? name with
  | none => bench
  | some item => item.drop { bench with items := bench.items.erase name }

/-- Lets go of every object, in ascending order of the names. -/
def clear (bench : Workbench) : Workbench := bench.items.names.foldl drop bench

end Workbench

end SmbBrowser
