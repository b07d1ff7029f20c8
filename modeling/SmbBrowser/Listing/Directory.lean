import SmbBrowser.Listing
import SmbBrowser.Locator

/-!
Listing a directory that the client keeps open: the first page comes with the opening, each further
page goes on from the last entry received, and only an empty answer tells that there are no more.
-/

namespace SmbBrowser

/-- A directory listing by an open directory. -/
structure DirectoryListing where
  /-- The directory, without a backslash at either end. -/
  path : String
  /-- The wildcard that names must match. -/
  pattern : String
  /-- The most bytes of a page. -/
  outputBufferLength : UInt32
  /-- The open directory, while the listing holds one. -/
  dir : Option FileRef := none
  /-- The page. -/
  page : List Entry := []

namespace DirectoryListing

/-- A page has to fit a scratch buffer too. -/
def pageBytes (settings : Settings) : UInt32 :=
  (min settings.listSize.toNat settings.maxBufferSize.toNat).toUInt32

/-- A listing of a directory, about which nobody has been asked yet. -/
def new (locator : Locator) (pattern : String) (settings : Settings) :
    Except Fault DirectoryListing :=
  locator.checkSeparators.map fun () =>
    { path := String.ofList (Text.trimBoth (· = '\\') locator.uncPath.toList)
      pattern
      outputBufferLength := pageBytes settings }

/-- The query for a page of the open directory, or of the one opened in the same chain. -/
def query (listing : DirectoryListing) (session : Session) (fileIndex : UInt32) (flags : UInt8) :
    Request :=
  .queryDirectory
    { fid := (listing.dir.bind session.file?).map (·.resource.fid)
      pattern := listing.pattern
      flags
      fileIndex
      outputBufferLength := listing.outputBufferLength }

/-- The answer to a directory query is something else. -/
def unexpected : Fault := .protocol "unexpected reply to QUERY_DIRECTORY"

/-- A chain was answered with fewer outcomes than it has requests. -/
def missingReply : Fault := .protocol "compound reply is missing elements"

/-- The listing that an answer to the first query leads to. -/
def firstPage (listing : DirectoryListing) (reply : Option (ChainedReply Response))
    (session : Session) : Except Fault Bool × DirectoryListing × Session :=
  match reply with
  | none => (.error missingReply, listing, session)
  | some reply =>
    if reply.status.endsListing then (.ok false, listing, session.note (.queryEmpty listing.path))
    else if reply.status.isError then (.error (.status reply.status), listing, session)
    else
      match reply.response with
      | some (.queryDirectory page) =>
        if page.status.endsListing then (.ok false, listing, session)
        else (.ok !page.entries.isEmpty, { listing with page := page.entries }, session)
      | _ => (.error unexpected, listing, session)

/-- Gives the open directory back, if there is one. -/
def releaseDir (listing : DirectoryListing) (session : Session) :
    Except Fault Unit × DirectoryListing × Session :=
  match listing.dir with
  | none => (.ok (), listing, session)
  | some dir =>
    let (result, session) := session.releaseFile dir
    (result, { listing with dir := none }, session.forgetFile dir)

/-- The listing with a directory of its own, in place of one that it may have had. -/
def hold (listing : DirectoryListing) (dir : FileRef) (session : Session) :
    DirectoryListing × Session :=
  let session := match listing.dir with
    | none => session
    | some old => session.forgetFile old
  ({ listing with dir := some dir }, session)

/-- Reads the first page of a directory that has just been opened; if that fails, gives it back. -/
def firstOrRelease (listing : DirectoryListing) (reply : Option (ChainedReply Response))
    (session : Session) : Except Fault Bool × DirectoryListing × Session :=
  match listing.firstPage reply session with
  | (.ok found, listing, session) => (.ok found, listing, session)
  | (.error fault, listing, session) =>
    match listing.releaseDir session with
    | (.ok (), listing, session) => (.error fault, listing, session)
    | (.error closing, listing, session) =>
      -- The failure of the query is the one to report.
      (.error fault, listing, session.note (.orphanCloseFailed listing.path closing))

/-- Opens the directory and asks for the first page in one chain. -/
def start (listing : DirectoryListing) (tree : TreeRef) (session : Session) :
    Except Fault Bool × DirectoryListing × Session :=
  let mode := OpenMode.directory
  let request := Request.chain
    [.create (mode.toCreate listing.path), listing.query session 0 0]
  match session.send tree request .plain with
  | (.error fault, session) => (.error fault, listing, session)
  | (.ok (.chain []), session) => (.error missingReply, listing, session)
  | (.ok (.chain (opened :: rest)), session) =>
    if !opened.status.isSuccess then (.error (.status opened.status), listing, session)
    else
      match opened.response with
      | some (.create file) =>
        match session.adoptFile tree file.fid listing.path mode with
        | (.error fault, session) => (.error fault, listing, session)
        | (.ok dir, session) =>
          -- From here on the server holds the directory open.
          let (listing, session) := listing.hold dir session
          listing.firstOrRelease rest.head? session
      | _ => (.error (.protocol "unexpected reply to CREATE"), listing, session)
  | (.ok _, session) =>
    (.error (.protocol "unexpected reply to compound CREATE"), listing, session)

/-- Asks for the page behind the last entry received. -/
def fetchMore (listing : DirectoryListing) (tree : TreeRef) (session : Session) :
    Except Fault Bool × DirectoryListing × Session :=
  match listing.dir, listing.page.getLast? with
  | some _, some last =>
    let request := listing.query session last.fileIndex QueryFlags.indexSpecified
    match session.send tree request .plain with
    | (.ok (.queryDirectory page), session) =>
      if page.status = .noMoreFiles then (.ok false, listing, session)
      else (.ok !page.entries.isEmpty, { listing with page := page.entries }, session)
    | (.ok _, session) => (.error unexpected, listing, session)
    | (.error fault, session) => (fault.asEnd, listing, session)
  | _, _ => (.ok false, listing, session)

/-- Gives the open directory back. -/
def finish (listing : DirectoryListing) (_ : TreeRef) (session : Session) :
    Except Fault Unit × DirectoryListing × Session :=
  listing.releaseDir session

/-- A further page was taken off the script. -/
theorem fetchMore_weight {listing more : DirectoryListing} {tree : TreeRef}
    {session after : Session} (fetched : listing.fetchMore tree session = (.ok true, more, after)) :
    after.weight + more.page.length < session.weight := by
  unfold fetchMore at fetched
  split at fetched
  · simp only at fetched
    split at fetched
    · rename_i answered
      split at fetched
      · simp at fetched
      · simp only [Prod.mk.injEq] at fetched
        obtain ⟨_, rfl, rfl⟩ := fetched
        -- Of all the outcomes only this one brings a page, and its answer is off the script.
        have taken := Session.weight_send_ok rfl answered
        simp only [Response.entryCount] at taken
        simp only
        omega
    · simp at fetched
    · simp only [Fault.asEnd] at fetched
      split at fetched <;> simp at fetched
  · simp at fetched

end DirectoryListing

instance : PagedListing DirectoryListing where
  label _ := "modern"
  start := DirectoryListing.start
  results listing := listing.page
  isDone _ := false
  fetchMore := DirectoryListing.fetchMore
  finish := DirectoryListing.finish
  stock _ := 0
  fetchMore_lt fetched := by
    have := DirectoryListing.fetchMore_weight fetched
    omega

end SmbBrowser
