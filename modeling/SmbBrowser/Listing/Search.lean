import SmbBrowser.Listing
import SmbBrowser.Locator

/-!
Listing a directory by a search that the server keeps: each page goes on from the mark and the name
that the page before it left, and the search is given back at the end.
-/

namespace SmbBrowser

/-- A directory listing by search. -/
structure SearchListing where
  /-- The directory. -/
  path : String
  /-- The wildcard that names must match. -/
  pattern : String
  /-- The kinds of entries to include. -/
  searchAttributes : UInt16
  /-- The most entries of a page. -/
  maxItems : UInt16
  /-- The most bytes of a page. -/
  maxBuffer : UInt32
  /-- The search, once the server has begun it. -/
  sid : Option SearchId := none
  /-- The mark to go on from. -/
  resumeKey : UInt32 := 0
  /-- The name to go on from. -/
  lastName : String := ""
  /-- The server closed the search behind this page. -/
  endOfSearch : Bool := false
  /-- The page. -/
  page : List Entry := []

namespace SearchListing

/-- A listing of a directory, about which nobody has been asked yet. -/
def new (locator : Locator) (pattern : String) (searchAttributes : UInt16) (settings : Settings) :
    Except Fault SearchListing :=
  locator.checkSeparators.map fun () =>
    { path := locator.uncPath
      pattern
      searchAttributes
      maxItems := settings.listCount
      maxBuffer := settings.listSize }

/-- The listing with a new page and the marks that came with it. -/
def accept (listing : SearchListing) (page : FindPage) : SearchListing :=
  { listing with
    resumeKey := page.resumeKey
    lastName := page.lastName
    endOfSearch := page.endOfSearch
    page := page.entries }

/-- The answer to a search request is something else. -/
def unexpected : Fault := .protocol "unexpected reply to TRANS2_FIND"

/-- The request that begins the search. -/
def first (listing : SearchListing) : Request :=
  .findFirst
    { path := listing.path
      pattern := listing.pattern
      searchAttributes := listing.searchAttributes
      maxItems := listing.maxItems
      maxBuffer := listing.maxBuffer }

/-- The request that continues the search. -/
def next (listing : SearchListing) (sid : SearchId) : Request :=
  .findNext
    { sid
      resumeKey := listing.resumeKey
      lastName := listing.lastName
      maxItems := listing.maxItems
      maxBuffer := listing.maxBuffer }

/-- Begins the search. -/
def start (listing : SearchListing) (tree : TreeRef) (session : Session) :
    Except Fault Bool × SearchListing × Session :=
  match session.send tree listing.first .plain with
  | (.ok (.find page), session) =>
    if page.status.endsListing then (.ok false, listing, session)
    else
      let listing := { listing.accept page with sid := some page.sid }
      (.ok !listing.page.isEmpty, listing, session)
  | (.ok _, session) => (.error unexpected, listing, session)
  | (.error fault, session) =>
    if fault.endsListing then (.ok false, listing, session.note (.searchEmpty listing.path))
    else (.error fault, listing, session)

/-- Continues the search. -/
def fetchMore (listing : SearchListing) (tree : TreeRef) (session : Session) :
    Except Fault Bool × SearchListing × Session :=
  match listing.sid with
  | none => (.ok false, listing, session)
  | some sid =>
    match session.send tree (listing.next sid) .plain with
    | (.ok (.find page), session) =>
      if page.status = .noMoreFiles then (.ok false, listing, session)
      else (.ok !page.entries.isEmpty, listing.accept page, session)
    | (.ok _, session) => (.error unexpected, listing, session)
    | (.error fault, session) => (fault.asEnd, listing, session)

/-- Gives the search back; a failure to do so is only logged. -/
def finish (listing : SearchListing) (tree : TreeRef) (session : Session) :
    Except Fault Unit × SearchListing × Session :=
  match listing.sid with
  | none => (.ok (), listing, session)
  | some sid =>
    let listing := { listing with sid := none }
    match session.send tree (.findClose sid) .cleanup with
    | (.ok _, session) => (.ok (), listing, session)
    | (.error fault, session) => (.ok (), listing, session.note (.searchCloseFailed sid fault))

/-- A further page was taken off the script. -/
theorem fetchMore_weight {listing more : SearchListing} {tree : TreeRef} {session after : Session}
    (fetched : listing.fetchMore tree session = (.ok true, more, after)) :
    after.weight + more.page.length < session.weight := by
  unfold fetchMore at fetched
  split at fetched
  · simp at fetched
  · split at fetched
    · rename_i answered
      split at fetched
      · simp at fetched
      · simp only [Prod.mk.injEq] at fetched
        obtain ⟨_, rfl, rfl⟩ := fetched
        -- Of all the outcomes only this one brings a page, and its answer is off the script.
        have taken := Session.weight_send_ok rfl answered
        simp only [Response.entryCount] at taken
        simp only [accept]
        omega
    · simp at fetched
    · simp only [Fault.asEnd] at fetched
      split at fetched <;> simp at fetched

end SearchListing

instance : PagedListing SearchListing where
  label _ := "legacy"
  start := SearchListing.start
  results listing := listing.page
  isDone listing := listing.endOfSearch
  fetchMore := SearchListing.fetchMore
  finish := SearchListing.finish
  stock _ := 0
  fetchMore_lt fetched := by
    have := SearchListing.fetchMore_weight fetched
    omega

end SmbBrowser
