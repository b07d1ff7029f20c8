import SmbBrowser.Listing

/-!
Listing the servers of a domain, or the domains of a network. A partial page holds one record more
than it hands out: the listing goes on from that record's name, and the next page repeats it.
-/

namespace SmbBrowser

/-- A listing of servers or domains. -/
structure NetworkListing where
  /-- The request for the page, or for the next one. -/
  query : ServerQuery
  /-- Only the listing of a workgroup can go on behind a partial page. -/
  workgroup : Bool
  /-- Whether the page is whole or partial. -/
  status : Win32Status := .success
  /-- The page. -/
  page : List Entry := []

namespace NetworkListing

/-- A listing of the servers of some types. -/
def new (domain : String) (types : UInt32) (workgroup : Bool) (settings : Settings) :
    NetworkListing :=
  { query :=
      { command := .netServerEnum2
        domain
        serverTypes := types
        lastName := none
        maxBuffer := settings.listSize }
    workgroup }

/-- A listing of the domains that can be seen from a domain. -/
def domains (oemDomain : String) (settings : Settings) : NetworkListing :=
  new oemDomain ServerRecord.domainType true settings

/-- A listing of every server of a workgroup. -/
def ofWorkgroup (workgroup : String) (settings : Settings) : NetworkListing :=
  new workgroup ServerRecord.anyType true settings

/-- The page is partial. -/
def isPartial (listing : NetworkListing) : Bool := listing.status = .moreData

/-- The entries that may be handed out: of a partial page, all but the last. -/
def results (listing : NetworkListing) : List Entry :=
  if listing.isPartial then listing.page.dropLast else listing.page

/-- Asks for the page that the query describes. -/
def ask (listing : NetworkListing) (tree : TreeRef) (session : Session) :
    Except Fault Unit × NetworkListing × Session :=
  match session.send tree (.serverEnum listing.query) .plain with
  | (.error fault, session) => (.error fault, listing, session)
  | (.ok (.serverList page), session) =>
    if page.status = .serviceNotInstalled then
      (.error (.unsupported "server browsing service not installed"), listing, session)
    else if page.status = .success ∨ page.status = .moreData then
      let session := session.note
        (.serverPage listing.query.command listing.query.domain page.entries.length page.status)
      (.ok (),
        { listing with status := page.status, page := page.entries.map ServerRecord.toEntry },
        session)
    else (.error (.win32 page.status), listing, session)
  | (.ok _, session) => (.error (.protocol "unexpected reply to NetServerEnum"), listing, session)

/-- Asks for the first page. -/
def start (listing : NetworkListing) (tree : TreeRef) (session : Session) :
    Except Fault Bool × NetworkListing × Session :=
  match listing.ask tree session with
  | (.error fault, listing, session) => (.error fault, listing, session)
  | (.ok (), listing, session) => (.ok !listing.page.isEmpty, listing, session)

/-- A partial page that ends where the page before it ended would be asked for again and again. -/
def isStalled (listing : NetworkListing) (resume : String) : Bool :=
  listing.isPartial && listing.page.getLast?.map (·.name) = some resume

/-- Asks for the page that goes on from the last name of this one. -/
def fetchMore (listing : NetworkListing) (tree : TreeRef) (session : Session) :
    Except Fault Bool × NetworkListing × Session :=
  if !listing.workgroup then
    (.error (.invalid "server listing continuation requires a workgroup"), listing, session)
  else
    match listing.page.getLast? with
    | none =>
      (.error (.protocol "partial server list without a resume name"), listing, session)
    | some last =>
      let query := { listing.query with command := .netServerEnum3, lastName := some last.name }
      match ask { listing with query } tree session with
      | (.error fault, listing, session) => (.error fault, listing, session)
      | (.ok (), listing, session) =>
        if listing.isStalled last.name then
          (.error (.protocol "server list continuation made no progress"), listing, session)
        else (.ok true, listing, session)

/-- The server holds nothing for the listing. -/
def finish (listing : NetworkListing) (_ : TreeRef) (session : Session) :
    Except Fault Unit × NetworkListing × Session :=
  (.ok (), listing, session)

/-- No more is handed out than the page holds. -/
theorem length_results_le (listing : NetworkListing) :
    listing.results.length ≤ listing.page.length := by
  unfold results
  -- At most the last record is withheld.
  split <;> simp

/-- A page that came was taken off the script. -/
theorem ask_weight {listing more : NetworkListing} {tree : TreeRef} {session after : Session}
    (asked : listing.ask tree session = (.ok (), more, after)) :
    after.weight + more.page.length < session.weight := by
  unfold ask at asked
  split at asked
  · simp at asked
  · rename_i answered
    split at asked
    · simp at asked
    · split at asked
      · simp only [Prod.mk.injEq, true_and] at asked
        obtain ⟨rfl, rfl⟩ := asked
        -- Of all the outcomes only this one is a success, and its answer is off the script.
        have taken := Session.weight_send_ok rfl answered
        simp only [Response.entryCount] at taken
        simp only [List.length_map, Session.weight_note]
        omega
      · simp at asked
  · simp at asked

/-- A further page was taken off the script. -/
theorem fetchMore_weight {listing more : NetworkListing} {tree : TreeRef}
    {session after : Session} (fetched : listing.fetchMore tree session = (.ok true, more, after)) :
    after.weight + more.page.length < session.weight := by
  unfold fetchMore at fetched
  split at fetched
  · simp at fetched
  · split at fetched
    · simp at fetched
    · simp only at fetched
      split at fetched
      · simp at fetched
      · -- The query succeeded, and unless the listing has stalled its page is the further one.
        rename_i asked
        split at fetched
        · simp at fetched
        · simp only [Prod.mk.injEq, true_and] at fetched
          obtain ⟨rfl, rfl⟩ := fetched
          exact ask_weight asked

end NetworkListing

instance : PagedListing NetworkListing where
  label _ := "servers"
  start := NetworkListing.start
  results := NetworkListing.results
  isDone listing := !listing.isPartial
  fetchMore := NetworkListing.fetchMore
  finish := NetworkListing.finish
  stock _ := 0
  fetchMore_lt {_ more _ _ _} fetched := by
    have := NetworkListing.fetchMore_weight fetched
    have := more.length_results_le
    omega

end SmbBrowser
