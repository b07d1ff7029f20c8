import SmbBrowser.Listing

/-! Listing the shares of a server, which come on a single page. -/

namespace SmbBrowser

/-- A listing of the shares of a server. -/
structure HostListing where
  /-- The page. -/
  page : List Entry := []

namespace HostListing

/-- The first record of each name, in order. -/
def distinct : List ShareRecord → List ShareRecord
  | [] => []
  | record :: records => record :: (distinct records).filter (·.name ≠ record.name)

/-- Asks for the shares. -/
def start (listing : HostListing) (tree : TreeRef) (session : Session) :
    Except Fault Bool × HostListing × Session :=
  match session.send tree .shareEnum .plain with
  | (.error fault, session) => (.error fault, listing, session)
  | (.ok (.shareList page), session) =>
    if page.status = .success then
      let entries := (distinct page.entries).map ShareRecord.toEntry
      (.ok !entries.isEmpty, { page := entries }, session)
    else if page.status = .serviceNotInstalled then
      (.error (.unsupported "share enumeration not available"), listing, session)
    else (.error (.win32 page.status), listing, session)
  | (.ok _, session) => (.error (.protocol "unexpected reply to NetShareEnum"), listing, session)

end HostListing

instance : PagedListing HostListing where
  label _ := "shares"
  start := HostListing.start
  results listing := listing.page
  isDone _ := true
  fetchMore listing _ session := (.ok false, listing, session)
  finish listing _ session := (.ok (), listing, session)
  stock _ := 0
  fetchMore_lt fetched := by simp at fetched

end SmbBrowser
