import SmbBrowser.Listing.Directory
import SmbBrowser.Listing.Host
import SmbBrowser.Listing.Network
import SmbBrowser.Listing.Rehearsed
import SmbBrowser.Listing.Search

/-! The sorts of listing there are, as one type. -/

namespace SmbBrowser

/-- A listing of any sort. -/
inductive Listing where
  /-- A directory, by search. -/
  | search (listing : SearchListing)
  /-- A directory, by an open directory. -/
  | directory (listing : DirectoryListing)
  /-- Servers or domains. -/
  | network (listing : NetworkListing)
  /-- Shares. -/
  | host (listing : HostListing)
  /-- Whatever was laid down. -/
  | rehearsed (listing : RehearsedListing)

namespace Listing

/-- What a call of a listing of one sort means for a listing of any sort. -/
def lift {Kind Result : Type} (wrap : Kind → Listing) :
    Except Fault Result × Kind × Session → Except Fault Result × Listing × Session
  | (result, listing, session) => (result, wrap listing, session)

/-- The listing's name in the log. -/
def label : Listing → String
  | .search listing => PagedListing.label listing
  | .directory listing => PagedListing.label listing
  | .network listing => PagedListing.label listing
  | .host listing => PagedListing.label listing
  | .rehearsed listing => PagedListing.label listing

/-- Asks for the first page. -/
def start (listing : Listing) (tree : TreeRef) (session : Session) :
    Except Fault Bool × Listing × Session :=
  match listing with
  | .search listing => lift .search (PagedListing.start listing tree session)
  | .directory listing => lift .directory (PagedListing.start listing tree session)
  | .network listing => lift .network (PagedListing.start listing tree session)
  | .host listing => lift .host (PagedListing.start listing tree session)
  | .rehearsed listing => lift .rehearsed (PagedListing.start listing tree session)

/-- The entries of the page that may be handed out. -/
def results : Listing → List Entry
  | .search listing => PagedListing.results listing
  | .directory listing => PagedListing.results listing
  | .network listing => PagedListing.results listing
  | .host listing => PagedListing.results listing
  | .rehearsed listing => PagedListing.results listing

/-- No page follows this one. -/
def isDone : Listing → Bool
  | .search listing => PagedListing.isDone listing
  | .directory listing => PagedListing.isDone listing
  | .network listing => PagedListing.isDone listing
  | .host listing => PagedListing.isDone listing
  | .rehearsed listing => PagedListing.isDone listing

/-- Asks for the next page. -/
def fetchMore (listing : Listing) (tree : TreeRef) (session : Session) :
    Except Fault Bool × Listing × Session :=
  match listing with
  | .search listing => lift .search (PagedListing.fetchMore listing tree session)
  | .directory listing => lift .directory (PagedListing.fetchMore listing tree session)
  | .network listing => lift .network (PagedListing.fetchMore listing tree session)
  | .host listing => lift .host (PagedListing.fetchMore listing tree session)
  | .rehearsed listing => lift .rehearsed (PagedListing.fetchMore listing tree session)

/-- Gives back what the server holds for the listing. -/
def finish (listing : Listing) (tree : TreeRef) (session : Session) :
    Except Fault Unit × Listing × Session :=
  match listing with
  | .search listing => lift .search (PagedListing.finish listing tree session)
  | .directory listing => lift .directory (PagedListing.finish listing tree session)
  | .network listing => lift .network (PagedListing.finish listing tree session)
  | .host listing => lift .host (PagedListing.finish listing tree session)
  | .rehearsed listing => lift .rehearsed (PagedListing.finish listing tree session)

/-- How much the listing can still add of its own. -/
def stock : Listing → Nat
  | .search listing => PagedListing.stock listing
  | .directory listing => PagedListing.stock listing
  | .network listing => PagedListing.stock listing
  | .host listing => PagedListing.stock listing
  | .rehearsed listing => PagedListing.stock listing

/-- A further page uses up more than it brings, whatever the sort. -/
theorem fetchMore_lt {listing more : Listing} {tree : TreeRef} {session after : Session}
    (fetched : listing.fetchMore tree session = (.ok true, more, after)) :
    more.stock + after.weight + more.results.length < listing.stock + session.weight := by
  -- Each sort has shown this of itself.
  cases listing <;>
    · simp only [fetchMore, lift, Prod.mk.injEq] at fetched
      obtain ⟨result, rfl, rfl⟩ := fetched
      exact PagedListing.fetchMore_lt (Prod.ext result rfl)

/-- Forgets the directory that a listing may hold open, without giving it back. -/
def forget (listing : Listing) (session : Session) : Session :=
  match listing with
  | .directory { dir := some dir, .. } => session.forgetFile dir
  | _ => session

end Listing

instance : PagedListing Listing where
  label := Listing.label
  start := Listing.start
  results := Listing.results
  isDone := Listing.isDone
  fetchMore := Listing.fetchMore
  finish := Listing.finish
  stock := Listing.stock
  fetchMore_lt := Listing.fetchMore_lt

end SmbBrowser
