import SmbBrowser.Session.Weight

/-!
Listings that come page by page. A listing owns its page and what it needs to ask for the next one;
whoever reads it owns the position in the page.
-/

namespace SmbBrowser

/-- A listing that is read page by page. -/
class PagedListing (Listing : Type) where
  /-- The listing's name in the log. -/
  label : Listing → String
  /-- Asks for the first page; false when nothing matches. -/
  start : Listing → TreeRef → Session → Except Fault Bool × Listing × Session
  /-- The entries of the page that may be handed out. -/
  results : Listing → List Entry
  /-- No page follows this one. -/
  isDone : Listing → Bool
  /-- Asks for the next page; false when there is none. -/
  fetchMore : Listing → TreeRef → Session → Except Fault Bool × Listing × Session
  /-- Gives back what the server holds for the listing. -/
  finish : Listing → TreeRef → Session → Except Fault Unit × Listing × Session
  /-- How much the listing can still add of its own. -/
  stock : Listing → Nat
  /-- A further page uses up more than it brings, so that no listing goes on for ever. -/
  fetchMore_lt : ∀ {listing more : Listing} {tree : TreeRef} {session after : Session},
    fetchMore listing tree session = (.ok true, more, after) →
      stock more + after.weight + (results more).length < stock listing + session.weight

/-- How a listing ends that met an end-of-listing status, or why it failed. -/
def Fault.asEnd (fault : Fault) : Except Fault Bool :=
  if fault.status? = some .noMoreFiles then .ok false else .error fault

end SmbBrowser
