import SmbBrowser.Listing

/-! A listing whose every turn is laid down beforehand, to try out whoever reads it. -/

namespace SmbBrowser

/-- What happens when a rehearsed listing is asked for a page. -/
inductive Turn where
  /-- The request fails. -/
  | fail (fault : Fault)
  /-- A page comes, which may be the last. -/
  | page (entries : List Entry) (last : Bool)
  /-- Nothing comes. -/
  | nothing

/-- How much a turn can add to a listing. -/
def Turn.weight : Turn → Nat
  | .page entries _ => 1 + entries.length
  | _ => 1

/-- How much turns can add to a listing. -/
def turnsWeight : List Turn → Nat
  | [] => 0
  | turn :: turns => turn.weight + turnsWeight turns

/-- A listing with its turns. -/
structure RehearsedListing where
  /-- What happens at the start. -/
  opening : Turn
  /-- What happens at each further page. -/
  turns : List Turn
  /-- Why it cannot be given back, if it cannot. -/
  closing : Option Fault
  /-- The page. -/
  page : List Entry := []
  /-- No page follows this one. -/
  last : Bool := false

namespace RehearsedListing

/-- The name of every rehearsed listing in the log. -/
def title : String := "scripted"

/-- Takes a turn. -/
def play (listing : RehearsedListing) : Turn → Except Fault Bool × RehearsedListing
  | .fail fault => (.error fault, listing)
  | .page entries last => (.ok true, { listing with page := entries, last })
  | .nothing => (.ok false, listing)

/-- Takes the opening turn. -/
def start (listing : RehearsedListing) (_ : TreeRef) (session : Session) :
    Except Fault Bool × RehearsedListing × Session :=
  let (result, listing) := listing.play listing.opening
  (result, listing, session)

/-- Takes the next turn; behind the last turn nothing comes. -/
def fetchMore (listing : RehearsedListing) (_ : TreeRef) (session : Session) :
    Except Fault Bool × RehearsedListing × Session :=
  match listing.turns with
  | [] => (.ok false, listing, session)
  | turn :: turns =>
    let (result, listing) := play { listing with turns } turn
    (result, listing, session)

/-- Fails as often as it is laid down to. -/
def finish (listing : RehearsedListing) (_ : TreeRef) (session : Session) :
    Except Fault Unit × RehearsedListing × Session :=
  match listing.closing with
  | none => (.ok (), listing, session)
  | some fault => (.error fault, listing, session)

/-- How much the turns can still add. -/
def stock (listing : RehearsedListing) : Nat := turnsWeight listing.turns

/-- A further page uses up the turn that brings it. -/
theorem fetchMore_stock {listing more : RehearsedListing} {tree : TreeRef}
    {session after : Session} (fetched : listing.fetchMore tree session = (.ok true, more, after)) :
    more.stock + more.page.length < listing.stock ∧ after = session := by
  unfold fetchMore at fetched
  split at fetched
  · simp at fetched
  · rename_i turn turns isNext
    -- Only the turn of a page brings one, and it weighs more than its entries.
    cases turn <;> simp only [play, Prod.mk.injEq, reduceCtorEq, false_and] at fetched
    · obtain ⟨_, rfl, rfl⟩ := fetched
      refine ⟨?_, rfl⟩
      simp only [stock, isNext, turnsWeight, Turn.weight]
      omega
    · simp at fetched

end RehearsedListing

instance : PagedListing RehearsedListing where
  label _ := RehearsedListing.title
  start := RehearsedListing.start
  results listing := listing.page
  isDone listing := listing.last
  fetchMore := RehearsedListing.fetchMore
  finish := RehearsedListing.finish
  stock := RehearsedListing.stock
  fetchMore_lt fetched := by
    obtain ⟨fewer, rfl⟩ := RehearsedListing.fetchMore_stock fetched
    omega

end SmbBrowser
