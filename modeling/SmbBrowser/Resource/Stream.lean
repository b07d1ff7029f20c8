import SmbBrowser.Cursor
import SmbBrowser.Resource

/-!
Streams: the entries of a source, each turned into something else and offered to a filter. What
cannot be turned or is not wanted is passed over; failures of the source itself are passed on.
-/

namespace SmbBrowser

/-- A source of entries that can be closed. -/
class EntrySource (Source : Type) where
  /-- The next entry, or none at the end. -/
  pull : Source → Session → Except Fault (Option Entry) × Source × Session
  /-- Gives back what the source holds. -/
  close : Source → Session → Source × Session
  /-- How many entries the source can still bring at most. -/
  left : Source → Session → Nat
  /-- An entry that comes leaves fewer to come. -/
  left_pull_lt : ∀ {source rest : Source} {session after : Session} {entry : Entry},
    pull source session = (.ok (some entry), rest, after) → left rest after < left source session
  /-- A shorter script brings no more entries. -/
  left_mono : ∀ {source : Source} {session after : Session},
    after.weight ≤ session.weight → left source after ≤ left source session

instance {Listing : Type} [PagedListing Listing] : EntrySource (Cursor Listing) where
  pull := Cursor.pull
  close := Cursor.close
  left := Cursor.left
  left_pull_lt := Cursor.left_pull_lt
  left_mono := Cursor.left_mono

/-- A source that brings what the caller laid down. -/
structure FixedSource where
  /-- What is still to come. -/
  items : List (Except Fault Entry)
  /-- How often the source was closed. -/
  closes : Nat := 0

namespace FixedSource

/-- The next item. -/
def pull (source : FixedSource) (session : Session) :
    Except Fault (Option Entry) × FixedSource × Session :=
  match source.items with
  | [] => (.ok none, source, session)
  | item :: items => (item.map some, { source with items }, session)

/-- Counts that the source was closed. -/
def close (source : FixedSource) : FixedSource := { source with closes := source.closes + 1 }

end FixedSource

instance : EntrySource FixedSource where
  pull := FixedSource.pull
  close source session := (source.close, session)
  left source _ := source.items.length
  left_pull_lt {source _ _ _ _} pulled := by
    unfold FixedSource.pull at pulled
    split at pulled
    · simp at pulled
    · rename_i isNext
      simp only [Prod.mk.injEq] at pulled
      obtain ⟨_, rfl, _⟩ := pulled
      simp [isNext]
  left_mono _ := Nat.le_refl _

/-- How entries are turned into something else, and how that is given back. -/
structure Adapter (Item : Type) where
  /-- Turns an entry. -/
  adapt : Entry → Session → Except Fault Item × Session
  /-- Gives back what an entry was turned into. -/
  discard : Item → Session → Session
  /-- Turning an entry never adds to the script. -/
  weight_adapt_le : ∀ entry session, (adapt entry session).2.weight ≤ session.weight
  /-- Giving back never adds to the script. -/
  weight_discard_le : ∀ item session, (discard item session).weight ≤ session.weight

/-- Entries are turned into the resources that they stand for. -/
def Adapter.resources (parent : Locator) (tree : TreeRef) : Adapter Resource where
  adapt := Resource.ofEntry parent tree
  discard := Resource.discard
  weight_adapt_le entry session := Nat.le_of_eq (Resource.weight_ofEntry parent tree entry session)
  weight_discard_le := Resource.weight_discard_le

/-- Entries are turned into their names, if the caller wants them. -/
def Adapter.names (wants : NameFilter) : Adapter String where
  adapt entry session :=
    match wants entry.name with
    | .ok true => (.ok entry.name, session)
    | .ok false => (.error (.invalid ("adapter refused " ++ entry.name)), session)
    | .error fault => (.error fault, session)
  discard _ session := session
  weight_adapt_le entry session := by split <;> exact Nat.le_refl _
  weight_discard_le _ _ := Nat.le_refl _

/-- A source with what is made of its entries. -/
structure ResourceStream (Source Item : Type) where
  /-- Where the entries come from. -/
  source : Source
  /-- What is made of them. -/
  adapter : Adapter Item
  /-- What the caller wants, if not everything. -/
  filter : Option (Item → Except Fault Bool) := none
  /-- A tree that is held until the stream is closed. -/
  held : Option TreeRef := none
  /-- A tree that the adapter knows until the stream is dropped. -/
  known : Option TreeRef := none

namespace ResourceStream

variable {Source Item : Type}

/-- What is made of an entry, if it can be made and is wanted. -/
def offer (stream : ResourceStream Source Item) (entry : Entry) (session : Session) :
    Option Item × Session :=
  if entry.isSelfOrParent then (none, session)
  else
    match stream.adapter.adapt entry session with
    | (.error fault, session) => (none, session.note (.adaptFailed entry.name fault))
    | (.ok item, session) =>
      match stream.filter with
      | none => (some item, session)
      | some wants =>
        match wants item with
        | .ok true => (some item, session)
        | .ok false => (none, stream.adapter.discard item session)
        | .error fault =>
          -- The failure is logged before the item is given back.
          (none, stream.adapter.discard item (session.note (.streamFilterFailed entry.name fault)))

/-- Offering an entry never adds to the script. -/
theorem weight_offer_le (stream : ResourceStream Source Item) (entry : Entry) (session : Session) :
    (stream.offer entry session).2.weight ≤ session.weight := by
  unfold offer
  split
  · exact Nat.le_refl _
  · -- Three things happen at most, and none adds: the entry is turned, the filter asked, the item
    -- given back.
    have adapted := stream.adapter.weight_adapt_le entry session
    split
    · simp_all
    · rename_i item after isAdapted
      simp only [isAdapted] at adapted
      split
      · exact adapted
      · split
        · exact adapted
        · exact Nat.le_trans (stream.adapter.weight_discard_le _ _) adapted
        · refine Nat.le_trans (stream.adapter.weight_discard_le _ _) ?_
          simpa using adapted

variable [EntrySource Source]

/-- The next item, or none at the end. -/
def next (stream : ResourceStream Source Item) (session : Session) :
    Except Fault (Option Item) × ResourceStream Source Item × Session :=
  match _ : EntrySource.pull stream.source session with
  | (.error fault, source, session) => (.error fault, { stream with source }, session)
  | (.ok none, source, session) => (.ok none, { stream with source }, session)
  | (.ok (some entry), source, after) =>
    match _ : stream.offer entry after with
    | (some item, session) => (.ok (some item), { stream with source }, session)
    | (none, session) => next { stream with source } session
termination_by EntrySource.left stream.source session
decreasing_by
  -- The entry that came leaves fewer to come, and offering it adds none.
  rename_i pulled offered
  have lighter := stream.weight_offer_le entry after
  rw [offered] at lighter
  exact Nat.lt_of_le_of_lt (EntrySource.left_mono lighter) (EntrySource.left_pull_lt pulled)

/-- An item that comes leaves fewer entries to come. -/
theorem left_next_lt {stream rest : ResourceStream Source Item} {session after : Session}
    {item : Item} (read : stream.next session = (.ok (some item), rest, after)) :
    EntrySource.left rest.source after < EntrySource.left stream.source session := by
  -- Each pull of the source leaves less, whether its entry is handed out or passed over.
  fun_induction next stream session with
  | case1 => simp at read
  | case2 => simp at read
  | case3 stream session entry source later pulled item' done offered =>
    simp only [Prod.mk.injEq] at read
    obtain ⟨_, rfl, rfl⟩ := read
    have lighter := stream.weight_offer_le entry later
    rw [offered] at lighter
    exact Nat.lt_of_le_of_lt (EntrySource.left_mono lighter) (EntrySource.left_pull_lt pulled)
  | case4 stream session entry source later pulled done offered ih =>
    have lighter := stream.weight_offer_le entry later
    rw [offered] at lighter
    exact Nat.lt_trans (ih read)
      (Nat.lt_of_le_of_lt (EntrySource.left_mono lighter) (EntrySource.left_pull_lt pulled))

/-- Closes the source and gives the held tree back, once. -/
def close (stream : ResourceStream Source Item) (session : Session) :
    ResourceStream Source Item × Session :=
  let (source, session) := EntrySource.close stream.source session
  match stream.held with
  | none => ({ stream with source }, session)
  | some tree =>
    let (released, session) := session.releaseTree tree
    let session := session.noteFailure .streamReleaseFailed released
    ({ stream with source, held := none }, session.forgetTree tree)

/-- Closes the stream and forgets the tree that its adapter knows. -/
def drop (stream : ResourceStream Source Item) (session : Session) :
    ResourceStream Source Item × Session :=
  let (stream, session) := stream.close session
  match stream.known with
  | none => (stream, session)
  | some tree => ({ stream with known := none }, session.forgetTree tree)

end ResourceStream

end SmbBrowser
