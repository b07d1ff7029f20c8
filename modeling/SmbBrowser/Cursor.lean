import SmbBrowser.Listing

/-!
Cursors: a lazy, single pass over a listing. A cursor stays exactly one accepted entry ahead of its
reader, holds one reference to the tree, and gives everything back at the first of its many ends.
-/

namespace SmbBrowser

/-- How far a cursor has come. -/
inductive CursorState where
  /-- The first page was asked for. -/
  | opening
  /-- A page is there. -/
  | hasResult
  /-- A further page was asked for. -/
  | fetching
  /-- There are no more pages. -/
  | exhausted
  /-- Everything was given back. -/
  | closed
  deriving DecidableEq

/-- The state's name as a title. -/
def CursorState.title : CursorState → String
  | .opening => "Opening"
  | .hasResult => "HasResult"
  | .fetching => "Fetching"
  | .exhausted => "Exhausted"
  | .closed => "Closed"

/-- The caller's choice of names; a failing choice skips the name. -/
abbrev NameFilter := String → Except Fault Bool

/-- A pass over a listing. -/
structure Cursor (Listing : Type) where
  /-- The listing. -/
  listing : Listing
  /-- The tree it is read through, until the cursor is closed. -/
  tree : Option TreeRef
  /-- The caller's choice of names, if there is one. -/
  filter : Option NameFilter := none
  /-- How much of the page was read. -/
  index : Nat := 0
  /-- The entry that was read ahead. -/
  next : Option Entry := none
  /-- The failure behind the last entry, which the next pull reports. -/
  deferred : Option Fault := none
  /-- How far the cursor has come. -/
  state : CursorState := .opening

/-- What a look through part of a page brought. -/
structure Scan where
  /-- The first entry that is wanted. -/
  found : Option Entry
  /-- How many entries were looked at. -/
  read : Nat
  /-- What there is to log. -/
  events : List Event

namespace Cursor

/-- Whether an entry is wanted, and what there is to log about that. -/
def judge (filter : Option NameFilter) (entry : Entry) : Bool × List Event :=
  if entry.isSelfOrParent then (false, [])
  else
    match filter with
    | none => (true, [])
    | some wants =>
      match wants entry.name with
      | .ok wanted => (wanted, [])
      | .error fault => (false, [.nameFilterFailed entry.name fault])

/-- Looks for the first entry that is wanted. -/
def scan (filter : Option NameFilter) : List Entry → Scan
  | [] => ⟨none, 0, []⟩
  | entry :: entries =>
    match judge filter entry with
    | (true, events) => ⟨some entry, 1, events⟩
    | (false, events) =>
      let rest := scan filter entries
      ⟨rest.found, rest.read + 1, events ++ rest.events⟩

/-- A wanted entry was looked at. -/
theorem read_scan_pos {filter : Option NameFilter} {entries : List Entry} {entry : Entry}
    (found : (scan filter entries).found = some entry) :
    0 < (scan filter entries).read := by
  -- On an empty page nothing is found.
  cases entries with
  | nil => simp [scan] at found
  | cons first rest =>
    simp only [scan]
    split <;> simp

/-- No more is looked at than there is. -/
theorem read_scan_le (filter : Option NameFilter) (entries : List Entry) :
    (scan filter entries).read ≤ entries.length := by
  induction entries with
  | nil => simp [scan]
  | cons first rest ih =>
    simp only [scan]
    -- The scan stops at the first entry or looks at one more of the rest.
    split <;> simp only [List.length_cons] <;> omega

variable {Listing : Type} [PagedListing Listing]

/-- The cursor's name in the log. -/
def label (cursor : Cursor Listing) : String := PagedListing.label cursor.listing

/-- The entries of the page that were not looked at. -/
def unread (cursor : Cursor Listing) : List Entry :=
  (PagedListing.results cursor.listing).drop cursor.index

/-- Turns the page; the result is none when there is a new page, else it is what ends the reading. -/
def turnPage (cursor : Cursor Listing) (session : Session) :
    Option (Except Fault (Option Entry)) × Cursor Listing × Session :=
  let session := session.noteHook cursor.label .isDone
  if PagedListing.isDone cursor.listing then
    (some (.ok none), { cursor with state := .exhausted }, session)
  else
    match cursor.tree with
    | none => (some (.ok none), cursor, session)
    | some tree =>
      match PagedListing.fetchMore cursor.listing tree
          (session.noteHook cursor.label .fetchMore) with
      | (.error fault, listing, session) =>
        (some (.error fault), { cursor with listing, state := .fetching }, session)
      | (.ok false, listing, session) =>
        (some (.ok none), { cursor with listing, state := .exhausted }, session)
      | (.ok true, listing, session) =>
        (none, { cursor with listing, index := 0, state := .hasResult }, session)

/-- Looks through the rest of the page; without an entry that is wanted, turns the page. -/
def readPage (cursor : Cursor Listing) (session : Session) :
    Option (Except Fault (Option Entry)) × Cursor Listing × Session :=
  let look := scan cursor.filter cursor.unread
  let cursor := { cursor with index := cursor.index + look.read }
  let session := session.noteAll look.events
  match look.found with
  | some entry => (some (.ok (some entry)), cursor, session)
  | none => cursor.turnPage session

/-- How much is left on the page and behind it. -/
def supply (cursor : Cursor Listing) (session : Session) : Nat :=
  PagedListing.stock cursor.listing + session.weight + cursor.unread.length

/-- A new page uses up more than it brings. -/
theorem supply_turnPage_lt {cursor turned : Cursor Listing} {session after : Session}
    (page : cursor.turnPage session = (none, turned, after)) :
    turned.supply after < PagedListing.stock cursor.listing + session.weight := by
  unfold turnPage at page
  simp only at page
  -- Only the last of the outcomes brings a page.
  split at page
  · simp at page
  · split at page
    · simp at page
    · split at page
      · simp at page
      · simp at page
      · rename_i fetched
        simp only [Prod.mk.injEq, true_and] at page
        obtain ⟨rfl, rfl⟩ := page
        have fewer := PagedListing.fetchMore_lt fetched
        simp only [Session.weight_noteHook] at fewer
        simpa only [supply, unread, List.drop_zero] using fewer

/-- Reading to the end of a page leaves less to read. -/
theorem supply_readPage_lt {cursor turned : Cursor Listing} {session after : Session}
    (page : cursor.readPage session = (none, turned, after)) :
    turned.supply after < cursor.supply session := by
  unfold readPage at page
  simp only at page
  -- The page was turned, so nothing was found on it.
  split at page
  · simp at page
  · exact Nat.lt_of_lt_of_le (supply_turnPage_lt page) (Nat.le_add_right _ _)

/-- Finding an entry leaves less to read. -/
theorem supply_readPage_found {cursor ahead : Cursor Listing} {session after : Session}
    {entry : Entry} (page : cursor.readPage session = (some (.ok (some entry)), ahead, after)) :
    ahead.supply after < cursor.supply session := by
  unfold readPage at page
  simp only at page
  split at page
  · rename_i found
    simp only [Prod.mk.injEq] at page
    obtain ⟨_, rfl, rfl⟩ := page
    -- The entry that was found is among those that were looked at.
    have positive := read_scan_pos found
    have bounded := read_scan_le cursor.filter cursor.unread
    simp only [supply, unread, List.length_drop, Session.weight_noteAll] at *
    omega
  · -- A turned page brings no entry of its own.
    unfold turnPage at page
    simp only at page
    split at page
    · simp at page
    · split at page
      · simp at page
      · split at page <;> simp at page

/-- Reads on to the next entry that is wanted, over as many pages as it takes. -/
def advance (cursor : Cursor Listing) (session : Session) :
    Except Fault (Option Entry) × Cursor Listing × Session :=
  match _ : cursor.readPage session with
  | (some result, cursor, session) => (result, cursor, session)
  | (none, cursor, session) => advance cursor session
termination_by cursor.supply session
decreasing_by exact supply_readPage_lt (by assumption)

/-- Gives the listing and the tree back, once; failures to do so are only logged. -/
def close (cursor : Cursor Listing) (session : Session) : Cursor Listing × Session :=
  if cursor.state = .closed then (cursor, session)
  else
    let cursor := { cursor with state := .closed, next := none }
    match cursor.tree with
    | none => (cursor, session)
    | some tree =>
      let label := cursor.label
      let session := session.noteHook label .finish
      let (finished, listing, session) := PagedListing.finish cursor.listing tree session
      let session := session.noteFailure (.cursorFinishFailed label) finished
      let (released, session) := session.releaseTree tree
      let session := session.noteFailure (.cursorReleaseFailed label) released
      -- The cursor knows the tree until the last word is written.
      let session := (session.note (.cursorClosed label)).forgetTree tree
      ({ cursor with listing, tree := none }, session)

/-- The next entry, or none at the end; the entry behind it is read ahead. -/
def pull (cursor : Cursor Listing) (session : Session) :
    Except Fault (Option Entry) × Cursor Listing × Session :=
  match cursor.deferred with
  | some fault => (.error fault, { cursor with deferred := none }, session)
  | none =>
    if cursor.state = .closed then (.ok none, cursor, session)
    else
      let current := cursor.next
      match { cursor with next := none }.advance session with
      | (.ok (some entry), cursor, session) =>
        (.ok current, { cursor with next := some entry }, session)
      | (.ok none, cursor, session) =>
        let (cursor, session) := cursor.close session
        (.ok current, cursor, session)
      | (.error fault, cursor, session) =>
        let session := session.note (.cursorAdvanceFailed cursor.label fault)
        let (cursor, session) := cursor.close session
        match current with
        | none => (.error fault, cursor, session)
        -- The entry in hand comes first, the failure behind it next.
        | some entry => (.ok (some entry), { cursor with deferred := some fault }, session)

/-- Asks for the first page and reads one entry ahead. -/
def begin (cursor : Cursor Listing) (tree : TreeRef) (session : Session) :
    Except Fault Unit × Cursor Listing × Session :=
  let session := session.noteHook cursor.label .start
  match PagedListing.start cursor.listing tree session with
  | (.error fault, listing, session) => (.error fault, { cursor with listing }, session)
  | (.ok false, listing, session) =>
    let session := session.note (.cursorEmpty (PagedListing.label listing))
    let (cursor, session) := { cursor with listing }.close session
    (.ok (), cursor, session)
  | (.ok true, listing, session) =>
    match { cursor with listing, state := .hasResult }.advance session with
    | (.error fault, cursor, session) => (.error fault, cursor, session)
    | (.ok (some entry), cursor, session) => (.ok (), { cursor with next := some entry }, session)
    | (.ok none, cursor, session) =>
      let (cursor, session) := cursor.close session
      (.ok (), cursor, session)

/-- A cursor over a listing; one that cannot begin gives everything back at once. -/
def ofListing (listing : Listing) (filter : Option NameFilter) (session : Session) :
    Except Fault (Cursor Listing) × Session :=
  match session.acquire with
  | (.error fault, session) => (.error fault, session)
  | (.ok tree, session) =>
    match begin { listing, tree := some tree, filter } tree session with
    | (.ok (), cursor, session) => (.ok cursor, session)
    | (.error fault, cursor, session) =>
      let session := session.note (.cursorOpenFailed cursor.label fault)
      let (_, session) := cursor.close session
      (.error fault, session)

/-- Everything was given back. -/
def isClosed (cursor : Cursor Listing) : Bool := cursor.state = .closed

/-- How many entries a cursor can still bring at most, and one more while it is open. -/
def left (cursor : Cursor Listing) (session : Session) : Nat :=
  if cursor.state = .closed then 0 else cursor.supply session + 1

/-- A shorter script brings no more entries. -/
theorem left_mono {cursor : Cursor Listing} {session after : Session}
    (lighter : after.weight ≤ session.weight) : cursor.left after ≤ cursor.left session := by
  unfold left supply
  -- A closed cursor has nothing left; an open one has what the script can bring.
  split <;> omega

/-- Reading on uses up at least the entry that it finds. -/
theorem supply_advance_lt {cursor ahead : Cursor Listing} {session after : Session} {entry : Entry}
    (advanced : cursor.advance session = (.ok (some entry), ahead, after)) :
    ahead.supply after < cursor.supply session := by
  -- Each page that is turned leaves less, and the entry that is found is used up.
  fun_induction advance cursor session with
  | case1 cursor session result ahead' after' page =>
    simp only [Prod.mk.injEq] at advanced
    obtain ⟨rfl, rfl, rfl⟩ := advanced
    exact supply_readPage_found page
  | case2 cursor session turned later page ih =>
    exact Nat.lt_trans (ih advanced) (supply_readPage_lt page)

/-- A closed cursor has nothing left. -/
theorem state_close (cursor : Cursor Listing) (session : Session) :
    (cursor.close session).1.state = .closed := by
  unfold close
  -- A cursor that is closed stays so, and any other is closed now.
  split
  · assumption
  · simp only
    split <;> rfl

/-- A pull that brings an entry leaves less to bring. -/
theorem left_pull_lt {cursor ahead : Cursor Listing} {session after : Session} {entry : Entry}
    (pulled : cursor.pull session = (.ok (some entry), ahead, after)) :
    ahead.left after < cursor.left session := by
  unfold pull at pulled
  split at pulled
  · simp at pulled
  · split at pulled
    · simp at pulled
    · rename_i notClosed
      have positive : cursor.left session = cursor.supply session + 1 := if_neg notClosed
      simp only at pulled
      split at pulled
      · rename_i advanced
        -- One entry was read ahead in place of the one that is handed out.
        simp only [Prod.mk.injEq] at pulled
        obtain ⟨_, rfl, rfl⟩ := pulled
        have fewer := supply_advance_lt advanced
        simp only [left, supply, unread] at *
        split <;> omega
      · rename_i turned later _
        simp only [Prod.mk.injEq] at pulled
        obtain ⟨_, rfl, rfl⟩ := pulled
        have closed := state_close turned later
        simp only [left, closed, if_true] at *
        omega
      · rename_i fault turned later _
        have closed := state_close turned
          (later.note (.cursorAdvanceFailed turned.label fault))
        split at pulled
        · simp at pulled
        · simp only [Prod.mk.injEq] at pulled
          obtain ⟨_, rfl, rfl⟩ := pulled
          simp only [left, closed, if_true] at *
          omega

end Cursor

end SmbBrowser
