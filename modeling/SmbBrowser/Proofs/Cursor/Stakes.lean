import SmbBrowser.Proofs.Cursor.Sound
import SmbBrowser.Proofs.Listing.Stakes

/-!
The stakes of cursors: one place and one reference for the tree while a cursor holds it, besides
what its listing has. Whatever a cursor does is a chain of deals, and closed it has no stake left.
-/

namespace SmbBrowser

namespace Cursor

variable {Listing : Type} [PagedListing Listing] [StakedListing Listing] {licence : Licence}
  [licence.Reads] {rest : Multiset Stake}

/-- The stakes of a cursor. -/
def stakes (cursor : Cursor Listing) : Multiset Stake :=
  StakedListing.stakes cursor.listing + (cursor.tree.map TreeRef.hold).getD 0

/-- The stakes of a cursor that holds a tree, with those of its listing in front. -/
theorem stakes_hold (cursor : Cursor Listing) {tree : TreeRef} (holds : cursor.tree = some tree)
    (rest : Multiset Stake) :
    cursor.stakes + rest = StakedListing.stakes cursor.listing + (tree.hold + rest) := by
  -- A cursor that holds a tree holds it once.
  simp [stakes, holds, add_assoc]

/-- Turning the page is a chain of deals. -/
theorem turnPage_deals (cursor : Cursor Listing) (session : Session) :
    Deals licence (session, cursor.stakes + rest)
      ((cursor.turnPage session).2.2, (cursor.turnPage session).2.1.stakes + rest) := by
  have asked : Deals licence (session, cursor.stakes + rest) _ :=
    Deals.noteHook cursor.label .isDone .refl
  unfold turnPage
  simp only
  split
  · exact asked
  · split
    · exact asked
    · rename_i tree holds
      -- The listing is asked while the cursor holds the tree.
      have called := asked.noteHook cursor.label .fetchMore
      rw [cursor.stakes_hold holds] at called ⊢
      have fetched := called.trans
        (StakedListing.fetchMore_deals cursor.listing _ (tree.tree_mem_hold rest))
      split <;> rename_i outcome <;> rw [outcome] at fetched <;>
        simpa only [stakes, holds, Option.map_some, Option.getD_some, add_assoc] using fetched

/-- Reading on to the end of a page is a chain of deals. -/
theorem readPage_deals (cursor : Cursor Listing) (session : Session) :
    Deals licence (session, cursor.stakes + rest)
      ((cursor.readPage session).2.2, (cursor.readPage session).2.1.stakes + rest) := by
  unfold readPage
  simp only
  generalize scan cursor.filter cursor.unread = look
  have looked : Deals licence (session, cursor.stakes + rest) _ :=
    Deals.noteAll look.events .refl
  -- An entry that is found asks for nothing; otherwise the page is turned.
  split
  · exact looked
  · exact looked.trans (turnPage_deals { cursor with index := cursor.index + look.read } _)

/-- Reading on to the next entry is a chain of deals. -/
theorem advance_deals (cursor : Cursor Listing) (session : Session) :
    Deals licence (session, cursor.stakes + rest)
      ((cursor.advance session).2.2, (cursor.advance session).2.1.stakes + rest) := by
  -- One page is read in each turn of the loop.
  fun_induction advance cursor session with
  | case1 cursor session result ahead after page =>
    have read : Deals licence (session, cursor.stakes + rest) _ := cursor.readPage_deals session
    rw [page] at read
    exact read
  | case2 cursor session turned later page ih =>
    have read : Deals licence (session, cursor.stakes + rest) _ := cursor.readPage_deals session
    rw [page] at read
    exact read.trans ih

/-- Closing a cursor is a chain of deals, and nothing of what it held is left. -/
theorem close_deals (cursor : Cursor Listing) (session : Session) :
    Deals licence (session, cursor.stakes + rest)
      ((cursor.close session).2, (cursor.close session).1.stakes + rest) := by
  unfold close
  split
  · exact .refl
  · simp only
    split
    · exact .refl
    · rename_i tree holds
      -- The listing is given back while the cursor holds the tree, and the tree behind it.
      have called : Deals licence (session, cursor.stakes + rest) _ :=
        Deals.noteHook cursor.label .finish .refl
      rw [cursor.stakes_hold holds] at called ⊢
      have finished := called.trans
        (StakedListing.finish_deals cursor.listing _ (tree.tree_mem_hold rest))
      rw [StakedListing.stakes_finish, zero_add] at finished
      have noted := Deals.noteFailure (.cursorFinishFailed cursor.label)
        (PagedListing.finish cursor.listing tree (session.noteHook cursor.label .finish)).1 finished
      have released := (noted.release (.cursorReleaseFailed cursor.label)).note
        (.cursorClosed cursor.label)
      simp only [stakes, StakedListing.stakes_finish, Option.map_none, Option.getD_none,
        add_zero, zero_add]
      exact released.forget

/-- Pulling is a chain of deals. -/
theorem pull_deals (cursor : Cursor Listing) (session : Session) :
    Deals licence (session, cursor.stakes + rest)
      ((cursor.pull session).2.2, (cursor.pull session).2.1.stakes + rest) := by
  unfold pull
  split
  · exact .refl
  · split
    · exact .refl
    · simp only
      have advanced : Deals licence (session, cursor.stakes + rest) _ :=
        advance_deals { cursor with next := none } session
      split <;> rename_i outcome <;> rw [outcome] at advanced
      · exact advanced
      · exact advanced.trans (close_deals _ _)
      · rename_i fault ahead later
        have noted := Deals.note (.cursorAdvanceFailed ahead.label fault) advanced
        have closed := noted.trans (close_deals ahead _)
        -- A deferred failure is no stake.
        split <;> exact closed

/-- A cursor that begins a fresh listing deals through the tree that it holds. -/
theorem begin_deals {cursor : Cursor Listing} (tree : TreeRef) (session : Session)
    (holds : cursor.tree = some tree) (fresh : StakedListing.stakes cursor.listing = 0) :
    Deals licence (session, cursor.stakes + rest)
      ((cursor.begin tree session).2.2, (cursor.begin tree session).2.1.stakes + rest) := by
  have called : Deals licence (session, cursor.stakes + rest) _ :=
    Deals.noteHook cursor.label .start .refl
  unfold begin
  simp only
  rw [cursor.stakes_hold holds] at called ⊢
  have started := called.trans
    (StakedListing.start_deals cursor.listing _ (tree.tree_mem_hold rest) (.inl fresh))
  -- Only a listing that has started is read.
  split <;> rename_i outcome <;> rw [outcome] at started
  · simpa only [stakes, holds, Option.map_some, Option.getD_some, add_assoc] using started
  · rename_i listing later
    rw [← stakes_hold { cursor with listing } holds] at started
    have noted := Deals.note (.cursorEmpty (PagedListing.label listing)) started
    exact noted.trans (close_deals { cursor with listing } _)
  · rename_i listing later
    rw [← stakes_hold { cursor with listing, state := .hasResult } holds] at started
    have advanced := started.trans
      (advance_deals { cursor with listing, state := .hasResult } later)
    split <;> rename_i outcome <;> rw [outcome] at advanced
    · exact advanced
    · exact advanced
    · exact advanced.trans (close_deals _ _)

/-- A cursor that is closed while it is open has no stake any more. -/
theorem Open.stakes_close {cursor : Cursor Listing} {tree : TreeRef} (opened : cursor.Open tree)
    (session : Session) : (cursor.close session).1.stakes = 0 := by
  -- The listing holds nothing once it is finished, and the tree is let go.
  unfold Cursor.close
  rw [if_neg opened.isOpen]
  simp [opened.holds, stakes, StakedListing.stakes_finish]

/-- Opening a cursor over a fresh listing is a chain of deals, and one that cannot be opened
leaves no stake. -/
theorem ofListing_deals {listing : Listing} (filter : Option NameFilter) (session : Session)
    (fresh : StakedListing.stakes listing = 0) :
    Deals licence (session, rest)
      ((ofListing listing filter session).2,
        gainedBy stakes (ofListing listing filter session).1 + rest) := by
  have taken : Deals licence (session, rest) _ := session.acquire_deals
  unfold ofListing
  split <;> rename_i acquired <;> rw [acquired] at taken
  · simpa [gainedBy] using taken
  · rename_i tree later
    -- The tree that was acquired is the one that the cursor holds.
    have held : Deals licence (session, rest)
        (later, stakes { listing, tree := some tree, filter } + rest) := by
      simpa [stakes, fresh, gainedBy] using taken
    have began := held.trans (begin_deals tree later rfl fresh)
    have begun := begun_fresh listing tree filter later
    split <;> rename_i outcome <;> rw [outcome] at began begun
    · exact began
    · rename_i fault failed last
      have closed := (Deals.note (.cursorOpenFailed failed.label fault) began).trans
        (close_deals failed _)
      rw [(begun.opened rfl).stakes_close] at closed
      exact closed

/-- A cursor that can be left to itself: it is sound, and has no stake once it is closed. -/
structure Clean (cursor : Cursor Listing) : Prop where
  /-- It is sound, whichever tree it was opened on. -/
  sound : ∃ tree, cursor.Sound tree
  /-- Closed, it has no stake. -/
  empty : cursor.state = .closed → cursor.stakes = 0

variable {cursor : Cursor Listing} {tree : TreeRef}

/-- A sound cursor has a reference to its tree while it is open. -/
theorem count_stakes {opened : TreeRef} (sound : cursor.Sound opened) (tree : TreeRef) :
    cursor.stakes.count (.reference tree) =
      if !cursor.isClosed && decide (cursor.tree = some tree) then 1 else 0 := by
  have unheld := Multiset.count_eq_zero.mpr (StakedListing.unheld cursor.listing tree)
  rw [stakes, Multiset.count_add, unheld, TreeRef.count_held, zero_add]
  -- A closed cursor holds no tree, so that it is open need not be asked.
  rcases sound with reading | spent
  · simp [isClosed, reading.state]
  · simp [isClosed, spent.state, spent.released]

/-- A cursor that has read ahead is clean. -/
theorem Ahead.clean (reading : cursor.Ahead tree) : cursor.Clean where
  -- It is open, so nothing is claimed of its stakes.
  sound := ⟨tree, .inl reading⟩
  empty closed := (reading.opened.isOpen closed).elim

/-- A cursor that is closed while it is open is clean. -/
theorem Open.clean_close (opened : cursor.Open tree) (session : Session) :
    (cursor.close session).1.Clean where
  -- Closing gives everything back.
  sound := ⟨tree, .inr (opened.close session)⟩
  empty _ := opened.stakes_close session

/-- A failure that waits to be reported leaves a cursor clean. -/
theorem Clean.withDeferred (clean : cursor.Clean) (closed : cursor.Spent)
    (deferred : Option Fault) : Clean { cursor with deferred } where
  -- What waits is no stake, so any tree will do for a spent cursor.
  sound := ⟨⟨0⟩, .inr (closed.withDeferred deferred)⟩
  empty isClosed := clean.empty isClosed

/-- Closing keeps a cursor clean. -/
theorem Clean.close (clean : cursor.Clean) (session : Session) :
    (cursor.close session).1.Clean := by
  -- An open cursor is closed now, and a closed one is left alone.
  obtain ⟨tree, reading | spent⟩ := clean.sound
  · exact reading.opened.clean_close session
  · rw [spent.close_eq session]
    exact clean

/-- Pulling keeps a cursor clean. -/
theorem Clean.pull (clean : cursor.Clean) (session : Session) :
    (cursor.pull session).2.1.Clean := by
  -- A cursor that is closed on the way was open before, and has no stake any more.
  obtain ⟨tree, reading | spent⟩ := clean.sound
  · obtain ⟨entry, inHand, _⟩ := reading.inHand
    have pulled := reading.pulled inHand session
    generalize cursor.pull session = outcome at pulled ⊢
    cases pulled with
    | found advanced reading => exact reading.clean
    | ended advanced opened => exact opened.clean_close _
    | failed advanced opened =>
      exact (opened.clean_close _).withDeferred (opened.close _) _
  · rw [spent.pull_eq session]
    exact clean.withDeferred spent none

/-- A cursor that began is clean. -/
theorem Begun.clean {session : Session} {outcome : Except Fault Unit × Cursor Listing × Session}
    (begun : Begun tree cursor session outcome) (succeeded : outcome.1 = .ok ()) :
    outcome.2.1.Clean := by
  -- A cursor that began has read ahead, or was closed where there was no entry.
  cases begun with
  | empty started opened => exact opened.clean_close _
  | found started advanced reading => exact reading.clean
  | ended started advanced opened => exact opened.clean_close _
  | refused | failed => simp at succeeded

/-- A cursor that was opened over a listing is clean. -/
theorem clean_ofListing {listing : Listing} {filter : Option NameFilter} {session after : Session}
    (opened : ofListing listing filter session = (.ok cursor, after)) : cursor.Clean := by
  unfold ofListing at opened
  split at opened
  · simp at opened
  · rename_i tree held _
    have begun := begun_fresh listing tree filter held
    -- Opening succeeds only if the tree was acquired and the cursor began.
    split at opened <;> rename_i began <;> rw [began] at begun
    · simp only [Prod.mk.injEq, Except.ok.injEq] at opened
      obtain ⟨rfl, rfl⟩ := opened
      exact begun.clean rfl
    · simp at opened

end Cursor

end SmbBrowser
