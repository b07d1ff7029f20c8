import SmbBrowser.Proofs.Cursor.Advance

/-!
What can be seen of a cursor between two calls: either it has an entry in hand that its reader
wants, or everything was given back. Every call keeps this, whatever its listing answers.
-/

namespace SmbBrowser.Cursor

variable {Listing : Type}

/-- A cursor that still holds the tree that it was opened on. -/
structure Open (tree : TreeRef) (cursor : Cursor Listing) : Prop where
  /-- It is not closed. -/
  isOpen : cursor.state ≠ .closed
  /-- The tree is held. -/
  holds : cursor.tree = some tree

/-- A cursor that gave everything back. -/
structure Spent (cursor : Cursor Listing) : Prop where
  /-- It is closed. -/
  state : cursor.state = .closed
  /-- The tree is no longer held. -/
  released : cursor.tree = none
  /-- No entry is in hand. -/
  empty : cursor.next = none

/-- What waits to be reported is nothing that is to be given back. -/
theorem Spent.withDeferred {cursor : Cursor Listing} (spent : cursor.Spent)
    (deferred : Option Fault) : Spent { cursor with deferred } :=
  -- State, tree and entry in hand are the same.
  ⟨spent.state, spent.released, spent.empty⟩

/-- A cursor that gave everything back is closed. -/
theorem Spent.isClosed_eq {cursor : Cursor Listing} (spent : cursor.Spent) :
    cursor.isClosed = true := by
  -- Being closed is a matter of the state.
  simp [isClosed, spent.state]

variable [PagedListing Listing]

/-- A cursor that has read ahead. -/
structure Ahead (tree : TreeRef) (cursor : Cursor Listing) : Prop where
  /-- A page is there. -/
  state : cursor.state = .hasResult
  /-- The tree is held. -/
  holds : cursor.tree = some tree
  /-- An entry is in hand, and it is wanted. -/
  inHand : ∃ entry, cursor.next = some entry ∧ wants cursor.filter entry = true
  /-- No more of the page was read than there is. -/
  within : cursor.index ≤ (PagedListing.results cursor.listing).length
  /-- No failure waits to be reported. -/
  settled : cursor.deferred = none

/-- What is true of every opened cursor between two calls. -/
def Sound (tree : TreeRef) (cursor : Cursor Listing) : Prop :=
  cursor.Ahead tree ∨ cursor.Spent

variable {cursor ahead : Cursor Listing} {tree : TreeRef} {session after : Session}

/-- A cursor that has read ahead is open. -/
theorem Ahead.opened (reading : cursor.Ahead tree) : cursor.Open tree :=
  -- Its state says so, and it holds its tree.
  ⟨by simp [reading.state], reading.holds⟩

/-- A cursor that has read ahead is not closed. -/
theorem Ahead.isClosed_eq (reading : cursor.Ahead tree) : cursor.isClosed = false := by
  -- Being closed is a matter of the state.
  simp [isClosed, reading.state]

/-- Reading on leaves a cursor open. -/
theorem Open.advance (opened : cursor.Open tree) (session : Session) :
    (cursor.advance session).2.1.Open tree where
  -- Reading on never closes by itself, and keeps the tree.
  isOpen := state_advance_ne_closed cursor session opened.isOpen
  holds := (sameReader_advance cursor session).tree.trans opened.holds

/-- A page in which an entry was found stays the page, and is read no farther than it goes. -/
theorem readPage_found {entry : Entry} (paged : cursor.state = .hasResult)
    (within : cursor.index ≤ (PagedListing.results cursor.listing).length)
    (page : cursor.readPage session = (some (.ok (some entry)), ahead, after)) :
    ahead.state = .hasResult ∧ ahead.index ≤ (PagedListing.results ahead.listing).length ∧
      wants cursor.filter entry = true := by
  -- An entry can only come of the page itself.
  unfold readPage at page
  simp only at page
  split at page
  · rename_i found
    simp only [Prod.mk.injEq, Option.some.injEq, Except.ok.injEq] at page
    obtain ⟨rfl, rfl, _⟩ := page
    -- The scan looks at no more entries than the page has left.
    have bounded := read_scan_le cursor.filter cursor.unread
    refine ⟨paged, ?_, wants_of_found found⟩
    simp only [unread, List.length_drop] at bounded ⊢
    omega
  · -- A turned page brings no entry of its own.
    unfold turnPage at page
    simp only at page
    split at page
    · simp at page
    · split at page
      · simp at page
      · split at page <;> simp at page

/-- A turned page is read from its beginning. -/
theorem readPage_turned (page : cursor.readPage session = (none, ahead, after)) :
    ahead.state = .hasResult ∧ ahead.index = 0 := by
  -- Only a page on which nothing is wanted is turned.
  unfold readPage at page
  simp only at page
  split at page
  · simp at page
  · unfold turnPage at page
    simp only at page
    split at page
    · simp at page
    · split at page
      · simp at page
      · split at page
        · simp at page
        · simp at page
        · simp only [Prod.mk.injEq, true_and] at page
          obtain ⟨rfl, _⟩ := page
          exact ⟨rfl, rfl⟩

/-- Reading on to an entry ends on a page that has it, and the entry is wanted. -/
theorem advance_found {entry : Entry} (paged : cursor.state = .hasResult)
    (within : cursor.index ≤ (PagedListing.results cursor.listing).length)
    (advanced : cursor.advance session = (.ok (some entry), ahead, after)) :
    ahead.state = .hasResult ∧ ahead.index ≤ (PagedListing.results ahead.listing).length ∧
      wants cursor.filter entry = true := by
  -- Every page that is turned on the way is read from its beginning.
  fun_induction advance cursor session with
  | case1 cursor session result ahead' after' page =>
    simp only [Prod.mk.injEq] at advanced
    obtain ⟨rfl, rfl, rfl⟩ := advanced
    exact readPage_found paged within page
  | case2 cursor session turned later page ih =>
    obtain ⟨state, start⟩ := readPage_turned page
    have same := cursor.sameReader_readPage session
    rw [page] at same
    rw [← same.filter]
    exact ih state (by omega) advanced

/-- A cursor that read on to an entry has it in hand. -/
theorem ahead_of_advance {entry : Entry}
    (advanced : cursor.advance session = (.ok (some entry), ahead, after))
    (paged : cursor.state = .hasResult) (holds : cursor.tree = some tree)
    (within : cursor.index ≤ (PagedListing.results cursor.listing).length)
    (settled : cursor.deferred = none) : Ahead tree { ahead with next := some entry } := by
  -- What the reader had before, a choice of names and nothing to report, it has still.
  have same := cursor.sameReader_advance session
  rw [advanced] at same
  have chosen : ahead.filter = cursor.filter := same.filter
  obtain ⟨state, bounded, wanted⟩ := advance_found paged within advanced
  exact
    { state
      holds := same.tree.trans holds
      inHand := ⟨entry, rfl, by simpa only [chosen] using wanted⟩
      within := bounded
      settled := same.deferred.trans settled }

/-- A cursor that is closed while it is open has given everything back. -/
theorem Open.close (opened : cursor.Open tree) (session : Session) :
    (cursor.close session).1.Spent := by
  -- The tree is there, so the whole of closing is run.
  unfold Cursor.close
  rw [if_neg opened.isOpen]
  simp only [opened.holds]
  exact ⟨rfl, rfl, rfl⟩

/-- Closing changes nothing any more once everything was given back. -/
theorem Spent.close_eq (spent : cursor.Spent) (session : Session) :
    cursor.close session = (cursor, session) := by
  -- The state is looked at before anything is given back.
  unfold Cursor.close
  rw [if_pos spent.state]

/-- Pulling only reports the failure that waits, if there is one, once everything was given back. -/
theorem Spent.pull_eq (spent : cursor.Spent) (session : Session) :
    cursor.pull session =
      (match cursor.deferred with
        | some fault => .error fault
        | none => .ok none,
        { cursor with deferred := none }, session) := by
  -- The failure that waits is asked for before the state.
  unfold Cursor.pull
  cases waiting : cursor.deferred with
  | some fault => rfl
  | none =>
    simp only [if_pos spent.state]
    rw [← waiting]

/-- What comes of a pull at a cursor with an entry in hand: the entry is handed out, and behind it
another one was read ahead, or the cursor was closed. -/
inductive Pulled (tree : TreeRef) (cursor : Cursor Listing) (session : Session) (entry : Entry) :
    Except Fault (Option Entry) × Cursor Listing × Session → Prop where
  /-- There is another entry. -/
  | found {next : Entry} {ahead : Cursor Listing} {after : Session}
    (advanced : { cursor with next := none }.advance session = (.ok (some next), ahead, after))
    (reading : Ahead tree { ahead with next := some next }) :
    Pulled tree cursor session entry (.ok (some entry), { ahead with next := some next }, after)
  /-- There is no other entry. -/
  | ended {ahead : Cursor Listing} {after : Session}
    (advanced : { cursor with next := none }.advance session = (.ok none, ahead, after))
    (opened : ahead.Open tree) :
    Pulled tree cursor session entry (.ok (some entry), ahead.close after)
  /-- Reading on failed, which is reported by the next pull. -/
  | failed {fault : Fault} {ahead : Cursor Listing} {after : Session}
    (advanced : { cursor with next := none }.advance session = (.error fault, ahead, after))
    (opened : ahead.Open tree) :
    Pulled tree cursor session entry
      (.ok (some entry),
        { (ahead.close (after.note (.cursorAdvanceFailed ahead.label fault))).1 with
          deferred := some fault },
        (ahead.close (after.note (.cursorAdvanceFailed ahead.label fault))).2)

/-- That is all that comes of a pull at a cursor with an entry in hand. -/
theorem Ahead.pulled (reading : cursor.Ahead tree) {entry : Entry}
    (inHand : cursor.next = some entry) (session : Session) :
    Pulled tree cursor session entry (cursor.pull session) := by
  -- Reading on is done with empty hands, which keeps the cursor open.
  have opened : Open tree { cursor with next := none } :=
    ⟨reading.opened.isOpen, reading.holds⟩
  have still := opened.advance session
  unfold Cursor.pull
  simp only [if_neg reading.opened.isOpen, inHand]
  split
  · rename_i waiting
    simp [reading.settled] at waiting
  · split <;> rename_i advanced <;> rw [advanced] at still
    · exact .found advanced
        (ahead_of_advance advanced reading.state reading.holds reading.within reading.settled)
    · exact .ended advanced still
    · exact .failed advanced still

/-- Whatever comes of a pull, the cursor is sound. -/
theorem Pulled.sound {entry : Entry}
    {outcome : Except Fault (Option Entry) × Cursor Listing × Session}
    (pulled : Pulled tree cursor session entry outcome) : outcome.2.1.Sound tree := by
  -- Only another entry leaves the cursor open.
  cases pulled with
  | found advanced reading => exact .inl reading
  | ended advanced opened => exact .inr (opened.close _)
  | failed advanced opened => exact .inr ((opened.close _).withDeferred _)

/-- A sound cursor that is closed has given everything back. -/
theorem Sound.spent (sound : cursor.Sound tree) (closed : cursor.state = .closed) :
    cursor.Spent := by
  -- A cursor that has read ahead is open.
  rcases sound with reading | spent
  · exact (reading.opened.isOpen closed).elim
  · exact spent

/-- Closing a sound cursor gives everything back. -/
theorem Sound.close (sound : cursor.Sound tree) (session : Session) :
    (cursor.close session).1.Spent := by
  -- Only an open cursor has anything to give back.
  rcases sound with reading | spent
  · exact reading.opened.close session
  · rw [spent.close_eq session]
    exact spent

/-- Pulling leaves a cursor sound. -/
theorem Sound.pull (sound : cursor.Sound tree) (session : Session) :
    (cursor.pull session).2.1.Sound tree := by
  -- A spent cursor only tells what waits, and nothing waits from then on.
  rcases sound with reading | spent
  · obtain ⟨entry, inHand, _⟩ := reading.inHand
    exact (reading.pulled inHand session).sound
  · rw [spent.pull_eq session]
    exact .inr (spent.withDeferred none)

/-- A pull that fails leaves nothing in the cursor's hands. -/
theorem Sound.spent_of_pull {used : Cursor Listing} {fault : Fault} (sound : cursor.Sound tree)
    (pulled : cursor.pull session = (.error fault, used, after)) : used.Spent := by
  rcases sound with reading | spent
  · -- An entry in hand would have been handed out before the failure.
    obtain ⟨entry, inHand, _⟩ := reading.inHand
    have entryFirst := reading.pulled inHand session
    rw [pulled] at entryFirst
    cases entryFirst
  · rw [spent.pull_eq session, Prod.mk.injEq, Prod.mk.injEq] at pulled
    obtain ⟨_, rfl, _⟩ := pulled
    exact spent.withDeferred none

/-- What comes of the beginning: a failure at an open cursor, or an entry that was read ahead, or a
cursor that is closed. -/
inductive Begun (tree : TreeRef) (cursor : Cursor Listing) (session : Session) :
    Except Fault Unit × Cursor Listing × Session → Prop where
  /-- The listing cannot be started. -/
  | refused {fault : Fault} {listing : Listing} {after : Session}
    (started : PagedListing.start cursor.listing tree (session.noteHook cursor.label .start) =
      (.error fault, listing, after))
    (opened : Open tree { cursor with listing }) :
    Begun tree cursor session (.error fault, { cursor with listing }, after)
  /-- Nothing matches. -/
  | empty {listing : Listing} {after : Session}
    (started : PagedListing.start cursor.listing tree (session.noteHook cursor.label .start) =
      (.ok false, listing, after))
    (opened : Open tree { cursor with listing }) :
    Begun tree cursor session
      (.ok (),
        { cursor with listing }.close (after.note (.cursorEmpty (PagedListing.label listing))))
  /-- There is a first entry. -/
  | found {listing : Listing} {next : Entry} {ahead : Cursor Listing} {later after : Session}
    (started : PagedListing.start cursor.listing tree (session.noteHook cursor.label .start) =
      (.ok true, listing, later))
    (advanced : { cursor with listing, state := .hasResult }.advance later =
      (.ok (some next), ahead, after))
    (reading : Ahead tree { ahead with next := some next }) :
    Begun tree cursor session (.ok (), { ahead with next := some next }, after)
  /-- There is no entry. -/
  | ended {listing : Listing} {ahead : Cursor Listing} {later after : Session}
    (started : PagedListing.start cursor.listing tree (session.noteHook cursor.label .start) =
      (.ok true, listing, later))
    (advanced : { cursor with listing, state := .hasResult }.advance later =
      (.ok none, ahead, after))
    (opened : ahead.Open tree) :
    Begun tree cursor session (.ok (), ahead.close after)
  /-- Reading on to the first entry failed. -/
  | failed {fault : Fault} {listing : Listing} {ahead : Cursor Listing} {later after : Session}
    (started : PagedListing.start cursor.listing tree (session.noteHook cursor.label .start) =
      (.ok true, listing, later))
    (advanced : { cursor with listing, state := .hasResult }.advance later =
      (.error fault, ahead, after))
    (opened : ahead.Open tree) :
    Begun tree cursor session (.error fault, ahead, after)

/-- That is all that comes of the beginning. -/
theorem Open.begun (opened : cursor.Open tree) (start : cursor.index = 0)
    (settled : cursor.deferred = none) (session : Session) :
    Begun tree cursor session (cursor.begin tree session) := by
  -- Only a listing that has started is read.
  unfold begin
  simp only
  split
  · rename_i started
    exact .refused started ⟨opened.isOpen, opened.holds⟩
  · rename_i started
    exact .empty started ⟨opened.isOpen, opened.holds⟩
  · rename_i listing later started
    have paged : Open tree { cursor with listing, state := .hasResult } := ⟨by simp, opened.holds⟩
    have still := paged.advance later
    split <;> rename_i advanced <;> rw [advanced] at still
    · exact .failed started advanced still
    · exact .found started advanced
        (ahead_of_advance advanced rfl opened.holds (by simp [start]) settled)
    · exact .ended started advanced still

/-- A cursor that cannot begin is open. -/
theorem Begun.opened {outcome : Except Fault Unit × Cursor Listing × Session} {fault : Fault}
    (begun : Begun tree cursor session outcome) (failed : outcome.1 = .error fault) :
    outcome.2.1.Open tree := by
  -- There are two ways to fail, and neither of them closes the cursor.
  cases begun with
  | refused started opened => exact opened
  | empty | found | ended => simp at failed
  | failed started advanced opened => exact opened

/-- What comes of the beginning of a cursor over a listing. -/
theorem begun_fresh (listing : Listing) (tree : TreeRef) (filter : Option NameFilter)
    (session : Session) :
    Begun tree { listing, tree := some tree, filter } session
      (begin { listing, tree := some tree, filter } tree session) :=
  -- A new cursor is open, has looked at nothing and has nothing to report.
  Open.begun ⟨by simp, rfl⟩ rfl rfl session

end SmbBrowser.Cursor
