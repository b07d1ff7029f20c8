import SmbBrowser.Proofs.Cursor.Residence
import SmbBrowser.Resource.Stream

/-!
The stakes of resources and streams: a resource holds its tree; a stream may hold a tree until it
is closed, and its adapter may know one until it is dropped.
-/

namespace SmbBrowser

variable {licence : Licence} {rest : Multiset Stake}

namespace Resource

/-- A resource holds the tree it was listed through. -/
def stakes (resource : Resource) : Multiset Stake := resource.tree.hold

/-- Making a resource takes a reference, if it is made. -/
theorem ofEntry_deals {tree : TreeRef} (parent : Locator) (entry : Entry) (session : Session)
    (known : .tree tree ∈ rest) :
    Deals licence (session, rest)
      ((ofEntry parent tree entry session).2,
        gainedBy stakes (ofEntry parent tree entry session).1 + rest) := by
  unfold ofEntry
  -- An entry that nothing can be made of takes no reference.
  split
  · simpa [gainedBy] using .refl
  · have shared : Deals licence (session, rest) _ := session.acquireTree_deals known
    split <;> rename_i outcome <;> rw [outcome] at shared
    · simpa [gainedBy] using shared
    · simpa [gainedBy, stakes] using shared

/-- Giving a resource back uses up what it held. -/
theorem discard_deals (resource : Resource) (session : Session) :
    Deals licence (session, resource.stakes + rest) (resource.discard session, rest) := by
  -- The hold is a reference and a handle, and they go in this order.
  have released : Deals licence (session, resource.tree.hold + rest) _ :=
    Deals.release (.resourceReleaseFailed resource.locator.url) .refl
  exact released.forget

/-- The files are no affair of a resource that is made. -/
theorem files_ofEntry (parent : Locator) (tree : TreeRef) (entry : Entry) (session : Session) :
    (ofEntry parent tree entry session).2.files = session.files := by
  unfold ofEntry
  split
  · rfl
  · -- A reference that is refused changes nothing, and one that is given changes the table of
    -- trees.
    rcases taken : session.acquireTree tree with ⟨fault | _, after⟩
    · exact congrArg Session.files (Session.acquireTree_refused taken)
    · obtain ⟨_, rfl⟩ := Session.acquireTree_ok taken
      rfl

/-- Nor of one that is given back. -/
theorem files_discard (resource : Resource) (session : Session) :
    (resource.discard session).files = session.files := by
  have released := (session.tables_releaseTree resource.tree).2
  unfold discard
  rcases given : session.releaseTree resource.tree with ⟨outcome, after⟩
  rw [given] at released
  -- Writing down and forgetting are no affair of files either.
  obtain ⟨log, forgotten⟩ :=
    (after.noteFailure (.resourceReleaseFailed resource.locator.url) outcome).forgetTree_eq
      resource.tree
  simp only [forgotten]
  cases outcome <;> exact released

end Resource

/-- A source whose stakes are known, and which uses the session in deals only. -/
class StakedSource (Source : Type) [EntrySource Source] where
  /-- The stakes that a source has in the session's handles. -/
  stakes : Source → Multiset Stake
  /-- Pulling is a chain of deals. -/
  pull_deals : ∀ {licence : Licence} [licence.Reads] {rest : Multiset Stake} (source : Source)
    (session : Session),
    Deals licence (session, stakes source + rest)
      ((EntrySource.pull source session).2.2,
        stakes (EntrySource.pull source session).2.1 + rest)
  /-- Closing is a chain of deals. -/
  close_deals : ∀ {licence : Licence} [licence.Reads] {rest : Multiset Stake} (source : Source)
    (session : Session),
    Deals licence (session, stakes source + rest)
      ((EntrySource.close source session).2,
        stakes (EntrySource.close source session).1 + rest)

instance {Listing : Type} [PagedListing Listing] [StakedListing Listing] :
    StakedSource (Cursor Listing) where
  stakes := Cursor.stakes
  pull_deals := Cursor.pull_deals
  close_deals := Cursor.close_deals

/-- What the caller laid down has nothing to do with the session. -/
theorem FixedSource.session_pull (source : FixedSource) (session : Session) :
    (source.pull session).2.2 = session := by
  -- Its items are its own.
  unfold pull
  split <;> rfl

instance : StakedSource FixedSource where
  stakes _ := 0
  pull_deals source session := by
    have same := source.session_pull session
    simp only [EntrySource.pull, same]
    exact .refl
  close_deals _ _ := .refl

/-- An adapter fits the stakes of its items when it takes and gives back exactly those, through
the tree that it knows. -/
structure Adapter.Fits {Item : Type} (adapter : Adapter Item) (known : Option TreeRef)
    (itemStakes : Item → Multiset Stake) : Prop where
  /-- Turning an entry takes the stakes of the item. -/
  adapt_deals : ∀ {licence : Licence} {rest : Multiset Stake} (entry : Entry)
    (session : Session), (∀ tree, known = some tree → .tree tree ∈ rest) →
    Deals licence (session, rest)
      ((adapter.adapt entry session).2, gainedBy itemStakes (adapter.adapt entry session).1 + rest)
  /-- Giving an item back uses its stakes up. -/
  discard_deals : ∀ {licence : Licence} {rest : Multiset Stake} (item : Item)
    (session : Session),
    Deals licence (session, itemStakes item + rest) (adapter.discard item session, rest)
  /-- Turning an entry is no affair of the files. -/
  adapt_files : ∀ entry session, (adapter.adapt entry session).2.files = session.files
  /-- Nor is giving an item back. -/
  discard_files : ∀ item session, (adapter.discard item session).files = session.files

/-- The adapter of resources fits what resources hold. -/
theorem Adapter.fits_resources (parent : Locator) (tree : TreeRef) :
    (Adapter.resources parent tree).Fits (some tree) Resource.stakes where
  -- Each of the four is known of resources already.
  adapt_deals entry session known := Resource.ofEntry_deals parent entry session (known tree rfl)
  discard_deals item session := item.discard_deals session
  adapt_files := Resource.files_ofEntry parent tree
  discard_files := Resource.files_discard

/-- Names hold nothing. -/
theorem Adapter.fits_names (wants : NameFilter) :
    (Adapter.names wants).Fits none fun _ => 0 where
  adapt_deals entry session _ := by
    -- What is gained is none in either outcome, which the match conceals.
    have gained (result : Except Fault String) : gainedBy (fun _ => 0) result = 0 := by
      cases result <;> rfl
    simp only [Adapter.names, gained, zero_add]
    split <;> exact .refl
  discard_deals item session := by
    simp only [Adapter.names, zero_add]
    exact .refl
  adapt_files entry session := by
    simp only [Adapter.names]
    split <;> rfl
  discard_files _ _ := rfl

namespace ResourceStream

variable {Source Item : Type}

/-- What a stream holds besides its source: the tree held until it is closed, and the one that
its adapter knows. -/
def holdings (stream : ResourceStream Source Item) : Multiset Stake :=
  (stream.held.map TreeRef.hold).getD 0 + (stream.known.map fun tree => {.tree tree}).getD 0

/-- The tree that the adapter knows is among what the stream holds. -/
theorem tree_mem_holdings {stream : ResourceStream Source Item} {tree : TreeRef}
    (known : stream.known = some tree) (rest : Multiset Stake) :
    .tree tree ∈ stream.holdings + rest := by
  -- What stands beside does not take it away.
  simp [holdings, known]

/-- Offering an entry takes the stakes of the item that comes of it, if one does. -/
theorem offer_deals {stream : ResourceStream Source Item} {itemStakes : Item → Multiset Stake}
    (fits : stream.adapter.Fits stream.known itemStakes) (entry : Entry) (session : Session)
    (known : ∀ tree, stream.known = some tree → .tree tree ∈ rest) :
    Deals licence (session, rest)
      ((stream.offer entry session).2,
        ((stream.offer entry session).1.map itemStakes).getD 0 + rest) := by
  unfold offer
  -- Nothing is made of entries that are not wanted.
  split
  · simpa using .refl
  · have adapted : Deals licence (session, rest) _ := fits.adapt_deals entry session known
    split <;> rename_i outcome <;> rw [outcome] at adapted
    · simpa [gainedBy] using adapted.note _
    · -- An item that is turned away is given back at once.
      rename_i item later
      split
      · simpa [gainedBy] using adapted
      · split
        · simpa [gainedBy] using adapted
        · simpa using adapted.trans (fits.discard_deals item later)
        · rename_i fault _
          have noted := Deals.note (.streamFilterFailed entry.name fault) adapted
          simpa using noted.trans (fits.discard_deals item _)

/-- Offering an entry leads the session on, by deals alone. -/
theorem offer_leads {stream : ResourceStream Source Item} {itemStakes : Item → Multiset Stake}
    (fits : stream.adapter.Fits stream.known itemStakes) (entry : Entry) (session : Session) :
    session.LeadsTo (stream.offer entry session).2 := by
  -- The stream itself is all that is at stake, and it knows the tree that may be shared.
  have taken : Deals .fair (session, stream.holdings + 0) _ :=
    offer_deals fits entry session fun tree isKnown => tree_mem_holdings isKnown 0
  exact taken.leadsTo

variable [EntrySource Source]

/-- Reading on changes nothing of a stream but its source. -/
theorem next_eq (stream : ResourceStream Source Item) (session : Session) :
    (stream.next session).2.1 = { stream with source := (stream.next session).2.1.source } := by
  -- Each turn of the loop replaces the source.
  fun_induction next stream session with
  | case1 => rfl
  | case2 => rfl
  | case3 => rfl
  | case4 stream session entry source later pulled done offered ih => exact ih

/-- Closing changes neither what is made of entries nor the tree that is known for that. -/
theorem close_same (stream : ResourceStream Source Item) (session : Session) :
    (stream.close session).1.adapter = stream.adapter ∧
      (stream.close session).1.known = stream.known := by
  -- A stream without a tree has only its source to close.
  unfold close
  simp only
  split <;> exact ⟨rfl, rfl⟩

/-- What pulling and offering keep is kept by reading on. -/
theorem next_keeps {Kept : Source → Session → Prop}
    (pull : ∀ source session, Kept source session →
      Kept (EntrySource.pull source session).2.1 (EntrySource.pull source session).2.2)
    (stream : ResourceStream Source Item)
    (offer : ∀ source entry session, Kept source session →
      Kept source (stream.offer entry session).2)
    (session : Session) (kept : Kept stream.source session) :
    Kept (stream.next session).2.1.source (stream.next session).2.2 := by
  -- One entry is pulled in each turn of the loop, until one is made an item of.
  fun_induction next stream session with
  | case1 stream session fault source after pulled =>
    have still := pull stream.source session kept
    rwa [pulled] at still
  | case2 stream session source after pulled =>
    have still := pull stream.source session kept
    rwa [pulled] at still
  | case3 stream session entry source later pulled item done offered =>
    have still := pull stream.source session kept
    rw [pulled] at still
    have taken := offer source entry later still
    rwa [offered] at taken
  | case4 stream session entry source later pulled done offered ih =>
    have still := pull stream.source session kept
    rw [pulled] at still
    have passed := offer source entry later still
    rw [offered] at passed
    exact ih offer passed

/-- A stream closes its source. -/
theorem source_close (stream : ResourceStream Source Item) (session : Session) :
    (stream.close session).1.source = (EntrySource.close stream.source session).1 := by
  -- The tree is given back behind the source.
  unfold close
  simp only
  split <;> rfl

/-- Behind its source a stream gives back the tree that it holds. -/
theorem close_leads (stream : ResourceStream Source Item) (session : Session) :
    (EntrySource.close stream.source session).2.LeadsTo (stream.close session).2 := by
  unfold close
  simp only
  split
  · exact .refl _
  · rename_i tree held
    -- Seen from behind the source, the held tree is the only stake.
    have released : Deals .fair ((EntrySource.close stream.source session).2, tree.hold + 0) _ :=
      Deals.release .streamReleaseFailed .refl
    exact released.forget.leadsTo

/-- A stream that is dropped closes its source. -/
theorem source_drop (stream : ResourceStream Source Item) (session : Session) :
    (stream.drop session).1.source = (EntrySource.close stream.source session).1 := by
  -- Dropping is closing, but for the handle that is forgotten.
  rw [← stream.source_close session]
  unfold drop
  simp only
  split <;> rfl

/-- Behind its source a stream that is dropped gives back the trees that it holds and knows. -/
theorem drop_leads (stream : ResourceStream Source Item) (session : Session) :
    (EntrySource.close stream.source session).2.LeadsTo (stream.drop session).2 := by
  have closed := stream.close_leads session
  unfold drop
  simp only
  split
  · exact closed
  · rename_i tree known
    -- The known tree is a handle alone, for the stream holds no reference through it.
    have forgotten : Deals .fair ((stream.close session).2, .tree tree ::ₘ 0) _ :=
      Deals.forget .refl
    exact closed.trans forgotten.leadsTo

/-- A closed stream holds no tree. -/
theorem held_close (stream : ResourceStream Source Item) (session : Session) :
    (stream.close session).1.held = none := by
  -- Either there was none, or it was given back.
  unfold close
  simp only
  split
  · assumption
  · rfl

variable [StakedSource Source] [licence.Reads]

/-- Reading on is a chain of deals, and takes the stakes of the item that comes, if one does. -/
theorem next_deals {stream : ResourceStream Source Item} {itemStakes : Item → Multiset Stake}
    (fits : stream.adapter.Fits stream.known itemStakes) (session : Session)
    (known : ∀ tree, stream.known = some tree → .tree tree ∈ rest) :
    Deals licence (session, StakedSource.stakes stream.source + rest)
      ((stream.next session).2.2,
        StakedSource.stakes (stream.next session).2.1.source +
          (gainedBy (fun item => (item.map itemStakes).getD 0) (stream.next session).1 +
            rest)) := by
  have pull (stream : ResourceStream Source Item) (session : Session) :
      Deals licence (session, StakedSource.stakes stream.source + rest) _ :=
    StakedSource.pull_deals stream.source session
  -- The loop ends with a failure, at the end, or with an item; else the entry has left no stake.
  fun_induction next stream session with
  | case1 stream session fault source after pulled =>
    have read := pull stream session
    rw [pulled] at read
    simpa [gainedBy] using read
  | case2 stream session source after pulled =>
    have read := pull stream session
    rw [pulled] at read
    simpa [gainedBy] using read
  | case3 stream session entry source later pulled item done offered =>
    have read := pull stream session
    rw [pulled] at read
    have taken : Deals licence (later, StakedSource.stakes source + rest) _ :=
      offer_deals fits entry later
        fun tree isKnown => Multiset.mem_add.mpr (.inr (known tree isKnown))
    rw [offered] at taken
    simpa [gainedBy, add_left_comm] using read.trans taken
  | case4 stream session entry source later pulled done offered ih =>
    have read := pull stream session
    rw [pulled] at read
    have taken : Deals licence (later, StakedSource.stakes source + rest) _ :=
      offer_deals fits entry later
        fun tree isKnown => Multiset.mem_add.mpr (.inr (known tree isKnown))
    rw [offered] at taken
    have passed := read.trans (by simpa using taken)
    exact passed.trans (ih fits known)

/-- Closing a stream uses up what it held. -/
theorem close_deals (stream : ResourceStream Source Item) (session : Session) :
    Deals licence (session, StakedSource.stakes stream.source + (stream.holdings + rest))
      ((stream.close session).2, StakedSource.stakes (stream.close session).1.source +
        ((stream.close session).1.holdings + rest)) := by
  have closed : Deals licence
      (session, StakedSource.stakes stream.source + (stream.holdings + rest)) _ :=
    StakedSource.close_deals stream.source session
  unfold close
  simp only
  cases held : stream.held with
  | none => simpa [holdings, held] using closed
  | some tree =>
    -- The tree that was held comes to the front, to be released and forgotten.
    generalize EntrySource.close stream.source session = outcome at closed ⊢
    obtain ⟨source, later⟩ := outcome
    have front : StakedSource.stakes source + (stream.holdings + rest) =
        tree.hold + (StakedSource.stakes source +
          (({ stream with source, held := none } : ResourceStream Source Item).holdings +
            rest)) := by
      simp only [holdings, held, Option.map_some, Option.getD_some, Option.map_none,
        Option.getD_none, zero_add]
      ac_rfl
    rw [front] at closed
    have released := Deals.release .streamReleaseFailed closed
    exact released.forget

/-- Dropping a stream closes it, and its adapter forgets the tree that it knew. -/
theorem drop_deals (stream : ResourceStream Source Item) (session : Session) :
    Deals licence (session, StakedSource.stakes stream.source + (stream.holdings + rest))
      ((stream.drop session).2, StakedSource.stakes (stream.drop session).1.source + rest) := by
  have closed : Deals licence
      (session, StakedSource.stakes stream.source + (stream.holdings + rest)) _ :=
    stream.close_deals session
  -- The tree that was held is gone with the closing, and only the adapter still knows one.
  have notHeld := stream.held_close session
  unfold drop
  generalize stream.close session = outcome at closed notHeld ⊢
  obtain ⟨ended, later⟩ := outcome
  simp only at closed notHeld
  cases known : ended.known with
  | none => simpa [holdings, notHeld, known] using closed
  | some tree =>
    have front : StakedSource.stakes ended.source + (ended.holdings + rest) =
        .tree tree ::ₘ (StakedSource.stakes ended.source + rest) := by
      simp [holdings, notHeld, known]
    rw [front] at closed
    simpa [known] using Deals.forget closed

end ResourceStream

end SmbBrowser
