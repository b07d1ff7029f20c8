import SmbBrowser.Proofs.Browse
import SmbBrowser.Proofs.Cursor.Likeness
import SmbBrowser.Proofs.Session.Grounded

/-!
Whatever is read from makes no file handles but grounded ones: neither a cursor nor a stream, nor
the opening of one.
-/

namespace SmbBrowser

open Session

variable {start session : Session} {tree : TreeRef}

namespace Cursor

variable {cursor : Cursor Listing} {other : Session}

/-- A cursor that lets go of its tree makes no file. -/
theorem Parted.grounds
    (parted : Parted tree (fun _ one other => one = other ∧ start.Grounds one) session other) :
    start.Grounds session := by
  -- What it does behind the release is writing and forgetting.
  obtain ⟨label, mine, _, ⟨_, grounds⟩, rfl, _⟩ := parted
  exact (((grounds.releaseTree tree).noteFailure _ _).note _).forgetTree tree

/-- Two equal sessions that stay together make no file either way. -/
theorem Together.grounds
    (together : Together tree (fun _ one other => one = other ∧ start.Grounds one) cursor session
      other) : start.Grounds session := by
  -- Either the tree is still held, or it was let go of on the way.
  rcases together with ⟨_, _, grounds⟩ | ⟨_, parted⟩
  · exact grounds
  · exact parted.grounds

/-- Pulling makes no file but grounded ones. -/
theorem Sound.pull_grounds (sound : cursor.Sound tree) (grounds : start.Grounds session) :
    start.Grounds (cursor.pull session).2.2 := by
  rcases sound with reading | spent
  · obtain ⟨answer, used, mine, others, pulled, _, together⟩ :=
      reading.pull_together (grounds_likeness start tree) ⟨rfl, grounds⟩
    rw [pulled]
    exact together.grounds
  · -- A spent cursor asks for nothing.
    rw [spent.pull_eq session]
    exact grounds

/-- Nor does closing a cursor that is open. -/
theorem Open.close_grounds (opened : cursor.Open tree) (grounds : start.Grounds session) :
    start.Grounds (cursor.close session).2 := by
  -- The session is compared with itself, so the likeness carries what holds of it alone.
  obtain ⟨used, mine, others, closed, _, _, parted⟩ :=
    opened.close_together (grounds_likeness start tree) ⟨rfl, grounds⟩
  rw [closed]
  exact parted.grounds

/-- Nor does closing any that was opened. -/
theorem Sound.close_grounds (sound : cursor.Sound tree) (grounds : start.Grounds session) :
    start.Grounds (cursor.close session).2 := by
  -- One that has been spent leaves the session as it is.
  rcases sound with reading | spent
  · exact reading.opened.close_grounds grounds
  · rw [spent.close_eq session]
    exact grounds

/-- Nor does opening, whether or not a cursor comes of it. -/
theorem ofListing_grounds (listing : Listing) (filter : Option NameFilter)
    (grounds : start.Grounds session) :
    start.Grounds (ofListing listing filter session).2 := by
  have held := grounds.acquire
  unfold ofListing
  rcases acquired : session.acquire with ⟨fault | tree, after⟩ <;> rw [acquired] at held
  · exact held
  · have fresh : Open tree { listing, tree := some tree, filter } := ⟨by simp, rfl⟩
    obtain ⟨answer, used, mine, others, began, _, together⟩ :=
      fresh.begin_together (grounds_likeness start tree) ⟨rfl, held⟩
    simp only [began]
    cases answer with
    | ok _ => exact together.grounds
    | error fault =>
      -- What cannot begin is given back at once.
      have noted := together.grounds.note (.cursorOpenFailed used.label fault)
      rcases together with ⟨opened, _⟩ | ⟨spent, _⟩
      · exact opened.close_grounds noted
      · simp only [spent.close_eq]
        exact noted

end Cursor

namespace Session

/-- Listing a place makes no file but grounded ones. -/
theorem Grounds.list (grounds : start.Grounds session) (locator : Locator) (options : ListOptions) :
    start.Grounds (session.list locator options).2 := by
  -- Without a listing the session is not touched.
  unfold Session.list
  split
  · exact grounds
  · exact Cursor.ofListing_grounds _ options.nameFilter grounds

/-- Nor does listing the resources of a place. -/
theorem Grounds.listResources (grounds : start.Grounds session) (locator : Locator)
    (options : ListOptions) (filter : Option (Resource → Except Fault Bool)) :
    start.Grounds (session.listResources locator options filter).2 := by
  have held := grounds.acquire
  unfold Session.listResources
  split <;> rename_i acquired <;> rw [acquired] at held
  · exact held
  · rename_i tree later
    have listed := held.list locator options
    split <;> rename_i outcome <;> rw [outcome] at listed
    · -- Without a listing the tree is given back.
      exact ((listed.releaseTree tree).noteFailure _ _).forgetTree tree
    · exact listed.keepTree tree

end Session

/-- A source that makes no file but grounded ones, as long as it is as it should be. -/
class GroundedSource (Source : Type) [EntrySource Source] where
  /-- The source is as it should be. -/
  Sound : Source → Prop
  /-- Pulling keeps it so, and makes no file but grounded ones. -/
  pull_grounds : ∀ {start session : Session} {source : Source}, Sound source →
    start.Grounds session → Sound (EntrySource.pull source session).2.1 ∧
      start.Grounds (EntrySource.pull source session).2.2
  /-- Closing makes no file but grounded ones. -/
  close_grounds : ∀ {start session : Session} {source : Source}, Sound source →
    start.Grounds session → start.Grounds (EntrySource.close source session).2

instance : GroundedSource (Cursor Listing) where
  Sound cursor := ∃ tree, cursor.Sound tree
  pull_grounds := by
    rintro start session cursor ⟨tree, sound⟩ grounds
    exact ⟨⟨tree, sound.pull session⟩, sound.pull_grounds grounds⟩
  close_grounds := by
    rintro start session cursor ⟨tree, sound⟩ grounds
    exact sound.close_grounds grounds

instance : GroundedSource FixedSource where
  Sound _ := True
  pull_grounds {_ session source} _ grounds :=
    ⟨trivial, by simpa only [EntrySource.pull, source.session_pull session] using grounds⟩
  close_grounds _ grounds := grounds

/-- Making a resource makes no file. -/
theorem Resource.ofEntry_grounds (parent : Locator) (tree : TreeRef) (entry : Entry)
    (grounds : start.Grounds session) :
    start.Grounds (Resource.ofEntry parent tree entry session).2 := by
  -- It takes a reference to a tree, and nothing else.
  have taken := grounds.acquireTree tree
  unfold Resource.ofEntry
  split
  · exact grounds
  · split <;> rename_i outcome <;> rw [outcome] at taken <;> exact taken

/-- Giving a resource back makes no file. -/
theorem Resource.discard_grounds (resource : Resource) (grounds : start.Grounds session) :
    start.Grounds (resource.discard session) :=
  -- A tree is released, and what is left is writing and forgetting.
  ((grounds.releaseTree resource.tree).noteFailure _ _).forgetTree resource.tree

namespace ResourceStream

variable {Source Item : Type} {stream : ResourceStream Source Item}
  {itemStakes : Item → Multiset Stake}

/-- Offering an entry is no affair of the files. -/
theorem files_offer (fits : stream.adapter.Fits stream.known itemStakes) (entry : Entry)
    (session : Session) : (stream.offer entry session).2.files = session.files := by
  have adapted := fits.adapt_files entry session
  -- Nothing is done with the files whether something is made of the entry or not.
  unfold offer
  split
  · rfl
  · split <;> rename_i outcome <;> rw [outcome] at adapted
    · exact adapted
    · split
      · exact adapted
      · split
        · exact adapted
        · rw [fits.discard_files]
          exact adapted
        · rw [fits.discard_files]
          exact adapted

/-- Offering an entry makes no file, whatever the adapter does with it. -/
theorem offer_grounds (fits : stream.adapter.Fits stream.known itemStakes) (entry : Entry)
    (grounds : start.Grounds session) : start.Grounds (stream.offer entry session).2 := by
  -- An adapter that fits deals in references alone, so the table of files stays.
  have taken : Deals .fair (session, stream.holdings + 0) _ :=
    offer_deals fits entry session fun tree isKnown => tree_mem_holdings isKnown 0
  exact grounds.next taken.strokes (by rw [files_offer fits])

variable [EntrySource Source] [source : GroundedSource Source]

/-- Reading on makes no file but grounded ones. -/
theorem next_grounds (fits : stream.adapter.Fits stream.known itemStakes)
    (sound : source.Sound stream.source) (grounds : start.Grounds session) :
    source.Sound (stream.next session).2.1.source ∧ start.Grounds (stream.next session).2.2 := by
  -- Each turn of the loop keeps both, so that the whole loop does.
  let Kept (used : Source) (session : Session) : Prop := source.Sound used ∧ start.Grounds session
  have pulled (used : Source) (session : Session) (kept : Kept used session) :
      Kept (EntrySource.pull used session).2.1 (EntrySource.pull used session).2.2 :=
    source.pull_grounds kept.1 kept.2
  have offered (used : Source) (entry : Entry) (session : Session) (kept : Kept used session) :
      Kept used (stream.offer entry session).2 :=
    ⟨kept.1, offer_grounds fits entry kept.2⟩
  exact next_keeps pulled stream offered session ⟨sound, grounds⟩

/-- Nor does closing. -/
theorem close_grounds (sound : source.Sound stream.source) (grounds : start.Grounds session) :
    start.Grounds (stream.close session).2 := by
  have closed := source.close_grounds sound grounds
  unfold close
  simp only
  split
  · exact closed
  · -- The stream gives the tree back that it holds besides its source.
    rename_i tree _
    exact ((closed.releaseTree tree).noteFailure _ _).forgetTree tree

/-- Nor does letting go. -/
theorem drop_grounds (sound : source.Sound stream.source) (grounds : start.Grounds session) :
    start.Grounds (stream.drop session).2 := by
  -- The handle that is forgotten behind it is one of a tree.
  have closed := close_grounds sound grounds
  unfold drop
  simp only
  split
  · exact closed
  · rename_i tree _
    exact closed.forgetTree tree

end ResourceStream

end SmbBrowser
