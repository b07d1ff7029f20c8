import SmbBrowser.Proofs.Browse
import SmbBrowser.Proofs.Workbench.Uses
import SmbBrowser.Workbench.Run

/-!
Every operation on a workbench is a chain of deals. Besides the objects only the caller has stakes:
the references that it got by acquiring trees and gives back by releasing them.
-/

namespace SmbBrowser

/-- What a licence permits to be done. -/
def Licence.Permits (licence : Licence) : Operation → Prop
  | .closeTree _ => licence.closeTree
  | .send _ request _ => licence.Allows request
  | _ => True

/-- What a caller pays for a release: a reference, if it does not release too often. -/
def Licence.Settles (licence : Licence) (returned : Option Stake) (paid : Multiset Stake) : Prop :=
  match returned with
  | none => paid = 0
  | some reference => paid = {reference} ∨ (licence.overRelease ∧ paid = 0)

namespace Workbench

variable {licence : Licence} {origin : Session} {taken given : Multiset Stake} {bench : Workbench}

/-- The references that the caller gets by an operation. -/
def gained (bench : Workbench) : Operation → Multiset Stake
  | .connect _ => gainedBy (fun tree => {.reference tree}) bench.session.acquire.1
  | .acquire name _ =>
    match bench.items.get? name with
    | some (.tree tree) => gainedBy (fun () => {.reference tree}) (bench.session.acquireTree tree).1
    | some (.file file) =>
      gainedBy (fun () => {.fileReference file}) (bench.session.acquireFile file).1
    | _ => 0
  | .openFile name _ path mode =>
    match bench.items.get? name with
    | some (.tree tree) =>
      gainedBy (fun file => {.fileReference file}) (bench.session.openFile tree path mode).1
    | _ => 0
  | .adoptFile name _ fid path mode =>
    match bench.items.get? name with
    | some (.tree tree) =>
      gainedBy (fun file => {.fileReference file}) (bench.session.adoptFile tree fid path mode).1
    | _ => 0
  | _ => 0

/-- The reference that the caller is to give back by an operation. -/
def returned (bench : Workbench) : Operation → Option Stake
  | .release name =>
    match bench.items.get? name with
    | some (.tree tree) => some (.reference tree)
    | some (.file file) => some (.fileReference file)
    | _ => none
  | _ => none

/-- Whoever counts the workbench in knows the trees on it. -/
theorem known_tree {name : String} {tree : TreeRef} {rest : Multiset Stake}
    (found : bench.items.get? name = some (.tree tree)) (all : bench.stakes ⊆ rest) :
    .tree tree ∈ rest :=
  -- An object's stakes are among those of its workbench.
  all (mem_stakes found (Multiset.mem_singleton_self (Stake.tree tree)))

/-- Whoever counts the workbench in knows the files on it. -/
theorem known_file {name : String} {file : FileRef} {rest : Multiset Stake}
    (found : bench.items.get? name = some (.file file)) (all : bench.stakes ⊆ rest) :
    .file file ∈ rest :=
  -- A file under a name is a handle, as a tree is.
  all (mem_stakes found (Multiset.mem_singleton_self (Stake.file file)))

/-- Without an object of that name nothing happens. -/
theorem useItem_use (fits : bench.Fits origin) (name : String) {use : Item → Answer × Workbench}
    (each : ∀ item, bench.items.get? name = some item → Use licence origin 0 bench 0 (use item).2) :
    Use licence origin 0 bench 0 (bench.useItem name use).2 := by
  unfold useItem
  -- The answer tells that there is none, and the workbench is as before.
  cases found : bench.items.get? name with
  | none => exact .refl fits 0
  | some item => exact each item found

/-- Without a tree of that name nothing happens. -/
theorem useTree_use (fits : bench.Fits origin) (name : String) {use : TreeRef → Answer × Workbench}
    (each : ∀ tree, .tree tree ∈ bench.stakes → Use licence origin 0 bench 0 (use tree).2) :
    Use licence origin 0 bench 0 (bench.useTree name use).2 := by
  refine useItem_use fits name fun item found => ?_
  -- An object that is no tree is answered in the same way.
  cases item with
  | tree tree => exact each tree (known_tree found (Multiset.Subset.refl _))
  | _ => exact .refl fits 0

/-- Without something to read from under that name nothing happens. -/
theorem useReader_use (fits : bench.Fits origin) (name : String) {use : Reader → Answer × Workbench}
    (each : ∀ reader, bench.items.get? name = some (.reader reader) →
      Use licence origin 0 bench 0 (use reader).2) :
    Use licence origin 0 bench 0 (bench.useReader name use).2 := by
  refine useItem_use fits name fun item found => ?_
  -- So is one that cannot be read from.
  cases item with
  | reader reader => exact each reader found
  | _ => exact .refl fits 0

/-- Releasing a handle uses up the reference that the caller pays. -/
theorem release_use (fits : bench.Fits origin) (name : String) {paid : Multiset Stake}
    (settled : licence.Settles (bench.returned (.release name)) paid) :
    Use licence origin paid bench 0 (bench.release name).2 := by
  unfold release useItem
  cases found : bench.items.get? name with
  | none =>
    simp only [returned, found, Licence.Settles] at settled
    rw [settled]
    exact .refl fits 0
  | some item =>
    -- Only trees and files have references to be given back.
    cases item with
    | tree tree =>
      simp only [returned, found, Licence.Settles] at settled
      refine .ofSession fits fun rest all => ?_
      have known := known_tree found all
      rw [zero_add]
      rcases settled with rfl | ⟨licensed, rfl⟩
      · rw [Multiset.singleton_add]
        exact .single (.release known)
      · rw [zero_add]
        exact .single (.overRelease licensed known)
    | file file =>
      simp only [returned, found, Licence.Settles] at settled
      refine .ofSession fits fun rest all => ?_
      have known := known_file found all
      rw [zero_add]
      rcases settled with rfl | ⟨licensed, rfl⟩
      · rw [Multiset.singleton_add]
        exact .single (.releaseFile known)
      · rw [zero_add]
        exact .single (.overReleaseFile licensed known)
    | _ =>
      simp only [returned, found, Licence.Settles] at settled
      rw [settled]
      exact .refl fits 0

/-- Closing a tree behind its handle's back takes a licence. -/
theorem closeTree_use (fits : bench.Fits origin) (name : String) (licensed : licence.closeTree) :
    Use licence origin 0 bench 0 (bench.closeTree name).2 := by
  refine useTree_use fits name fun tree isKnown => ?_
  simp only
  split
  · exact .refl fits 0
  · rename_i handle found
    refine .ofSession fits fun rest all => ?_
    rw [zero_add]
    -- The reference is not given back: only the handle has to be known.
    exact .single (.closeTree licensed (all isKnown) found)

variable [works : licence.Works]

/-- Something that was got is let go of no more: it is under its name. -/
theorem put_got (fits : bench.Fits origin) (name : String) (item : Item) {session : Session}
    (itemFits : item.Fits bench.cursors.size)
    (deals : ∀ rest, bench.stakes ⊆ rest → Deals licence (bench.session, taken + rest)
      (session, item.stakes + (given + rest))) :
    Use licence origin taken bench given ((bench.withSession session).put name item) := by
  -- The session moves on first; what is left besides the object is carried over its storing.
  have got : Use licence origin taken bench (item.stakes + given) (bench.withSession session) := by
    refine .ofSession fits fun rest all => ?_
    rw [add_assoc]
    exact deals rest all
  have stored := (put_use licence got.fits name item itemFits).frame given
  rw [zero_add] at stored
  exact got.trans stored

/-- A tree that was got is known under its name. -/
theorem storeTree_use (fits : bench.Fits origin) (name : String)
    {outcome : Except Fault TreeRef × Session}
    (deals : ∀ rest, bench.stakes ⊆ rest → Deals licence (bench.session, taken + rest)
      (outcome.2, gainedBy (fun tree => {.tree tree}) outcome.1 + (given + rest))) :
    Use licence origin taken bench given (bench.storeTree name outcome).2 := by
  obtain ⟨result, session⟩ := outcome
  -- A failure has brought nothing to store.
  cases result with
  | error fault =>
    refine .ofSession fits fun rest all => ?_
    simpa [gainedBy] using deals rest all
  | ok tree => exact put_got fits name _ trivial deals

variable (licence) in
/-- A file that was got is known under its name; the reference is its holder's own affair. -/
theorem storeFile_use (fits : bench.Fits origin) (name : String)
    (outcome : Except Fault FileRef × Session)
    (deals : ∀ rest, bench.stakes ⊆ rest → Deals licence (bench.session, rest)
      (outcome.2, gainedBy FileRef.hold outcome.1 + rest)) :
    Use licence origin 0 bench (gainedBy (fun file => {.fileReference file}) outcome.1)
      (bench.storeFile name outcome).2 := by
  obtain ⟨result, session⟩ := outcome
  cases result with
  | error fault =>
    refine .ofSession fits fun rest all => ?_
    simpa [gainedBy] using deals rest all
  | ok file =>
    refine put_got fits name _ trivial fun rest all => ?_
    -- A hold is a handle and a reference; the handle goes to the object, the reference to the
    -- caller.
    simpa [gainedBy, FileRef.hold, Item.stakes, Multiset.cons_swap] using deals rest all

/-- A cursor that was got is in the table. -/
theorem storeCursor_use (fits : bench.Fits origin) (name : String)
    {outcome : Except Fault (Cursor Listing) × Session}
    (deals : ∀ rest, Deals licence (bench.session, rest)
      (outcome.2, gainedBy Cursor.stakes outcome.1 + rest))
    (lives : ∀ cursor after, outcome = (.ok cursor, after) → cursor.LivesIn origin after) :
    Use licence origin 0 bench 0 (bench.storeCursor name outcome).2 := by
  obtain ⟨result, session⟩ := outcome
  cases result with
  | error fault =>
    refine .ofSession fits fun rest _ => ?_
    simpa [gainedBy] using deals rest
  | ok cursor =>
    -- The stakes that the cursor brings are in hand until it is in the table.
    have got : Use licence origin 0 bench cursor.stakes (bench.withSession session) := by
      refine .ofSession fits fun rest _ => ?_
      rw [zero_add]
      exact deals rest
    have added := got.trans (addCursor_use licence got.fits (lives cursor session rfl))
    have stored := put_use licence added.fits name
      (.reader (.cursor ⟨bench.cursors.size⟩)) trivial
    exact added.trans stored

/-- A stream of resources that was got is under its name, and its cursor in the table. -/
theorem storeResources_use (fits : bench.Fits origin) (name : String)
    {outcome : Except Fault (ResourceStream (Cursor Listing) Resource) × Session}
    (deals : ∀ rest, Deals licence (bench.session, rest)
      (outcome.2, gainedBy Session.streamStakes outcome.1 + rest))
    (honest : ∀ stream after, outcome = (.ok stream, after) →
      stream.adapter.Fits stream.known Resource.stakes ∧ stream.source.LivesIn origin after) :
    Use licence origin 0 bench 0 (bench.storeResources name outcome).2 := by
  obtain ⟨result, session⟩ := outcome
  cases result with
  | error fault =>
    refine .ofSession fits fun rest _ => ?_
    simpa [gainedBy] using deals rest
  | ok stream =>
    -- The stakes that the stream brings are in hand until it is under its name.
    have got : Use licence origin 0 bench (stream.source.stakes + stream.holdings)
        (bench.withSession session) := by
      refine .ofSession fits fun rest _ => ?_
      rw [zero_add]
      exact deals rest
    obtain ⟨adapterFits, lives⟩ := honest stream session rfl
    have added := (addCursor_use licence got.fits lives).frame stream.holdings
    have both := got.trans added
    have inTable : bench.cursors.size <
        ((bench.withSession session).addCursor stream.source).2.cursors.size := by
      simp [withSession, addCursor]
    have stored := put_use licence both.fits name
      (.reader (.resources ⟨⟨bench.cursors.size⟩, stream⟩))
      ⟨inTable, adapterFits⟩
    rw [zero_add] at both
    exact both.trans stored

/-- Acquiring a handle takes a further hold of a tree, or knows a file at a further place. -/
theorem acquire_use (fits : bench.Fits origin) (name further : String) :
    Use licence origin 0 bench (bench.gained (.acquire name further)) (bench.acquire name further).2 := by
  unfold acquire useItem
  cases found : bench.items.get? name with
  | none =>
    simp only [gained, found]
    exact .refl fits 0
  | some item =>
    -- Only trees and files can be shared.
    cases item with
    | tree tree =>
      have shared (rest : Multiset Stake) (all : bench.stakes ⊆ rest) :
          Deals licence (bench.session, rest) _ :=
        bench.session.acquireTree_deals (known_tree found all)
      simp only [gained, found]
      rcases outcome : bench.session.acquireTree tree with ⟨result, after⟩
      rw [outcome] at shared
      refine storeTree_use fits further fun rest all => ?_
      cases result with
      | error fault => simpa [gainedBy, Except.map] using shared rest all
      | ok _ =>
        simpa [gainedBy, Except.map, TreeRef.hold, Multiset.cons_swap] using shared rest all
    | file file =>
      have shared (rest : Multiset Stake) (all : bench.stakes ⊆ rest) :
          Deals licence (bench.session, rest) _ :=
        bench.session.acquireFile_deals (known_file found all)
      simp only [gained, found]
      rcases outcome : bench.session.acquireFile file with ⟨result, after⟩
      rw [outcome] at shared
      have stored : Use licence origin 0 bench
          (gainedBy (fun file => {.fileReference file}) (result.map fun () => file))
          (bench.storeFile further (result.map fun () => file, after)).2 := by
        refine storeFile_use licence fits further (result.map fun () => file, after) ?_
        intro rest all
        cases result with
        | error fault => exact shared rest all
        | ok _ => exact shared rest all
      cases result with
      | error fault => exact stored
      | ok _ => exact stored
    | _ =>
      simp only [gained, found]
      exact .refl fits 0

/-- The connected tree may be known at a further place. -/
theorem active_use (fits : bench.Fits origin) (name : Option String) :
    Use licence origin 0 bench 0 (bench.active name).2 := by
  unfold active
  -- Looking for the connected tree acquires nothing.
  split
  · exact .refl fits 0
  · rename_i tree isActive
    split
    · exact .refl fits 0
    · refine storeTree_use fits _ fun rest _ => ?_
      have kept : Deals licence (bench.session, rest) _ := .single (.keepActive isActive)
      simpa [gainedBy] using kept

/-- The tree of a known file may be known at a further place. -/
theorem treeOf_use (fits : bench.Fits origin) (name tree : String) :
    Use licence origin 0 bench 0 (bench.treeOf name tree).2 := by
  refine useItem_use fits name fun item found => ?_
  cases item with
  | file file =>
    simp only
    split
    · exact .refl fits 0
    · rename_i handle isFile
      refine storeTree_use fits tree fun rest all => ?_
      have known := known_file found all
      -- Who knows the file may know its tree.
      have kept : Deals licence (bench.session, rest) _ := .single (.keepOwner known isFile)
      simpa [gainedBy] using kept
  | _ => exact .refl fits 0

/-- A resource that is made of an entry is under its name. -/
theorem child_use (fits : bench.Fits origin) (name resource : String) (parent : Locator)
    (entry : Entry) : Use licence origin 0 bench 0 (bench.child name resource parent entry).2 := by
  refine useTree_use fits name fun tree isKnown => ?_
  -- The tree under the name may be shared, whatever is made of the entry.
  have made (rest : Multiset Stake) (all : bench.stakes ⊆ rest) :
      Deals licence (bench.session, rest) _ :=
    Resource.ofEntry_deals parent entry bench.session (all isKnown)
  simp only
  split <;> rename_i outcome <;> rw [outcome] at made
  · refine .ofSession fits fun rest all => ?_
    simpa [gainedBy] using made rest all
  · rename_i madeResource after
    -- A resource that was made brings its own stakes to the workbench.
    have stored (rest : Multiset Stake) (all : bench.stakes ⊆ rest) :
        Deals licence (bench.session, 0 + rest) (after, madeResource.stakes + (0 + rest)) := by
      simpa [gainedBy] using made rest all
    exact put_got fits resource (.resource madeResource) trivial stored

/-- A listing that is called deals through the tree that it is called with. -/
theorem callListing_deals {tree : TreeRef} {rest : Multiset Stake} (listing : Listing)
    (hook : Hook) (session : Session) (known : .tree tree ∈ rest) :
    Deals licence (session, listing.stakes + rest)
      ((callListing listing hook tree session).2.2,
        (callListing listing hook tree session).2.1.stakes + rest) := by
  have called : Deals licence (session, listing.stakes + rest) _ :=
    Deals.noteHook listing.label hook .refl
  -- Every call goes through the tree that the listing is called with.
  cases hook with
  | start => exact called.trans (StakedListing.start_deals listing _ known (.inr works.abandon))
  | isDone => exact called
  | fetchMore => exact called.trans (StakedListing.fetchMore_deals listing _ known)
  | finish => exact called.trans (StakedListing.finish_deals listing _ known)

/-- Calling a listing by hand keeps it under its name. -/
theorem call_use (fits : bench.Fits origin) (name : String) (hook : Hook) (tree : String) :
    Use licence origin 0 bench 0 (bench.call name hook tree).2 := by
  refine useItem_use fits name fun item found => ?_
  cases item with
  | listing listing =>
    refine useItem_use fits tree fun other foundTree => ?_
    cases other with
    | tree place =>
      -- The tree is under a name of its own, so it is known beside the listing.
      have different : tree ≠ name := by
        rintro rfl
        simp [found] at foundTree
      have beside : .tree place ∈ (bench.items.erase name).total Item.stakes := by
        rw [Registry.total_erase Item.stakes (bench.items.erase name) tree,
          bench.items.get?_erase_of_ne different, foundTree]
        simp [Item.stakes]
      have known (rest : Multiset Stake) : .tree place ∈
          bench.cursorStakes + ((bench.items.erase name).total Item.stakes + rest) :=
        Multiset.mem_add.mpr (.inr (Multiset.mem_add.mpr (.inl beside)))
      have called (rest : Multiset Stake) : Deals licence (bench.session, listing.stakes +
          (bench.cursorStakes + ((bench.items.erase name).total Item.stakes + rest))) _ :=
        callListing_deals listing hook bench.session (known rest)
      refine ⟨fun rest => ?_, (fits.withSession (called 0).leadsTo).replace name trivial⟩
      rw [stakes_erase found, stakes_replace]
      simp only [zero_add, add_assoc]
      exact called rest
    | _ => exact .refl fits 0
  | _ => exact .refl fits 0

/-- Reading on keeps what is read from under its name; a resource is kept or given back. -/
theorem next_use (fits : bench.Fits origin) (name : String) (keepAs : Option String) :
    Use licence origin 0 bench 0 (bench.next name keepAs).2 := by
  refine useReader_use fits name fun reader found => ?_
  have drawn : bench.Turn licence reader.stakes
      (Drawn.stakesOf (reader.draw bench).1 + (reader.draw bench).2.1.stakes)
      (reader.draw bench).2.2 := Reader.draw_turn (fits.item found)
  have still := Reader.draw_fits bench (fits.item found)
  rcases outcome : reader.draw bench with ⟨result, read, after⟩
  rw [outcome] at drawn still
  have used : Use licence origin 0 bench (Drawn.stakesOf result) (after.replace name (.reader read)) :=
    replace_use fits (.reader read) found drawn still
  -- Only a resource that was read has stakes.
  rcases result with fault | _ | entry | drawnName | resource
  · exact used
  · exact used
  · exact used
  · exact used
  · cases keepAs with
    | none =>
      refine used.trans (.ofSession used.fits fun rest _ => ?_)
      simpa [Drawn.stakesOf, gainedBy, Drawn.stakes] using
        resource.discard_deals (after.replace name (.reader read)).session
    | some kept => exact used.trans (put_use licence used.fits kept (.resource resource) trivial)

/-- Reading on and on keeps nothing of what is read. -/
theorem drawAll_turn (licence : Licence) [licence.Works] (pulls : Nat) {reader : Reader}
    {bench : Workbench} (fits : reader.Fits bench.cursors.size) :
    bench.Turn licence reader.stakes (drawAll pulls reader bench).2.1.stakes
        (drawAll pulls reader bench).2.2 ∧
      (drawAll pulls reader bench).2.1.Fits bench.cursors.size := by
  -- The reader fits its workbench again behind each pull.
  induction pulls generalizing reader bench with
  | zero => exact ⟨.refl _ _, fits⟩
  | succ pulls ih =>
    have drawn : bench.Turn licence reader.stakes
        (Drawn.stakesOf (reader.draw bench).1 + (reader.draw bench).2.1.stakes)
        (reader.draw bench).2.2 := Reader.draw_turn fits
    have still := Reader.draw_fits bench fits
    unfold drawAll
    rcases outcome : reader.draw bench with ⟨result, read, after⟩
    rw [outcome] at drawn still
    rcases result with fault | _ | item
    · have failed : bench.Turn licence reader.stakes read.stakes after := by
        simpa [Drawn.stakesOf, gainedBy] using drawn
      have same := failed.size
      rw [← same] at still
      obtain ⟨rest, restFits⟩ := ih still
      rw [same] at restFits
      exact ⟨failed.trans rest, restFits⟩
    · have ended : bench.Turn licence reader.stakes read.stakes after := by
        simpa [Drawn.stakesOf, gainedBy] using drawn
      exact ⟨ended, still⟩
    · -- What was read is given back before the next thing is read.
      have passed : bench.Turn licence reader.stakes read.stakes (item.discard after) := by
        have back := (item.discard_turn licence after).frame read.stakes
        rw [zero_add] at back
        exact drawn.trans back
      have same := passed.size
      rw [← same] at still
      obtain ⟨rest, restFits⟩ := ih still
      rw [same] at restFits
      exact ⟨passed.trans rest, restFits⟩

/-- Reading to the end keeps what is read from under its name. -/
theorem drain_use (fits : bench.Fits origin) (name : String) (pulls : Nat) :
    Use licence origin 0 bench 0 (bench.drain name pulls).2 := by
  refine useReader_use fits name fun reader found => ?_
  -- The reader is replaced by what it has become, at the end or where it stopped.
  obtain ⟨drawn, still⟩ := drawAll_turn licence pulls (fits.item found)
  rw [← zero_add (drawAll pulls reader bench).2.1.stakes] at drawn
  exact replace_use fits (.reader _) found drawn still

/-- Closing keeps what was closed under its name. -/
theorem close_use (fits : bench.Fits origin) (name : String) :
    Use licence origin 0 bench 0 (bench.close name).2 := by
  refine useItem_use fits name fun item found => ?_
  -- A closer only points at the table, while a reader is replaced by what it has become.
  cases item with
  | closer place => exact .ofTurn fits (bench.closeCursor_turn place)
  | reader reader =>
    have closed : bench.Turn licence reader.stakes (reader.close bench).1.stakes
        (reader.close bench).2 := Reader.close_turn (fits.item found)
    rw [← zero_add (reader.close bench).1.stakes] at closed
    exact replace_use fits (.reader _) found closed
      (Reader.close_fits bench (fits.item found))
  | _ => exact .refl fits 0

/-- The means to close a cursor have no stake. -/
theorem closer_use (fits : bench.Fits origin) (name further : String) :
    Use licence origin 0 bench 0 (bench.closer name further).2 := by
  refine useItem_use fits name fun item found => ?_
  -- Whatever it points at, a closer has nothing in the handles.
  have stored (place : CursorRef) : Use licence origin 0 bench 0 (bench.put further (.closer place)) :=
    put_use licence fits further (.closer place) trivial
  cases item with
  | closer place => exact stored place
  | reader reader =>
    cases reader with
    | cursor place => exact stored place
    | _ => exact .refl fits 0
  | _ => exact .refl fits 0

/-- What was read from has no stakes of its own when it becomes part of a stream of names. -/
theorem adapt_use (fits : bench.Fits origin) (name further : String) (choice : NameChoice)
    (filter : Option NameChoice) :
    Use licence origin 0 bench 0 (bench.adapt name further choice filter).2 := by
  refine useReader_use fits name fun reader found => ?_
  split
  · exact .refl fits 0
  · rename_i adapted turned
    obtain ⟨nothing, none, adaptedFits⟩ := Reader.adapt_fits turned
    -- The old name is given up before the stream is put under the new one.
    have taken : Use licence origin 0 bench 0 { bench with items := bench.items.erase name } := by
      refine ⟨fun rest => ?_, fits.erase name⟩
      rw [stakes_erase found, Item.stakes, nothing]
      simp only [zero_add]
      exact .refl
    have stored := put_use licence taken.fits further (.reader adapted) adaptedFits
    rw [Item.stakes, none] at stored
    exact taken.trans stored

/-- Looking at an object at most asks a listing whether another page follows. -/
theorem viewItem_use (licence : Licence) [licence.Works] (fits : bench.Fits origin) (item : Item) :
    Use licence origin 0 bench 0 (bench.viewItem item).2 := by
  -- That question is written down as a call of the listing.
  cases item with
  | listing listing =>
    exact .ofSession fits fun rest _ => Deals.noteHook listing.label .isDone .refl
  | _ => exact .refl fits 0

/-- A file that is got through a tree under a name is known under a name of its own. -/
theorem getFile_use (fits : bench.Fits origin) (name file : String)
    {get : TreeRef → Except Fault FileRef × Session}
    (deals : ∀ tree rest, .tree tree ∈ rest → Deals licence (bench.session, rest)
      ((get tree).2, gainedBy FileRef.hold (get tree).1 + rest)) :
    Use licence origin 0 bench
      (match bench.items.get? name with
        | some (.tree tree) => gainedBy (fun file => {.fileReference file}) (get tree).1
        | _ => 0)
      (bench.useTree name fun tree => bench.storeFile file (get tree)).2 := by
  unfold useTree useItem
  -- What the caller gets depends on the tree, so the name is looked up on both sides.
  cases found : bench.items.get? name with
  | none => exact .refl fits 0
  | some item =>
    cases item with
    | tree tree =>
      exact storeFile_use licence fits file (get tree)
        fun rest all => deals tree rest (known_tree found all)
    | _ => exact .refl fits 0

/-- An operation that releases nothing is a use of the workbench that costs nothing; the caller
gets the references that it acquires. -/
theorem perform_free_use (fits : bench.Fits origin) {operation : Operation}
    (permitted : licence.Permits operation) (releases : ∀ name, operation ≠ .release name) :
    Use licence origin 0 bench (bench.gained operation) (bench.perform operation).2 := by
  -- One case per operation; what each of them does is in the lemma of its name.
  cases operation with
  | connect name =>
    have acquired (rest : Multiset Stake) : Deals licence (bench.session, rest) _ :=
      bench.session.acquire_deals
    simp only [perform, gained]
    rcases outcome : bench.session.acquire with ⟨result, after⟩
    rw [outcome] at acquired
    refine storeTree_use fits name fun rest _ => ?_
    cases result with
    | error fault => simpa [gainedBy] using acquired rest
    | ok tree => simpa [gainedBy, TreeRef.hold, Multiset.cons_swap] using acquired rest
  | acquire name further => exact acquire_use fits name further
  | release name => exact (releases name rfl).elim
  | active name => exact active_use fits name
  | invalidate => exact .ofSession fits fun rest _ => .single .invalidate
  | describe => exact .refl fits 0
  | expect exchange =>
    refine .ofSession fits fun rest _ => ?_
    exact .single (.note bench.session.log (bench.session.server.script ++ [exchange]))
  | count kind => exact .refl fits 0
  | sentKinds => exact .refl fits 0
  | list name locator options =>
    exact storeCursor_use fits name (fun rest => bench.session.list_deals locator options)
      fun cursor after opened => Session.livesIn_list fits.leads opened
  | listResources name locator options choice =>
    exact storeResources_use fits name
      (fun rest => bench.session.listResources_deals locator options _)
      (fun stream after opened => Session.listResources_fits fits.leads opened)
  | openCursor name plan settings choice =>
    simp only [perform]
    split
    · exact .refl fits 0
    · rename_i listing made
      exact storeCursor_use fits name
        (fun rest => Cursor.ofListing_deals _ bench.session (ListingPlan.stakes_make made))
        fun cursor after opened =>
          Cursor.livesIn_ofListing (ListingPlan.unbegun_make made) fits.leads opened
  | makeListing name plan settings =>
    simp only [perform]
    split
    · exact .refl fits 0
    · rename_i listing made
      have viewed := viewItem_use licence fits (.listing listing)
      have stored := put_use licence viewed.fits name (.listing listing) trivial
      rw [Item.stakes, ListingPlan.stakes_make made] at stored
      exact viewed.trans stored
  | layDown name items => exact put_use licence fits name (.reader (.fixed { items })) trivial
  | drop name => exact (drop_use licence fits name).1
  | view name => exact useItem_use fits name fun item _ => viewItem_use licence fits item
  | closeTree name => exact closeTree_use fits name permitted
  | send name request delivery =>
    refine useTree_use fits name fun tree isKnown => ?_
    refine .ofSession fits fun rest all => ?_
    rw [zero_add]
    exact .single (.send request delivery permitted (all isKnown))
  | openFile name file path mode =>
    exact getFile_use fits name file
      fun tree rest isKnown => bench.session.openFile_deals path mode isKnown
  | adoptFile name file fid path mode =>
    exact getFile_use fits name file
      fun tree rest isKnown => bench.session.adoptFile_deals fid path mode isKnown
  | child name resource parent entry => exact child_use fits name resource parent entry
  | treeOf name tree => exact treeOf_use fits name tree
  | call name hook tree => exact call_use fits name hook tree
  | next name keepAs => exact next_use fits name keepAs
  | drain name pulls => exact drain_use fits name pulls
  | close name => exact close_use fits name
  | closer name further => exact closer_use fits name further
  | adapt name further choice filter => exact adapt_use fits name further choice filter

/-- Every operation is a use of the workbench: the caller gets the references that it acquires, and
pays for what it releases. -/
theorem perform_use (fits : bench.Fits origin) {operation : Operation} {paid : Multiset Stake}
    (permitted : licence.Permits operation)
    (settled : licence.Settles (bench.returned operation) paid) :
    Use licence origin paid bench (bench.gained operation) (bench.perform operation).2 := by
  by_cases releases : ∃ name, operation = .release name
  · obtain ⟨name, rfl⟩ := releases
    exact release_use fits name settled
  · -- Nothing but a release is paid for.
    have free : paid = 0 := by
      cases operation with
      | release name => exact (releases ⟨name, rfl⟩).elim
      | _ => exact settled
    rw [free]
    exact perform_free_use fits permitted fun name same => releases ⟨name, same⟩

end Workbench

end SmbBrowser
