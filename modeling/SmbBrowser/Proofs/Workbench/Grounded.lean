import Mathlib.Data.List.Induction
import SmbBrowser.Proofs.Resource.Grounded
import SmbBrowser.Proofs.Workbench.Moments

/-!
Files on a workbench: whatever is done there makes no file handles but grounded ones, unless the
user has a file adopted on a tree that is no longer valid.
-/

namespace SmbBrowser

open Session

variable {start origin : Session} {bench : Workbench}

namespace Workbench

/-- A cursor in the table is sound. -/
theorem CursorsLive.sound (live : bench.CursorsLive origin) {place : CursorRef} {here : Cursor Listing}
    (found : bench.cursor? place = some here) : ∃ tree, here.Sound tree :=
  -- What lives in a session is clean, and a clean cursor is sound.
  (live here (Array.mem_of_getElem? found)).clean.sound

/-- Closing a cursor in the table makes no file but grounded ones. -/
theorem closeCursor_grounds (live : bench.CursorsLive origin) (place : CursorRef)
    (grounds : start.Grounds bench.session) :
    start.Grounds (bench.closeCursor place).session := by
  unfold closeCursor
  cases found : bench.cursor? place with
  | none => exact grounds
  | some here =>
    -- A cursor that is found in the table lives, and a living one closes soundly.
    obtain ⟨tree, sound⟩ := live.sound found
    exact sound.close_grounds grounds

section

variable {Item : Type} {itemStakes : Item → Multiset Stake} {stream : CursorStream Item}

/-- Nor does a turn of a stream that reads through a cursor in the table. -/
theorem nextOf_grounds (fits : stream.Fits itemStakes bench.cursors.size) (live : bench.CursorsLive origin)
    (grounds : start.Grounds bench.session) :
    start.Grounds (bench.nextOf stream).2.2.session := by
  have sound := live.sound (bench.source_freshen fits.inTable)
  -- Freshening exchanges the source for the one in the table and leaves the adapter.
  have honest : (bench.freshen stream).adapter.Fits (bench.freshen stream).known itemStakes := by
    rw [bench.freshen_eq stream]
    exact fits.adapter
  exact (ResourceStream.next_grounds honest sound grounds).2

/-- Nor does closing such a stream. -/
theorem closeStream_grounds (inTable : stream.cursor.index < bench.cursors.size)
    (live : bench.CursorsLive origin) (grounds : start.Grounds bench.session) :
    start.Grounds (bench.closeStream stream).2.session :=
  -- Its source is taken from the table first, where every cursor lives.
  ResourceStream.close_grounds (live.sound (bench.source_freshen inTable)) grounds

/-- Nor does dropping one. -/
theorem dropStream_grounds (inTable : stream.cursor.index < bench.cursors.size)
    (live : bench.CursorsLive origin) (grounds : start.Grounds bench.session) :
    start.Grounds (bench.dropStream stream).session :=
  -- The source is the same one as for closing.
  ResourceStream.drop_grounds (live.sound (bench.source_freshen inTable)) grounds

end

end Workbench

namespace Reader

variable {reader : Reader}

/-- Whatever a reader reads from, drawing from it makes no file but grounded ones. -/
theorem draw_grounds (fits : reader.Fits bench.cursors.size) (live : bench.CursorsLive origin)
    (grounds : start.Grounds bench.session) :
    start.Grounds (reader.draw bench).2.2.session := by
  cases reader with
  | cursor place =>
    simp only [draw]
    cases found : bench.cursor? place with
    | none => exact grounds
    | some here =>
      obtain ⟨tree, sound⟩ := live.sound found
      exact sound.pull_grounds grounds
  | fixed source =>
    -- Nobody else is asked for what is laid down.
    have same := source.session_pull bench.session
    simp only [draw, Workbench.withSession, same]
    exact grounds
  | names stream => exact Workbench.nextOf_grounds fits live grounds
  | fixedNames stream => exact (ResourceStream.next_grounds fits trivial grounds).2
  | resources stream => exact Workbench.nextOf_grounds fits live grounds

/-- Closing a reader makes none. -/
theorem close_grounds (fits : reader.Fits bench.cursors.size) (live : bench.CursorsLive origin)
    (grounds : start.Grounds bench.session) : start.Grounds (reader.close bench).2.session := by
  -- What reads from the caller's own list has no cursor that would have to live.
  cases reader with
  | cursor place => exact bench.closeCursor_grounds live place grounds
  | fixed source => exact grounds
  | names stream => exact Workbench.closeStream_grounds fits.inTable live grounds
  | fixedNames stream => exact ResourceStream.close_grounds trivial grounds
  | resources stream => exact Workbench.closeStream_grounds fits.inTable live grounds

/-- Dropping a reader makes none. -/
theorem drop_grounds (fits : reader.Fits bench.cursors.size) (live : bench.CursorsLive origin)
    (grounds : start.Grounds bench.session) : start.Grounds (reader.drop bench).session := by
  -- A cursor is dropped by closing it, and a stream by more than that.
  cases reader with
  | cursor place => exact bench.closeCursor_grounds live place grounds
  | fixed source => exact grounds
  | names stream => exact Workbench.dropStream_grounds fits.inTable live grounds
  | fixedNames stream => exact ResourceStream.drop_grounds trivial grounds
  | resources stream => exact Workbench.dropStream_grounds fits.inTable live grounds

end Reader

/-- Giving back what was drawn makes none. -/
theorem Drawn.discard_grounds (drawn : Drawn) (grounds : start.Grounds bench.session) :
    start.Grounds (drawn.discard bench).session := by
  -- Only a resource has something to give back.
  cases drawn with
  | resource drawn => exact drawn.discard_grounds grounds
  | _ => exact grounds

/-- Letting go of an object makes no file but grounded ones. -/
theorem Item.drop_grounds {item : Item} (fits : item.Fits bench.cursors.size)
    (live : bench.CursorsLive origin) (grounds : start.Grounds bench.session) :
    start.Grounds (item.drop bench).session := by
  -- Handles are forgotten; only resources and readers can ask the server.
  cases item with
  | tree place => exact grounds.forgetTree place
  | file place => exact grounds.forgetFile place
  | listing content =>
    simp only [drop, Workbench.withSession, Listing.forget]
    split
    · exact grounds.forgetFile _
    · exact grounds
  | closer place => exact grounds
  | resource content => exact content.discard_grounds grounds
  | reader content => exact Reader.drop_grounds fits live grounds

namespace Workbench

/-- Letting go of what is under a name makes no file but grounded ones. -/
theorem drop_grounds (fits : bench.Fits origin) (name : String) (grounds : start.Grounds bench.session) :
    start.Grounds (bench.drop name).session := by
  -- An object on a workbench in order fits the cursors that are there.
  unfold drop
  cases found : bench.items.get? name with
  | none => exact grounds
  | some item => exact Item.drop_grounds (fits.item found) fits.cursors grounds

/-- Putting an object under a name makes none. -/
theorem put_grounds (fits : bench.Fits origin) (name : String) (item : Item)
    (grounds : start.Grounds bench.session) : start.Grounds (bench.put name item).session := by
  -- What was there under the name is let go of first, and nothing else is done.
  have same : (bench.put name item).session = (bench.drop name).session := by
    unfold put drop
    cases bench.items.get? name <;> rfl
  rw [same]
  exact drop_grounds fits name grounds

/-- Behind whatever makes no file but grounded ones, an object may be put under a name. -/
theorem put_got_grounds (fits : bench.Fits origin) (name : String) (item : Item) {session : Session}
    (grounds : bench.session.Grounds session) :
    bench.session.Grounds ((bench.withSession session).put name item).session :=
  -- The session moves on first, and the objects still fit behind that.
  put_grounds (fits.withSession grounds.leads) name item grounds

/-- A tree that was asked for is stored without making a file. -/
theorem storeTree_grounds (fits : bench.Fits origin) (name : String)
    {outcome : Except Fault TreeRef × Session} (grounds : bench.session.Grounds outcome.2) :
    bench.session.Grounds (bench.storeTree name outcome).2.session := by
  -- A failure stores nothing.
  rcases outcome with ⟨fault | tree, session⟩
  · exact grounds
  · exact put_got_grounds fits name _ grounds

/-- Storing a file makes no other. -/
theorem storeFile_grounds (fits : bench.Fits origin) (name : String)
    {outcome : Except Fault FileRef × Session} (grounds : bench.session.Grounds outcome.2) :
    bench.session.Grounds (bench.storeFile name outcome).2.session := by
  -- The file itself is accounted for by who opened it.
  rcases outcome with ⟨fault | file, session⟩
  · exact grounds
  · exact put_got_grounds fits name _ grounds

/-- A cursor that was opened is stored without making a file. -/
theorem storeCursor_grounds (fits : bench.Fits origin) (name : String)
    {outcome : Except Fault (Cursor Listing) × Session} (grounds : bench.session.Grounds outcome.2)
    (lives : ∀ cursor after, outcome = (.ok cursor, after) → cursor.LivesIn origin after) :
    bench.session.Grounds (bench.storeCursor name outcome).2.session := by
  rcases outcome with ⟨fault | cursor, session⟩
  · exact grounds
  · have got := fits.withSession grounds.leads
    -- The cursor goes into the table first, where it has to live for the rest to fit.
    have added := (addCursor_use .fair got (lives cursor session rfl)).fits
    exact put_grounds added name _ grounds

/-- So is a stream of resources, with its cursor. -/
theorem storeResources_grounds (fits : bench.Fits origin) (name : String)
    {outcome : Except Fault (ResourceStream (Cursor Listing) Resource) × Session}
    (grounds : bench.session.Grounds outcome.2)
    (lives : ∀ stream after, outcome = (.ok stream, after) → stream.source.LivesIn origin after) :
    bench.session.Grounds (bench.storeResources name outcome).2.session := by
  rcases outcome with ⟨fault | stream, session⟩
  · exact grounds
  · have got := fits.withSession grounds.leads
    -- Its source goes into the table as a cursor of its own does.
    have added := (addCursor_use .fair got (lives stream session rfl)).fits
    exact put_grounds added name _ grounds

/-- Without an object of that name nothing happens. -/
theorem useItem_grounds (name : String) {use : Item → Answer × Workbench}
    (each : ∀ item, bench.items.get? name = some item →
      bench.session.Grounds (use item).2.session) :
    bench.session.Grounds (bench.useItem name use).2.session := by
  unfold useItem
  -- The answer without one leaves the session as it is.
  cases found : bench.items.get? name with
  | none => exact .refl _
  | some item => exact each item found

/-- A use of a tree that makes no file makes none under a name either. -/
theorem useTree_grounds (name : String) {use : TreeRef → Answer × Workbench}
    (each : ∀ tree, bench.items.get? name = some (.tree tree) →
      bench.session.Grounds (use tree).2.session) :
    bench.session.Grounds (bench.useTree name use).2.session := by
  refine useItem_grounds name fun item found => ?_
  -- An object of another kind is as good as none.
  cases item with
  | tree tree => exact each tree found
  | _ => exact .refl _

/-- The same holds for the use of a reader. -/
theorem useReader_grounds (name : String) {use : Reader → Answer × Workbench}
    (each : ∀ reader, bench.items.get? name = some (.reader reader) →
      bench.session.Grounds (use reader).2.session) :
    bench.session.Grounds (bench.useReader name use).2.session := by
  refine useItem_grounds name fun item found => ?_
  -- Here, too, only one kind of object is used.
  cases item with
  | reader reader => exact each reader found
  | _ => exact .refl _

/-- A listing that is called by hand makes no file but a grounded one. -/
theorem callListing_grounds (listing : Listing) (hook : Hook) (tree : TreeRef) {session : Session}
    (grounds : start.Grounds session) :
    start.Grounds (callListing listing hook tree session).2.2 := by
  have likeness := grounds_likeness start tree
  -- The call is written down before it is made.
  have noted := grounds.write session.log (session.hooks.push { listing := listing.label, hook })
    session.server.script
  cases hook with
  | start => exact (listing.start_accord likeness ⟨rfl, noted⟩).like.2
  | isDone => exact noted
  | fetchMore => exact (listing.fetchMore_accord likeness.toResemblance ⟨rfl, noted⟩).like.2
  | finish => exact (listing.finish_accord likeness ⟨rfl, noted⟩).like.2

/-- Reading on and on makes no file but grounded ones. -/
theorem drawAll_grounds (pulls : Nat) {reader : Reader} (fits : reader.Fits bench.cursors.size)
    (live : bench.CursorsLive origin) (grounds : start.Grounds bench.session) :
    start.Grounds (drawAll pulls reader bench).2.2.session := by
  -- The reader fits its workbench again behind each pull.
  induction pulls generalizing reader bench with
  | zero => exact grounds
  | succ pulls ih =>
    have drawn := Reader.draw_grounds fits live grounds
    have still := Reader.draw_fits bench fits
    have turn : bench.Turn .fair _ _ _ := Reader.draw_turn fits
    unfold drawAll
    rcases outcome : reader.draw bench with ⟨result, read, after⟩
    rw [outcome] at drawn still turn
    have living := turn.live live
    rw [← turn.size] at still
    rcases result with fault | _ | item
    · exact ih still living drawn
    · exact drawn
    · -- What was read is given back before the next thing is read.
      have back := item.discard_turn .fair after
      rw [← back.size] at still
      exact ih still (back.live living) (item.discard_grounds drawn)

/-- Drawing from the reader under a name, and keeping what comes, makes no file but grounded
ones. -/
theorem next_grounds (fits : bench.Fits origin) (name : String) (keepAs : Option String) :
    bench.session.Grounds (bench.next name keepAs).2.session := by
  refine useReader_grounds name fun reader found => ?_
  -- Drawing is one thing and keeping another; what was drawn is put on a workbench that still fits.
  have drawn := Reader.draw_grounds (fits.item found) fits.cursors (.refl bench.session)
  have still := Reader.draw_fits bench (fits.item found)
  have turn : bench.Turn .fair _ _ _ := Reader.draw_turn (fits.item found)
  rcases outcome : reader.draw bench with ⟨result, read, after⟩
  rw [outcome] at drawn still turn
  have used : Use .fair origin 0 bench (Drawn.stakesOf result) (after.replace name (.reader read)) :=
    replace_use fits (.reader read) found turn still
  -- Only a resource is kept or given back, everything else is answered.
  rcases result with fault | _ | entry | drawnName | resource
  · exact drawn
  · exact drawn
  · exact drawn
  · exact drawn
  · cases keepAs with
    | none => exact resource.discard_grounds drawn
    | some kept => exact put_grounds used.fits kept (.resource resource) drawn

/-- An operation makes no file but grounded ones, unless it has a file adopted on a tree that is not
valid. -/
theorem perform_grounds (fits : bench.Fits origin) {operation : Operation}
    (timely : ∀ name file fid path mode tree, operation = .adoptFile name file fid path mode →
      bench.items.get? name = some (.tree tree) → bench.session.isTreeValid tree = true) :
    bench.session.Grounds (bench.perform operation).2.session := by
  have here := Grounds.refl bench.session
  -- One case per operation; most of them do something to the session and store what came of it.
  cases operation with
  | connect name => exact storeTree_grounds fits name here.acquire
  | active name =>
    simp only [perform, active]
    split
    · exact here
    · split
      · exact here
      · exact storeTree_grounds fits _ (here.keepTree _)
  | invalidate => exact here.invalidate
  | describe => exact here
  | expect exchange =>
    -- What the other side is to answer is no affair of the handles.
    exact here.write _ _ (bench.session.server.script ++ [exchange])
  | count kind => exact here
  | sentKinds => exact here
  | list name locator options =>
    exact storeCursor_grounds fits name (here.list locator options)
      fun cursor after opened => Session.livesIn_list fits.leads opened
  | listResources name locator options choice =>
    exact storeResources_grounds fits name (here.listResources locator options _)
      fun stream after opened => (Session.listResources_fits fits.leads opened).2
  | openCursor name plan settings choice =>
    simp only [perform]
    split
    · exact here
    · rename_i listing made
      exact storeCursor_grounds fits name (Cursor.ofListing_grounds listing _ here)
        fun cursor after opened =>
          Cursor.livesIn_ofListing (ListingPlan.unbegun_make made) fits.leads opened
  | makeListing name plan settings =>
    simp only [perform]
    split
    · exact here
    · -- A listing is viewed as soon as it is made.
      rename_i listing made
      have viewed := viewItem_use .fair fits (.listing listing)
      exact put_grounds viewed.fits name _ (here.write bench.session.log _ _)
  | layDown name items => exact put_grounds fits name _ here
  | drop name => exact drop_grounds fits name here
  | view name =>
    refine useItem_grounds name fun item found => ?_
    cases item with
    | listing listing => exact here.write bench.session.log _ _
    | _ => exact here
  | acquire name further =>
    refine useItem_grounds name fun item found => ?_
    cases item with
    | tree tree => exact storeTree_grounds fits further (here.acquireTree tree)
    | file file => exact storeFile_grounds fits further (here.acquireFile file)
    | _ => exact here
  | release name =>
    refine useItem_grounds name fun item found => ?_
    cases item with
    | tree tree => exact here.releaseTree tree
    | file file => exact here.releaseFile file
    | _ => exact here
  | closeTree name =>
    refine useTree_grounds name fun tree found => ?_
    simp only
    split
    · exact here
    · rename_i handle isThere
      exact here.disconnect isThere
  | send name request delivery =>
    exact useTree_grounds name fun tree _ => here.send tree request delivery
  | openFile name file path mode =>
    exact useTree_grounds name fun tree _ =>
      storeFile_grounds fits file (here.openFile tree path mode)
  | adoptFile name file fid path mode =>
    refine useTree_grounds name fun tree found => ?_
    -- Here alone it matters that nothing is adopted too late.
    have valid := timely name file fid path mode tree rfl found
    exact storeFile_grounds fits file (here.adoptFile valid fid path mode)
  | child name resource parent entry =>
    refine useTree_grounds name fun tree _ => ?_
    have made := Resource.ofEntry_grounds parent tree entry here
    simp only
    split <;> rename_i outcome <;> rw [outcome] at made
    · exact made
    · exact put_got_grounds fits resource _ made
  | treeOf name tree =>
    refine useItem_grounds name fun item found => ?_
    cases item with
    | file file =>
      simp only
      split
      · exact here
      · exact storeTree_grounds fits tree (here.keepTree _)
    | _ => exact here
  | call name hook tree =>
    refine useItem_grounds name fun item found => ?_
    cases item with
    | listing listing =>
      exact useTree_grounds tree fun place _ => callListing_grounds listing hook place here
    | _ => exact here
  | next name keepAs => exact next_grounds fits name keepAs
  | drain name pulls =>
    exact useReader_grounds name fun reader found =>
      drawAll_grounds pulls (fits.item found) fits.cursors here
  | close name =>
    refine useItem_grounds name fun item found => ?_
    cases item with
    | closer place => exact closeCursor_grounds fits.cursors place here
    | reader reader => exact Reader.close_grounds (fits.item found) fits.cursors here
    | _ => exact here
  | closer name further =>
    refine useItem_grounds name fun item found => ?_
    cases item with
    | closer place => exact put_grounds fits further _ here
    | reader reader =>
      cases reader with
      | cursor place => exact put_grounds fits further _ here
      | _ => exact here
    | _ => exact here
  | adapt name further choice filter =>
    refine useReader_grounds name fun reader found => ?_
    simp only
    split
    · exact here
    · exact put_grounds (fits.erase name) further _ here

/-- When a file is adopted on whatever tree, the file behind those that were there stands on that
tree, and what else is made is grounded. -/
theorem adoptFile_grounds (fits : bench.Fits origin) {name : String} {tree : TreeRef}
    (found : bench.items.get? name = some (.tree tree)) (file : String) (fid : FileId)
    (path : String) (mode : OpenMode) (ranked : Ranked bench.session) {place : Nat}
    {handle : Handle OpenFile} (beyond : bench.session.files.size ≤ place)
    (isThere : (bench.perform (.adoptFile name file fid path mode)).2.session.files[place]? =
      some handle) :
    handle.Grounded ∨ (place = bench.session.files.size ∧ handle.resource.tree = tree) := by
  have performed : (bench.perform (.adoptFile name file fid path mode)).2 =
      (bench.storeFile file (bench.session.adoptFile tree fid path mode)).2 := by
    simp only [perform, useTree, useItem, found]
  rw [performed] at isThere
  rcases adopted : bench.session.adoptFile tree fid path mode with ⟨fault | made, session⟩
  · -- What is refused makes no file.
    rw [adopted, adoptFile_refused adopted] at isThere
    have within := (Array.getElem?_eq_some_iff.mp isThere).1
    simp only [storeFile, withSession] at within
    omega
  · have known : Stake.tree tree ∈ ({.tree tree} : Multiset Stake) := Multiset.mem_singleton_self _
    have strokes := (Deal.adopt known adopted : Deal .fair _ _).strokes
    have behind := put_grounds (fits.withSession strokes.leadsTo) file (.file made) (.refl session)
    rw [adopted] at isThere
    obtain ⟨_, _, log, rfl⟩ := adoptFile_ok adopted
    have ranked := strokes.keeps Stroke.ranked ranked
    by_cases first : place = bench.session.files.size
    · -- The new handle is still a handle on what was adopted.
      have pushed := @Array.getElem?_push_size _ bench.session.files
        { resource := { tree, fid, path, mode }
          generation := some bench.session.generation
          traced := bench.session.settings.traceResourceUsage }
      obtain ⟨later, isLater, aged⟩ := behind.aged.files _ _ pushed
      subst first
      obtain rfl := Option.some.inj (isLater.symm.trans isThere)
      exact .inr ⟨rfl, congrArg OpenFile.tree aged.resource⟩
    · have later : (bench.session.files.push
          { resource := { tree, fid, path, mode }
            generation := some bench.session.generation
            traced := bench.session.settings.traceResourceUsage }).size ≤ place := by
        rw [Array.size_push]
        omega
      exact .inl (behind.files ranked place handle later isThere)

end Workbench

namespace Account

variable (settings : Settings) (server : Playback) (sharePath oemDomain : String)

/-- Among the operations the user has the file adopted on the tree, at a moment at which the tree is
no longer valid. -/
def AdoptedLate (operations : List Operation) (file : FileRef) (tree : TreeRef) : Prop :=
  ∃ earlier name further fid path mode later,
    operations = earlier ++ .adoptFile name further fid path mode :: later ∧
    let bench := ((new settings server sharePath oemDomain).run earlier).bench
    bench.items.get? name = some (.tree tree) ∧ bench.session.isTreeValid tree = false ∧
      file.index = bench.session.files.size

variable {settings server sharePath oemDomain}

/-- What was adopted late still was when more has been done. -/
theorem AdoptedLate.append {operations : List Operation} {file : FileRef} {tree : TreeRef}
    (late : AdoptedLate settings server sharePath oemDomain operations file tree)
    (more : List Operation) :
    AdoptedLate settings server sharePath oemDomain (operations ++ more) file tree := by
  -- More is done behind what was done behind the adoption.
  obtain ⟨earlier, name, further, fid, path, mode, later, rfl, adopted⟩ := late
  exact ⟨earlier, name, further, fid, path, mode, later ++ more, by simp, adopted⟩

/-- Every file of a run is grounded or was adopted late. -/
theorem grounded_or_adoptedLate (operations : List Operation) {file : FileRef}
    {handle : Handle OpenFile}
    (found : (sessionAfter settings server sharePath oemDomain operations).file? file =
      some handle) :
    handle.Grounded ∨
      AdoptedLate settings server sharePath oemDomain operations file handle.resource.tree := by
  -- The induction is on the operations from the last one backwards.
  induction operations using List.reverseRecOn generalizing handle with
  | nil => simp [sessionAfter, run, new, Session.new, Session.file?] at found
  | append_singleton operations operation ih =>
    have permitted (further : Operation) (_ : further ∈ operations ++ [operation]) :
        Licence.anything.Permits further := Licence.permits_anything further
    have fits := (run_strokes trivial (fits_new settings server sharePath oemDomain)
      fun further listed => permitted further (List.mem_append_left _ listed)).2
    have ranked : Ranked (sessionAfter settings server sharePath oemDomain operations) :=
      sessionAfter_keeps settings server sharePath oemDomain trivial Stroke.ranked
        (fun further listed => permitted further (List.mem_append_left _ listed))
        (.new settings server sharePath oemDomain)
    have aged := (sessionAfter_strokes settings server sharePath oemDomain trivial permitted).aged
    by_cases old : file.index <
        (sessionAfter settings server sharePath oemDomain operations).files.size
    · -- The file was there before; what it was then it still is.
      have isThere := Array.getElem?_eq_getElem old
      obtain ⟨later, isLater, older⟩ := aged.files file.index _ isThere
      obtain rfl := Option.some.inj (isLater.symm.trans found)
      rw [older.grounded_iff, older.resource]
      exact (ih isThere).imp_right fun late => late.append [operation]
    · have beyond : (sessionAfter settings server sharePath oemDomain operations).files.size ≤
          file.index := by omega
      rw [sessionAfter, run_append] at found
      by_cases timely : ∀ name file fid path mode tree,
          operation = .adoptFile name file fid path mode →
          ((new settings server sharePath oemDomain).run operations).bench.items.get? name =
            some (.tree tree) →
          (sessionAfter settings server sharePath oemDomain operations).isTreeValid tree = true
      · exact .inl ((Workbench.perform_grounds fits timely).files ranked _ handle beyond found)
      · -- The operation itself has a file adopted too late.
        push Not at timely
        obtain ⟨name, further, fid, path, mode, tree, rfl, listed, invalid⟩ := timely
        rcases Workbench.adoptFile_grounds fits listed further fid path mode ranked beyond found with
          grounded | ⟨place, same⟩
        · exact .inl grounded
        · rw [same]
          exact .inr ⟨operations, name, further, fid, path, mode, [], rfl, listed,
            Bool.eq_false_iff.mpr invalid, place⟩

variable (settings server sharePath oemDomain)

/-- After every run a file that is valid stands on a tree that is valid, and of the releases it is
still to see the last asks the server to close it, unless it was adopted late. -/
theorem run_groundsFiles (operations : List Operation) (file : FileRef)
    (handle : Handle OpenFile) :
    let finish := sessionAfter settings server sharePath oemDomain operations
    finish.file? file = some handle → handle.isValid finish.link = true →
      (finish.isTreeValid handle.resource.tree = true ∧ finish.ClosesFinally file handle) ∨
        AdoptedLate settings server sharePath oemDomain operations file handle.resource.tree := by
  intro finish found valid
  -- What is not adopted late is grounded, and that is enough.
  refine (grounded_or_adoptedLate operations found).imp_left fun grounded => ?_
  have ranked : Ranked finish := sessionAfter_keeps settings server sharePath oemDomain trivial
    Stroke.ranked (fun operation _ => Licence.permits_anything operation)
    (.new settings server sharePath oemDomain)
  have onValid := ranked.isTreeValid_of_grounded valid grounded
  -- A valid file is held, so that there is a last release.
  have held : handle.refs ≠ 0 := fun unheld => by simp [Handle.isValid, unheld] at valid
  exact ⟨onValid, closesFinally found held onValid⟩

/-- A file that is opened on the share after the connection was lost and made again. -/
def reopening : List Operation :=
  [.connect "old", .invalidate, .connect "tree",
    .expect ⟨"create", .ok (.create { fid := .legacy 9 })⟩,
    .openFile "tree" "file" "readme" .directory]

/-- The file stands on the new tree, which is valid, and its release would close it there. -/
theorem run_groundsFiles_reopening :
    let server := Playback.ofTranscript { dialect := .smb2 }
    let finish := sessionAfter { maxBufferSize := 1 } server "" "" reopening
    ∃ handle, finish.file? ⟨0⟩ = some handle ∧ handle.isValid finish.link = true ∧
      handle.resource.tree = ⟨1⟩ ∧ finish.isTreeValid ⟨1⟩ = true ∧
      finish.ClosesFinally ⟨0⟩ handle := by
  intro server finish
  have told (handle : Handle OpenFile) := run_groundsFiles { maxBufferSize := 1 } server "" ""
    reopening ⟨0⟩ handle
  have seen : ∃ handle, finish.file? ⟨0⟩ = some handle ∧ handle.isValid finish.link = true ∧
      handle.resource.tree = ⟨1⟩ := by
    have shown : (finish.file? ⟨0⟩).map
        (fun handle => (handle.isValid finish.link, handle.resource.tree)) =
          some (true, ⟨1⟩) := by decide +kernel
    simpa only [Option.map_eq_some_iff, Prod.mk.injEq] using shown
  obtain ⟨handle, found, valid, onNew⟩ := seen
  rcases told handle found valid with
    ⟨onValid, closes⟩ | ⟨earlier, name, further, fid, path, mode, later, same, _⟩
  · rw [onNew] at onValid
    exact ⟨handle, found, valid, onNew, onValid, closes⟩
  · -- Nothing is adopted here.
    have listed : Operation.adoptFile name further fid path mode ∈ reopening := by simp [same]
    simp [reopening] at listed

/-- A file that is adopted on the tree of a connection that was lost and made again. -/
def adopting : List Operation :=
  [.connect "old", .invalidate, .connect "tree",
    .adoptFile "old" "file" (.legacy 9) "readme" .directory]

/-- The file is valid although its tree is not, and its only release asks the server nothing. -/
theorem run_adoptedLate :
    let server := Playback.ofTranscript { dialect := .smb2 }
    let finish := sessionAfter { maxBufferSize := 1 } server "" "" adopting
    let later := sessionAfter { maxBufferSize := 1 } server "" "" (adopting ++ [.release "file"])
    ∃ handle, finish.file? ⟨0⟩ = some handle ∧ handle.isValid finish.link = true ∧
      handle.refs = 1 ∧ finish.isTreeValid handle.resource.tree = false ∧
      later.server.sentKinds = finish.server.sentKinds ∧ ¬ finish.ClosesFinally ⟨0⟩ handle := by
  intro server finish later
  -- The runs are computed; that the file is not closed in the end follows from its invalid tree.
  have seen : ∃ handle, finish.file? ⟨0⟩ = some handle ∧ handle.isValid finish.link = true ∧
      handle.refs = 1 ∧ finish.isTreeValid handle.resource.tree = false := by
    have shown : (finish.file? ⟨0⟩).map (fun handle =>
        (handle.isValid finish.link, handle.refs, finish.isTreeValid handle.resource.tree)) =
          some (true, 1, false) := by decide +kernel
    simpa only [Option.map_eq_some_iff, Prod.mk.injEq] using shown
  have same : later.server.sentKinds = finish.server.sentKinds := by decide +kernel
  obtain ⟨handle, found, valid, once, invalid⟩ := seen
  exact ⟨handle, found, valid, once, invalid, same, not_closesFinally found once invalid⟩

end Account

end SmbBrowser
