import SmbBrowser.Proofs.Listing.Succession

/-!
The directory that a listing adopts: whatever the start has left open is held by the listing, stays
with it while further pages are read, and is what the end releases.
-/

namespace SmbBrowser

namespace Session

/-- A file, as long as somebody has a reference to it. -/
def held? (session : Session) (file : FileRef) : Option FileRef :=
  if Table.measure (·.refs) session.files file.index = 0 then none else some file

/-- Behind the end of the table no file is held. -/
theorem held?_size {session after : Session} (same : after.files = session.files) :
    after.held? ⟨session.files.size⟩ = none := by
  -- Nothing is counted where there is no handle.
  rw [held?, same, if_pos (Table.measure_size _ _)]

/-- Releasing a file changes its handle, where there is one. -/
theorem files_releaseFile (session : Session) (file : FileRef) :
    (session.releaseFile file).2.files = session.files.modify file.index Handle.released := by
  cases found : session.file? file with
  | none =>
    -- Where there is no handle, there is nothing to change either.
    rw [Table.modify_absent Handle.released found]
    simp [releaseFile, found]
  | some handle => exact (tables_releaseFile found).1

/-- So does forgetting a file. -/
theorem files_forgetFile (session : Session) (file : FileRef) :
    (session.forgetFile file).files = session.files.modify file.index Handle.forget := by
  cases found : session.file? file with
  | none =>
    rw [Table.modify_absent Handle.forget found]
    simp [forgetFile, found]
  | some handle =>
    -- The tree may be forgotten with the file, but that is in another table.
    obtain ⟨log, forgotten⟩ := forgetFile_eq found
    rw [forgotten]

/-- Forgetting a file asks the server for nothing. -/
theorem passages_forgetFile (session : Session) (file : FileRef) :
    (session.forgetFile file).passages = session.passages := by
  -- It is a matter of the tables and the log.
  cases found : session.file? file with
  | none => simp [forgetFile, found]
  | some handle =>
    obtain ⟨log, forgotten⟩ := forgetFile_eq found
    rw [forgotten]

end Session

namespace DirectoryListing

/-- Giving the open directory back takes one reference from it, and none from any other file. -/
theorem refs_releaseDir (listing : DirectoryListing) (session : Session) (place : Nat) :
    Table.measure (·.refs) (listing.releaseDir session).2.2.files place =
      Table.measure (·.refs) session.files place - if listing.dir = some ⟨place⟩ then 1 else 0 := by
  unfold releaseDir
  cases listing.dir with
  | none => simp
  | some dir =>
    simp only [Session.files_forgetFile, Session.files_releaseFile, Table.measure_modify]
    by_cases same : dir.index = place
    · have isDir : dir = ⟨place⟩ := by rw [← same]
      simp only [isDir, if_true]
      -- To be forgotten is no matter of references.
      cases found : session.files[place]? with
      | none => simp [Table.measure, found]
      | some handle => simp [Table.measure, found, Handle.released, Handle.forget]
    · have others : some dir ≠ some (⟨place⟩ : FileRef) := fun isDir =>
        same (congrArg FileRef.index (Option.some.inj isDir))
      simp only [if_neg same, if_neg others, Nat.sub_zero]

/-- Behind that no directory is open. -/
theorem dir_releaseDir (listing : DirectoryListing) (session : Session) :
    (listing.releaseDir session).2.1.dir = none := by
  unfold releaseDir
  -- Whether or not there was one.
  cases isDir : listing.dir with
  | none => exact isDir
  | some dir => rfl

/-- What the first answer comes to depends on nothing else, and only the log is written to. -/
theorem firstPage_eq (listing other : DirectoryListing) (reply : Option (ChainedReply Response))
    (session there : Session) :
    (listing.firstPage reply session).1 = (other.firstPage reply there).1 ∧
      (listing.firstPage reply session).2.1.dir = listing.dir ∧
      ∃ log, (listing.firstPage reply session).2.2 = { session with log } := by
  unfold firstPage
  -- Each branch looks at the reply alone, and keeps the directory as it is.
  split
  · exact ⟨rfl, rfl, session.log, rfl⟩
  · split
    · exact ⟨rfl, rfl, _, rfl⟩
    · split
      · exact ⟨rfl, rfl, session.log, rfl⟩
      · split
        · split <;> exact ⟨rfl, rfl, session.log, rfl⟩
        · exact ⟨rfl, rfl, session.log, rfl⟩

/-- A directory with one reference is held with its first page, or is left without any. -/
theorem firstOrRelease_leaves {listing : DirectoryListing} {dir : FileRef} {session : Session}
    (holds : listing.dir = some dir)
    (once : Table.measure (·.refs) session.files dir.index = 1)
    (reply : Option (ChainedReply Response)) :
    (listing.firstOrRelease reply session).2.1.dir =
      (listing.firstOrRelease reply session).2.2.held? dir := by
  obtain ⟨_, sameDir, log, noted⟩ := listing.firstPage_eq listing reply session session
  unfold firstOrRelease
  split <;> rename_i read <;> rw [read] at sameDir noted <;> simp only at sameDir noted <;>
    subst noted
  · rw [Session.held?, if_neg (by simp [once]), sameDir, holds]
  · rename_i fault first
    have gone := first.dir_releaseDir { session with log }
    have given := first.refs_releaseDir { session with log } dir.index
    rw [sameDir, holds, if_pos rfl, once] at given
    -- Whether or not giving it back fails, the directory is gone.
    generalize first.releaseDir { session with log } = outcome at gone given ⊢
    rcases outcome with ⟨closing | _, kept, later⟩
    · exact gone.trans (if_pos given).symm
    · exact gone.trans (if_pos given).symm

/-- Behind the start a listing holds the directory that it has adopted, unless that was given back
again. -/
theorem start_leaves {listing : DirectoryListing} (fresh : listing.dir = none) (tree : TreeRef)
    (session : Session) :
    (listing.start tree session).2.1.dir =
      (listing.start tree session).2.2.held? ⟨session.files.size⟩ := by
  have sameSent := (session.tables_send tree
    (.chain [.create (OpenMode.directory.toCreate listing.path), listing.query session 0 0])
    .plain).2
  -- Unless a directory was adopted, the table of files is as it was, and nothing is held.
  have unopened {later : Session} (same : later.files = session.files) :
      listing.dir = later.held? ⟨session.files.size⟩ := by
    rw [Session.held?_size same, fresh]
  unfold start
  simp only
  split <;> rename_i answered <;> rw [answered] at sameSent
  · exact unopened sameSent
  · exact unopened sameSent
  · rename_i opened rest later
    simp only at sameSent
    split
    · exact unopened sameSent
    · split
      · rename_i file _
        split <;> rename_i adopted
        · rw [Session.adoptFile_refused adopted]
          exact unopened sameSent
        · rename_i dir behind
          obtain ⟨_, rfl, log, rfl⟩ := Session.adoptFile_ok adopted
          rw [hold, fresh, ← sameSent]
          -- The new handle stands at the end of the table, with its only reference.
          refine firstOrRelease_leaves rfl ?_ rest.head?
          rw [Table.measure_push, if_pos rfl]
      · exact unopened sameSent
  · exact unopened sameSent

/-- Going on keeps the directory, and every file as it is. -/
theorem fetchMore_keeps (listing : DirectoryListing) (tree : TreeRef) (session : Session) :
    (listing.fetchMore tree session).2.1.dir = listing.dir ∧
      (listing.fetchMore tree session).2.2.files = session.files := by
  unfold fetchMore
  split
  · rename_i last _ _
    have same := (session.tables_send tree
      (listing.query session last.fileIndex QueryFlags.indexSpecified) .plain).2
    simp only
    -- The answer is a page, something else or a failure; it touches neither.
    split <;> rename_i answered <;> rw [answered] at same
    · split <;> exact ⟨rfl, same⟩
    · exact ⟨rfl, same⟩
    · exact ⟨rfl, same⟩
  · exact ⟨rfl, rfl⟩

end DirectoryListing

namespace Cursor

section Adopted

variable {Listing : Type} [PagedListing Listing]

/-- The file that got its handle in a deed, if somebody has a reference to it behind the deed. -/
def Deed.adopted (tree : TreeRef) (deed : Deed Listing) : Option FileRef :=
  (deed.outcome tree).2.held? ⟨deed.session.files.size⟩

end Adopted

variable {tree : TreeRef} {listing last : DirectoryListing} {isClosed : Bool}
  {passed : List Passage} {done : List (Deed DirectoryListing)}

/-- Behind the start no deed adopts a file. -/
theorem Deed.adopted_none {deed : Deed DirectoryListing} (behind : deed.call ≠ .start) :
    deed.adopted tree = none := by
  obtain ⟨call, listing, session⟩ := deed
  -- No call but the start makes the table of files any longer.
  cases call with
  | start => exact absurd rfl behind
  | fetchMore => exact Session.held?_size (listing.fetchMore_keeps tree session).2
  | finish =>
    have given := listing.refs_releaseDir session session.files.size
    rw [Table.measure_size, Nat.zero_sub] at given
    exact if_pos given
  | release => exact Session.held?_size (session.tables_releaseTree tree).2
  | forget =>
    obtain ⟨log, forgotten⟩ := session.forgetTree_eq tree
    have same : (session.forgetTree tree).files = session.files := by rw [forgotten]
    exact Session.held?_size same

/-- What passes at the end is what passes when the directory of the listing is released. -/
theorem Deed.passed_finish (listing : DirectoryListing) (session : Session) :
    Deed.passed tree ⟨.finish, listing, session⟩ =
      listing.dir.elim [] fun dir => session.since (session.releaseFile dir).2 := by
  have same : Deed.outcome tree ⟨.finish, listing, session⟩ = (listing.releaseDir session).2 := rfl
  rw [Deed.passed, same, DirectoryListing.releaseDir]
  cases listing.dir with
  | none =>
    have nothing : session.passages.toList = session.passages.toList ++ [] := by simp
    exact Session.since_eq nothing
  | some dir =>
    -- The directory is forgotten behind its release, and nothing passes by that.
    simp only [Option.elim_some, Session.since, Session.passages_forgetFile]

/-- In the life of a cursor the end finds the directory that was adopted, if it was not given back
before. -/
theorem Life.dir_of_finish (life : Life tree listing isClosed passed done last)
    (fresh : listing.dir = none) :
    ∀ deed ∈ done, deed.call = .finish →
      deed.listing.dir = done.findSome? (Deed.adopted tree) := by
  obtain ⟨session, fetches, ends, middle, rfl, chained, behind, fetching, ending⟩ := life.split
  have started : Deed.adopted tree ⟨.start, listing, session⟩ =
      (listing.start tree session).2.1.dir :=
    (DirectoryListing.start_leaves fresh tree session).symm
  -- The directory that the start has left stays with the listing until the end.
  have keeps (deed : Deed DirectoryListing) (listed : deed ∈ fetches)
      (same : deed.listing.dir = (listing.start tree session).2.1.dir) :
      (deed.outcome tree).1.dir = (listing.start tree session).2.1.dir := by
    obtain ⟨call, found, there⟩ := deed
    obtain rfl : call = .fetchMore := fetching _ listed
    exact (found.fetchMore_keeps tree there).1.trans same
  obtain ⟨_, still⟩ := chained.keeps (·.dir = (listing.start tree session).2.1.dir) keeps rfl
  have ended := behind.ends ending
  have later : (fetches ++ ends).findSome? (Deed.adopted tree) = none := by
    rw [List.findSome?_eq_none_iff]
    intro deed listed
    refine Deed.adopted_none ?_
    rcases List.mem_append.mp listed with early | late
    · simp [fetching deed early]
    · rcases ended deed late with ⟨called, _⟩ | called | called <;> simp [called]
  have whole : (⟨.start, listing, session⟩ :: fetches ++ ends).findSome? (Deed.adopted tree) =
      (listing.start tree session).2.1.dir := by
    rw [List.cons_append, List.findSome?_cons, started, later]
    cases (listing.start tree session).2.1.dir <;> rfl
  rw [whole]
  intro deed listed isFinish
  rcases List.mem_append.mp listed with early | late
  · rcases List.mem_cons.mp early with rfl | further
    · simp at isFinish
    · simp [fetching deed further] at isFinish
  · -- Of the last deeds only one ends the listing, and it finds it as the pages have left it.
    rcases ended deed late with ⟨_, found⟩ | called | called
    · rw [found]
      exact still
    · simp [called] at isFinish
    · simp [called] at isFinish

end Cursor

end SmbBrowser
