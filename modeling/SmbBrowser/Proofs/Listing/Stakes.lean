import SmbBrowser.Listing.Sorts
import SmbBrowser.Proofs.Session.Deal

/-!
The stakes of listings: only a listing by an open directory has one, and whatever a listing is
called for, it deals with the session through the tree that it is read through.
-/

namespace SmbBrowser

/-- A listing whose stakes are known, and which uses the session in deals only. -/
class StakedListing (Listing : Type) [PagedListing Listing] where
  /-- The stakes that a listing has in the session's handles. -/
  stakes : Listing → Multiset Stake
  /-- Asking a fresh listing for the first page is a chain of deals. -/
  start_deals : ∀ {licence : Licence} {tree : TreeRef} {rest : Multiset Stake}
    (listing : Listing) (session : Session), .tree tree ∈ rest →
    stakes listing = 0 ∨ licence.abandon →
    Deals licence (session, stakes listing + rest)
      ((PagedListing.start listing tree session).2.2,
        stakes (PagedListing.start listing tree session).2.1 + rest)
  /-- Asking for the next page is a chain of deals. -/
  fetchMore_deals : ∀ {licence : Licence} {tree : TreeRef} {rest : Multiset Stake}
    (listing : Listing) (session : Session), .tree tree ∈ rest →
    Deals licence (session, stakes listing + rest)
      ((PagedListing.fetchMore listing tree session).2.2,
        stakes (PagedListing.fetchMore listing tree session).2.1 + rest)
  /-- Giving back what the server holds is a chain of deals. -/
  finish_deals : ∀ {licence : Licence} {tree : TreeRef} {rest : Multiset Stake}
    (listing : Listing) (session : Session), .tree tree ∈ rest →
    Deals licence (session, stakes listing + rest)
      ((PagedListing.finish listing tree session).2.2,
        stakes (PagedListing.finish listing tree session).2.1 + rest)
  /-- A listing that was given back has no stake any more. -/
  stakes_finish : ∀ (listing : Listing) (tree : TreeRef) (session : Session),
    stakes (PagedListing.finish listing tree session).2.1 = 0
  /-- A listing takes no reference of its own to a tree. -/
  unheld : ∀ (listing : Listing) (tree : TreeRef), .reference tree ∉ stakes listing

variable {licence : Licence} {tree : TreeRef} {rest : Multiset Stake}

namespace SearchListing

/-- Beginning a search sends one request. -/
theorem start_deals (listing : SearchListing) (session : Session) (known : .tree tree ∈ rest) :
    Deals licence (session, rest) ((listing.start tree session).2.2, rest) := by
  -- Whatever the answer, nothing happens behind it but a note.
  have asked : Deals licence (session, rest)
      ((session.send tree listing.first .plain).2, rest) := .send .refl known rfl .plain
  unfold start
  split <;> rename_i answered <;> rw [answered] at asked
  · split <;> exact asked
  · exact asked
  · split
    · exact asked.note _
    · exact asked

/-- Continuing a search sends at most one request. -/
theorem fetchMore_deals (listing : SearchListing) (session : Session)
    (known : .tree tree ∈ rest) :
    Deals licence (session, rest) ((listing.fetchMore tree session).2.2, rest) := by
  unfold fetchMore
  cases listing.sid with
  | none => exact .refl
  | some sid =>
    have asked : Deals licence (session, rest)
        ((session.send tree (listing.next sid) .plain).2, rest) := .send .refl known rfl .plain
    simp only
    -- The answer makes the page or ends the search, and nothing else happens.
    -- The one request is sent, and its answer is only read.
    split <;> rename_i answered <;> rw [answered] at asked
    · split <;> exact asked
    · exact asked
    · exact asked

/-- Giving a search back sends at most one request. -/
theorem finish_deals (listing : SearchListing) (session : Session)
    (known : .tree tree ∈ rest) :
    Deals licence (session, rest) ((listing.finish tree session).2.2, rest) := by
  unfold finish
  -- Only a search that has begun is given back.
  cases listing.sid with
  | none => exact .refl
  | some sid =>
    have asked : Deals licence (session, rest)
        ((session.send tree (.findClose sid) .cleanup).2, rest) := .send .refl known rfl .cleanup
    simp only
    split <;> rename_i answered <;> rw [answered] at asked
    · exact asked
    · exact asked.note _

end SearchListing

instance : StakedListing SearchListing where
  stakes _ := 0
  start_deals listing session known _ := by
    simp only [zero_add]
    exact listing.start_deals session known
  fetchMore_deals listing session known := by
    simp only [zero_add]
    exact listing.fetchMore_deals session known
  finish_deals listing session known := by
    simp only [zero_add]
    exact listing.finish_deals session known
  stakes_finish _ _ _ := rfl
  unheld _ _ := Multiset.notMem_zero _

namespace DirectoryListing

/-- The stake of a listing is the directory that it holds open. -/
def stakes (listing : DirectoryListing) : Multiset Stake :=
  match listing.dir with
  | none => 0
  | some dir => dir.hold

/-- Giving the directory back uses up the listing's stake. -/
theorem releaseDir_deals (listing : DirectoryListing) (session : Session) :
    Deals licence (session, listing.stakes + rest)
      ((listing.releaseDir session).2.2, (listing.releaseDir session).2.1.stakes + rest) := by
  unfold releaseDir stakes
  cases isDir : listing.dir with
  | none => simp only [isDir]; exact .refl
  | some dir =>
    -- The reference goes back first, and the listing forgets the directory behind it.
    have released : Deals licence (session, dir.hold + rest) _ := Deals.releaseFile .refl
    simpa using released

/-- A listing that gave its directory back has no stake any more. -/
theorem stakes_releaseDir (listing : DirectoryListing) (session : Session) :
    (listing.releaseDir session).2.1.stakes = 0 := by
  unfold releaseDir
  -- A directory that was held is no longer named.
  cases isDir : listing.dir with
  | none => simp [stakes, isDir]
  | some dir => rfl

/-- Holding a directory forgets the one that was held before, if that is licensed. -/
theorem hold_deals (listing : DirectoryListing) (dir : FileRef) (session : Session)
    (fresh : listing.stakes = 0 ∨ licence.abandon) :
    Deals licence (session, dir.hold + (listing.stakes + rest))
      ((listing.hold dir session).2, (listing.hold dir session).1.stakes + rest) := by
  unfold hold
  -- A fresh listing holds no directory that could be forgotten.
  cases isDir : listing.dir with
  | none => simpa only [stakes, isDir, zero_add] using .refl
  | some old =>
    have licensed : licence.abandon := by
      rcases fresh with nothing | licensed
      · simp [stakes, isDir, FileRef.hold] at nothing
      · exact licensed
    -- What is still to be given back for the old directory is left to itself.
    have front : dir.hold + (old.hold + rest) =
        .fileReference old ::ₘ .file old ::ₘ (dir.hold + rest) := by
      simp only [FileRef.hold, Multiset.insert_eq_cons, ← Multiset.singleton_add]
      ac_rfl
    simp only [stakes, isDir, front]
    exact .tail (.single (.abandonFile licensed old)) (.forgetFile old)

/-- Reading the first page only notes, and leaves the directory as it is. -/
theorem firstPage_deals (listing : DirectoryListing) (reply : Option (ChainedReply Response))
    (session : Session) :
    Deals licence (session, listing.stakes + rest)
      ((listing.firstPage reply session).2.2,
        (listing.firstPage reply session).2.1.stakes + rest) := by
  unfold firstPage
  cases reply with
  | none => exact .refl
  | some reply =>
    simp only
    -- Whatever the reply has, only a note is written.
    split
    · exact Deals.note _ .refl
    · split
      · exact .refl
      · split
        · split <;> exact .refl
        · exact .refl

/-- A first page that fails gives the directory back. -/
theorem firstOrRelease_deals (listing : DirectoryListing)
    (reply : Option (ChainedReply Response)) (session : Session) :
    Deals licence (session, listing.stakes + rest)
      ((listing.firstOrRelease reply session).2.2,
        (listing.firstOrRelease reply session).2.1.stakes + rest) := by
  have read : Deals licence (session, listing.stakes + rest) _ :=
    listing.firstPage_deals reply session
  unfold firstOrRelease
  generalize listing.firstPage reply session = page at read
  obtain ⟨result, opened, later⟩ := page
  -- The directory stays held unless the first page fails.
  cases result with
  | ok found => exact read
  | error fault =>
    have released : Deals licence (later, opened.stakes + rest) _ := opened.releaseDir_deals later
    simp only
    generalize opened.releaseDir later = back at released
    obtain ⟨result, closed, last⟩ := back
    cases result with
    | ok _ => exact read.trans released
    | error closing => exact Deals.note _ (read.trans released)

/-- Opening the directory adopts at most one file, which the listing then holds. -/
theorem start_deals (listing : DirectoryListing) (session : Session)
    (known : .tree tree ∈ rest) (fresh : listing.stakes = 0 ∨ licence.abandon) :
    Deals licence (session, listing.stakes + rest)
      ((listing.start tree session).2.2, (listing.start tree session).2.1.stakes + rest) := by
  have known' : .tree tree ∈ listing.stakes + rest := Multiset.mem_add.mpr (.inr known)
  unfold start
  simp only
  generalize isChain : Request.chain _ = request
  have asked : Deals licence (session, listing.stakes + rest)
      ((session.send tree request .plain).2, listing.stakes + rest) :=
    .send .refl known' (by rw [← isChain]; rfl) .plain
  -- Only an opened directory goes further than the answer.
  split <;> rename_i answered <;> rw [answered] at asked
  · exact asked
  · exact asked
  · split
    · exact asked
    · split
      · rename_i file _
        split
        · rename_i refused
          rw [Session.adoptFile_refused refused]
          exact asked
        · rename_i adopted
          rename_i dir later
          have taken := asked.tail (.adopt known' adopted)
          have held : Deals licence (session, listing.stakes + rest)
              (later, dir.hold + (listing.stakes + rest)) := by
            simpa [FileRef.hold] using taken
          have kept := held.trans (listing.hold_deals dir later fresh)
          exact kept.trans (firstOrRelease_deals _ _ _)
      · exact asked
  · exact asked

/-- Asking for a further page sends at most one request. -/
theorem fetchMore_deals (listing : DirectoryListing) (session : Session)
    (known : .tree tree ∈ rest) :
    Deals licence (session, listing.stakes + rest)
      ((listing.fetchMore tree session).2.2,
        (listing.fetchMore tree session).2.1.stakes + rest) := by
  have known' : .tree tree ∈ listing.stakes + rest := Multiset.mem_add.mpr (.inr known)
  unfold fetchMore
  split
  · rename_i last _ _
    simp only
    generalize isQuery : listing.query session last.fileIndex QueryFlags.indexSpecified = request
    have asked : Deals licence (session, listing.stakes + rest)
        ((session.send tree request .plain).2, listing.stakes + rest) :=
      .send .refl known' (by rw [← isQuery]; rfl) .plain
    -- The answer is only read, and the directory stays the stake of the listing.
    split <;> rename_i answered <;> rw [answered] at asked
    · split <;> exact asked
    · exact asked
    · exact asked
  · exact .refl

end DirectoryListing

instance : StakedListing DirectoryListing where
  stakes := DirectoryListing.stakes
  start_deals listing session known fresh := listing.start_deals session known fresh
  fetchMore_deals listing session known := listing.fetchMore_deals session known
  finish_deals listing session _ := listing.releaseDir_deals session
  stakes_finish listing _ session := listing.stakes_releaseDir session
  unheld listing tree := by
    unfold DirectoryListing.stakes
    split <;> simp [FileRef.hold]

namespace NetworkListing

/-- Asking for a page sends one request. -/
theorem ask_deals (listing : NetworkListing) (session : Session) (known : .tree tree ∈ rest) :
    Deals licence (session, rest) ((listing.ask tree session).2.2, rest) := by
  have asked : Deals licence (session, rest)
      ((session.send tree (.serverEnum listing.query) .plain).2, rest) :=
    .send .refl known rfl .plain
  unfold ask
  -- Whatever the answer, nothing happens behind it but a note.
  split <;> rename_i answered <;> rw [answered] at asked
  · exact asked
  · split
    · exact asked
    · split
      · exact asked.note _
      · exact asked
  · exact asked

/-- Asking for the first page asks for a page. -/
theorem start_deals (listing : NetworkListing) (session : Session) (known : .tree tree ∈ rest) :
    Deals licence (session, rest) ((listing.start tree session).2.2, rest) := by
  -- It is one query.
  have asked : Deals licence (session, rest) _ := listing.ask_deals session known
  unfold start
  split <;> rename_i answered <;> rw [answered] at asked <;> exact asked

/-- Asking for a further page asks for at most one page. -/
theorem fetchMore_deals (listing : NetworkListing) (session : Session)
    (known : .tree tree ∈ rest) :
    Deals licence (session, rest) ((listing.fetchMore tree session).2.2, rest) := by
  unfold fetchMore
  split
  · exact .refl
  · split
    · exact .refl
    · simp only
      generalize ({ listing with query := _ } : NetworkListing) = next
      -- Unless there is nothing to go on from, it is one query.
      have asked : Deals licence (session, rest) _ := next.ask_deals session known
      split <;> rename_i answered <;> rw [answered] at asked
      · exact asked
      · split <;> exact asked

end NetworkListing

instance : StakedListing NetworkListing where
  stakes _ := 0
  start_deals listing session known _ := by
    simp only [zero_add]
    exact listing.start_deals session known
  fetchMore_deals listing session known := by
    simp only [zero_add]
    exact listing.fetchMore_deals session known
  finish_deals _ _ _ := .refl
  stakes_finish _ _ _ := rfl
  unheld _ _ := Multiset.notMem_zero _

/-- Asking for the shares sends one request. -/
theorem HostListing.start_deals (listing : HostListing) (session : Session)
    (known : .tree tree ∈ rest) :
    Deals licence (session, rest) ((listing.start tree session).2.2, rest) := by
  have asked : Deals licence (session, rest)
      ((session.send tree .shareEnum .plain).2, rest) := .send .refl known rfl .plain
  unfold start
  -- The answer makes the page, and nothing else happens.
  split <;> rename_i answered <;> rw [answered] at asked
  · exact asked
  · split
    · exact asked
    · split <;> exact asked
  · exact asked

instance : StakedListing HostListing where
  stakes _ := 0
  start_deals listing session known _ := by
    simp only [zero_add]
    exact listing.start_deals session known
  fetchMore_deals _ _ _ := .refl
  finish_deals _ _ _ := .refl
  stakes_finish _ _ _ := rfl
  unheld _ _ := Multiset.notMem_zero _

namespace RehearsedListing

/-- Taking a turn leaves the session as it is. -/
theorem session_fetchMore (listing : RehearsedListing) (tree : TreeRef) (session : Session) :
    (listing.fetchMore tree session).2.2 = session := by
  unfold fetchMore
  -- A turn only changes the rehearsal.
  split <;> rfl

/-- Failing or not, the end leaves the session as it is. -/
theorem session_finish (listing : RehearsedListing) (tree : TreeRef) (session : Session) :
    (listing.finish tree session).2.2 = session := by
  unfold finish
  -- What it fails with is laid down, and nobody is asked.
  split <;> rfl

end RehearsedListing

instance : StakedListing RehearsedListing where
  stakes _ := 0
  start_deals _ _ _ _ := .refl
  fetchMore_deals listing session _ := by
    have same := listing.session_fetchMore
    simp only [PagedListing.fetchMore, same]
    exact .refl
  finish_deals listing session _ := by
    have same := listing.session_finish
    simp only [PagedListing.finish, same]
    exact .refl
  stakes_finish _ _ _ := rfl
  unheld _ _ := Multiset.notMem_zero _

/-- The stakes of a listing of any sort. -/
def Listing.stakes : Listing → Multiset Stake
  | .search listing => StakedListing.stakes listing
  | .directory listing => StakedListing.stakes listing
  | .network listing => StakedListing.stakes listing
  | .host listing => StakedListing.stakes listing
  | .rehearsed listing => StakedListing.stakes listing

instance : StakedListing Listing where
  stakes := Listing.stakes
  start_deals listing session known fresh := by
    cases listing with
    | search listing => exact StakedListing.start_deals listing session known fresh
    | directory listing => exact StakedListing.start_deals listing session known fresh
    | network listing => exact StakedListing.start_deals listing session known fresh
    | host listing => exact StakedListing.start_deals listing session known fresh
    | rehearsed listing => exact StakedListing.start_deals listing session known fresh
  fetchMore_deals listing session known := by
    cases listing with
    | search listing => exact StakedListing.fetchMore_deals listing session known
    | directory listing => exact StakedListing.fetchMore_deals listing session known
    | network listing => exact StakedListing.fetchMore_deals listing session known
    | host listing => exact StakedListing.fetchMore_deals listing session known
    | rehearsed listing => exact StakedListing.fetchMore_deals listing session known
  finish_deals listing session known := by
    cases listing with
    | search listing => exact StakedListing.finish_deals listing session known
    | directory listing => exact StakedListing.finish_deals listing session known
    | network listing => exact StakedListing.finish_deals listing session known
    | host listing => exact StakedListing.finish_deals listing session known
    | rehearsed listing => exact StakedListing.finish_deals listing session known
  stakes_finish listing tree session := by
    cases listing with
    | search listing => exact StakedListing.stakes_finish listing tree session
    | directory listing => exact StakedListing.stakes_finish listing tree session
    | network listing => exact StakedListing.stakes_finish listing tree session
    | host listing => exact StakedListing.stakes_finish listing tree session
    | rehearsed listing => exact StakedListing.stakes_finish listing tree session
  unheld listing tree := by
    cases listing with
    | search listing => exact StakedListing.unheld listing tree
    | directory listing => exact StakedListing.unheld listing tree
    | network listing => exact StakedListing.unheld listing tree
    | host listing => exact StakedListing.unheld listing tree
    | rehearsed listing => exact StakedListing.unheld listing tree

/-- Letting go of a listing forgets the directory that it may hold. -/
theorem Listing.forget_deals [licence.Works] (listing : Listing) (session : Session) :
    Deals licence (session, listing.stakes + rest) (listing.forget session, rest) := by
  unfold forget
  -- Only a listing by an open directory has something to let go of.
  split
  · simp only [stakes, StakedListing.stakes, DirectoryListing.stakes]
    exact (Deals.abandon .refl).tail (.forgetFile _)
  · rename_i notOpen
    cases listing with
    | directory listing =>
      cases isDir : listing.dir with
      | none =>
        simp only [stakes, StakedListing.stakes, DirectoryListing.stakes, isDir, zero_add]
        exact .refl
      | some dir =>
        obtain ⟨path, pattern, length, _, page⟩ := listing
        subst isDir
        exact (notOpen path pattern length dir page rfl).elim
    | _ => simp only [stakes, StakedListing.stakes, zero_add]; exact .refl

end SmbBrowser
