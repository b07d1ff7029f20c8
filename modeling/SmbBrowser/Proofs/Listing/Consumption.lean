import SmbBrowser.Listing.Sorts
import SmbBrowser.Proofs.Session.Consumption

/-!
What the listings use up of a script: the start at most its front, and a further page exactly one
exchange.
-/

namespace SmbBrowser

namespace SearchListing

/-- Beginning a search uses the script up by one exchange at most. -/
theorem start_usesUp (listing : SearchListing) (tree : TreeRef) (session : Session) :
    session.UsesUp (listing.start tree session).2.2 := by
  have asked := session.send_usesUp tree listing.first .plain
  unfold start
  -- The one request is sent, and its answer is only read.
  split <;> rename_i answered <;> rw [answered] at asked
  · split <;> exact asked
  · exact asked
  · split <;> exact asked

/-- A further page is what the front of the script brought. -/
theorem fetchMore_takes {listing more : SearchListing} {tree : TreeRef} {session after : Session}
    (fetched : listing.fetchMore tree session = (.ok true, more, after)) :
    ∃ exchange, session.server.script = exchange :: after.server.script := by
  unfold fetchMore at fetched
  -- Only an answer with a page of entries brings a page, and an answer is taken off the script.
  split at fetched
  · simp at fetched
  · split at fetched
    · rename_i answered
      split at fetched
      · simp at fetched
      · simp only [Prod.mk.injEq] at fetched
        obtain ⟨_, _, rfl⟩ := fetched
        exact ⟨_, Session.script_send_ok rfl answered⟩
    · simp at fetched
    · simp only [Fault.asEnd] at fetched
      split at fetched <;> simp at fetched

end SearchListing

namespace DirectoryListing

/-- Giving the open directory back adds nothing to the script. -/
theorem releaseDir_usesUp (listing : DirectoryListing) (session : Session) :
    session.UsesUp (listing.releaseDir session).2.2 := by
  unfold releaseDir
  -- There may be no directory to be given back.
  split
  · exact .refl session
  · exact (session.releaseFile_usesUp _).trans (.of_server_eq (Session.server_forgetFile _ _))

/-- The directory that was held before is only forgotten. -/
theorem hold_usesUp (listing : DirectoryListing) (dir : FileRef) (session : Session) :
    session.UsesUp (listing.hold dir session).2 := by
  unfold hold
  simp only
  -- Forgetting a file does not reach the server.
  split
  · exact .refl session
  · exact .of_server_eq (Session.server_forgetFile _ _)

/-- Reading the first page does not reach the server: it came with the opening. -/
theorem firstPage_server (listing : DirectoryListing) (reply : Option (ChainedReply Response))
    (session : Session) : (listing.firstPage reply session).2.2.server = session.server := by
  unfold firstPage
  -- Each branch reads the reply, and logs at most.
  split
  · rfl
  · split
    · rfl
    · split
      · rfl
      · split
        · split <;> rfl
        · rfl

/-- Reading the first page, or giving the directory back for it, adds nothing to the script. -/
theorem firstOrRelease_usesUp (listing : DirectoryListing)
    (reply : Option (ChainedReply Response)) (session : Session) :
    session.UsesUp (listing.firstOrRelease reply session).2.2 := by
  have read := Session.UsesUp.of_server_eq (listing.firstPage_server reply session)
  unfold firstOrRelease
  split <;> rename_i first <;> rw [first] at read
  · exact read
  · -- Without a first page the directory is closed again.
    rename_i listing later
    have gave := releaseDir_usesUp listing later
    split <;> rename_i given <;> rw [given] at gave <;> exact read.trans gave

/-- Opening a directory adds nothing to the script. -/
theorem start_usesUp (listing : DirectoryListing) (tree : TreeRef) (session : Session) :
    session.UsesUp (listing.start tree session).2.2 := by
  unfold start
  simp only
  generalize Request.chain _ = request
  have asked := session.send_usesUp tree request .plain
  split <;> rename_i answered <;> rw [answered] at asked
  · exact asked
  · exact asked
  · rename_i later
    split
    · exact asked
    · split
      · rename_i file _
        -- The file is only taken in; closing it again may ask.
        have adopted := Session.UsesUp.of_server_eq
          (later.server_adoptFile tree file.fid listing.path .directory)
        split <;> rename_i taken <;> rw [taken] at adopted
        · exact asked.trans adopted
        · exact (asked.trans adopted).trans
            ((listing.hold_usesUp _ _).trans (firstOrRelease_usesUp _ _ _))
      · exact asked
  · exact asked

/-- A further page is what the front of the script brought. -/
theorem fetchMore_takes {listing more : DirectoryListing} {tree : TreeRef}
    {session after : Session} (fetched : listing.fetchMore tree session = (.ok true, more, after)) :
    ∃ exchange, session.server.script = exchange :: after.server.script := by
  unfold fetchMore at fetched
  -- As with a search: only a page with entries comes, and its answer is off the script.
  split at fetched
  · simp only at fetched
    split at fetched
    · rename_i answered
      split at fetched
      · simp at fetched
      · simp only [Prod.mk.injEq] at fetched
        obtain ⟨_, _, rfl⟩ := fetched
        exact ⟨_, Session.script_send_ok rfl answered⟩
    · simp at fetched
    · simp only [Fault.asEnd] at fetched
      split at fetched <;> simp at fetched
  · simp at fetched

end DirectoryListing

namespace NetworkListing

/-- A query for servers uses the script up by one exchange at most. -/
theorem ask_usesUp (listing : NetworkListing) (tree : TreeRef) (session : Session) :
    session.UsesUp (listing.ask tree session).2.2 := by
  have asked := session.send_usesUp tree (.serverEnum listing.query) .plain
  unfold ask
  -- The one request is sent, and its answer is only read.
  split <;> rename_i answered <;> rw [answered] at asked
  · exact asked
  · split
    · exact asked
    · split <;> exact asked
  · exact asked

/-- Asking for the first servers uses the script up by one exchange at most. -/
theorem start_usesUp (listing : NetworkListing) (tree : TreeRef) (session : Session) :
    session.UsesUp (listing.start tree session).2.2 := by
  -- It is one query.
  have asked := listing.ask_usesUp tree session
  unfold start
  split <;> rename_i answered <;> rw [answered] at asked <;> exact asked

/-- A page that comes is what the front of the script brought. -/
theorem ask_takes {listing more : NetworkListing} {tree : TreeRef} {session after : Session}
    (asked : listing.ask tree session = (.ok (), more, after)) :
    ∃ exchange, session.server.script = exchange :: after.server.script := by
  unfold ask at asked
  -- A query that succeeds was answered, and the answer is taken off the script.
  split at asked
  · simp at asked
  · rename_i answered
    split at asked
    · simp at asked
    · split at asked
      · obtain ⟨_, _, rfl⟩ := asked
        have taken := Session.script_send_ok rfl answered
        exact ⟨_, taken⟩
      · simp at asked
  · simp at asked

/-- A further page of servers is what the front of the script brought. -/
theorem fetchMore_takes {listing more : NetworkListing} {tree : TreeRef} {session after : Session}
    (fetched : listing.fetchMore tree session = (.ok true, more, after)) :
    ∃ exchange, session.server.script = exchange :: after.server.script := by
  unfold fetchMore at fetched
  split at fetched
  · simp at fetched
  · split at fetched
    · simp at fetched
    · simp only at fetched
      split at fetched
      · simp at fetched
      · rename_i asked
        split at fetched
        · -- A page that stalls is a failure, though it was taken off the script.
          simp at fetched
        · obtain ⟨_, _, rfl⟩ := fetched
          exact ask_takes asked

end NetworkListing

/-- Asking for the shares of a host uses the script up by one exchange at most. -/
theorem HostListing.start_usesUp (listing : HostListing) (tree : TreeRef) (session : Session) :
    session.UsesUp (listing.start tree session).2.2 := by
  have asked := session.send_usesUp tree .shareEnum .plain
  unfold start
  split <;> rename_i answered <;> rw [answered] at asked
  · exact asked
  · split
    · exact asked
    · split <;> exact asked
  · exact asked

namespace Listing

/-- The listing is one that a server answers; a rehearsed one asks nobody. -/
def IsServed : Listing → Prop
  | .rehearsed _ => False
  | _ => True

/-- What the listing's start asks takes at most the front of the script off. -/
theorem start_usesUp (listing : Listing) (tree : TreeRef) (session : Session) :
    session.UsesUp (listing.start tree session).2.2 := by
  -- A rehearsed listing asks nobody, and each other sort has its own lemma.
  cases listing with
  | search listing => exact listing.start_usesUp tree session
  | directory listing => exact listing.start_usesUp tree session
  | network listing => exact listing.start_usesUp tree session
  | host listing => exact listing.start_usesUp tree session
  | rehearsed listing => exact .refl session

/-- A further page takes exactly one exchange off the script. -/
theorem fetchMore_takes {listing more : Listing} {tree : TreeRef} {session after : Session}
    (served : listing.IsServed) (fetched : listing.fetchMore tree session = (.ok true, more, after)) :
    ∃ exchange, session.server.script = exchange :: after.server.script := by
  -- A host has no further pages, and the sorts that have them take them off the script.
  cases listing with
  | rehearsed listing => exact served.elim
  | host listing => simp [fetchMore, lift, PagedListing.fetchMore] at fetched
  | search listing =>
    simp only [fetchMore, lift, Prod.mk.injEq] at fetched
    obtain ⟨came, _, rfl⟩ := fetched
    exact SearchListing.fetchMore_takes (Prod.ext came rfl)
  | directory listing =>
    simp only [fetchMore, lift, Prod.mk.injEq] at fetched
    obtain ⟨came, _, rfl⟩ := fetched
    exact DirectoryListing.fetchMore_takes (Prod.ext came rfl)
  | network listing =>
    simp only [fetchMore, lift, Prod.mk.injEq] at fetched
    obtain ⟨came, _, rfl⟩ := fetched
    exact NetworkListing.fetchMore_takes (Prod.ext came rfl)

/-! No call makes a listing of another sort of it. -/

variable {listing : Listing} (served : listing.IsServed) (tree : TreeRef) (session : Session)
include served

/-- A listing that a server answers is still one behind its start. -/
theorem IsServed.start : (listing.start tree session).2.1.IsServed := by
  -- A call of the sum stays in its summand.
  cases listing <;> exact served

/-- A listing that a server answers is still one behind a further page. -/
theorem IsServed.fetchMore : (listing.fetchMore tree session).2.1.IsServed := by
  -- As at the start, the sort stays.
  cases listing <;> exact served

/-- A listing that a server answers is still one when it is finished. -/
theorem IsServed.finish : (listing.finish tree session).2.1.IsServed := by
  -- Finishing, too, keeps the sort.
  cases listing <;> exact served

end Listing

end SmbBrowser
