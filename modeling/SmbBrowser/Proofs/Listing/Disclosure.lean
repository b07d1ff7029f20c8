import SmbBrowser.Listing.Sorts
import SmbBrowser.Proofs.Session.Disclosure

/-!
What listings do not answer. Two of them meet failures that they keep to themselves: a search that
cannot be given back, and an open directory that cannot be closed when its first page could not be
read. Both are written down.
-/

namespace SmbBrowser

/-- A listing that tells of every failure that it meets. -/
class DisclosingListing (Listing : Type) [PagedListing Listing] where
  /-- What the listing meets, besides what it answers, while it asks for its first page. -/
  startFailures : Listing → TreeRef → Session → List Fault
  /-- What the listing meets, besides what it answers, while it gives back what the server holds. -/
  finishFailures : Listing → TreeRef → Session → List Fault
  /-- What it meets at the start is told. -/
  start_discloses : ∀ (listing : Listing) (tree : TreeRef) (session : Session) answer,
    session.Discloses (PagedListing.start listing tree session).2.2 answer
      (startFailures listing tree session)
  /-- Asking for a further page takes nothing back. -/
  fetchMore_keepsLog : ∀ (listing : Listing) (tree : TreeRef) (session : Session),
    session.KeepsLog (PagedListing.fetchMore listing tree session).2.2
  /-- What it meets at the end is told. -/
  finish_discloses : ∀ (listing : Listing) (tree : TreeRef) (session : Session) answer,
    session.Discloses (PagedListing.finish listing tree session).2.2 answer
      (finishFailures listing tree session)

namespace SearchListing

variable (listing : SearchListing) (tree : TreeRef) (session : Session)

/-- Beginning a search writes to the log at most. -/
theorem start_keepsLog : session.KeepsLog (listing.start tree session).2.2 := by
  have asked := session.send_keepsLog tree listing.first .plain
  unfold start
  split <;> rename_i answered <;> rw [answered] at asked
  · split <;> exact asked
  · exact asked
  · split
    · -- A refusal that is taken for the end is written down.
      exact asked.trans (.note _ _)
    · exact asked

/-- Going on with a search writes to the log at most. -/
theorem fetchMore_keepsLog : session.KeepsLog (listing.fetchMore tree session).2.2 := by
  unfold fetchMore
  split
  · exact .refl session
  · rename_i sid _
    have asked := session.send_keepsLog tree (listing.next sid) .plain
    -- The answer is only read.
    split <;> rename_i answered <;> rw [answered] at asked
    · split <;> exact asked
    · exact asked
    · exact asked

/-- Why a search could not be given back. -/
def finishFailures : List Fault :=
  match listing.sid with
  | none => []
  | some sid => (failureOf (session.send tree (.findClose sid) .cleanup).1).toList

/-- Why a search could not be given back is written down. -/
theorem finish_discloses (answer : Option Fault) :
    session.Discloses (listing.finish tree session).2.2 answer
      (listing.finishFailures tree session) := by
  unfold finish finishFailures
  -- Without a search nothing is met.
  cases listing.sid with
  | none => exact .nothing (.refl session)
  | some sid =>
    have asked := session.send_keepsLog tree (.findClose sid) .cleanup
    simp only
    split <;> rename_i answered <;> rw [answered] at asked ⊢
    · exact .nothing asked
    · exact (Session.Discloses.answered _ asked).note (.of_fault? rfl)

end SearchListing

instance : DisclosingListing SearchListing where
  startFailures _ _ _ := []
  finishFailures := SearchListing.finishFailures
  start_discloses listing tree session _ := .nothing (listing.start_keepsLog tree session)
  fetchMore_keepsLog := SearchListing.fetchMore_keepsLog
  finish_discloses := SearchListing.finish_discloses

namespace DirectoryListing

variable (listing : DirectoryListing) (tree : TreeRef) (session : Session)

/-- Reading the first page writes to the log at most. -/
theorem firstPage_keepsLog (reply : Option (ChainedReply Response)) :
    session.KeepsLog (listing.firstPage reply session).2.2 := by
  unfold firstPage
  split
  · exact .refl session
  · split
    · -- A query that fails with an end is written down.
      exact .note session _
    · split
      · exact .refl session
      · split
        · split <;> exact .refl session
        · exact .refl session

/-- Giving the open directory back writes to the log at most. -/
theorem releaseDir_keepsLog : session.KeepsLog (listing.releaseDir session).2.2 := by
  unfold releaseDir
  -- There may be no directory to be given back.
  split
  · exact .refl session
  · exact (session.releaseFile_keepsLog _).trans (Session.forgetFile_keepsLog _ _)

/-- Holding a directory writes to the log at most. -/
theorem hold_keepsLog (dir : FileRef) : session.KeepsLog (listing.hold dir session).2 := by
  unfold hold
  -- Only the directory that was held before is written about.
  split
  · exact .refl session
  · exact session.forgetFile_keepsLog _

/-- What is met while the open directory is given back: why the server does not take it, or else
what the giving back fails with. -/
def releaseFailures : List Fault :=
  (listing.dir.elim [] session.takeBackFailures) ++
    (failureOf (listing.releaseDir session).1).toList

/-- What giving the open directory back meets is its answer. -/
theorem releaseDir_discloses :
    session.Discloses (listing.releaseDir session).2.2
      (failureOf (listing.releaseDir session).1) (listing.releaseFailures session) := by
  refine ⟨listing.releaseDir_keepsLog session, fun fault listed => .inl ?_⟩
  -- The answer is why the server does not take it, or else what the giving back fails with.
  rcases List.mem_append.mp listed with taken | answered
  · rw [failureOf_eq_some]
    unfold releaseDir
    cases dir : listing.dir with
    | none => simp [dir] at taken
    | some held =>
      simp only [dir, Option.elim_some] at taken
      exact session.releaseFile_failed held taken
  · exact Option.mem_toList.mp answered

/-- What is met while a directory is given back whose first page could not be read. -/
def orphanFailures (reply : Option (ChainedReply Response)) : List Fault :=
  match listing.firstPage reply session with
  | (.ok _, _, _) => []
  | (.error _, listing, session) => listing.releaseFailures session

/-- What giving a directory back meets is written down when its first page could not be read. -/
theorem firstOrRelease_discloses (reply : Option (ChainedReply Response))
    (answer : Option Fault) :
    session.Discloses (listing.firstOrRelease reply session).2.2 answer
      (listing.orphanFailures session reply) := by
  have keeps := listing.firstPage_keepsLog session reply
  rcases read : listing.firstPage reply session with ⟨fault | found, first, later⟩ <;>
    simp only [firstOrRelease, orphanFailures, read] at keeps ⊢
  · refine .behind keeps ?_
    have released := first.releaseDir_discloses later
    rcases gave : first.releaseDir later with ⟨closing | _, kept, behind⟩ <;>
      simp only [gave] at released ⊢
    · -- The answer is the failure of the page, so that of the closing has to be written down.
      exact released.note (.of_fault? rfl)
    · exact released.pass (.refl behind) (by simp [failureOf])
  · exact .nothing keeps

/-- What a directory listing keeps to itself while it begins. -/
def startFailures : List Fault :=
  match session.send tree
      (.chain [.create (OpenMode.directory.toCreate listing.path), listing.query session 0 0])
      .plain with
  | (.ok (.chain (opened :: rest)), session) =>
    if opened.status.isSuccess then
      match opened.response with
      | some (.create file) =>
        match session.adoptFile tree file.fid listing.path .directory with
        | (.error _, _) => []
        | (.ok dir, session) =>
          (listing.hold dir session).1.orphanFailures (listing.hold dir session).2 rest.head?
      | _ => []
    else []
  | _ => []

/-- What opening a directory keeps to itself is written down. -/
theorem start_discloses (answer : Option Fault) :
    session.Discloses (listing.start tree session).2.2 answer
      (listing.startFailures tree session) := by
  have asked := session.send_keepsLog tree
    (.chain [.create (OpenMode.directory.toCreate listing.path), listing.query session 0 0]) .plain
  unfold start startFailures
  simp only
  split <;> rename_i answered <;> rw [answered] at asked ⊢
  · exact .nothing asked
  · exact .nothing asked
  · rename_i opened rest later
    obtain ⟨status, response⟩ := opened
    by_cases success : status.isSuccess = true
    · simp only [success, Bool.not_true, Bool.false_eq_true, if_false, if_true]
      rcases response with _ | response
      · exact .nothing asked
      · cases response with
        | create file =>
          have adopts := later.adoptFile_keepsLog tree file.fid listing.path .directory
          rcases taken : later.adoptFile tree file.fid listing.path .directory with
            ⟨fault | dir, adopted⟩ <;> simp only [taken] at adopts ⊢
          · exact .nothing (asked.trans adopts)
          · -- From here on there is a directory to be closed.
            have holds := listing.hold_keepsLog adopted dir
            exact .behind ((asked.trans adopts).trans holds) (firstOrRelease_discloses _ _ _ _)
        | _ => exact .nothing asked
    · simp only [success, Bool.not_false, if_true]
      exact .nothing asked
  · split
    · simp_all
    · exact .nothing asked

/-- Going on with a directory writes to the log at most. -/
theorem fetchMore_keepsLog : session.KeepsLog (listing.fetchMore tree session).2.2 := by
  unfold fetchMore
  split
  · rename_i last _ _
    have asked := session.send_keepsLog tree
      (listing.query session last.fileIndex QueryFlags.indexSpecified) .plain
    simp only
    -- The answer is only read.
    split <;> rename_i answered <;> rw [answered] at asked
    · split <;> exact asked
    · exact asked
    · exact asked
  · exact .refl session

end DirectoryListing

instance : DisclosingListing DirectoryListing where
  startFailures := DirectoryListing.startFailures
  finishFailures _ _ _ := []
  start_discloses := DirectoryListing.start_discloses
  fetchMore_keepsLog := DirectoryListing.fetchMore_keepsLog
  finish_discloses listing _ session _ := .nothing (listing.releaseDir_keepsLog session)

namespace NetworkListing

variable (listing : NetworkListing) (tree : TreeRef) (session : Session)

/-- A query for servers writes to the log at most. -/
theorem ask_keepsLog : session.KeepsLog (listing.ask tree session).2.2 := by
  have asked := session.send_keepsLog tree (.serverEnum listing.query) .plain
  unfold ask
  split <;> rename_i answered <;> rw [answered] at asked
  · exact asked
  · split
    · exact asked
    · split
      · -- A page that is accepted is written down.
        exact asked.trans (.note _ _)
      · exact asked
  · exact asked

/-- Asking for the first servers writes to the log at most. -/
theorem start_keepsLog : session.KeepsLog (listing.start tree session).2.2 := by
  -- It is one query.
  have asked := listing.ask_keepsLog tree session
  unfold start
  split <;> rename_i answered <;> rw [answered] at asked <;> exact asked

/-- Asking for further servers writes to the log at most. -/
theorem fetchMore_keepsLog : session.KeepsLog (listing.fetchMore tree session).2.2 := by
  unfold fetchMore
  split
  · exact .refl session
  · split
    · exact .refl session
    · rename_i last _
      have asked := ask_keepsLog { listing with query := { listing.query with
        command := .netServerEnum3, lastName := some last.name } } tree session
      simp only
      split <;> rename_i answered <;> rw [answered] at asked
      · exact asked
      · -- A page that makes no progress is a failure without an event of its own.
        split <;> exact asked

end NetworkListing

instance : DisclosingListing NetworkListing where
  startFailures _ _ _ := []
  finishFailures _ _ _ := []
  start_discloses listing tree session _ := .nothing (listing.start_keepsLog tree session)
  fetchMore_keepsLog := NetworkListing.fetchMore_keepsLog
  finish_discloses _ _ session _ := .nothing (.refl session)

/-- Asking for the shares of a host writes to the log at most. -/
theorem HostListing.start_keepsLog (listing : HostListing) (tree : TreeRef) (session : Session) :
    session.KeepsLog (listing.start tree session).2.2 := by
  have asked := session.send_keepsLog tree .shareEnum .plain
  unfold start
  split <;> rename_i answered <;> rw [answered] at asked
  · exact asked
  · split
    · exact asked
    · split <;> exact asked
  · exact asked

instance : DisclosingListing HostListing where
  startFailures _ _ _ := []
  finishFailures _ _ _ := []
  start_discloses listing tree session _ := .nothing (listing.start_keepsLog tree session)
  fetchMore_keepsLog _ _ session := .refl session
  finish_discloses _ _ session _ := .nothing (.refl session)

instance : DisclosingListing RehearsedListing where
  startFailures _ _ _ := []
  finishFailures _ _ _ := []
  start_discloses _ _ session _ := .nothing (.refl session)
  fetchMore_keepsLog listing _ session := by
    simp only [PagedListing.fetchMore, RehearsedListing.fetchMore]
    split <;> exact .refl session
  finish_discloses listing _ session _ := by
    simp only [PagedListing.finish, RehearsedListing.finish]
    split <;> exact .nothing (.refl session)

/-- A listing of any sort tells what a listing of its sort tells. -/
instance : DisclosingListing Listing where
  startFailures
    | .search listing => DisclosingListing.startFailures listing
    | .directory listing => DisclosingListing.startFailures listing
    | .network listing => DisclosingListing.startFailures listing
    | .host listing => DisclosingListing.startFailures listing
    | .rehearsed listing => DisclosingListing.startFailures listing
  finishFailures
    | .search listing => DisclosingListing.finishFailures listing
    | .directory listing => DisclosingListing.finishFailures listing
    | .network listing => DisclosingListing.finishFailures listing
    | .host listing => DisclosingListing.finishFailures listing
    | .rehearsed listing => DisclosingListing.finishFailures listing
  start_discloses listing tree session answer := by
    rcases listing with listing | listing | listing | listing | listing <;>
      exact DisclosingListing.start_discloses listing tree session answer
  fetchMore_keepsLog listing tree session := by
    rcases listing with listing | listing | listing | listing | listing <;>
      exact DisclosingListing.fetchMore_keepsLog listing tree session
  finish_discloses listing tree session answer := by
    rcases listing with listing | listing | listing | listing | listing <;>
      exact DisclosingListing.finish_discloses listing tree session answer

end SmbBrowser
