import SmbBrowser.Browse
import SmbBrowser.Proofs.Listing.Closing
import SmbBrowser.Proofs.Listing.Endings

/-!
Directories that the server opens for a listing. Once the answer to the opening is taken for a
success, the directory is held by the listing, which gives it back at its end, or it is given back
at once; no directory is left open that nobody holds. An answer of informational severity opens a
directory too, but is taken for a failure.
-/

namespace SmbBrowser

namespace Session

variable {session : Session} {dir : FileRef} {tree : TreeRef} {fid : FileId}

/-- A file of the server is open on a tree, and somebody has the only reference to it. -/
def OpenOnce (session : Session) (dir : FileRef) (tree : TreeRef) (fid : FileId) : Prop :=
  ∃ handle, session.file? dir = some handle ∧ handle.refs = 1 ∧
    handle.resource.tree = tree ∧ handle.resource.fid = fid

/-- A valid tree that is held more than once. -/
def SharesTree (session : Session) (tree : TreeRef) : Prop :=
  ∃ handle, session.tree? tree = some handle ∧ handle.isValid session.link = true ∧
    1 < handle.refs

/-- A file that gets its handle on a valid tree is open once, and shares the tree. -/
theorem openOnce_adoptFile {path : String} {mode : OpenMode} {after : Session}
    (valid : session.isTreeValid tree = true)
    (adopted : session.adoptFile tree fid path mode = (.ok dir, after)) :
    after.OpenOnce dir tree fid ∧ after.SharesTree tree := by
  obtain ⟨handle, found, isValid⟩ := isTreeValid_iff.mp valid
  obtain ⟨_, rfl, log, rfl⟩ := adoptFile_ok adopted
  refine ⟨⟨_, Array.getElem?_push_size, rfl, rfl, rfl⟩, handle.shared, ?_, ?_, ?_⟩
  · simp only [tree?, Array.getElem?_modify, if_pos]
    exact congrArg (Option.map _) found
  · -- One more reference makes nothing invalid.
    simp only [Handle.isValid, Bool.and_eq_true] at isValid ⊢
    exact ⟨⟨isValid.1.1, decide_eq_true (Nat.succ_ne_zero handle.refs)⟩, isValid.2⟩
  · simp only [Handle.isValid, Bool.and_eq_true, decide_eq_true_eq, ne_eq] at isValid
    simp only [Handle.shared]
    omega

/-- Whoever forgets a file gives no reference back. -/
theorem openOnce_forgetFile (other : FileRef) (once : session.OpenOnce dir tree fid)
    (shares : session.SharesTree tree) :
    (session.forgetFile other).OpenOnce dir tree fid ∧
      (session.forgetFile other).SharesTree tree := by
  cases known : session.file? other with
  | none =>
    simp only [forgetFile, known]
    exact ⟨once, shares⟩
  | some forgotten =>
    obtain ⟨handle, found, held⟩ := once
    obtain ⟨owner, isTree, valid, shared⟩ := shares
    obtain ⟨log, outcome⟩ := forgetFile_eq known
    rw [outcome]
    constructor
    · by_cases same : other.index = dir.index
      · refine ⟨handle.forget, ?_, held⟩
        rw [file?] at found
        simp only [file?, Array.getElem?_modify, if_pos same, found, Option.map_some]
      · refine ⟨handle, ?_, held⟩
        rw [file?] at found
        simp only [file?, Array.getElem?_modify, if_neg same, found]
    · rw [tree?] at isTree
      -- The tree may be forgotten with the file, which is no matter of references either.
      split
      · by_cases same : forgotten.resource.tree.index = tree.index
        · refine ⟨owner.forget, ?_, valid, shared⟩
          simp only [tree?, Array.getElem?_modify, if_pos same, isTree, Option.map_some]
        · refine ⟨owner, ?_, valid, shared⟩
          simp only [tree?, Array.getElem?_modify, if_neg same, isTree]
      · exact ⟨owner, isTree, valid, shared⟩

/-- The last release of a file on a tree that is shared asks the server to close the file, and
nothing else, whatever the server says to that. -/
theorem OpenOnce.releaseFile (once : session.OpenOnce dir tree fid)
    (shares : session.SharesTree tree) :
    ∃ tid scratch answer, (session.releaseFile dir).2.passages.toList =
      session.passages.toList ++ exchanged ⟨some tid, .close fid, .cleanup, scratch⟩ answer := by
  obtain ⟨handle, found, last, rfl, rfl⟩ := once
  obtain ⟨owner, isTree, valid, shared⟩ := shares
  rcases releaseFile_cases found with ⟨none, _⟩ | ⟨_, log, outcome⟩ | ⟨more, _⟩
  · omega
  · obtain ⟨pool, server, later, fresh, asked, sent⟩ := closeOnServer_undergo handle.resource
      { session with log, files := session.files.modify dir.index Handle.released }
    rw [outcome, asked]
    -- The tree keeps a reference, so that it is not given back.
    have still : tree? (undergo { session with
        log, files := session.files.modify dir.index Handle.released } pool server later fresh)
          handle.resource.tree = some owner := isTree
    rcases releaseTree_cases still with ⟨none, _⟩ | ⟨only, _⟩ | ⟨_, released⟩
    · omega
    · omega
    · rw [released]
      rcases sent with ⟨_, scratch, answer, _, _, rfl⟩ | ⟨invalid, _⟩
      · exact ⟨_, scratch, answer, passages_undergo { session with
          log, files := session.files.modify dir.index Handle.released } pool server later _⟩
      · have isValid : session.isTreeValid handle.resource.tree = true :=
          isTreeValid_iff.mpr ⟨owner, isTree, valid⟩
        rw [show isTreeValid { session with
          log, files := session.files.modify dir.index Handle.released } handle.resource.tree =
            session.isTreeValid handle.resource.tree from rfl, isValid] at invalid
        simp at invalid
  · omega

end Session

namespace DirectoryListing

variable {session after : Session} {tree : TreeRef} {dir : FileRef} {fid : FileId}

/-- A listing that holds a directory open on a valid tree asks to close it when it is given back,
once, and holds nothing from then on; the tree is given back behind it if nobody else holds it. -/
theorem finish_openOnce {listing : DirectoryListing} (holds : listing.dir = some dir)
    (once : session.OpenOnce dir tree fid) (other : TreeRef) :
    (listing.finish other session).2.1.dir = none ∧
      ∃ answer closing behind, (listing.finish other session).2.2.passages.toList =
          session.passages.toList ++ closing ++ behind ∧
        session.AsksOnce tree (.close fid) .cleanup answer closing ∧
        ∀ sent ∈ requestsOf behind, sent.request = .treeDisconnect := by
  -- The reference of the listing is the last one, so its release asks to close the directory.
  obtain ⟨handle, found, last, rfl, rfl⟩ := once
  obtain ⟨_, closing, answer, behind, passed, asks, gives⟩ :=
    session.releasesFiles.last dir handle found last
  simp only [finish, releaseDir, holds]
  exact ⟨trivial, answer, closing, behind, by rw [Session.passages_forgetFile, passed], asks,
    gives⟩

/-- What comes of the first answer about a directory that the listing holds. -/
theorem firstOrRelease_openOnce {listing : DirectoryListing} (holds : listing.dir = some dir)
    (once : session.OpenOnce dir tree fid) (shares : session.SharesTree tree)
    (reply : Option (ChainedReply Response)) (other : DirectoryListing) (there : Session) :
    (listing.firstOrRelease reply session).1 = (other.firstPage reply there).1 ∧
      match listing.firstOrRelease reply session with
      | (.ok _, kept, later) =>
        kept.dir = some dir ∧ later.passages = session.passages ∧ later.OpenOnce dir tree fid
      | (.error _, kept, later) =>
        kept.dir = none ∧ ∃ tid scratch answer, later.passages.toList = session.passages.toList ++
          exchanged ⟨some tid, .close fid, .cleanup, scratch⟩ answer := by
  obtain ⟨sameResult, sameDir, log, noted⟩ := listing.firstPage_eq other reply session there
  unfold firstOrRelease
  rcases read : listing.firstPage reply session with ⟨fault | found, first, later⟩ <;>
    rw [read] at sameResult sameDir noted <;> simp only at sameResult sameDir noted ⊢ <;>
    subst noted
  · -- The directory is given back, and the failure of the query is the one to report.
    have stillOnce : Session.OpenOnce { session with log } dir tree fid := once
    obtain ⟨tid, scratch, answer, asked⟩ := stillOnce.releaseFile shares
    have gave : (first.releaseDir { session with log }).2.1.dir = none ∧
        (first.releaseDir { session with log }).2.2.passages =
          ({ session with log }.releaseFile dir).2.passages := by
      simp only [releaseDir, sameDir.trans holds]
      exact ⟨trivial, Session.passages_forgetFile _ dir⟩
    rw [← gave.2] at asked
    rcases released : first.releaseDir { session with log } with ⟨closing | _, kept, behind⟩ <;>
      rw [released] at gave asked
    · exact ⟨sameResult, gave.1, tid, scratch, answer, asked⟩
    · exact ⟨sameResult, gave.1, tid, scratch, answer, asked⟩
  · exact ⟨sameResult, sameDir.trans holds, rfl, once⟩

/-- Holding a directory forgets the one that was held before. -/
theorem hold_openOnce (listing : DirectoryListing) (once : session.OpenOnce dir tree fid)
    (shares : session.SharesTree tree) :
    (listing.hold dir session).1.dir = some dir ∧
      (listing.hold dir session).2.OpenOnce dir tree fid ∧
      (listing.hold dir session).2.SharesTree tree := by
  unfold hold
  -- To forget another file does not touch the reference to this one.
  cases listing.dir with
  | none => exact ⟨rfl, once, shares⟩
  | some old => exact ⟨rfl, Session.openOnce_forgetFile old once shares⟩

/--
What becomes of a directory that the server opens for a listing, whatever it says behind that.

If the opening is taken for a success, the answer to the query decides what the listing comes to,
and whatever closing the directory comes to changes nothing of it. Either the listing begins and
holds the directory with its only reference: nothing more was asked, and whenever the listing is
given back while it is so, the server is asked once to close the directory if its tree is valid, and
the listing holds nothing from then on. Or the listing fails and holds nothing: behind the opening the
server was asked once to close the directory, and nothing else.

But success is what lies in the first quarter of the codes only. Any other opening is taken for a
failure, and nobody holds the directory that came with it.
-/
theorem start_created {listing : DirectoryListing} {opened : ChainedReply Response}
    {rest : List (ChainedReply Response)} {file : Created}
    (answered : session.send tree
      (.chain [.create (OpenMode.directory.toCreate listing.path), listing.query session 0 0])
      .plain = (.ok (.chain (opened :: rest)), after))
    (created : opened.response = some (.create file)) :
    if opened.status.isSuccess then
      (listing.start tree session).1 = (listing.firstPage rest.head? after).1 ∧
      match listing.start tree session with
      | (.ok _, kept, later) => ∃ dir,
        kept.dir = some dir ∧ later.passages = after.passages ∧ later.OpenOnce dir tree file.fid ∧
        ∀ (used : DirectoryListing) (moment : Session) (other : TreeRef),
          used.dir = some dir → moment.OpenOnce dir tree file.fid →
          (used.finish other moment).2.1.dir = none ∧
            ∃ answer closing behind, (used.finish other moment).2.2.passages.toList =
                moment.passages.toList ++ closing ++ behind ∧
              moment.AsksOnce tree (.close file.fid) .cleanup answer closing ∧
              ∀ sent ∈ requestsOf behind, sent.request = .treeDisconnect
      | (.error _, kept, later) =>
        kept.dir = none ∧ ∃ tid scratch answer, later.passages.toList = after.passages.toList ++
          exchanged ⟨some tid, .close file.fid, .cleanup, scratch⟩ answer
    else listing.start tree session = (.error (.status opened.status), listing, after) := by
  by_cases success : opened.status.isSuccess = true
  · rw [if_pos success]
    -- A request is only answered on a valid tree, and a valid tree takes a file.
    have valid := (Session.isTreeValid_of_answered answered).2
    obtain ⟨dir, adopted, taken⟩ :=
      Session.exists_adoptFile_of_valid valid file.fid listing.path .directory
    obtain ⟨once, shares⟩ := Session.openOnce_adoptFile valid taken
    obtain ⟨holds, onceHeld, sharesHeld⟩ := listing.hold_openOnce once shares
    have samePassages : (listing.hold dir adopted).2.passages = after.passages := by
      have sameAdopted := after.passages_adoptFile tree file.fid listing.path .directory
      rw [taken] at sameAdopted
      rw [listing.passages_hold dir adopted, sameAdopted]
    obtain ⟨sameResult, came⟩ :=
      firstOrRelease_openOnce holds onceHeld sharesHeld rest.head? listing after
    have started : listing.start tree session =
        (listing.hold dir adopted).1.firstOrRelease rest.head? (listing.hold dir adopted).2 := by
      simp only [start, answered, success, Bool.not_true, Bool.false_eq_true, if_false, created,
        taken]
    rw [started]
    rw [← samePassages]
    refine ⟨sameResult, ?_⟩
    split <;> rename_i outcome <;> rw [outcome] at came
    · exact ⟨dir, came.1, came.2.1, came.2.2, fun used moment other isDir here =>
        finish_openOnce isDir here other⟩
    · exact came
  · rw [if_neg success]
    simp only [start, answered, Bool.not_eq_true] at success ⊢
    simp [success]

/-- The query is refused, and so is the closing: the refusal of the query is told, and the directory
was asked to be closed once. -/
theorem start_created_refused :
    let replies : List (ChainedReply Response) :=
      [⟨.success, some (.create { fid := .legacy 9 })⟩, ⟨.accessDenied, none⟩]
    let script : List Exchange := [⟨"chain", .ok (.chain replies)⟩, ⟨"close", .io "broken pipe"⟩]
    let server : Playback := .ofTranscript { dialect := .smb2, exchanges := script }
    let session := (Session.new { maxBufferSize := 1 } server "\\\\srv\\data" "").acquire.2
    let listing : DirectoryListing :=
      { path := "docs", pattern := "*", outputBufferLength := 4096 }
    ∃ after : Session,
      session.send ⟨0⟩ (.chain [.create (OpenMode.directory.toCreate listing.path),
        listing.query session 0 0]) .plain = (.ok (.chain replies), after) ∧
      (listing.start ⟨0⟩ session).1 = .error (.status .accessDenied) ∧
      (listing.start ⟨0⟩ session).2.1.dir = none ∧
      ∃ tid scratch answer, (listing.start ⟨0⟩ session).2.2.passages.toList =
        after.passages.toList ++
          exchanged ⟨some tid, .close (.legacy 9), .cleanup, scratch⟩ answer := by
  intro replies script server session listing
  have answered : session.send ⟨0⟩ (.chain [.create (OpenMode.directory.toCreate listing.path),
      listing.query session 0 0]) .plain = (.ok (.chain replies), _) := Prod.ext rfl rfl
  -- The second reply is that of the query, and it says no more than its status.
  have refused (there : Session) : (listing.firstPage (replies.tail).head? there).1 =
      .error (.status .accessDenied) := rfl
  have came := start_created answered rfl
  rw [if_pos (by decide)] at came
  obtain ⟨result, came⟩ := came
  replace result := result.trans (refused _)
  refine ⟨_, answered, ?_⟩
  generalize listing.start ⟨0⟩ session = outcome at result came ⊢
  obtain ⟨_ | _, kept, later⟩ := outcome
  · exact ⟨result, came⟩
  · simp at result

/-- A directory that comes with an answer of informational severity is left open, and the listing
fails with that answer. -/
theorem start_informational :
    let opened : ChainedReply Response := ⟨⟨0x40000000⟩, some (.create { fid := .legacy 9 })⟩
    let script : List Exchange :=
      [⟨"chain", .ok (.chain [opened, ⟨.accessDenied, none⟩])⟩, ⟨"close", .ok .empty⟩]
    let session := Session.new {} (.ofTranscript { dialect := .smb2, exchanges := script })
      "\\\\srv\\data" ""
    let listed := session.list (.path "srv" "data" "docs/") {}
    opened.status.code < 0x80000000 ∧
      (listed.1.map fun _ => ()) = .error (.status opened.status) ∧
      listed.2.server.sentKinds = ["tree_connect", "chain", "tree_disconnect"] := by
  -- All of it is fixed by the script, so it is run.
  decide +kernel

end DirectoryListing

end SmbBrowser
