import SmbBrowser.Proofs.Cursor.Residence
import SmbBrowser.Proofs.Listing.Likeness
import SmbBrowser.Proofs.Session.Closing

/-!
Grounded files: file handles that were made in the generation of the tree they stand on. While such
a handle is valid its tree is, so that its last release is heard by the server. A handle that is made
while its tree is valid is grounded, and no listing makes any other.
-/

namespace SmbBrowser

/-- A file handle that was made in the generation of its tree. -/
def Handle.Grounded (handle : Handle OpenFile) : Prop :=
  handle.generation = some (handle.resource.tree.index + 1)

/-- With time a handle neither gains nor loses its ground. -/
theorem Handle.Aged.grounded_iff {handle later : Handle OpenFile} (aged : handle.Aged later) :
    later.Grounded ↔ handle.Grounded := by
  -- The tree of the file and the generation are both captured.
  simp only [Handle.Grounded, aged.resource, aged.generation]

namespace Session

/-- What happened to a session, and made no file handles but grounded ones. -/
structure Grounds (before after : Session) : Prop where
  /-- Time has passed. -/
  aged : before.Aged after
  /-- The session is as ranked as before. -/
  ranked : Ranked before → Ranked after
  /-- What has passed before is not undone. -/
  leads : before.LeadsTo after
  /-- Every file behind those that were there is grounded. -/
  files : Ranked before → ∀ place handle, before.files.size ≤ place →
    after.files[place]? = some handle → handle.Grounded

namespace Grounds

variable {start session after : Session}

/-- A session in which nothing happened made no file. -/
theorem refl (session : Session) : session.Grounds session where
  aged := .refl session
  ranked := id
  leads := .refl session
  -- Behind the end of the table there is no handle.
  files _ place handle beyond found := by
    have within := (Array.getElem?_eq_some_iff.mp found).1
    omega

/-- What grounds its files twice grounds all of them. -/
theorem trans (first : start.Grounds session) (second : session.Grounds after) :
    start.Grounds after where
  aged := first.aged.trans second.aged
  ranked := second.ranked ∘ first.ranked
  leads := first.leads.trans second.leads
  files ranked place handle beyond found := by
    by_cases here : place < session.files.size
    · -- The handle was there in between, and was grounded then.
      have isThere := Array.getElem?_eq_getElem here
      obtain ⟨later, isLater, aged⟩ := second.aged.files place _ isThere
      obtain rfl := Option.some.inj (isLater.symm.trans found)
      exact aged.grounded_iff.mpr (first.files ranked place _ beyond isThere)
    · exact second.files (first.ranked ranked) place handle (by omega) found

/-- What makes no file grounds whatever there is. -/
theorem of_strokes {licence : Licence} (strokes : Strokes licence session after)
    (same : after.files.size = session.files.size) : session.Grounds after where
  aged := strokes.aged
  ranked := strokes.keeps Stroke.ranked
  leads := strokes.leadsTo
  -- The table is as long as before, so no handle stands behind its old end.
  files _ place handle beyond found := by
    have within := (Array.getElem?_eq_some_iff.mp found).1
    omega

/-- What happens next makes no file. -/
theorem next (grounds : start.Grounds session) (strokes : Strokes .fair session after)
    (same : after.files.size = session.files.size) : start.Grounds after :=
  -- What was made before stays grounded, and nothing is made now.
  grounds.trans (.of_strokes strokes same)

section

variable (grounds : start.Grounds session)

include grounds

/-- Writing something down makes no file. -/
theorem write (log : Array Event) (hooks : Array HookCall) (script : List Exchange) :
    start.Grounds { session with log, hooks, server := { session.server with script } } :=
  -- The table of files is not written to.
  grounds.next (.single (.write log hooks script)) rfl

/-- Writing an event down makes no file. -/
theorem note (event : Event) : start.Grounds (session.note event) :=
  -- Hooks and script are written over with what they are.
  grounds.write (session.log.push event) session.hooks session.server.script

/-- Writing down what came of something makes no file. -/
theorem noteFailure (event : Fault → Event) (result : Except Fault Unit) :
    start.Grounds (session.noteFailure event result) := by
  -- Only a failure is written down.
  cases result with
  | ok _ => exact grounds
  | error fault => exact grounds.note (event fault)

/-- Losing the connection makes no file. -/
theorem invalidate : start.Grounds session.invalidate :=
  -- It is one stroke, and leaves the table of files alone.
  grounds.next (.single (.lose)) (by rw [(session.tables_invalidate).2])

/-- Sending a request makes no file, whatever is asked. -/
theorem send (tree : TreeRef) (request : Request) (delivery : Delivery) :
    start.Grounds (session.send tree request delivery).2 := by
  -- Here every request is licensed.
  have licensed : Licence.fair.Allows request := ⟨fun _ => trivial, fun _ => trivial⟩
  exact grounds.next (session.send_strokes tree licensed delivery)
    (by rw [(session.tables_send tree request delivery).2])

/-- Sharing a tree makes no file. -/
theorem acquireTree (tree : TreeRef) : start.Grounds (session.acquireTree tree).2 := by
  -- A refusal changes nothing, and a share is a recount.
  rcases taken : session.acquireTree tree with ⟨fault | _, after⟩
  · rw [acquireTree_refused taken]
    exact grounds
  · obtain ⟨⟨handle, found, isOpen⟩, rfl⟩ := acquireTree_ok taken
    exact grounds.next (share_strokes found isOpen) rfl

/-- Releasing a tree makes no file. -/
theorem releaseTree (tree : TreeRef) : start.Grounds (session.releaseTree tree).2 :=
  -- The last release may ask the server, which leaves the table of files alone.
  grounds.next (session.releaseTree_strokes tree)
    (by rw [(session.tables_releaseTree tree).2])

/-- One more place that knows a tree makes no file. -/
theorem keepTree (tree : TreeRef) : start.Grounds (session.keepTree tree) :=
  -- Only the tree is counted anew.
  grounds.next (session.keepTree_strokes tree) (by rw [keepTree_eq])

/-- Forgetting a tree makes no file. -/
theorem forgetTree (tree : TreeRef) : start.Grounds (session.forgetTree tree) := by
  -- Only the tree is counted anew, and the log may be written to.
  obtain ⟨log, forgotten⟩ := session.forgetTree_eq tree
  exact grounds.next (session.forgetTree_strokes tree) (by rw [forgotten])

/-- Acquiring a tree makes no file. -/
theorem acquire : start.Grounds session.acquire.2 := by
  refine grounds.next (session.acquire_strokes) ?_
  -- A tree may be made, and no file is.
  rcases acquired : session.acquire with ⟨fault | tree, after⟩
  · rw [(tables_refused acquired).2]
  · rw [(tables_acquire acquired).1]

/-- A tree may be closed behind its handle's back. -/
theorem disconnect {tree : TreeRef} {handle : Handle ConnectedTree}
    (found : session.tree? tree = some handle) :
    start.Grounds (Session.disconnect handle.resource session).2 :=
  -- Closing behind a handle's back is a stroke that is licensed here.
  grounds.next (.single (.bypass trivial found)) (by rw [files_disconnect])

/-- Releasing a file makes no file. -/
theorem releaseFile (file : FileRef) : start.Grounds (session.releaseFile file).2 := by
  refine grounds.next (session.releaseFile_strokes file) ?_
  -- The released handle stays at its place.
  cases found : session.file? file with
  | none => simp [Session.releaseFile, found]
  | some handle => rw [(tables_releaseFile found).1, Array.size_modify]

/-- Forgetting a file makes no file. -/
theorem forgetFile (file : FileRef) : start.Grounds (session.forgetFile file) := by
  refine grounds.next (Deal.forgetFile file : Deal .fair (_, _ ::ₘ 0) _).strokes ?_
  -- The forgotten handle stays at its place.
  cases found : session.file? file with
  | none => simp [Session.forgetFile, found]
  | some handle =>
    obtain ⟨log, forgotten⟩ := forgetFile_eq found
    rw [forgotten, Array.size_modify]

/-- Sharing a file makes no file. -/
theorem acquireFile (file : FileRef) : start.Grounds (session.acquireFile file).2 := by
  rcases taken : session.acquireFile file with ⟨fault | _, after⟩
  · rw [acquireFile_refused taken]
    exact grounds
  · have known : Stake.file file ∈ ({.file file} : Multiset Stake) := Multiset.mem_singleton_self _
    refine grounds.next (Deal.shareFile known taken : Deal .fair _ _).strokes ?_
    -- Sharing puts the counted handle in the place of the old one.
    unfold Session.acquireFile at taken
    split at taken
    · simp at taken
    · split at taken
      · simp at taken
      · obtain rfl := congrArg Prod.snd taken
        exact Array.size_setIfInBounds

/-- A file that gets its handle while the tree is valid is grounded. -/
theorem adoptFile {tree : TreeRef} (valid : session.isTreeValid tree = true) (fid : FileId)
    (path : String) (mode : OpenMode) :
    start.Grounds (session.adoptFile tree fid path mode).2 := by
  rcases adopted : session.adoptFile tree fid path mode with ⟨fault | file, after⟩
  · rw [adoptFile_refused adopted]
    exact grounds
  · have known : Stake.tree tree ∈ ({.tree tree} : Multiset Stake) := Multiset.mem_singleton_self _
    have strokes := (Deal.adopt known adopted : Deal .fair _ _).strokes
    refine grounds.trans ⟨strokes.aged, strokes.keeps Stroke.ranked, strokes.leadsTo, ?_⟩
    intro ranked place handle beyond found
    obtain ⟨_, _, log, rfl⟩ := adoptFile_ok adopted
    -- The handle is the new one, of the generation that there is.
    have within := (Array.getElem?_eq_some_iff.mp found).1
    rw [Array.size_push] at within
    obtain rfl : place = session.files.size := by omega
    rw [Array.getElem?_push_size, Option.some.injEq] at found
    rw [← found]
    exact congrArg some (ranked.of_isTreeValid valid).2.1.symm

/-- So is a file that was opened. -/
theorem openFile (tree : TreeRef) (path : String) (mode : OpenMode) :
    start.Grounds (session.openFile tree path mode).2 := by
  have sent := grounds.send tree (.create (mode.toCreate path)) .plain
  unfold Session.openFile
  split <;> rename_i answered <;> rw [answered] at sent
  · exact sent
  · -- An answer only comes on a valid tree.
    exact sent.adoptFile (isTreeValid_of_answered answered).2 _ path mode
  · exact sent

end

end Grounds

/-- No listing can tell a session from itself, and what it makes on the way is grounded. -/
theorem grounds_likeness (start : Session) (tree : TreeRef) :
    Likeness tree fun _ one other => one = other ∧ start.Grounds one where
  -- The session is compared with itself, so each clause is what one use of it grounds.
  files := by
    rintro _ one _ ⟨rfl, _⟩
    rfl
  loosen := id
  ask := by
    rintro _ one _ ⟨rfl, grounds⟩ request _ delivery
    exact ⟨rfl, rfl, grounds.send tree request delivery⟩
  giveBack := by
    rintro _ one _ ⟨rfl, grounds⟩ request _ delivery
    exact ⟨rfl, rfl, grounds.send tree request delivery⟩
  noteAll := by
    rintro _ one _ ⟨rfl, grounds⟩ events
    exact ⟨rfl, grounds.write _ one.hooks one.server.script⟩
  noteHook := by
    rintro _ one _ ⟨rfl, grounds⟩ label hook
    exact ⟨rfl, grounds.write one.log _ one.server.script⟩
  adopt := by
    rintro one _ ⟨rfl, grounds⟩ valid fid path mode
    exact ⟨rfl, fun _ _ => ⟨rfl, grounds.adoptFile valid fid path mode⟩⟩
  release := by
    rintro dir one _ ⟨rfl, grounds⟩
    exact ⟨rfl, rfl, (grounds.releaseFile dir).forgetFile dir⟩
  forget := by
    rintro _ one _ ⟨rfl, grounds⟩ file
    exact ⟨rfl, grounds.forgetFile file⟩

/-- A session without one of the references to a file. -/
def releasedOnce (file : FileRef) (session : Session) : Session := (session.releaseFile file).2

/-- Of the releases that a file is still to see only the last asks for something, and that is to
close the file on its tree; behind it there comes at most the giving back of the tree. -/
structure ClosesFinally (session : Session) (file : FileRef) (handle : Handle OpenFile) : Prop where
  /-- The releases before the last ask nothing. -/
  quiet : ∀ releases < handle.refs,
    ((releasedOnce file)^[releases] session).passages = session.passages
  /-- The last release asks to close the file. -/
  closes : ∃ owner scratch answer behind, session.tree? handle.resource.tree = some owner ∧
    ((releasedOnce file)^[handle.refs] session).passages.toList = session.passages.toList ++
      exchanged ⟨some owner.resource.tid, .close handle.resource.fid, .cleanup, scratch⟩ answer ++
      behind ∧
    ∀ sent ∈ requestsOf behind, sent.request = .treeDisconnect

/-- A file on a valid tree is closed by its last release. -/
theorem closesFinally {session : Session} {file : FileRef} {handle : Handle OpenFile}
    (found : session.file? file = some handle) (held : handle.refs ≠ 0)
    (valid : session.isTreeValid handle.resource.tree = true) :
    session.ClosesFinally file handle := by
  obtain ⟨others, refs⟩ := Nat.exists_eq_succ_of_ne_zero held
  clear held
  -- The induction is on the releases before the last.
  induction others generalizing session handle with
  | zero =>
    obtain ⟨_, closing, answer, behind, passed, asks, gives⟩ :=
      session.releasesFiles.last file handle found refs
    rcases asks with ⟨_, owner, scratch, isOwner, rfl⟩ | ⟨invalid, _⟩
    · refine ⟨fun releases before => ?_, owner, scratch, answer, behind, isOwner, ?_, gives⟩
      · obtain rfl : releases = 0 := by omega
        rfl
      · rw [refs]
        exact passed
    · -- On a valid tree the server is asked.
      rw [valid] at invalid
      exact absurd invalid (by decide)
  | succ others ih =>
    -- A release before the last one only counts.
    have counted : releasedOnce file session =
        { session with files := session.files.modify file.index Handle.released } := by
      rcases releaseFile_cases found with ⟨unheld, _⟩ | ⟨last, _⟩ | ⟨_, outcome⟩
      · omega
      · omega
      · rw [releasedOnce, outcome]
    have still : (releasedOnce file session).file? file = some handle.released := by
      rw [counted, file?, Array.getElem?_modify, if_pos rfl]
      exact congrArg (Option.map Handle.released) found
    have fewer : handle.released.refs = others + 1 := by
      simp only [Handle.released]
      omega
    obtain ⟨quiet, owner, scratch, answer, behind, isOwner, passed, gives⟩ :=
      ih still (by rw [counted]; exact valid) fewer
    have passages : (releasedOnce file session).passages = session.passages := by rw [counted]
    -- The releases behind the first are those of the session that it leaves.
    rw [fewer, passages, ← Function.iterate_succ_apply, ← Nat.succ_eq_add_one, ← refs] at passed
    refine ⟨fun releases before => ?_, owner, scratch, answer, behind, ?_, passed, gives⟩
    · cases releases with
      | zero => rfl
      | succ releases =>
        rw [Function.iterate_succ_apply, quiet releases (by omega), passages]
    · rw [counted] at isOwner
      exact isOwner

/-- A file on a tree that is not valid is not closed by its last release. -/
theorem not_closesFinally {session : Session} {file : FileRef} {handle : Handle OpenFile}
    (found : session.file? file = some handle) (last : handle.refs = 1)
    (invalid : session.isTreeValid handle.resource.tree = false) :
    ¬ session.ClosesFinally file handle := by
  rintro ⟨_, owner, scratch, answer, further, _, closed, _⟩
  obtain ⟨_, closing, _, behind, passed, asks, gives⟩ :=
    session.releasesFiles.last file handle found last
  rcases asks with ⟨valid, _⟩ | ⟨_, nothing, _⟩
  · rw [valid] at invalid
    exact absurd invalid (by decide)
  · rw [last, Function.iterate_one, releasedOnce, passed, nothing, List.append_nil,
      List.append_assoc, List.append_cancel_left_eq] at closed
    -- The request to close the file would be one to give the tree back.
    have asked := asked_mem_exchanged
      ⟨some owner.resource.tid, .close handle.resource.fid, .cleanup, scratch⟩ answer
    have among := List.mem_append_left further asked
    rw [← closed] at among
    exact absurd (gives _ (List.mem_filterMap.mpr ⟨_, among, rfl⟩)) (by simp)

end Session

/-- A valid file that is grounded stands on a valid tree. -/
theorem Ranked.isTreeValid_of_grounded {session : Session} (ranked : Ranked session)
    {handle : Handle OpenFile} (valid : handle.isValid session.link = true)
    (grounded : handle.Grounded) : session.isTreeValid handle.resource.tree = true := by
  unfold Handle.Grounded at grounded
  simp only [Handle.isValid, grounded, Session.link, Option.any_some, Bool.and_eq_true,
    decide_eq_true_eq] at valid
  obtain ⟨_, last, connected⟩ := valid
  -- On a usable connection the tree of the last generation is open.
  obtain ⟨place, there, isLast, isThere, isOpen, _⟩ := ranked.usable connected
  obtain rfl : place = handle.resource.tree.index := by omega
  have settled := ranked.settledTrees _ there isThere
  have held : there.refs ≠ 0 := fun unheld => by simp [settled.mpr unheld] at isOpen
  refine Session.isTreeValid_iff.mpr ⟨there, isThere, ?_⟩
  have generation := (ranked.trees _ there isThere).1
  simp [Handle.isValid, Session.link, isOpen, held, generation, last, connected]

end SmbBrowser
