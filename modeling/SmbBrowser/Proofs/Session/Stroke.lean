import SmbBrowser.Proofs.Session.Passages
import SmbBrowser.Proofs.Session.References

/-!
Strokes: the smallest things that happen to a session. Every use of a session is a chain of strokes,
so what each stroke keeps holds at every moment, between two requests of one use too.
-/

namespace SmbBrowser

/-- A handle that is counted anew, and neither opened nor closed by that. -/
structure Handle.Recounted {Resource : Type} (before after : Handle Resource) : Prop where
  resource : after.resource = before.resource
  generation : after.generation = before.generation
  closed : after.closed = before.closed
  settled : before.Settled → after.Settled

namespace Handle

variable {Resource : Type} {handle : Handle Resource}

/-- Sharing an open handle only counts. -/
theorem recounted_shared (isOpen : handle.closed = false) : handle.Recounted handle.shared :=
  -- Only an open handle is shared, so the count stays settled.
  ⟨rfl, rfl, rfl, fun _ => settled_shared isOpen⟩

/-- A handle is neither opened nor closed by another place that knows it. -/
theorem recounted_keep (handle : Handle Resource) : handle.Recounted handle.keep :=
  -- The places that know a handle are counted apart from its references.
  ⟨rfl, rfl, rfl, id⟩

/-- Nor by a place that forgets it. -/
theorem recounted_forget (handle : Handle Resource) : handle.Recounted handle.forget :=
  -- Forgetting, too, leaves the references alone.
  ⟨rfl, rfl, rfl, id⟩

/-- A handle that nothing happens to is counted as before. -/
theorem recounted_refl (handle : Handle Resource) : handle.Recounted handle :=
  -- All of it is the same.
  ⟨rfl, rfl, rfl, id⟩

/-- A release that is not the last one only counts. -/
theorem recounted_released (others : handle.refs ≠ 1) : handle.Recounted handle.released := by
  -- Only the release of the last reference would close the handle.
  refine ⟨rfl, rfl, ?_, settled_released⟩
  simp [released, others]

end Handle

namespace Session

/-- A request is sent on a tree that is valid, or else nothing happens. -/
theorem send_cases (session : Session) (tree : TreeRef) (request : Request) (delivery : Delivery) :
    (∃ handle, session.tree? tree = some handle ∧ handle.isValid session.link = true ∧
        session.send tree request delivery =
          session.exchange (some handle.resource.tid) request delivery) ∨
      (session.isTreeValid tree = false ∧
        ∃ fault, session.send tree request delivery = (.error fault, session)) := by
  unfold send isTreeValid
  cases found : session.tree? tree with
  | none => exact .inr ⟨rfl, _, rfl⟩
  | some handle =>
    simp only [Option.any_some, Handle.ensureValid]
    -- The handle refuses when it is closed, and when it is not valid otherwise.
    by_cases shut : handle.closed = true
    · rw [if_pos shut]
      exact .inr ⟨by simp [Handle.isValid, shut], _, rfl⟩
    · rw [if_neg shut]
      by_cases valid : handle.isValid session.link = true
      · rw [if_pos valid]
        exact .inl ⟨handle, rfl, valid, rfl⟩
      · rw [if_neg valid]
        exact .inr ⟨by simpa using valid, _, rfl⟩

/-- The server is asked to close a file while the tree of the file is valid, and not otherwise. -/
def closeOnServer (session : Session) (file : OpenFile) : Session :=
  if session.isTreeValid file.tree then
    (session.send file.tree (.close file.fid) .cleanup).2
  else session.note (.fileGone file.path file.fid)

/-- Behind the request the file gives its reference to the tree back. -/
theorem closeFile_eq (file : OpenFile) (session : Session) :
    (closeFile file session).2 = ((session.closeOnServer file).releaseTree file.tree).2 := by
  unfold closeFile closeOnServer
  simp only
  -- The request is sent or not, and the tree is released behind it in both cases.
  split <;> rfl

/-- What is asked is the closing of the file on its tree. -/
theorem closeOnServer_undergo (file : OpenFile) (session : Session) :
    ∃ pool server log fresh,
      session.closeOnServer file = session.undergo pool server log fresh ∧
      ((∃ owner scratch answer, session.tree? file.tree = some owner ∧
          owner.isValid session.link = true ∧ fresh =
            exchanged ⟨some owner.resource.tid, .close file.fid, .cleanup, scratch⟩ answer) ∨
        session.isTreeValid file.tree = false ∧ fresh = []) := by
  unfold closeOnServer
  -- A request that can be sent is an exchange, and the other case is only logged.
  rcases session.send_cases file.tree (.close file.fid) .cleanup with
    ⟨owner, found, valid, sent⟩ | ⟨invalid, _⟩
  · obtain ⟨pool, server, log, scratch, asked⟩ :=
      session.exchange_undergo (some owner.resource.tid) (.close file.fid) .cleanup
    have isValid : session.isTreeValid file.tree = true := by simp [isTreeValid, found, valid]
    rw [if_pos isValid, sent]
    exact ⟨pool, server, log, _, asked, .inl ⟨owner, scratch, _, found, valid, rfl⟩⟩
  · rw [if_neg (by simp [invalid])]
    refine ⟨session.pool, session.server, session.log.push (.fileGone file.path file.fid), [], ?_,
      .inr ⟨invalid, rfl⟩⟩
    simp [undergo, lossesIn, note]

end Session

/-- One thing that happens to a session. -/
inductive Stroke (licence : Licence) : Session → Session → Prop where
  /-- Something is written down, or laid down for the server to say. -/
  | write {session} (log : Array Event) (hooks : Array HookCall) (script : List Exchange) :
    Stroke licence session
      { session with log, hooks, server := { session.server with script } }
  /-- The connection is given up for lost. -/
  | lose {session} : Stroke licence session session.invalidate
  /-- The server is asked for a tree while no tree can be shared. -/
  | connect {session} (alone : session.reusable? = none) : Stroke licence session session.connect.2
  /-- A request is sent on a valid tree. -/
  | ask {session tree handle} (request : Request) (delivery : Delivery)
    (licensed : licence.Allows request) (found : session.tree? tree = some handle)
    (valid : handle.isValid session.link = true) :
    Stroke licence session (session.exchange (some handle.resource.tid) request delivery).2
  /-- A tree is counted anew. -/
  | recountTree {session tree handle} (change : Handle ConnectedTree → Handle ConnectedTree)
    (found : session.tree? tree = some handle) (recounted : handle.Recounted (change handle)) :
    Stroke licence session { session with trees := session.trees.modify tree.index change }
  /-- The last reference to a tree is given back. -/
  | closeTree {session tree handle} (found : session.tree? tree = some handle)
    (last : handle.refs = 1) :
    Stroke licence session (Session.disconnect handle.resource
      { session with trees := session.trees.modify tree.index Handle.released }).2
  /-- A tree is closed behind its handle's back. -/
  | bypass {session tree handle} (licensed : licence.closeTree)
    (found : session.tree? tree = some handle) :
    Stroke licence session (Session.disconnect handle.resource session).2
  /-- A file is counted anew. -/
  | recountFile {session file handle} (change : Handle OpenFile → Handle OpenFile)
    (found : session.file? file = some handle) (recounted : handle.Recounted (change handle)) :
    Stroke licence session { session with files := session.files.modify file.index change }
  /-- A file that the server has opened gets a handle. -/
  | makeFile {session} (file : OpenFile) (traced : Bool) :
    Stroke licence session { session with
      files := session.files.push
        { resource := file, generation := some session.generation, traced } }
  /-- The last reference to a file is given back. -/
  | closeFile {session file handle} (found : session.file? file = some handle)
    (last : handle.refs = 1) :
    Stroke licence session (Session.closeOnServer
      { session with files := session.files.modify file.index Handle.released } handle.resource)

/-- A chain of strokes. -/
abbrev Strokes (licence : Licence) : Session → Session → Prop :=
  Relation.ReflTransGen (Stroke licence)

/-- What every stroke keeps is kept by every chain of strokes. -/
theorem Strokes.keeps {licence : Licence} {Kept : Session → Prop}
    (step : ∀ {before after}, Stroke licence before after → Kept before → Kept after)
    {before after : Session} (strokes : Strokes licence before after) (kept : Kept before) :
    Kept after := by
  -- The chain ends with a stroke, and what came before it has kept the property by then.
  induction strokes with
  | refl => exact kept
  | tail _ stroke ih => exact step stroke ih

/-- What happens with some licence may happen with the licence to do anything. -/
theorem Stroke.anything {licence : Licence} {before after : Session}
    (stroke : Stroke licence before after) : Stroke .anything before after := by
  -- A licence is only looked at where a request is sent and where a tree is closed.
  cases stroke with
  | write log hooks script => exact .write log hooks script
  | lose => exact .lose
  | connect alone => exact .connect alone
  | ask request delivery licensed found valid =>
    exact .ask request delivery ⟨fun _ => trivial, fun _ => trivial⟩ found valid
  | recountTree change found recounted => exact .recountTree change found recounted
  | closeTree found last => exact .closeTree found last
  | bypass licensed found => exact .bypass trivial found
  | recountFile change found recounted => exact .recountFile change found recounted
  | makeFile file traced => exact .makeFile file traced
  | closeFile found last => exact .closeFile found last

section Once

variable {licence : Licence} {Thing : Type} {sort : Request → Bool} {Gone : Session → Thing → Prop}
  {GoneBy : Session → Thing → SentRequest → Prop} {before middle after : Session}

/-- Each request of a sort that was sent on the way was sent for a thing of its own, which was not
gone before and is gone now by that request. -/
def Session.EachOnce (sort : Request → Bool) (Gone : Session → Thing → Prop)
    (GoneBy : Session → Thing → SentRequest → Prop) (before after : Session) : Prop :=
  ∃ (fresh : List Passage) (asked : List (Thing × SentRequest)),
    after.passages.toList = before.passages.toList ++ fresh ∧
    asked.map Prod.snd = (requestsOf fresh).filter (sort ·.request) ∧
    (asked.map Prod.fst).Nodup ∧
    ∀ thing sent, (thing, sent) ∈ asked → ¬ Gone before thing ∧ GoneBy after thing sent

/-- What is asked for once on the way, and for once behind that, is asked for once in all, if what is
gone stays gone. -/
theorem Session.EachOnce.trans (first : EachOnce sort Gone GoneBy before middle)
    (second : EachOnce sort Gone GoneBy middle after)
    (gone : ∀ thing sent, GoneBy middle thing sent → Gone middle thing)
    (stays : ∀ thing, Gone before thing → Gone middle thing)
    (still : ∀ thing sent, GoneBy middle thing sent → GoneBy after thing sent) :
    EachOnce sort Gone GoneBy before after := by
  obtain ⟨early, asked, passed, requests, once, each⟩ := first
  obtain ⟨late, asks, further, sent, single, behind⟩ := second
  -- What was asked for before is gone by then, so that it is not asked for behind that.
  have distinct : ∀ thing ∈ asked.map Prod.fst, thing ∉ asks.map Prod.fst := by
    intro thing isAsked isAskedAgain
    obtain ⟨⟨_, request⟩, wasAsked, rfl⟩ := List.mem_map.mp isAsked
    obtain ⟨⟨_, again⟩, nowAsked, rfl⟩ := List.mem_map.mp isAskedAgain
    exact (behind _ again nowAsked).1 (gone _ request (each _ request wasAsked).2)
  refine ⟨early ++ late, asked ++ asks, ?_, ?_, ?_, ?_⟩
  · rw [further, passed, List.append_assoc]
  · rw [List.map_append, requests, sent, ← List.filter_append]
    exact congrArg _ List.filterMap_append.symm
  · rw [List.map_append]
    exact List.Nodup.append once single fun thing earlier => distinct thing earlier
  · intro thing request listed
    rcases List.mem_append.mp listed with earlier | later
    · exact ⟨(each thing request earlier).1, still thing request (each thing request earlier).2⟩
    · obtain ⟨wasThere, isGone⟩ := behind thing request later
      exact ⟨fun wasGone => wasThere (stays thing wasGone), isGone⟩

/-- A stroke that asks for nothing of a sort asks for each thing once at most. -/
theorem Session.EachOnce.none {fresh : List Passage}
    (passed : after.passages.toList = before.passages.toList ++ fresh)
    (quiet : ∀ sent ∈ requestsOf fresh, sort sent.request = false) :
    EachOnce sort Gone GoneBy before after := by
  -- Among what is sent there is nothing to be listed.
  have nothing : (requestsOf fresh).filter (sort ·.request) = [] :=
    List.filter_eq_nil_iff.mpr fun sent listed => by simp [quiet sent listed]
  exact ⟨fresh, [], passed, nothing.symm, List.nodup_nil, by simp⟩

/-- What every stroke asks for once is asked for once on every chain of strokes. -/
theorem Strokes.eachOnce (strokes : Strokes licence before after)
    (step : ∀ {before after}, Stroke licence before after →
      Session.EachOnce sort Gone GoneBy before after)
    (gone : ∀ {session} thing sent, GoneBy session thing sent → Gone session thing)
    (stays : ∀ {before after}, Stroke licence before after → ∀ thing, Gone before thing →
      Gone after thing)
    (still : ∀ {before after}, Stroke licence before after → ∀ thing sent,
      GoneBy before thing sent → GoneBy after thing sent) :
    Session.EachOnce sort Gone GoneBy before after := by
  induction strokes with
  | refl =>
    have nothing : before.passages.toList = before.passages.toList ++ [] := by simp
    exact .none nothing (by simp [requestsOf])
  | tail strokes stroke ih =>
    -- The last stroke comes behind all that were made before it.
    exact ih.trans (step stroke) gone
      (fun thing => Strokes.keeps (fun stroke => stays stroke thing) strokes) (still stroke)

end Once

namespace Session

variable {licence : Licence}

/-- Writing to the log is a stroke. -/
theorem log_strokes (session : Session) (log : Array Event) :
    Strokes licence session { session with log } :=
  -- Hooks and script are written over with what they are.
  .single (.write log session.hooks session.server.script)

/-- Sending a licensed request on a tree is a chain of strokes. -/
theorem send_strokes (session : Session) (tree : TreeRef) {request : Request}
    (licensed : licence.Allows request) (delivery : Delivery) :
    Strokes licence session (session.send tree request delivery).2 := by
  rcases session.send_cases tree request delivery with
    ⟨handle, found, valid, sent⟩ | ⟨_, fault, refused⟩
  · -- A tree that can be asked is asked in one stroke.
    rw [sent]
    exact .single (.ask request delivery licensed found valid)
  · -- A refusal changes nothing, so no stroke is made.
    rw [refused]

/-- A change that counts the tree at a place anew, if there is one, is a stroke. -/
theorem recountTree_strokes (session : Session) (tree : TreeRef)
    {change : Handle ConnectedTree → Handle ConnectedTree}
    (recounts : ∀ handle : Handle ConnectedTree, handle.Recounted (change handle)) :
    Strokes licence session { session with trees := session.trees.modify tree.index change } := by
  -- A change at a place where no tree is changes nothing.
  cases found : session.tree? tree with
  | none => rw [Table.modify_absent change found]
  | some handle => exact .single (.recountTree change found (recounts handle))

/-- One more place that knows a tree is a chain of strokes. -/
theorem keepTree_strokes (session : Session) (tree : TreeRef) :
    Strokes licence session (session.keepTree tree) := by
  -- To be known is counted apart from the references.
  rw [keepTree_eq]
  exact session.recountTree_strokes tree Handle.recounted_keep

/-- Forgetting a tree is a chain of strokes. -/
theorem forgetTree_strokes (session : Session) (tree : TreeRef) :
    Strokes licence session (session.forgetTree tree) := by
  -- The tree is counted anew, and then the log may be written to.
  obtain ⟨log, forgotten⟩ := session.forgetTree_eq tree
  rw [forgotten]
  exact (session.recountTree_strokes tree Handle.recounted_forget).trans (log_strokes _ log)

/-- An open tree that is shared is counted anew. -/
theorem share_strokes {session : Session} {tree : TreeRef} {handle : Handle ConnectedTree}
    (found : session.tree? tree = some handle) (isOpen : handle.closed = false) :
    Strokes licence session
      { session with trees := session.trees.modify tree.index Handle.shared } :=
  -- It stays open, which is all that a recount asks.
  .single (.recountTree _ found (Handle.recounted_shared isOpen))

/-- Acquiring a tree is a chain of strokes. -/
theorem acquire_strokes (session : Session) : Strokes licence session session.acquire.2 := by
  rcases session.acquire_cases with ⟨tree, after, _, taken, outcome⟩ | ⟨alone, outcome⟩
  · -- The current tree is shared.
    rw [outcome]
    obtain ⟨⟨handle, found, isOpen⟩, rfl⟩ := acquireTree_ok taken
    exact share_strokes found isOpen
  · rw [outcome]
    exact .single (.connect alone)

/-- A release of a tree that nobody holds is reported; the last one gives the tree back to the
server; any other only counts. -/
theorem releaseTree_cases {session : Session} {tree : TreeRef} {handle : Handle ConnectedTree}
    (found : session.tree? tree = some handle) :
    (handle.refs = 0 ∧ ∃ log, session.releaseTree tree = (.ok (), { session with log })) ∨
      (handle.refs = 1 ∧ ∃ log, session.releaseTree tree = disconnect handle.resource
        { session with log, trees := session.trees.modify tree.index Handle.released }) ∨
      (1 < handle.refs ∧ session.releaseTree tree =
        (.ok (), { session with trees := session.trees.modify tree.index Handle.released })) := by
  -- What the home puts into the table is the change of the handle at its place.
  have stored : session.putTree tree handle.released =
      { session with trees := session.trees.modify tree.index Handle.released } := by
    rw [← Table.setIfInBounds_eq_modify Handle.released found]
    rfl
  unfold releaseTree
  rw [found]
  rcases handle.release_cases (treeHome tree) session with
    ⟨unheld, event, outcome⟩ | ⟨last, event, outcome⟩ | ⟨more, outcome⟩
  · exact .inl ⟨unheld, _, outcome⟩
  · refine .inr (.inl ⟨last, session.log.push event, outcome.trans ?_⟩)
    simp only [treeHome, stored, note]
  · refine .inr (.inr ⟨more, outcome.trans ?_⟩)
    simp only [treeHome, stored]

/-- So it is with a file; the last release closes the file before it releases the tree. -/
theorem releaseFile_cases {session : Session} {file : FileRef} {handle : Handle OpenFile}
    (found : session.file? file = some handle) :
    (handle.refs = 0 ∧ ∃ log, session.releaseFile file = (.ok (), { session with log })) ∨
      (handle.refs = 1 ∧ ∃ log, (session.releaseFile file).2 = ((closeOnServer
        { session with log, files := session.files.modify file.index Handle.released }
        handle.resource).releaseTree handle.resource.tree).2) ∨
      (1 < handle.refs ∧ session.releaseFile file =
        (.ok (), { session with files := session.files.modify file.index Handle.released })) := by
  -- As with trees, putting the released file back is a change at its place.
  have stored : session.putFile file handle.released =
      { session with files := session.files.modify file.index Handle.released } := by
    rw [← Table.setIfInBounds_eq_modify Handle.released found]
    rfl
  unfold releaseFile
  rw [found]
  rcases handle.release_cases (fileHome file) session with
    ⟨unheld, event, outcome⟩ | ⟨last, event, outcome⟩ | ⟨more, outcome⟩
  · exact .inl ⟨unheld, _, outcome⟩
  · -- What closing the file comes to does not matter here, only the session behind it.
    refine .inr (.inl ⟨last, session.log.push event, (congrArg Prod.snd outcome).trans ?_⟩)
    simp only [fileHome, stored, closeFile_eq, note]
  · refine .inr (.inr ⟨more, outcome.trans ?_⟩)
    simp only [fileHome, stored]

/-- Releasing a tree is a chain of strokes. -/
theorem releaseTree_strokes (session : Session) (tree : TreeRef) :
    Strokes licence session (session.releaseTree tree).2 := by
  cases found : session.tree? tree with
  | none =>
    have same : session.releaseTree tree = (.ok (), session) := by simp [releaseTree, found]
    rw [same]
  | some handle =>
    rcases releaseTree_cases found with ⟨_, log, outcome⟩ | ⟨last, log, outcome⟩ | ⟨more, outcome⟩
    · rw [outcome]
      exact session.log_strokes log
    · -- For the session it is all the same when the closing is written to the log.
      rw [outcome]
      exact (session.log_strokes log).tail (.closeTree found last)
    · rw [outcome]
      have others : handle.refs ≠ 1 := by omega
      exact .single (.recountTree _ found (Handle.recounted_released others))

/-- Releasing a file is a chain of strokes. -/
theorem releaseFile_strokes (session : Session) (file : FileRef) :
    Strokes licence session (session.releaseFile file).2 := by
  cases found : session.file? file with
  | none =>
    have same : session.releaseFile file = (.ok (), session) := by simp [releaseFile, found]
    rw [same]
  | some handle =>
    rcases releaseFile_cases found with ⟨_, log, outcome⟩ | ⟨last, log, outcome⟩ | ⟨more, outcome⟩
    · rw [outcome]
      exact session.log_strokes log
    · -- The file is closed first, and its tree is released behind that.
      rw [outcome]
      have noted : Strokes licence session _ := session.log_strokes log
      exact (noted.tail (.closeFile found last)).trans (releaseTree_strokes _ _)
    · rw [outcome]
      have others : handle.refs ≠ 1 := by omega
      exact .single (.recountFile _ found (Handle.recounted_released others))

end Session

/-- Every use of a session is a chain of strokes. -/
theorem Deal.strokes {licence : Licence} {before after : Session × Multiset Stake}
    (deal : Deal licence before after) : Strokes licence before.1 after.1 := by
  cases deal with
  | @note session stakes log script => exact .single (.write log session.hooks script)
  | @call session stakes licensed hooks =>
    exact .single (.write session.log hooks session.server.script)
  | invalidate => exact .single .lose
  | @acquire session after stakes tree acquired =>
    have strokes : Strokes licence session _ := session.acquire_strokes
    rwa [acquired] at strokes
  | @refused session after stakes fault failed =>
    have strokes : Strokes licence session _ := session.acquire_strokes
    rwa [failed] at strokes
  | share known taken =>
    obtain ⟨⟨handle, found, isOpen⟩, rfl⟩ := Session.acquireTree_ok taken
    exact Session.share_strokes found isOpen
  | keep known => exact Session.keepTree_strokes _ _
  | keepActive active => exact Session.keepTree_strokes _ _
  | keepOwner known found => exact Session.keepTree_strokes _ _
  | forget tree => exact Session.forgetTree_strokes _ tree
  | release known => exact Session.releaseTree_strokes _ _
  | overRelease licensed known => exact Session.releaseTree_strokes _ _
  | closeTree licensed known found => exact .single (.bypass licensed found)
  | send request delivery licensed known => exact Session.send_strokes _ _ licensed delivery
  | adopt known adopted =>
    -- The tree is shared before the file gets its handle.
    obtain ⟨⟨owner, found, isOpen⟩, rfl, log, rfl⟩ := Session.adoptFile_ok adopted
    exact ((Session.share_strokes found isOpen).trans (Session.log_strokes _ log)).tail
      (.makeFile _ _)
  | shareFile known taken =>
    obtain ⟨⟨handle, found, isOpen⟩, rfl⟩ := Session.acquireFile_ok taken
    exact .single (.recountFile _ found (Handle.recounted_shared isOpen))
  | releaseFile known => exact Session.releaseFile_strokes _ _
  | overReleaseFile licensed known => exact Session.releaseFile_strokes _ _
  | abandonFile licensed file => exact .refl
  | @forgetFile session stakes file =>
    cases found : session.file? file with
    | none =>
      have same : session.forgetFile file = session := by simp [Session.forgetFile, found]
      rw [same]
    | some handle =>
      obtain ⟨log, forgotten⟩ := Session.forgetFile_eq found
      simp only [forgotten]
      have forgets : Strokes licence session _ :=
        .single (.recountFile _ found handle.recounted_forget)
      -- The last place that knows the file takes its knowledge of the tree with it.
      split
      · exact (forgets.trans (Session.log_strokes _ log)).trans
          (Session.recountTree_strokes _ _ Handle.recounted_forget)
      · exact forgets.trans (Session.log_strokes _ log)

end SmbBrowser
