import SmbBrowser.Proofs.Session.Tending

/-!
How a session closes its files: at the last release of a file the server is asked once to close it,
if the tree of the file is valid then; at no other time, and for no file twice.
-/

namespace SmbBrowser

namespace Session

/-- What passes when a request is sent on a tree: one exchange while the tree is valid, and nothing
otherwise, which is answered by a failure. -/
def AsksOnce (session : Session) (tree : TreeRef) (request : Request) (delivery : Delivery)
    (answer : Except Fault Response) (fresh : List Passage) : Prop :=
  (session.isTreeValid tree = true ∧ ∃ owner scratch, session.tree? tree = some owner ∧
      fresh = exchanged ⟨some owner.resource.tid, request, delivery, scratch⟩ answer) ∨
    session.isTreeValid tree = false ∧ fresh = [] ∧ ∃ fault, answer = .error fault

/-- Whatever is asked once is one request, or none. -/
theorem AsksOnce.requests {session : Session} {tree : TreeRef} {request : Request}
    {delivery : Delivery} {answer : Except Fault Response} {fresh : List Passage}
    (asks : session.AsksOnce tree request delivery answer fresh) {sent : SentRequest}
    (listed : sent ∈ requestsOf fresh) :
    sent.request = request ∧ sent.delivery = delivery := by
  -- There is one exchange with this request, or nothing passes at all.
  rcases asks with ⟨_, owner, scratch, _, rfl⟩ | ⟨_, rfl, _⟩
  · rw [requestsOf_exchanged] at listed
    rw [List.mem_singleton.mp listed]
    exact ⟨rfl, rfl⟩
  · simp [requestsOf] at listed

/-- Sending a request on a tree asks for it once at most. -/
theorem send_asksOnce (session : Session) (tree : TreeRef) (request : Request)
    (delivery : Delivery) :
    ∃ fresh, (session.send tree request delivery).2.passages.toList =
        session.passages.toList ++ fresh ∧
      session.AsksOnce tree request delivery (session.send tree request delivery).1 fresh := by
  -- A valid tree leads to one exchange, and any other to a refusal without one.
  rcases session.send_cases tree request delivery with
    ⟨owner, found, valid, sent⟩ | ⟨invalid, fault, refused⟩
  · obtain ⟨pool, server, log, scratch, asked⟩ :=
      session.exchange_undergo (some owner.resource.tid) request delivery
    have isValid := isTreeValid_iff.mpr ⟨owner, found, valid⟩
    rw [sent]
    exact ⟨_, by rw [asked, passages_undergo], .inl ⟨isValid, owner, scratch, found, rfl⟩⟩
  · rw [refused]
    exact ⟨[], by simp, .inr ⟨invalid, rfl, fault, rfl⟩⟩

/-- The server is asked to close a file on its tree. -/
theorem closeOnServer_asksOnce (file : OpenFile) (session : Session) :
    ∃ fresh answer, (session.closeOnServer file).passages.toList =
        session.passages.toList ++ fresh ∧
      session.AsksOnce file.tree (.close file.fid) .cleanup answer fresh ∧
      (session.closeOnServer file).files = session.files := by
  obtain ⟨pool, server, log, fresh, asked, sent⟩ := closeOnServer_undergo file session
  rw [asked]
  -- As with any request on a tree: one exchange, or none on a tree that is invalid.
  rcases sent with ⟨owner, scratch, answer, found, valid, rfl⟩ | ⟨invalid, rfl⟩
  · have isValid := isTreeValid_iff.mpr ⟨owner, found, valid⟩
    exact ⟨_, answer, session.passages_undergo pool server log _,
      .inl ⟨isValid, owner, scratch, found, rfl⟩, rfl⟩
  · exact ⟨[], .error .handleClosed, session.passages_undergo pool server log _,
      .inr ⟨invalid, rfl, _, rfl⟩, rfl⟩

/-- Giving a tree back asks for nothing else. -/
theorem passages_disconnect (tree : ConnectedTree) (session : Session) :
    ∃ fresh, (disconnect tree session).2.passages.toList = session.passages.toList ++ fresh ∧
      ∀ sent ∈ requestsOf fresh, sent.request = .treeDisconnect := by
  obtain ⟨pool, server, log, fresh, given, sent⟩ := disconnect_undergo tree session
  rw [given, passages_detach, passages_undergo]
  refine ⟨fresh, rfl, fun request listed => ?_⟩
  -- The one request that may pass is the one that gives the tree back.
  rcases sent with ⟨_, scratch, answer, rfl⟩ | ⟨_, rfl⟩
  · rw [requestsOf_exchanged] at listed
    rw [List.mem_singleton.mp listed]
  · simp [requestsOf] at listed

/-- Giving the current tree up leaves the files as they are. -/
@[simp]
theorem files_detach (session : Session) (generation : Nat) :
    (session.detach generation).files = session.files := by
  -- Only the link and the current tree change.
  unfold detach
  split <;> rfl

/-- Giving a tree back to the server leaves the files as they are. -/
@[simp]
theorem files_disconnect (tree : ConnectedTree) (session : Session) :
    (disconnect tree session).2.files = session.files := by
  -- Something passes, and the tree is given up; neither is about files.
  obtain ⟨pool, server, log, fresh, given, _⟩ := disconnect_undergo tree session
  rw [given, files_detach]
  rfl

/-- Releasing a tree asks for nothing but to give it back, and leaves the files alone. -/
theorem releaseTree_gives (session : Session) (tree : TreeRef) :
    ∃ fresh, (session.releaseTree tree).2.passages.toList = session.passages.toList ++ fresh ∧
      (∀ sent ∈ requestsOf fresh, sent.request = .treeDisconnect) ∧
      (session.releaseTree tree).2.files = session.files := by
  cases found : session.tree? tree with
  | none =>
    have same : session.releaseTree tree = (.ok (), session) := by simp [releaseTree, found]
    rw [same]
    exact ⟨[], by simp, by simp [requestsOf], rfl⟩
  | some handle =>
    -- Only the last of the references asks for anything.
    rcases releaseTree_cases found with ⟨_, log, outcome⟩ | ⟨_, log, outcome⟩ | ⟨_, outcome⟩
    · rw [outcome]
      exact ⟨[], by simp, by simp [requestsOf], rfl⟩
    · rw [outcome]
      obtain ⟨fresh, passed, gives⟩ := passages_disconnect handle.resource
        { session with log, trees := session.trees.modify tree.index Handle.released }
      exact ⟨fresh, passed, gives, by rw [files_disconnect]⟩
    · rw [outcome]
      exact ⟨[], by simp, by simp [requestsOf], rfl⟩

/-- A file that was closed, once and for all. -/
def IsShut (session : Session) (file : FileRef) : Prop :=
  ∃ handle, session.file? file = some handle ∧ handle.refs = 0 ∧ handle.closed = true

/-- The request that asks the server to close a file that was closed. -/
def ClosedBy (session : Session) (file : FileRef) (sent : SentRequest) : Prop :=
  ∃ handle, session.file? file = some handle ∧ handle.refs = 0 ∧ handle.closed = true ∧
    sent.request = .close handle.resource.fid ∧ sent.delivery = .cleanup

/-- A file that was closed by a request is closed. -/
theorem ClosedBy.isShut {session : Session} {file : FileRef} {sent : SentRequest}
    (closed : session.ClosedBy file sent) : session.IsShut file := by
  -- The request is told of besides.
  obtain ⟨handle, found, unheld, isClosed, _⟩ := closed
  exact ⟨handle, found, unheld, isClosed⟩

/-- A file that was closed has no last reference to give back. -/
theorem IsShut.not_last {session : Session} {file : FileRef} (shut : session.IsShut file)
    {handle : Handle OpenFile} (found : session.file? file = some handle) : handle.refs ≠ 1 := by
  obtain ⟨closed, isClosed, unheld, _⟩ := shut
  -- There is one handle at its place, and this one has no reference.
  obtain rfl := Option.some.inj (isClosed.symm.trans found)
  omega

/-- What the release of a file asks the server. -/
structure ReleasesFiles (session : Session) : Prop where
  /-- The last release closes the file, whatever the server says to that; behind the request there
  comes at most the giving back of its tree. -/
  last : ∀ file handle, session.file? file = some handle → handle.refs = 1 →
    (session.releaseFile file).2.IsShut file ∧ ∃ closing answer behind,
      (session.releaseFile file).2.passages.toList =
        session.passages.toList ++ closing ++ behind ∧
      session.AsksOnce handle.resource.tree (.close handle.resource.fid) .cleanup answer closing ∧
      ∀ sent ∈ requestsOf behind, sent.request = .treeDisconnect
  /-- Any other release asks nothing. -/
  counts : ∀ file handle, session.file? file = some handle → handle.refs ≠ 1 →
    (session.releaseFile file).2.passages = session.passages

/-- What is asked about files in one stroke. -/
def ClosesAtLast (before after : Session) : Prop :=
  ∃ fresh, after.passages.toList = before.passages.toList ++ fresh ∧
    -- Only a file that loses its last reference is closed.
    (∀ sent ∈ requestsOf fresh, sent.request.isClose = true →
      ∃ file handle, before.file? file = some handle ∧ handle.refs = 1 ∧
        after.ClosedBy file sent) ∧
    -- A file that loses its last reference is closed, if its tree is valid, and nothing else is asked.
    ∀ file handle, before.file? file = some handle → handle.refs ≠ 0 → after.IsShut file →
      ∃ answer, before.AsksOnce handle.resource.tree (.close handle.resource.fid) .cleanup answer
        fresh

/-- Each request to close that was sent on the way was for a file of its own, which was not closed
before and is closed now. -/
def ClosesOnce (before after : Session) : Prop :=
  EachOnce Request.isClose IsShut ClosedBy before after

/-- The release of a file asks what it should in any session. -/
theorem releasesFiles (session : Session) : session.ReleasesFiles where
  last file handle found last := by
    rcases releaseFile_cases found with ⟨unheld, _⟩ | ⟨_, log, outcome⟩ | ⟨more, _⟩
    · omega
    · -- The file is closed first, and its tree is released behind that.
      obtain ⟨closing, answer, asked, asks, sameFiles⟩ := closeOnServer_asksOnce handle.resource
        { session with log, files := session.files.modify file.index Handle.released }
      obtain ⟨behind, released, gives, stillFiles⟩ :=
        releaseTree_gives (closeOnServer { session with
          log, files := session.files.modify file.index Handle.released } handle.resource)
          handle.resource.tree
      rw [outcome]
      refine ⟨⟨handle.released, ?_, ?_, ?_⟩, closing, answer, behind, ?_, asks, gives⟩
      · rw [file?, stillFiles, sameFiles, Array.getElem?_modify, if_pos rfl]
        exact congrArg (Option.map _) found
      · simp [Handle.released, last]
      · simp [Handle.released, last]
      · rw [released, asked]
    · omega
  counts file handle found others := by
    rcases releaseFile_cases found with ⟨_, log, outcome⟩ | ⟨last, _⟩ | ⟨_, outcome⟩
    · rw [outcome]
    · exact absurd last others
    · rw [outcome]

end Session

/-- What a stroke makes of the files when their user leaves the requests that close them to the
handles: it asks to close none and at most counts them anew, or the last reference to one is given
back. -/
theorem Stroke.file_cases {licence : Licence} {before after : Session}
    (stroke : Stroke licence before after) (own : ¬ licence.closeRequests) :
    ∃ fresh, after.passages.toList = before.passages.toList ++ fresh ∧
      ((Table.Carried Handle.Recounted before.files after.files ∧
          ∀ sent ∈ requestsOf fresh, sent.request.isClose = false) ∨
        ∃ file handle answer, before.file? file = some handle ∧ handle.refs = 1 ∧
          after.files = before.files.modify file.index Handle.released ∧
          before.AsksOnce handle.resource.tree (.close handle.resource.fid) .cleanup answer
            fresh) := by
  have keeps := Table.Carried.refl Handle.recounted_refl before.files
  -- What passes is nothing, or one request of another kind.
  have quiet : ∀ sent ∈ requestsOf [], sent.request.isClose = false := by simp [requestsOf]
  have other (sent : SentRequest) (answer : Except Fault Response)
      (notClose : sent.request.isClose = false) :
      ∀ asked ∈ requestsOf (exchanged sent answer), asked.request.isClose = false := by
    intro asked listed
    rw [requestsOf_exchanged] at listed
    rwa [List.mem_singleton.mp listed]
  have given (tree : ConnectedTree) (middle : Session)
      (same : middle.passages = before.passages ∧ middle.files = before.files) :
      ∃ fresh, (Session.disconnect tree middle).2.passages.toList =
          before.passages.toList ++ fresh ∧
        Table.Carried Handle.Recounted before.files (Session.disconnect tree middle).2.files ∧
        ∀ sent ∈ requestsOf fresh, sent.request.isClose = false := by
    obtain ⟨fresh, passed, gives⟩ := Session.passages_disconnect tree middle
    rw [same.1] at passed
    refine ⟨fresh, passed, by rwa [Session.files_disconnect, same.2], fun sent listed => ?_⟩
    rw [gives sent listed]
    rfl
  cases stroke with
  | write log hooks script => exact ⟨[], by simp, .inl ⟨keeps, quiet⟩⟩
  | lose =>
    obtain ⟨log, lost⟩ := before.invalidate_undergo
    rw [lost]
    exact ⟨[.lost], Session.passages_undergo _ _ _ _ _, .inl ⟨keeps, by simp [requestsOf, Passage.sent?]⟩⟩
  | connect alone =>
    obtain ⟨pool, server, log, scratch, answer, fresh, rfl, came⟩ := before.connect_undergo
    rcases came with ⟨fault, came, _⟩ | ⟨tid, _, came⟩ <;> rw [came] <;>
      exact ⟨_, before.passages_undergo pool server log _, .inl ⟨keeps, other _ answer rfl⟩⟩
  | @ask tree handle request delivery licensed found valid =>
    obtain ⟨pool, server, log, scratch, asked⟩ :=
      before.exchange_undergo (some handle.resource.tid) request delivery
    have notClose : request.isClose = false :=
      Bool.eq_false_iff.mpr fun isClose => own (licensed.files isClose)
    rw [asked]
    exact ⟨_, before.passages_undergo pool server log _, .inl ⟨keeps, other _ _ notClose⟩⟩
  | recountTree change found recounted => exact ⟨[], by simp, .inl ⟨keeps, quiet⟩⟩
  | @closeTree tree handle found last =>
    obtain ⟨fresh, passed, carried⟩ := given handle.resource
      { before with trees := before.trees.modify tree.index Handle.released } ⟨rfl, rfl⟩
    exact ⟨fresh, passed, .inl carried⟩
  | @bypass tree handle licensed found =>
    obtain ⟨fresh, passed, carried⟩ := given handle.resource before ⟨rfl, rfl⟩
    exact ⟨fresh, passed, .inl carried⟩
  | recountFile change found recounted =>
    exact ⟨[], by simp, .inl ⟨.modify Handle.recounted_refl found recounted, quiet⟩⟩
  | makeFile file traced =>
    exact ⟨[], by simp, .inl ⟨.push Handle.recounted_refl before.files _, quiet⟩⟩
  | @closeFile file handle found last =>
    obtain ⟨fresh, answer, asked, asks, sameFiles⟩ :=
      Session.closeOnServer_asksOnce handle.resource
        { before with files := before.files.modify file.index Handle.released }
    exact ⟨fresh, asked, .inr ⟨file, handle, answer, found, last, sameFiles, asks⟩⟩

section Strokes

variable {licence : Licence} {before after : Session}

/-- A file that was closed stays closed. -/
theorem Stroke.staysShut (stroke : Stroke licence before after) (own : ¬ licence.closeRequests)
    {file : FileRef} {handle : Handle OpenFile} (found : before.file? file = some handle)
    (unheld : handle.refs = 0) (closed : handle.closed = true) :
    ∃ later, after.file? file = some later ∧ later.refs = 0 ∧ later.closed = true ∧
      later.resource = handle.resource := by
  obtain ⟨_, _, cases⟩ := stroke.file_cases own
  -- Whatever passes, the table of files changes in one of two ways.
  have released : Table.Released before.files after.files := by
    rcases cases with ⟨carried, _⟩ | ⟨other, there, _, isThere, last, files, _⟩
    · exact .inl carried
    · exact .inr ⟨other.index, there, isThere, last, files⟩
  exact released.staysClosed found unheld closed

/-- A file stays closed by the request by which it was closed. -/
theorem Stroke.closedBy (stroke : Stroke licence before after) (own : ¬ licence.closeRequests)
    {file : FileRef} {sent : SentRequest} (closed : before.ClosedBy file sent) :
    after.ClosedBy file sent := by
  obtain ⟨handle, found, unheld, isClosed, request, delivery⟩ := closed
  -- A closed handle is never opened again, and stays a handle on the same file.
  obtain ⟨later, isLater, stillUnheld, stillClosed, same⟩ :=
    stroke.staysShut own found unheld isClosed
  exact ⟨later, isLater, stillUnheld, stillClosed, by rw [same, request], delivery⟩

/-- A file that was closed is closed behind every stroke. -/
theorem Stroke.isShut (stroke : Stroke licence before after) (own : ¬ licence.closeRequests)
    {file : FileRef} (shut : before.IsShut file) : after.IsShut file := by
  -- Its handle is the same as before up to how often it is known.
  obtain ⟨handle, found, unheld, closed⟩ := shut
  obtain ⟨later, isLater, stillUnheld, stillClosed, _⟩ :=
    stroke.staysShut own found unheld closed
  exact ⟨later, isLater, stillUnheld, stillClosed⟩

/-- The file that loses its last reference is closed by the request that is sent for it. -/
theorem Session.closedBy_released {file : FileRef} {handle : Handle OpenFile}
    (found : before.file? file = some handle) (last : handle.refs = 1)
    (files : after.files = before.files.modify file.index Handle.released) {sent : SentRequest}
    (request : sent.request = .close handle.resource.fid) (delivery : sent.delivery = .cleanup) :
    after.ClosedBy file sent := by
  -- The handle is found at its place, released.
  have isLater : after.file? file = some handle.released := by
    rw [Session.file?, files, Array.getElem?_modify, if_pos rfl]
    exact congrArg (Option.map _) found
  exact ⟨handle.released, isLater, by simp [Handle.released, last],
    by simp [Handle.released, last], request, delivery⟩

/-- A stroke closes files on the server only as they lose their last reference. -/
theorem Stroke.closesAtLast (stroke : Stroke licence before after) (own : ¬ licence.closeRequests)
    (ranked : Ranked before) : before.ClosesAtLast after := by
  obtain ⟨fresh, passed, cases⟩ := stroke.file_cases own
  refine ⟨fresh, passed, ?_, ?_⟩
  · intro sent listed isClose
    rcases cases with ⟨_, quiet⟩ | ⟨file, handle, answer, found, last, files, asks⟩
    · rw [quiet sent listed] at isClose
      exact absurd isClose (by decide)
    · obtain ⟨request, delivery⟩ := asks.requests listed
      exact ⟨file, handle, found, last,
        Session.closedBy_released found last files request delivery⟩
  · intro file handle found held shut
    obtain ⟨closed, isClosed, unheld, isShut⟩ := shut
    rcases cases with ⟨carried, _⟩ | ⟨other, there, answer, isThere, last, files, asks⟩
    · -- Counting anew opens and closes nothing.
      obtain ⟨later, isLater, recounted⟩ := carried file.index handle found
      obtain rfl := Option.some.inj (isLater.symm.trans isClosed)
      have wasShut := recounted.closed.symm.trans isShut
      exact absurd ((ranked.settledFiles file.index handle found).mp wasShut) held
    · by_cases same : other.index = file.index
      · rw [Session.file?, same] at isThere
        obtain rfl := Option.some.inj (isThere.symm.trans found)
        exact ⟨answer, asks⟩
      · -- Any other file is as it was.
        rw [Session.file?, files, Array.getElem?_modify, if_neg same] at isClosed
        obtain rfl := Option.some.inj (isClosed.symm.trans found)
        exact absurd unheld held

/-- What a stroke asks to close is at most one file, and one that loses its last reference. -/
theorem Stroke.closesOnce (stroke : Stroke licence before after) (own : ¬ licence.closeRequests) :
    before.ClosesOnce after := by
  obtain ⟨fresh, passed, cases⟩ := stroke.file_cases own
  rcases cases with ⟨_, quiet⟩ | ⟨file, handle, answer, found, last, files, asks⟩
  · exact Session.EachOnce.none passed quiet
  · rcases asks with ⟨_, owner, scratch, _, rfl⟩ | ⟨_, rfl, _⟩
    · -- A file with a last reference to lose was not closed before.
      refine ⟨_, [(file, ⟨some owner.resource.tid, .close handle.resource.fid, .cleanup, scratch⟩)],
        passed, ?_, List.nodup_singleton file, ?_⟩
      · rw [requestsOf_exchanged]
        rfl
      · intro other sent listed
        obtain ⟨rfl, rfl⟩ := Prod.mk.inj (List.mem_singleton.mp listed)
        exact ⟨fun shut => shut.not_last found last,
          Session.closedBy_released found last files rfl rfl⟩
    · exact Session.EachOnce.none passed (by simp [requestsOf])

/-- Whatever files are closed on a chain of strokes, each is closed once. -/
theorem Strokes.closesOnce (strokes : Strokes licence before after)
    (own : ¬ licence.closeRequests) : before.ClosesOnce after := by
  -- What was closed stays closed, and by the same request.
  exact Strokes.eachOnce strokes (fun stroke => stroke.closesOnce own)
    (fun _ _ closed => closed.isShut) (fun stroke _ shut => stroke.isShut own shut)
    (fun stroke _ _ closed => stroke.closedBy own closed)

end Strokes

end SmbBrowser
