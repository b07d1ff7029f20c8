import SmbBrowser.Proofs.Session.Chronicle
import SmbBrowser.Proofs.Session.Orderly
import SmbBrowser.Proofs.Session.Validity

/-!
How a session tends its trees: when it asks the server for a tree and when it gives one back, what a
refusal leaves as it was, and what becomes of a later tree when an earlier one is closed.
-/

namespace SmbBrowser

namespace Session

/-- What a session asks the server about its trees, and when. -/
structure TendsTrees (session : Session) : Prop where
  /-- Every connecting that was answered with a tree began a generation. -/
  generations : session.generation = session.passages.toList.countP Passage.connects
  /-- A valid tree that somebody knows is shared, and nothing is asked. -/
  shares : ∀ tree, session.isTreeKnown tree = true → session.isTreeValid tree = true →
    session.acquire =
      (.ok tree, { session with trees := session.trees.modify tree.index Handle.shared })
  /-- Without one the server is asked once. -/
  connects : (∀ tree, session.isTreeKnown tree = true → session.isTreeValid tree = false) →
    ∃ scratch answer, session.acquire.2.passages.toList = session.passages.toList ++
      exchanged ⟨none, .treeConnect session.sharePath, .plain, scratch⟩ answer
  /-- A refusal leaves the handles as they were. -/
  refuses : ∀ fault after, session.acquire = (.error fault, after) →
    after.generation = session.generation ∧ after.trees = session.trees ∧
      after.files = session.files
  /-- The last release of a tree asks the server once if nothing was lost since the connecting that
  made the handle, and nothing otherwise. -/
  releases : ∀ tree handle, session.tree? tree = some handle → handle.refs = 1 →
    ∃ behind, MadeBy session.passages.toList tree.index handle.resource.tid behind ∧
      ((∀ passage ∈ behind, passage.loses = false) → ∃ scratch answer,
        (session.releaseTree tree).2.passages.toList = session.passages.toList ++
          exchanged ⟨some handle.resource.tid, .treeDisconnect, .cleanup, scratch⟩ answer) ∧
      ((∃ passage ∈ behind, passage.loses = true) →
        (session.releaseTree tree).2.passages = session.passages)
  /-- Any other release asks nothing. -/
  counts : ∀ tree handle, session.tree? tree = some handle → handle.refs ≠ 1 →
    (session.releaseTree tree).2.passages = session.passages

/-- Whatever trees were given back in between, each was the tree of a handle that lost its last
reference. -/
def DisconnectsAtLast (before after : Session) : Prop :=
  ∃ fresh, after.passages.toList = before.passages.toList ++ fresh ∧
    ∀ sent ∈ requestsOf fresh, sent.request.isTreeDisconnect = true →
      ∃ tree handle closed, before.tree? tree = some handle ∧ handle.refs = 1 ∧
        after.tree? tree = some closed ∧ closed.refs = 0 ∧
        sent.tid = some handle.resource.tid ∧ sent.delivery = .cleanup

/-- A tree that was given back, once and for all. -/
def IsGivenBack (session : Session) (tree : TreeRef) : Prop :=
  ∃ handle, session.tree? tree = some handle ∧ handle.refs = 0 ∧ handle.closed = true

/-- The request by which a tree was given back that had lost its last reference. -/
def GivenBackBy (session : Session) (tree : TreeRef) (sent : SentRequest) : Prop :=
  ∃ handle, session.tree? tree = some handle ∧ handle.refs = 0 ∧ handle.closed = true ∧
    sent.tid = some handle.resource.tid ∧ sent.request = .treeDisconnect ∧
    sent.delivery = .cleanup

/-- Each request that gave a tree back on the way was for the tree of a handle of its own, which had
a reference before and has none now. -/
def DisconnectsOnce (before after : Session) : Prop :=
  EachOnce Request.isTreeDisconnect IsGivenBack GivenBackBy before after

/-- The connection, what is asked on it, and which trees are active and valid, is as it was. -/
structure Undisturbed (before after : Session) : Prop where
  connected : after.connected = before.connected
  active : after.active? = before.active?
  valid : ∀ tree, after.isTreeValid tree = before.isTreeValid tree
  passages : after.passages = before.passages

/-- Whoever releases a tree that a later one has superseded, or a file on it, disturbs neither the
later one nor the connection. -/
def SupersedesQuietly (session : Session) : Prop :=
  ∀ tree handle, session.tree? tree = some handle → session.isTreeKnown tree = true →
    tree.index + 1 < session.generation →
      session.Undisturbed (session.releaseTree tree).2 ∧
      ∀ file opened, session.file? file = some opened → opened.resource.tree = tree →
        session.Undisturbed (session.releaseFile file).2

/-- Giving the current tree up passes nothing. -/
@[simp]
theorem passages_detach (session : Session) (generation : Nat) :
    (session.detach generation).passages = session.passages := by
  -- The record of what passed is written by exchanges and losses only.
  unfold detach
  split <;> rfl

/-- Giving the current tree up leaves the handles as they are. -/
@[simp]
theorem trees_detach (session : Session) (generation : Nat) :
    (session.detach generation).trees = session.trees := by
  -- Which tree is current stands apart from the table.
  unfold detach
  split <;> rfl

/-- What a session goes through is recorded behind what it went through before. -/
@[simp]
theorem passages_undergo (session : Session) (pool : ScratchPool) (server : Playback)
    (log : Array Event) (fresh : List Passage) :
    (session.undergo pool server log fresh).passages.toList = session.passages.toList ++ fresh := by
  -- The record only grows at its end.
  simp [undergo]

/-- While no tree can be shared the server is asked for one. -/
theorem acquire_asks (session : Session)
    (lonely : ∀ tree, session.isTreeKnown tree = true → session.isTreeValid tree = false) :
    ∃ scratch answer, session.acquire.2.passages.toList = session.passages.toList ++
      exchanged ⟨none, .treeConnect session.sharePath, .plain, scratch⟩ answer := by
  rcases session.acquire_cases with ⟨tree, after, isShared, _⟩ | ⟨alone, outcome⟩
  · -- What can be shared is known and valid.
    obtain ⟨_, handle, found, known, valid, _⟩ := reusable_some isShared
    have invalid := lonely tree (by simp [isTreeKnown, found, known])
    rw [isTreeValid_iff.mpr ⟨handle, found, valid⟩] at invalid
    exact absurd invalid (by decide)
  · rw [outcome]
    obtain ⟨pool, server, log, scratch, answer, fresh, rfl, came⟩ := session.connect_undergo
    rcases came with ⟨fault, came, _⟩ | ⟨tid, _, came⟩
    · rw [came]
      exact ⟨scratch, answer, session.passages_undergo pool server log _⟩
    · rw [came]
      exact ⟨scratch, answer, session.passages_undergo pool server log _⟩

end Session

namespace Ranked

variable {session : Session}

/-- A valid tree that somebody knows is the one that can be shared. -/
theorem reusable_of_valid (ranked : Ranked session) {tree : TreeRef}
    (known : session.isTreeKnown tree = true) (valid : session.isTreeValid tree = true) :
    session.reusable? = some tree := by
  -- The valid tree is the current one, and being known and valid is what sharing asks besides.
  have current := (ranked.of_isTreeValid valid).2.2.1
  simp [Session.reusable?, current, known, valid]

/-- A ranked session with its chronicle tends its trees. -/
theorem tendsTrees (ranked : Ranked session) (chronicle : Chronicle session) :
    session.TendsTrees where
  generations := chronicle.generations
  shares tree known valid := by
    have shared := ranked.reusable_of_valid known valid
    -- A tree that can be shared rules out that one is connected.
    rcases session.acquire_cases with ⟨other, after, isShared, taken, outcome⟩ | ⟨alone, _⟩
    · obtain rfl := Option.some.inj (shared.symm.trans isShared)
      obtain ⟨_, rfl⟩ := Session.acquireTree_ok taken
      exact outcome
    · rw [shared] at alone
      exact absurd alone (by simp)
  connects := session.acquire_asks
  refuses fault after failed := by
    obtain ⟨sameTrees, sameFiles⟩ := Session.tables_refused failed
    refine ⟨?_, sameTrees, sameFiles⟩
    -- Only connecting can fail, and an exchange without an answer adds no handle.
    rcases session.acquire_cases with ⟨tree, later, _, _, outcome⟩ | ⟨_, outcome⟩
    · simp [outcome] at failed
    · rw [outcome] at failed
      obtain ⟨pool, server, log, scratch, answer, fresh, _, came⟩ := session.connect_undergo
      rcases came with ⟨other, came, _⟩ | ⟨tid, _, came⟩
      · rw [came, Prod.mk.injEq] at failed
        rw [← failed.2]
        rfl
      · simp [came] at failed
  releases tree handle found last := by
    obtain ⟨behind, made, seen⟩ := chronicle.trees tree.index handle found
    refine ⟨behind, made, ?_⟩
    -- The last reference is the second of the three ways of a release.
    rcases Session.releaseTree_cases found with ⟨none, _⟩ | ⟨_, log, outcome⟩ | ⟨more, _⟩
    · omega
    · obtain ⟨pool, server, later, fresh, given, sent⟩ := Session.disconnect_undergo handle.resource
        { session with log, trees := session.trees.modify tree.index Handle.released }
      rw [outcome, given, Session.passages_detach]
      rcases sent with ⟨same, scratch, answer, rfl⟩ | ⟨other, rfl⟩
      · -- The tree has seen every loss, so the server is asked.
        refine ⟨fun _ => ⟨scratch, answer, Session.passages_undergo _ pool server later _⟩, ?_⟩
        rintro ⟨passage, listed, loses⟩
        have holds := seen.mp same.symm passage listed
        rw [loses] at holds
        exact absurd holds (by decide)
      · refine ⟨fun spared => absurd (seen.mpr spared).symm other, fun _ => ?_⟩
        simp [Session.undergo]
    · omega
  counts tree handle found others := by
    -- The other two ways ask the server for nothing.
    rcases Session.releaseTree_cases found with ⟨_, log, outcome⟩ | ⟨last, _⟩ | ⟨_, outcome⟩
    · rw [outcome]
    · exact absurd last others
    · rw [outcome]

/-- A known open tree that is not the last one has missed a loss, so that nobody is asked to take it
back, and the connection is left alone. -/
theorem undisturbed_releaseTree (ranked : Ranked session) (orderly : Orderly session)
    {tree : TreeRef} {handle : Handle ConnectedTree} (found : session.tree? tree = some handle)
    (known : session.isTreeKnown tree = true) (earlier : tree.index + 1 < session.generation) :
    session.Undisturbed (session.releaseTree tree).2 := by
  have keeps : 0 < handle.keepers := by simpa [Session.isTreeKnown, found] using known
  have order := orderly.handles tree.index handle found
  -- All that changes is the handle itself, and the log.
  have changed : ∃ log, (session.releaseTree tree).2 = { session with
      log, trees := session.trees.modify tree.index Handle.released } := by
    rcases Session.releaseTree_cases found with
      ⟨unheld, log, outcome⟩ | ⟨last, log, outcome⟩ | ⟨_, outcome⟩
    · refine ⟨log, ?_⟩
      rw [outcome, ← Table.setIfInBounds_eq_modify Handle.released found,
        Handle.released_unheld unheld, Table.setIfInBounds_same found]
    · -- A known open tree that has seen every loss would be the last one.
      have isOpen : handle.closed = false := by
        refine Bool.eq_false_iff.mpr fun shut => ?_
        have none := order.closed.mp shut
        omega
      have unseen : session.resets ≠ handle.resource.epoch := by
        intro seen
        have isLast := (order.usable isOpen keeps seen.symm).1
        omega
      have other : session.generation ≠ handle.resource.generation := by
        rw [order.made]
        omega
      rw [outcome]
      simp only [Session.disconnect, if_neg unseen, Session.note, Session.detach, if_neg other]
      exact ⟨_, rfl⟩
    · exact ⟨session.log, by rw [outcome]⟩
  obtain ⟨log, after⟩ := changed
  have strokes : Strokes .careless session _ := session.releaseTree_strokes tree
  have later := strokes.keeps Stroke.ranked ranked
  have generation : (session.releaseTree tree).2.generation = session.generation := by rw [after]
  have current : (session.releaseTree tree).2.current = session.current := by rw [after]
  have link : (session.releaseTree tree).2.link = session.link := by rw [after]; rfl
  -- The current tree and the valid one are of the last generation, so they are another one.
  have elsewhere (other : TreeRef) (isLast : other.index + 1 = session.generation) :
      (session.releaseTree tree).2.tree? other = session.tree? other := by
    have different : tree.index ≠ other.index := by omega
    simp [after, Session.tree?, Array.getElem?_modify, different]
  refine ⟨by rw [after], ?_, fun other => ?_, by rw [after]⟩
  · simp only [Session.active?, current]
    cases isCurrent : session.current with
    | none => rfl
    | some other =>
      have same := elsewhere other (ranked.current other isCurrent)
      simp only [Option.filter_some, Session.isTreeKnown, same]
  · have same (isLast : other.index + 1 = session.generation) :
        (session.releaseTree tree).2.isTreeValid other = session.isTreeValid other := by
      simp only [Session.isTreeValid, elsewhere other isLast, link]
    cases was : session.isTreeValid other with
    | true => rw [same (ranked.of_isTreeValid was).2.1, was]
    | false =>
      refine Bool.eq_false_iff.mpr fun valid => ?_
      have isLast := (later.of_isTreeValid valid).2.1
      rw [generation] at isLast
      rw [same isLast, was] at valid
      exact absurd valid (by decide)

/-- In a ranked and orderly session a superseded tree is released without disturbing a later one. -/
theorem supersedesQuietly (ranked : Ranked session) (orderly : Orderly session) :
    session.SupersedesQuietly := by
  intro tree handle found known earlier
  refine ⟨ranked.undisturbed_releaseTree orderly found known earlier, ?_⟩
  rintro file opened isThere rfl
  rcases Session.releaseFile_cases isThere with
    ⟨_, log, outcome⟩ | ⟨last, log, outcome⟩ | ⟨_, outcome⟩
  · rw [outcome]
    exact ⟨rfl, rfl, fun _ => rfl, rfl⟩
  · -- A superseded tree is invalid, so that the server is not asked to close the file either.
    have invalid : session.isTreeValid opened.resource.tree = false := by
      refine Bool.eq_false_iff.mpr fun valid => ?_
      have isLast := (ranked.of_isTreeValid valid).2.1
      omega
    have unasked : Session.closeOnServer
        { session with log, files := session.files.modify file.index Handle.released }
        opened.resource = { session with
          log := log.push (.fileGone opened.resource.path opened.resource.fid)
          files := session.files.modify file.index Handle.released } :=
      if_neg (by exact Bool.eq_false_iff.mp invalid)
    rw [outcome, unasked]
    have closed := ranked.modifyFile isThere rfl Handle.settled_released
    have noted := closed.write (log.push (.fileGone opened.resource.path opened.resource.fid))
      session.hooks session.server.script
    have still := noted.undisturbed_releaseTree
      (orderly.note _ _ session.hooks session.server.script) found known earlier
    exact ⟨still.connected, still.active, still.valid, still.passages⟩
  · rw [outcome]
    exact ⟨rfl, rfl, fun _ => rfl, rfl⟩

end Ranked

namespace Table

variable {Resource : Type} {before after : Array (Handle Resource)}

/-- What a table comes to when one of its handles may have lost its last reference, and the others
are at most counted anew. -/
def Released (before after : Array (Handle Resource)) : Prop :=
  Carried Handle.Recounted before after ∨
    ∃ place handle, before[place]? = some handle ∧ handle.refs = 1 ∧
      after = before.modify place Handle.released

/-- A handle that was closed stays closed, and stays the handle of what it was. -/
theorem Released.staysClosed (released : Released before after) {place : Nat}
    {handle : Handle Resource} (found : before[place]? = some handle) (unheld : handle.refs = 0)
    (closed : handle.closed = true) :
    ∃ later, after[place]? = some later ∧ later.refs = 0 ∧ later.closed = true ∧
      later.resource = handle.resource := by
  rcases released with carried | ⟨other, there, isThere, last, rfl⟩
  · -- Counting anew opens no handle, and a closed handle has no references.
    obtain ⟨later, isLater, recounted⟩ := carried place handle found
    have stillClosed := recounted.closed.trans closed
    have settled := recounted.settled (iff_of_true closed unheld)
    exact ⟨later, isLater, settled.mp stillClosed, stillClosed, recounted.resource⟩
  · -- The handle that loses its last reference is another one.
    have different : other ≠ place := by
      rintro rfl
      obtain rfl := Option.some.inj (isThere.symm.trans found)
      omega
    exact ⟨handle, by rw [Array.getElem?_modify, if_neg different, found], unheld, closed, rfl⟩

end Table

section Strokes

variable {licence : Licence} {before after : Session}

/-- The tree that loses its last reference is given back by the request that is sent for it. -/
theorem Session.givenBackBy_released {tree : TreeRef} {handle : Handle ConnectedTree}
    (found : before.tree? tree = some handle) (last : handle.refs = 1)
    (trees : after.trees = before.trees.modify tree.index Handle.released) (scratch : Nat) :
    after.GivenBackBy tree ⟨some handle.resource.tid, .treeDisconnect, .cleanup, scratch⟩ := by
  -- The handle stays at its place without the reference, and with the same tree.
  have isLater : after.tree? tree = some handle.released := by
    rw [Session.tree?, trees, Array.getElem?_modify, if_pos rfl]
    exact congrArg (Option.map _) found
  exact ⟨handle.released, isLater, by simp [Handle.released, last],
    by simp [Handle.released, last], rfl, rfl, rfl⟩

/-- What a stroke makes of the trees, unless trees are closed behind their handles' backs or tree
requests are put through by hand: it gives none back and at most counts them anew, or the last
reference to one is given back. -/
theorem Stroke.tree_cases (stroke : Stroke licence before after)
    (handled : ¬ licence.treeRequests) (guarded : ¬ licence.closeTree) :
    ∃ fresh, after.passages.toList = before.passages.toList ++ fresh ∧
      ((Table.Carried Handle.Recounted before.trees after.trees ∧
          ∀ sent ∈ requestsOf fresh, sent.request.isTreeDisconnect = false) ∨
        ∃ tree handle, before.tree? tree = some handle ∧ handle.refs = 1 ∧
          after.trees = before.trees.modify tree.index Handle.released ∧
          (fresh = [] ∨ ∃ scratch answer, fresh =
            exchanged ⟨some handle.resource.tid, .treeDisconnect, .cleanup, scratch⟩ answer)) := by
  have keeps := Table.Carried.refl Handle.recounted_refl before.trees
  -- What passes is nothing, or one request of another kind.
  have quiet : ∀ sent ∈ requestsOf [], sent.request.isTreeDisconnect = false := by
    simp [requestsOf]
  have other (sent : SentRequest) (answer : Except Fault Response)
      (keeps : sent.request.isTreeDisconnect = false) :
      ∀ asked ∈ requestsOf (exchanged sent answer), asked.request.isTreeDisconnect = false := by
    intro asked listed
    rw [requestsOf_exchanged] at listed
    rwa [List.mem_singleton.mp listed]
  cases stroke with
  | write log hooks script => exact ⟨[], by simp, .inl ⟨keeps, quiet⟩⟩
  | lose =>
    obtain ⟨log, lost⟩ := before.invalidate_undergo
    rw [lost]
    exact ⟨[.lost], Session.passages_undergo _ _ _ _ _,
      .inl ⟨keeps, by simp [requestsOf, Passage.sent?]⟩⟩
  | connect alone =>
    -- A tree that is connected comes behind the others.
    obtain ⟨pool, server, log, scratch, answer, fresh, rfl, came⟩ := before.connect_undergo
    rcases came with ⟨fault, came, _⟩ | ⟨tid, _, came⟩
    · rw [came]
      exact ⟨_, before.passages_undergo pool server log _, .inl ⟨keeps, other _ answer rfl⟩⟩
    · rw [came]
      exact ⟨_, before.passages_undergo pool server log _,
        .inl ⟨.push Handle.recounted_refl before.trees _, other _ answer rfl⟩⟩
  | @ask tree handle request delivery licensed found valid =>
    obtain ⟨pool, server, log, scratch, asked⟩ :=
      before.exchange_undergo (some handle.resource.tid) request delivery
    have notGiven : request.isTreeDisconnect = false := by
      cases request <;> first | rfl | exact absurd (licensed.trees rfl) handled
    rw [asked]
    exact ⟨_, before.passages_undergo pool server log _, .inl ⟨keeps, other _ _ notGiven⟩⟩
  | recountTree change found recounted =>
    exact ⟨[], by simp, .inl ⟨.modify Handle.recounted_refl found recounted, quiet⟩⟩
  | @closeTree tree handle found last =>
    obtain ⟨pool, server, log, fresh, given, sent⟩ := Session.disconnect_undergo handle.resource
      { before with trees := before.trees.modify tree.index Handle.released }
    refine ⟨fresh, by rw [given, Session.passages_detach, Session.passages_undergo],
      .inr ⟨tree, handle, found, last, by rw [given, Session.trees_detach]; rfl, ?_⟩⟩
    -- The server is asked if the tree has seen every loss.
    rcases sent with ⟨_, scratch, answer, asked⟩ | ⟨_, nothing⟩
    · exact .inr ⟨scratch, answer, asked⟩
    · exact .inl nothing
  | bypass licensed found => exact absurd licensed guarded
  | recountFile change found recounted => exact ⟨[], by simp, .inl ⟨keeps, quiet⟩⟩
  | makeFile file traced => exact ⟨[], by simp, .inl ⟨keeps, quiet⟩⟩
  | @closeFile file handle found last =>
    obtain ⟨pool, server, log, fresh, asked, sent⟩ := Session.closeOnServer_undergo handle.resource
      { before with files := before.files.modify file.index Handle.released }
    rw [asked]
    refine ⟨fresh, Session.passages_undergo _ pool server log fresh, .inl ⟨keeps, ?_⟩⟩
    rcases sent with ⟨owner, scratch, answer, _, _, rfl⟩ | ⟨_, rfl⟩
    · exact other _ answer rfl
    · exact quiet

/-- Only the last release of a tree gives the tree back to the server, unless trees are closed
behind their handles' backs or tree requests are put through by hand. -/
theorem Stroke.disconnectsAtLast (handled : ¬ licence.treeRequests)
    (guarded : ¬ licence.closeTree) (stroke : Stroke licence before after) :
    before.DisconnectsAtLast after := by
  obtain ⟨fresh, passed, cases⟩ := stroke.tree_cases handled guarded
  refine ⟨fresh, passed, fun sent listed gives => ?_⟩
  rcases cases with ⟨_, quiet⟩ | ⟨tree, handle, found, last, trees, rfl | ⟨scratch, answer, rfl⟩⟩
  · rw [quiet sent listed] at gives
    exact absurd gives (by decide)
  · simp [requestsOf] at listed
  · -- The tree that is given back is the one that is released.
    rw [requestsOf_exchanged] at listed
    obtain rfl := List.mem_singleton.mp listed
    obtain ⟨closed, isClosed, unheld, _⟩ := Session.givenBackBy_released found last trees scratch
    exact ⟨tree, handle, closed, found, last, isClosed, unheld, rfl, rfl⟩

/-- What a stroke gives back is at most one tree, and one that loses its last reference. -/
theorem Stroke.disconnectsOnce (stroke : Stroke licence before after)
    (handled : ¬ licence.treeRequests) (guarded : ¬ licence.closeTree) :
    before.DisconnectsOnce after := by
  obtain ⟨fresh, passed, cases⟩ := stroke.tree_cases handled guarded
  rcases cases with ⟨_, quiet⟩ | ⟨tree, handle, found, last, trees, rfl | ⟨scratch, answer, rfl⟩⟩
  · exact Session.EachOnce.none passed quiet
  · exact Session.EachOnce.none passed (by simp [requestsOf])
  · -- A tree with a last reference to lose was not given back before.
    have wasHeld : ¬ before.IsGivenBack tree := by
      rintro ⟨other, isOther, unheld, _⟩
      obtain rfl := Option.some.inj (found.symm.trans isOther)
      omega
    refine ⟨_, [(tree, ⟨some handle.resource.tid, .treeDisconnect, .cleanup, scratch⟩)], passed,
      ?_, List.nodup_singleton tree, ?_⟩
    · rw [requestsOf_exchanged]
      rfl
    · intro other sent listed
      obtain ⟨rfl, rfl⟩ := Prod.mk.inj (List.mem_singleton.mp listed)
      exact ⟨wasHeld, Session.givenBackBy_released found last trees scratch⟩

/-- A tree that was given back stays given back, as the tree that it was. -/
theorem Stroke.staysGivenBack (stroke : Stroke licence before after)
    (handled : ¬ licence.treeRequests) (guarded : ¬ licence.closeTree) {tree : TreeRef}
    {handle : Handle ConnectedTree} (found : before.tree? tree = some handle)
    (unheld : handle.refs = 0) (closed : handle.closed = true) :
    ∃ later, after.tree? tree = some later ∧ later.refs = 0 ∧ later.closed = true ∧
      later.resource = handle.resource := by
  obtain ⟨_, _, cases⟩ := stroke.tree_cases handled guarded
  -- Whatever passes, the table of trees changes in one of two ways.
  have released : Table.Released before.trees after.trees := by
    rcases cases with ⟨carried, _⟩ | ⟨other, there, isThere, last, trees, _⟩
    · exact .inl carried
    · exact .inr ⟨other.index, there, isThere, last, trees⟩
  exact released.staysClosed found unheld closed

/-- Whatever trees are given back on a chain of strokes, each is given back once, by the last release
of its handle, unless trees are closed behind their handles' backs or tree requests are put through
by hand. -/
theorem Strokes.disconnectsOnce (strokes : Strokes licence before after)
    (handled : ¬ licence.treeRequests) (guarded : ¬ licence.closeTree) :
    before.DisconnectsOnce after := by
  refine Strokes.eachOnce strokes (fun stroke => stroke.disconnectsOnce handled guarded) ?_ ?_ ?_
  · rintro session tree sent ⟨handle, found, unheld, closed, _⟩
    exact ⟨handle, found, unheld, closed⟩
  · rintro before after stroke tree ⟨handle, found, unheld, closed⟩
    obtain ⟨later, isLater, stillUnheld, stillClosed, _⟩ :=
      stroke.staysGivenBack handled guarded found unheld closed
    exact ⟨later, isLater, stillUnheld, stillClosed⟩
  · -- The handle of the tree stays the one that the request was sent for.
    rintro before after stroke tree sent ⟨handle, found, unheld, closed, tid, request, delivery⟩
    obtain ⟨later, isLater, stillUnheld, stillClosed, same⟩ :=
      stroke.staysGivenBack handled guarded found unheld closed
    exact ⟨later, isLater, stillUnheld, stillClosed, by rw [same, tid], request, delivery⟩

end Strokes

end SmbBrowser
