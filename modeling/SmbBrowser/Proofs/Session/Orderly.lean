import SmbBrowser.Proofs.Session.LiveTree

/-!
Orderly sessions: a tree handle that is open, known and not overtaken by a loss is the one made
last, its connection can be used, and the tree is live. No careless use brings that into disorder.
-/

namespace SmbBrowser

/-- What holds of the handle at a place of the table of trees. -/
structure InOrder (generations losses : Nat) (connected : Bool) (place : Nat)
    (handle : Handle ConnectedTree) : Prop where
  /-- The handle belongs to the generation that its place tells. -/
  generation : handle.generation = some (place + 1)
  /-- So does what it holds. -/
  made : handle.resource.generation = place + 1
  /-- It has not seen more losses than there were. -/
  epoch : handle.resource.epoch ≤ losses
  /-- It is closed when its last reference is gone. -/
  closed : handle.closed = true ↔ handle.refs = 0
  /-- If it is open and known and has seen every loss, it is the last, on a usable connection. -/
  usable : handle.closed = false → 0 < handle.keepers → handle.resource.epoch = losses →
    place + 1 = generations ∧ connected = true

/-- What holds of a session at any time, unless trees are connected or given back behind the
handles' backs. -/
structure Orderly (session : Session) : Prop where
  /-- Every connecting made one handle. -/
  generations : session.generation = session.trees.size
  /-- Every handle is in order. -/
  handles : ∀ place handle, session.trees[place]? = some handle →
    InOrder session.generation session.resets session.connected place handle
  /-- On a usable connection the last handle is open and current, and its tree is live. -/
  live : session.connected = true → ∃ place handle, place + 1 = session.generation ∧
    session.trees[place]? = some handle ∧ handle.closed = false ∧
    session.current = some ⟨place⟩ ∧ LiveTree session.passages.toList handle.resource.tid
  /-- Both sides remember the same requests. -/
  recorded : requestsOf session.passages.toList = session.server.sent.toList
  /-- So far every request but those that connect was sent on a live tree. -/
  asks : AsksLiveTrees session.passages.toList

namespace Orderly

variable {session : Session}

/-- A session that has not connected yet is orderly. -/
theorem new (settings : Settings) (transcript : Transcript) (sharePath oemDomain : String) :
    Orderly (.new settings (.ofTranscript transcript) sharePath oemDomain) where
  -- There is no handle and no passage, and the connection is down.
  generations := rfl
  handles place handle found := by simp [Session.new] at found
  live usable := by simp [Session.new] at usable
  recorded := rfl
  asks before sent answer after split := by simp [Session.new] at split

/-- Files, scripts and whatever is written down are of no account. -/
theorem note (orderly : Orderly session) (files : Array (Handle OpenFile)) (log : Array Event)
    (hooks : Array HookCall) (script : List Exchange) :
    Orderly { session with files, log, hooks, server := { session.server with script } } where
  -- Every clause is about trees, the link and what passed.
  generations := orderly.generations
  handles := orderly.handles
  live := orderly.live
  recorded := orderly.recorded
  asks := orderly.asks

/-- After a loss no handle has seen every loss. -/
theorem overtaken (orderly : Orderly session) {pool : ScratchPool} {server : Playback}
    {log : Array Event} {passages : Array Passage}
    (recorded : requestsOf passages.toList = server.sent.toList)
    (asks : AsksLiveTrees passages.toList) :
    Orderly { session with
      pool, server, log, passages, resets := session.resets + 1, connected := false } where
  generations := orderly.generations
  handles place handle found := by
    obtain ⟨generation, made, epoch, closed, _⟩ := orderly.handles place handle found
    refine ⟨generation, made, Nat.le_succ_of_le epoch, closed, ?_⟩
    -- No handle has seen the loss that was just counted.
    intro _ _ same
    simp only at same
    omega
  live := by simp
  recorded := recorded
  asks := asks

/-- Losing the connection overtakes every handle. -/
theorem invalidate (orderly : Orderly session) : Orderly session.invalidate := by
  obtain ⟨log, lost⟩ := session.invalidate_eq
  rw [lost]
  -- The loss is recorded, and it asks for nothing.
  refine orderly.overtaken ?_ ?_
  · simpa using orderly.recorded
  · simpa using orderly.asks.lose

/-- A request that neither connects a tree nor gives one back, sent on a live tree. -/
theorem exchange (orderly : Orderly session) (tid : Option TreeId) (request : Request)
    (delivery : Delivery)
    (addressed : request.isTreeConnect = false →
      ∃ live, tid = some live ∧ LiveTree session.passages.toList live)
    (keeps : request.isTreeDisconnect = false)
    (noTree : request.isTreeConnect = true → ∀ connected,
      (session.exchange tid request delivery).1 ≠ .ok (.treeConnect connected)) :
    Orderly (session.exchange tid request delivery).2 := by
  -- Whatever the answer, the request is recorded on both sides.
  obtain ⟨pool, server, log, sent, rfl, rfl, _, recorded, outcome⟩ :=
    session.exchange_cases tid request delivery
  generalize session.exchange sent.tid sent.request delivery = answered at *
  have asks := orderly.asks.ask sent answered.1 addressed
  have remembered : requestsOf (session.passages.toList ++ [.asked sent answered.1]) =
      server.sent.toList := by
    rw [recorded]
    simp [orderly.recorded]
  rcases outcome with ⟨stays, after⟩ | ⟨loses, after⟩
  · -- The connection holds, and the request spares the live tree.
    rw [after]
    have spares : (Passage.asked sent answered.1).spares := by
      refine ⟨?_, stays, keeps⟩
      unfold Passage.connected?
      split
      · rename_i same
        simp only [Passage.asked.injEq] at same
        obtain ⟨rfl, isTree⟩ := same
        rw [if_neg fun connects => noTree connects _ isTree]
      · rfl
    refine ⟨orderly.generations, orderly.handles, ?_, by simpa using remembered,
      by simpa using asks⟩
    intro usable
    obtain ⟨place, handle, last, found, isOpen, current, live⟩ := orderly.live usable
    exact ⟨place, handle, last, found, isOpen, current, by simpa using live.spared spares⟩
  · -- The connection is lost, and the live tree with it.
    rw [after]
    refine orderly.overtaken ?_ ?_
    · rw [Array.toList_push, Array.toList_push, requestsOf_lost]
      exact remembered
    · rw [Array.toList_push, Array.toList_push]
      exact asks.lose

/-- A valid handle is the last, and its tree is live. -/
theorem live_of_valid (orderly : Orderly session) {place : Nat} {handle : Handle ConnectedTree}
    (found : session.trees[place]? = some handle) (valid : handle.isValid session.link = true) :
    LiveTree session.passages.toList handle.resource.tid := by
  -- A valid handle is of the last generation, and there is only one of it.
  have order := orderly.handles place handle found
  simp only [Handle.isValid, order.generation, Session.link, Option.any_some, Bool.and_eq_true,
    decide_eq_true_eq] at valid
  obtain ⟨_, same, usable⟩ := valid
  obtain ⟨other, last, isLast, foundLast, _, _, live⟩ := orderly.live usable
  have here : other = place := by omega
  subst here
  rwa [Option.some.inj (found.symm.trans foundLast)]

/-- Sending a request of one's own on a tree. -/
theorem send (orderly : Orderly session) (tree : TreeRef) (request : Request)
    (delivery : Delivery) (plain : request.isTreeRequest = false) :
    Orderly (session.send tree request delivery).2 := by
  unfold Session.send
  split
  · exact orderly
  · rename_i handle found
    split
    · exact orderly
    · rename_i usable
      -- A request is sent only on a valid handle.
      have valid : handle.isValid session.link = true := by
        unfold Handle.ensureValid at usable
        split at usable
        · simp at usable
        · split at usable
          · assumption
          · simp at usable
      have keeps : request.isTreeDisconnect = false ∧ request.isTreeConnect = false := by
        cases request <;> first | exact ⟨rfl, rfl⟩ | simp [Request.isTreeRequest] at plain
      refine orderly.exchange _ request delivery ?_ keeps.1 ?_
      · intro _
        exact ⟨_, rfl, orderly.live_of_valid found valid⟩
      · intro connects
        rw [keeps.2] at connects
        simp at connects

/-- A change of one handle that stays in order; the last handle must not be closed by it. -/
theorem modifyTree (orderly : Orderly session) {place : Nat} {handle : Handle ConnectedTree}
    (found : session.trees[place]? = some handle)
    {change : Handle ConnectedTree → Handle ConnectedTree}
    (inOrder : InOrder session.generation session.resets session.connected place (change handle))
    (sameResource : (change handle).resource = handle.resource)
    (stays : (change handle).closed = handle.closed ∨ place + 1 ≠ session.generation) :
    Orderly { session with trees := session.trees.modify place change } where
  generations := by simpa using orderly.generations
  handles other there isThere := by
    simp only [Array.getElem?_modify] at isThere
    -- The last handle is either the one that changes or stays as it is.
    by_cases same : place = other
    · subst same
      rw [if_pos rfl, found] at isThere
      simp only [Option.map_some, Option.some.injEq] at isThere
      rw [← isThere]
      exact inOrder
    · rw [if_neg same] at isThere
      exact orderly.handles other there isThere
  live usable := by
    obtain ⟨other, last, isLast, foundLast, isOpen, current, live⟩ := orderly.live usable
    by_cases same : place = other
    · subst same
      obtain rfl := Option.some.inj (found.symm.trans foundLast)
      refine ⟨place, change handle, isLast, by simp [Array.getElem?_modify, found], ?_, current,
        by rwa [sameResource]⟩
      rcases stays with kept | earlier
      · rw [kept]
        exact isOpen
      · exact (earlier isLast).elim
    · refine ⟨other, last, isLast, ?_, isOpen, current, live⟩
      simp only [Array.getElem?_modify, if_neg same]
      exact foundLast
  recorded := orderly.recorded
  asks := orderly.asks

/-- A release that closes a handle leaves it in order. -/
theorem inOrder_released {generations losses place : Nat} {connected : Bool}
    {handle : Handle ConnectedTree} (last : handle.refs = 1)
    (order : InOrder generations losses connected place handle) (later : Nat) (still : Bool)
    (noEarlier : losses ≤ later) : InOrder generations later still place handle.released where
  -- A closed handle is not usable, so nothing is to be said of the connection any more.
  generation := order.generation
  made := order.made
  epoch := Nat.le_trans order.epoch noEarlier
  closed := by simp [Handle.released, last]
  usable isOpen := by simp [Handle.released, last] at isOpen

/-- The last handle is closed, and its connection with it. -/
theorem shut (orderly : Orderly session) {place : Nat} {handle : Handle ConnectedTree}
    (found : session.trees[place]? = some handle) (last : handle.refs = 1)
    (isLast : place + 1 = session.generation) {pool : ScratchPool} {server : Playback}
    {log : Array Event} {passages : Array Passage} {losses : Nat}
    (noEarlier : session.resets ≤ losses)
    (recorded : requestsOf passages.toList = server.sent.toList)
    (asks : AsksLiveTrees passages.toList) :
    Orderly { session with
      pool, server, log, passages
      resets := losses
      current := none
      connected := false
      trees := session.trees.modify place Handle.released } where
  generations := by simpa using orderly.generations
  handles other there isThere := by
    simp only [Array.getElem?_modify] at isThere
    by_cases same : place = other
    · subst same
      rw [if_pos rfl, found] at isThere
      simp only [Option.map_some, Option.some.injEq] at isThere
      rw [← isThere]
      exact inOrder_released last (orderly.handles place handle found) losses false noEarlier
    · rw [if_neg same] at isThere
      obtain ⟨generation, made, epoch, closed, usable⟩ := orderly.handles other there isThere
      refine ⟨generation, made, Nat.le_trans epoch noEarlier, closed, ?_⟩
      -- Another open handle that has seen every loss would be the last as well.
      intro isOpen keeps seen
      simp only at seen
      have before := (usable isOpen keeps (by omega)).1
      omega
  live := by simp
  recorded := recorded
  asks := asks

/-- Giving up the tree of the last generation gives up the connection. -/
theorem detach_last {generation : Nat} (same : session.generation = generation) :
    session.detach generation = { session with current := none, connected := false } :=
  -- The given tree is the current one.
  if_pos same

/-- Giving up the tree of an earlier generation changes nothing. -/
theorem detach_earlier {generation : Nat} (different : session.generation ≠ generation) :
    session.detach generation = session :=
  -- Another tree is current, and stays so.
  if_neg different

/-- Closing a known tree: it is given back while it is live, and not at all when it was lost. -/
theorem disconnect (orderly : Orderly session) {place : Nat} {handle : Handle ConnectedTree}
    (found : session.trees[place]? = some handle) (last : handle.refs = 1)
    (keeps : 0 < handle.keepers) (log : Array Event) :
    Orderly (Session.disconnect handle.resource
      { session with log, trees := session.trees.modify place Handle.released }).2 := by
  have order := orderly.handles place handle found
  -- A handle with a reference is open.
  have isOpen : handle.closed = false := by
    have notZero : ¬ handle.closed = true := fun shut => by
      have none := order.closed.mp shut
      omega
    simpa using notZero
  unfold Session.disconnect
  simp only
  by_cases seen : session.resets = handle.resource.epoch
  · -- The handle is the last, so its tree is live.
    obtain ⟨isLast, usable⟩ := order.usable isOpen keeps seen.symm
    obtain ⟨other, there, otherLast, isThere, _, _, live⟩ := orderly.live usable
    obtain rfl : other = place := by omega
    obtain rfl := Option.some.inj (found.symm.trans isThere)
    rw [if_pos seen]
    obtain ⟨pool, server, written, sent, isTid, isRequest, _, recorded, outcome⟩ :=
      Session.exchange_cases
        { session with log, trees := session.trees.modify other Handle.released }
        (some handle.resource.tid) .treeDisconnect .cleanup
    generalize Session.exchange _ _ _ _ = answered at *
    have asks := orderly.asks.ask sent answered.1 fun _ => ⟨_, isTid, live⟩
    have remembered : requestsOf (session.passages.toList ++ [.asked sent answered.1]) =
        server.sent.toList := by
      rw [recorded]
      simp [orderly.recorded]
    have sameGeneration : session.generation = handle.resource.generation := by
      rw [order.made]
      exact isLast.symm
    rcases outcome with ⟨stays, after⟩ | ⟨loses, after⟩
    · -- The server took the tree back.
      rw [after, detach_last (by exact sameGeneration)]
      exact orderly.shut found last isLast (Nat.le_refl _) (by simpa using remembered)
        (by simpa using asks)
    · -- The connection was lost over it.
      rw [after, detach_last (by exact sameGeneration)]
      refine orderly.shut found last isLast (Nat.le_succ _) ?_ ?_
      · rw [Array.toList_push, Array.toList_push, requestsOf_lost]
        exact remembered
      · rw [Array.toList_push, Array.toList_push]
        exact asks.lose
  · rw [if_neg seen]
    by_cases isLast : place + 1 = session.generation
    · -- Nothing is sent on a connection that was lost.
      have sameGeneration : session.generation = handle.resource.generation := by
        rw [order.made]
        exact isLast.symm
      rw [detach_last (by exact sameGeneration)]
      exact orderly.shut found last isLast (Nat.le_refl _) orderly.recorded orderly.asks
    · -- A later tree has taken the place of this one, and stays connected.
      have otherGeneration : session.generation ≠ handle.resource.generation := by
        rw [order.made]
        exact fun same => isLast same.symm
      rw [detach_earlier (by exact otherGeneration)]
      have changed : Orderly
          { session with trees := session.trees.modify place Handle.released } :=
        orderly.modifyTree found (inOrder_released last order _ _ (Nat.le_refl _)) rfl
          (.inr isLast)
      exact changed.note session.files _ session.hooks session.server.script

/-- Releasing a known tree: what the last release gives back is given back while it is live. -/
theorem releaseTree (orderly : Orderly session) {tree : TreeRef} {handle : Handle ConnectedTree}
    (found : session.tree? tree = some handle) (keeps : 0 < handle.keepers) :
    Orderly (session.releaseTree tree).2 := by
  -- The handle is put back with one reference less.
  have stored : session.putTree tree handle.released =
      { session with trees := session.trees.modify tree.index Handle.released } := by
    rw [← Table.setIfInBounds_eq_modify Handle.released found]
    rfl
  unfold Session.releaseTree
  rw [found]
  simp only
  rcases handle.release_cases (Session.treeHome tree) session with
    ⟨unheld, event, outcome⟩ | ⟨last, event, outcome⟩ | ⟨more, outcome⟩
  · rw [outcome]
    exact orderly.note session.files _ session.hooks session.server.script
  · rw [outcome]
    simp only [Session.treeHome, stored]
    exact orderly.disconnect found last keeps _
  · rw [outcome]
    simp only [Session.treeHome, stored]
    -- The handle keeps a reference, so it stays open or closed.
    have sameClosed : handle.released.closed = handle.closed := by
      have others : handle.refs ≠ 1 := by omega
      simp [Handle.released, others]
    refine orderly.modifyTree found ?_ rfl (.inl sameClosed)
    obtain ⟨generation, made, epoch, closed, usable⟩ := orderly.handles tree.index handle found
    refine ⟨generation, made, epoch, ?_, by rw [sameClosed]; exact usable⟩
    rw [sameClosed, closed]
    simp only [Handle.released]
    omega

/-- While no tree can be shared no known tree is usable. -/
theorem unusable (orderly : Orderly session) (alone : session.reusable? = none) {place : Nat}
    {handle : Handle ConnectedTree} (found : session.trees[place]? = some handle)
    (isOpen : handle.closed = false) (keeps : 0 < handle.keepers) :
    handle.resource.epoch ≠ session.resets := by
  -- A usable tree would be the current one, and valid, so it could be shared.
  intro seen
  have order := orderly.handles place handle found
  obtain ⟨isLast, usable⟩ := order.usable isOpen keeps seen
  obtain ⟨other, there, otherLast, isThere, _, current, _⟩ := orderly.live usable
  obtain rfl : other = place := by omega
  have held : handle.refs ≠ 0 := fun none => by simp [order.closed.mpr none] at isOpen
  have valid : handle.isValid session.link = true := by
    simp [Handle.isValid, isOpen, held, order.generation, Session.link, isLast, usable]
  have here : session.tree? ⟨other⟩ = some handle := found
  have shared : session.reusable? = some ⟨other⟩ := by
    simp [Session.reusable?, current, Session.isTreeKnown, Session.isTreeValid, here, keeps, valid]
  simp [shared] at alone

/-- Connecting the share while no tree can be shared. -/
theorem connect (orderly : Orderly session) (alone : session.reusable? = none) :
    Orderly session.connect.2 := by
  rcases outcome : session.connect with ⟨result, after⟩
  cases result with
  -- Without a tree only a request was sent.
  | error fault =>
    obtain ⟨answer, answered, noTree⟩ := Session.connect_error outcome
    have asked := orderly.exchange none (.treeConnect session.sharePath) .plain
      (by simp [Request.isTreeConnect]) rfl
    rw [answered] at asked
    exact asked fun _ => noTree
  | ok tree =>
    obtain ⟨tid, later, log, answered, rfl, rfl⟩ := Session.connect_ok outcome
    obtain ⟨pool, server, written, sent, isTid, isRequest, _, recorded, passed⟩ :=
      session.exchange_cases none (.treeConnect session.sharePath) .plain
    rw [answered] at passed
    simp only at passed
    rcases passed with ⟨_, isLater⟩ | ⟨loses, _⟩
    · clear outcome answered
      subst isLater
      have connects : (Passage.asked sent (.ok (.treeConnect tid))).connected? = some tid := by
        simp [Passage.connected?, isRequest, Request.isTreeConnect]
      have size := orderly.generations
      -- The new handle comes last, and every earlier one is closed, unknown or overtaken.
      refine ⟨by simpa using size, ?_, ?_, ?_, ?_⟩
      · intro place handle found
        simp only [Array.getElem?_push] at found
        by_cases isNew : place = session.trees.size
        · rw [if_pos isNew, Option.some.injEq] at found
          subst found
          exact ⟨by simp [isNew, size], by simp [isNew, size], Nat.le_refl _, by simp,
            fun _ _ _ => ⟨by simp [isNew, size], rfl⟩⟩
        · rw [if_neg isNew] at found
          obtain ⟨generation, made, epoch, closed, _⟩ := orderly.handles place handle found
          refine ⟨generation, made, epoch, closed, fun isOpen keeps seen => ?_⟩
          exact (orderly.unusable alone found isOpen keeps seen).elim
      · intro _
        refine ⟨session.trees.size, _, by simp [size], Array.getElem?_push_size, rfl, rfl, ?_⟩
        simpa using LiveTree.connected session.passages.toList connects
      · simp [recorded, orderly.recorded]
      · have asks := orderly.asks.ask sent (.ok (.treeConnect tid))
          (by simp [isRequest, Request.isTreeConnect])
        simpa using asks
    · simp [Passage.loses] at loses

/-- A change of a handle that neither opens nor closes it, and after which nobody else knows it. -/
theorem recount (orderly : Orderly session) {place : Nat} {handle : Handle ConnectedTree}
    (found : session.trees[place]? = some handle)
    {change : Handle ConnectedTree → Handle ConnectedTree}
    (same : (change handle).resource = handle.resource ∧
      (change handle).generation = handle.generation ∧ (change handle).closed = handle.closed)
    (held : (change handle).refs = 0 ↔ handle.refs = 0)
    (keeps : 0 < (change handle).keepers → 0 < handle.keepers) :
    Orderly { session with trees := session.trees.modify place change } := by
  -- Each clause reads one of the fields that stay, or the counts that are given.
  obtain ⟨sameResource, sameGeneration, sameClosed⟩ := same
  obtain ⟨generation, made, epoch, closed, usable⟩ := orderly.handles place handle found
  refine orderly.modifyTree found ⟨?_, ?_, ?_, ?_, ?_⟩ sameResource (.inl sameClosed)
  · rw [sameGeneration]
    exact generation
  · rw [sameResource]
    exact made
  · rw [sameResource]
    exact epoch
  · rw [sameClosed, held]
    exact closed
  · rw [sameClosed, sameResource]
    exact fun isOpen known seen => usable isOpen (keeps known) seen

/-- Sharing an open tree that is known. -/
theorem share (orderly : Orderly session) {place : Nat} {handle : Handle ConnectedTree}
    (found : session.trees[place]? = some handle) (isOpen : handle.closed = false)
    (keeps : 0 < handle.keepers) :
    Orderly { session with trees := session.trees.modify place Handle.shared } := by
  -- An open handle has a reference, and keeps it.
  have held : handle.refs ≠ 0 := fun none => by
    simp [(orderly.handles place handle found).closed.mpr none] at isOpen
  refine orderly.recount found ⟨rfl, rfl, rfl⟩ ?_ fun _ => keeps
  simp only [Handle.shared]
  omega

/-- Knowing a tree at a further place. -/
theorem keep (orderly : Orderly session) {tree : TreeRef} {handle : Handle ConnectedTree}
    (found : session.tree? tree = some handle) (keeps : 0 < handle.keepers) :
    Orderly (session.keepTree tree) := by
  -- To be known once more does not change that it was known.
  rw [Session.keepTree_eq]
  exact orderly.recount found ⟨rfl, rfl, rfl⟩ Iff.rfl fun _ => keeps

/-- Forgetting a tree at a place. -/
theorem forget (orderly : Orderly session) {place : Nat} {handle : Handle ConnectedTree}
    (found : session.trees[place]? = some handle) :
    Orderly { session with trees := session.trees.modify place Handle.forget } := by
  -- Whoever is still known behind the forgetting was known before it.
  refine orderly.recount found ⟨rfl, rfl, rfl⟩ Iff.rfl fun known => ?_
  simp only [Handle.forget] at known
  omega

/-- Acquiring the connected tree, or connecting the share. -/
theorem acquire (orderly : Orderly session) : Orderly session.acquire.2 := by
  -- Either the current tree is shared, or nothing stands in the way of a new one.
  rcases session.acquire_cases with ⟨tree, after, shared, taken, outcome⟩ | ⟨alone, outcome⟩
  · rw [outcome]
    obtain ⟨_, handle, found, keeps, _, isOpen⟩ := Session.reusable_some shared
    obtain ⟨_, rfl⟩ := Session.acquireTree_ok taken
    exact orderly.share found isOpen keeps
  · rw [outcome]
    exact orderly.connect alone

/-- Releasing a file whose tree is known: what the last release gives back is given back while its
tree is live. -/
theorem releaseFile (orderly : Orderly session) {file : FileRef} {handle : Handle OpenFile}
    {owner : Handle ConnectedTree} (found : session.file? file = some handle)
    (owned : session.tree? handle.resource.tree = some owner) (keeps : 0 < owner.keepers) :
    Orderly (session.releaseFile file).2 := by
  unfold Session.releaseFile
  rw [found]
  simp only
  -- Only the last release of the file reaches its tree.
  rcases handle.release_cases (Session.fileHome file) session with
    ⟨unheld, event, outcome⟩ | ⟨last, event, outcome⟩ | ⟨more, outcome⟩
  · rw [outcome]
    exact orderly.note session.files _ session.hooks session.server.script
  · rw [outcome]
    have stored : Orderly ((session.putFile file handle.released).note event) :=
      orderly.note _ _ session.hooks session.server.script
    have stillOwned : ((session.putFile file handle.released).note event).tree?
        handle.resource.tree = some owner := owned
    simp only [Session.fileHome, Session.closeFile]
    split
    · -- The request that closes the file leaves the table of trees alone.
      have sent := stored.send handle.resource.tree (.close handle.resource.fid) .cleanup rfl
      have trees := (((session.putFile file handle.released).note event).tables_send
        handle.resource.tree (.close handle.resource.fid) .cleanup).1
      refine sent.releaseTree ?_ keeps
      rw [Session.tree?, trees]
      exact stillOwned
    · have noted := stored.note (session.putFile file handle.released).files
        (((session.putFile file handle.released).note event).log.push
          (.fileGone handle.resource.path handle.resource.fid)) session.hooks session.server.script
      exact noted.releaseTree stillOwned keeps
  · rw [outcome]
    exact orderly.note _ session.log session.hooks session.server.script

end Orderly

/-- Every deal that leaves tree requests to the session keeps it orderly. -/
theorem Deal.orderly {before after : Session × Multiset Stake} (deal : Deal .careless before after)
    (known : Known before.1.trees before.1.files before.2) (orderly : Orderly before.1) :
    Orderly after.1 := by
  -- One case for each use of a session; whoever has a stake in a handle knows it.
  cases deal with
  | @note session stakes log script => exact orderly.note _ log session.hooks script
  | @call session stakes licensed hooks =>
    exact orderly.note session.files session.log hooks session.server.script
  | invalidate => exact orderly.invalidate
  | acquire acquired =>
    have after := orderly.acquire
    rwa [acquired] at after
  | refused failed =>
    have after := orderly.acquire
    rwa [failed] at after
  | share isKnown taken =>
    obtain ⟨there, isThere, keeps⟩ := known.exists_tree isKnown
    obtain ⟨⟨handle, found, isOpen⟩, rfl⟩ := Session.acquireTree_ok taken
    obtain rfl := Option.some.inj (isThere.symm.trans found)
    exact orderly.share found isOpen keeps
  | keep isKnown =>
    obtain ⟨handle, found, keeps⟩ := known.exists_tree isKnown
    exact orderly.keep found keeps
  | keepActive active =>
    obtain ⟨_, handle, found, keeps, _⟩ := Session.active_some active
    exact orderly.keep found keeps
  | keepOwner isKnown found =>
    obtain ⟨file, same, keeps⟩ := known.exists_file isKnown
    rw [Option.some.inj (same.symm.trans found)] at keeps
    obtain ⟨owner, owned, ownerKeeps⟩ := known.exists_owner found keeps
    exact orderly.keep owned ownerKeeps
  | @forget session stakes tree =>
    obtain ⟨handle, found, _⟩ := known.exists_tree (Multiset.mem_cons_self _ _)
    obtain ⟨log, forgotten⟩ := session.forgetTree_eq tree
    simp only [forgotten]
    exact (orderly.forget found).note _ log session.hooks session.server.script
  | release isKnown =>
    obtain ⟨handle, found, keeps⟩ := known.exists_tree (Multiset.mem_cons_of_mem isKnown)
    exact orderly.releaseTree found keeps
  | overRelease _ isKnown =>
    obtain ⟨handle, found, keeps⟩ := known.exists_tree isKnown
    exact orderly.releaseTree found keeps
  | closeTree licensed => exact licensed.elim
  | send request delivery licensed isKnown =>
    have plain : request.isTreeRequest = false := by
      cases isTree : request.isTreeRequest with
      | false => rfl
      | true => exact (licensed.trees isTree).elim
    exact orderly.send _ request delivery plain
  | adopt isKnown adopted =>
    obtain ⟨there, isThere, keeps⟩ := known.exists_tree isKnown
    obtain ⟨⟨owner, found, isOpen⟩, rfl, log, rfl⟩ := Session.adoptFile_ok adopted
    obtain rfl := Option.some.inj (isThere.symm.trans found)
    exact (orderly.share found isOpen keeps).note _ log _ _
  | shareFile isKnown taken =>
    obtain ⟨_, rfl⟩ := Session.acquireFile_ok taken
    exact orderly.note _ _ _ _
  | releaseFile isKnown =>
    obtain ⟨handle, found, keeps⟩ := known.exists_file (Multiset.mem_cons_of_mem isKnown)
    obtain ⟨owner, owned, ownerKeeps⟩ := known.exists_owner found keeps
    exact orderly.releaseFile found owned ownerKeeps
  | overReleaseFile licensed isKnown =>
    obtain ⟨handle, found, keeps⟩ := known.exists_file isKnown
    obtain ⟨owner, owned, ownerKeeps⟩ := known.exists_owner found keeps
    exact orderly.releaseFile found owned ownerKeeps
  | abandonFile licensed file => exact orderly
  | @forgetFile session stakes file =>
    obtain ⟨handle, found, keeps⟩ := known.exists_file (Multiset.mem_cons_self _ _)
    obtain ⟨owner, owned, _⟩ := known.exists_owner found keeps
    obtain ⟨log, forgotten⟩ := Session.forgetFile_eq found
    simp only [forgotten]
    split
    · exact (orderly.forget owned).note _ log session.hooks session.server.script
    · exact orderly.note _ log session.hooks session.server.script

end SmbBrowser
