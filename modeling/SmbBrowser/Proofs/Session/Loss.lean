import SmbBrowser.Proofs.Session.Tending

/-!
What a loss of the connection leaves: no handle made before is ever valid again, nothing is asked on
an earlier tree any more, and the next acquisition connects the share anew.
-/

namespace SmbBrowser

namespace Session

/-- What passes in one stroke: nothing, a loss, or one exchange. Every request that does not connect
is sent on a tree that is valid at first, or has seen every loss by then. -/
structure Passes (before after : Session) (fresh : List Passage) : Prop where
  passages : after.passages.toList = before.passages.toList ++ fresh
  single : fresh = [] ∨ fresh = [.lost] ∨ ∃ sent answer, fresh = exchanged sent answer
  resets : after.resets = before.resets + lossesIn fresh
  lost : lossesIn fresh ≠ 0 → after.connected = false
  addressed : ∀ sent ∈ requestsOf fresh, sent.tid = none ∨ ∃ tree handle,
    before.tree? tree = some handle ∧ sent.tid = some handle.resource.tid ∧
      (before.isTreeValid tree = true ∨ handle.resource.epoch = before.resets)

namespace Passes

variable {before : Session}

/-- When nothing passes, nothing is lost or asked. -/
theorem nothing {after : Session} (samePassages : after.passages = before.passages)
    (sameResets : after.resets = before.resets) : before.Passes after [] where
  -- No passage is fresh, so every clause is about nothing.
  passages := by simp [samePassages]
  single := .inl rfl
  resets := by simp [sameResets, lossesIn]
  lost some := absurd rfl some
  addressed sent listed := by simp [requestsOf] at listed

/-- One exchange passes, in which the request is addressed to nobody or to a tree of the session. -/
theorem asked {after : Session} {sent : SentRequest} {answer : Except Fault Response}
    (passages : after.passages.toList = before.passages.toList ++ exchanged sent answer)
    (resets : after.resets = before.resets + lossesIn (exchanged sent answer))
    (lost : lossesIn (exchanged sent answer) ≠ 0 → after.connected = false)
    (addressed : sent.tid = none ∨ ∃ tree handle, before.tree? tree = some handle ∧
      sent.tid = some handle.resource.tid ∧
        (before.isTreeValid tree = true ∨ handle.resource.epoch = before.resets)) :
    before.Passes after (exchanged sent answer) where
  passages := passages
  single := .inr (.inr ⟨sent, answer, rfl⟩)
  resets := resets
  lost := lost
  -- The one request among the passages is the one that was sent.
  addressed request listed := by
    rw [requestsOf_exchanged] at listed
    rw [List.mem_singleton.mp listed]
    exact addressed

/-- Every loss that is told of is counted. -/
theorem attentive {after : Session} {fresh : List Passage} (passes : before.Passes after fresh) :
    Attentive fresh := by
  -- A stroke passes nothing, one loss, or one exchange.
  rcases passes.single with rfl | rfl | ⟨sent, answer, rfl⟩
  · exact attentive_nil
  · exact attentive_lost
  · exact attentive_exchanged sent answer

end Passes

/-- A session that went through a loss is not connected. -/
theorem connected_undergo (session : Session) (pool : ScratchPool) (server : Playback)
    (log : Array Event) {fresh : List Passage} (lost : lossesIn fresh ≠ 0) :
    (session.undergo pool server log fresh).connected = false := by
  -- A loss that is counted takes the connection down.
  simp [undergo, lost]

/-- Giving a tree up connects nothing. -/
theorem connected_detach {session : Session} (generation : Nat)
    (lost : session.connected = false) : (session.detach generation).connected = false := by
  unfold detach
  -- The link goes down with the current tree, and is not touched for any other.
  split
  · rfl
  · exact lost

/-- Giving a tree up is no loss. -/
@[simp]
theorem resets_detach (session : Session) (generation : Nat) :
    (session.detach generation).resets = session.resets := by
  -- The current tree and the link change, and the count of losses does not.
  unfold detach
  split <;> rfl

/-- A tree is given back on its own number, by a session in which it has seen every loss. -/
theorem passes_disconnect {before middle : Session} {tree : TreeRef}
    {handle : Handle ConnectedTree} (found : before.tree? tree = some handle)
    (same : middle.passages = before.passages ∧ middle.resets = before.resets) :
    ∃ fresh, before.Passes (disconnect handle.resource middle).2 fresh := by
  obtain ⟨pool, server, log, fresh, given, sent⟩ := disconnect_undergo handle.resource middle
  rw [given]
  rcases sent with ⟨seen, scratch, answer, rfl⟩ | ⟨_, rfl⟩
  · -- The tree has seen every loss, so it may still be asked although it is closed.
    rw [same.2] at seen
    refine ⟨exchanged ⟨some handle.resource.tid, .treeDisconnect, .cleanup, scratch⟩ answer,
      .asked ?_ ?_ ?_ ?_⟩
    · rw [passages_detach, passages_undergo, same.1]
    · rw [resets_detach, undergo, same.2]
    · intro lost
      exact connected_detach _ (middle.connected_undergo pool server log lost)
    · exact .inr ⟨tree, handle, found, rfl, .inr seen.symm⟩
  · -- The tree has missed a loss, and the server hears nothing of it.
    refine ⟨[], .nothing ?_ ?_⟩
    · rw [passages_detach]
      simp [undergo, same.1]
    · rw [resets_detach]
      simp [undergo, lossesIn, same.2]

end Session

/-- In every stroke something passes, if only nothing. -/
theorem Stroke.passes {licence : Licence} {before after : Session}
    (stroke : Stroke licence before after) : ∃ fresh, before.Passes after fresh := by
  cases stroke with
  | write log hooks script => exact ⟨[], .nothing rfl rfl⟩
  | lose =>
    obtain ⟨log, lost⟩ := before.invalidate_undergo
    rw [lost]
    refine ⟨[.lost], Session.passages_undergo _ _ _ _ _, .inr (.inl rfl), rfl,
      before.connected_undergo _ _ _, ?_⟩
    intro sent listed
    simp [requestsOf, Passage.sent?] at listed
  | connect alone =>
    obtain ⟨pool, server, log, scratch, answer, fresh, rfl, came⟩ := before.connect_undergo
    rcases came with ⟨fault, came, _⟩ | ⟨tid, named, came⟩
    · rw [came]
      exact ⟨_, .asked (before.passages_undergo pool server log _) rfl
        (before.connected_undergo pool server log) (.inl rfl)⟩
    · -- An answer that names a tree tells of no loss.
      rw [came, named]
      exact ⟨_, .asked (before.passages_undergo pool server log _) rfl (fun lost => absurd rfl lost)
        (.inl rfl)⟩
  | @ask tree handle request delivery licensed found valid =>
    obtain ⟨pool, server, log, scratch, asked⟩ :=
      before.exchange_undergo (some handle.resource.tid) request delivery
    rw [asked]
    have isValid := Session.isTreeValid_iff.mpr ⟨handle, found, valid⟩
    exact ⟨_, .asked (before.passages_undergo pool server log _) rfl
      (before.connected_undergo pool server log) (.inr ⟨tree, handle, found, rfl, .inl isValid⟩)⟩
  | recountTree change found recounted => exact ⟨[], .nothing rfl rfl⟩
  | closeTree found last => exact Session.passes_disconnect found ⟨rfl, rfl⟩
  | bypass licensed found => exact Session.passes_disconnect found ⟨rfl, rfl⟩
  | recountFile change found recounted => exact ⟨[], .nothing rfl rfl⟩
  | makeFile file traced => exact ⟨[], .nothing rfl rfl⟩
  | @closeFile file handle found last =>
    obtain ⟨pool, server, log, fresh, asked, sent⟩ := Session.closeOnServer_undergo handle.resource
      { before with files := before.files.modify file.index Handle.released }
    rw [asked]
    rcases sent with ⟨owner, scratch, answer, isOwner, valid, rfl⟩ | ⟨_, rfl⟩
    · have isValid := Session.isTreeValid_iff.mpr ⟨owner, isOwner, valid⟩
      exact ⟨_, .asked (Session.passages_undergo _ pool server log _) rfl
        (Session.connected_undergo _ pool server log)
        (.inr ⟨_, owner, isOwner, rfl, .inl isValid⟩)⟩
    · exact ⟨[], .nothing (by simp [Session.undergo]) (by simp [Session.undergo, lossesIn])⟩

/-- What a session has left at a later moment, when its connection was lost on the way from before
to after. -/
structure Session.Bereft (before after later : Session) : Prop where
  /-- The tree handles that there were are invalid. -/
  trees : ∀ tree handle, before.tree? tree = some handle → later.isTreeValid tree = false
  /-- So are the file handles. -/
  files : ∀ file handle, before.file? file = some handle → later.isFileValid file = false
  /-- What was asked since connects the share, or was sent on a tree that there was not before. -/
  requests : ∃ fresh, later.passages.toList = after.passages.toList ++ fresh ∧
    ∀ sent ∈ requestsOf fresh, sent.tid = none ∨ ∃ tree handle, before.tree? tree = none ∧
      later.tree? tree = some handle ∧ sent.tid = some handle.resource.tid
  /-- While no tree was connected anew, acquiring one asks the server for it. -/
  reconnects : later.trees.size = before.trees.size → ∃ scratch answer,
    later.acquire.2.passages.toList = later.passages.toList ++
      exchanged ⟨none, .treeConnect later.sharePath, .plain, scratch⟩ answer

/-- Somewhere on the way from before to after a loss was told of. -/
def Session.TellsLoss (before after : Session) : Prop :=
  ∃ fresh passage, after.passages.toList = before.passages.toList ++ fresh ∧ passage ∈ fresh ∧
    passage.loses = true

/-- The connection of a ranked session was lost on the way from before to after. -/
structure Session.Loses (before after : Session) : Prop where
  ranked : Ranked before
  left : Ranked after
  aged : before.Aged after
  connected : after.connected = false
  resets : before.resets < after.resets

/-- A stroke in which a loss is told of loses the connection. -/
theorem Stroke.loses {licence : Licence} {before after : Session}
    (stroke : Stroke licence before after) (ranked : Ranked before)
    (told : before.TellsLoss after) : before.Loses after := by
  obtain ⟨fresh, passage, passages, listed, loses⟩ := told
  obtain ⟨others, passes⟩ := stroke.passes
  -- What passed in the stroke is determined by the session before and after.
  obtain rfl : others = fresh := List.append_cancel_left (passes.passages.symm.trans passages)
  -- A loss that was told of and not counted would be missed.
  have lost : lossesIn others ≠ 0 := by
    intro none
    have holds := passes.attentive.mp none passage listed
    rw [loses] at holds
    exact absurd holds (by decide)
  have counted := passes.resets
  exact ⟨ranked, stroke.ranked ranked, stroke.aged, passes.lost lost, by omega⟩

/-- Whatever request failed in a chain of strokes, one of them was its exchange. -/
theorem Strokes.exchange {licence : Licence} {start finish : Session}
    (strokes : Strokes licence start finish) {early late : List Passage} {sent : SentRequest}
    {fault : Fault} (told : finish.passages.toList =
      start.passages.toList ++ early ++ .asked sent (.error fault) :: late) :
    ∃ before after, Strokes licence start before ∧
      before.passages.toList = start.passages.toList ++ early ∧ Stroke licence before after ∧
      after.passages.toList = before.passages.toList ++ exchanged sent (.error fault) ∧
      Strokes licence after finish := by
  induction strokes generalizing late with
  | refl =>
    -- Nothing has passed yet.
    have length := congrArg List.length told
    simp only [List.length_append, List.length_cons] at length
    omega
  | @tail before finish strokes stroke ih =>
    obtain ⟨fresh, passes⟩ := stroke.passes
    -- The failure may be the one of the last stroke.
    have last (front : List Passage)
        (isEarly : start.passages.toList ++ early = before.passages.toList ++ front)
        (isFresh : fresh = front ++ .asked sent (.error fault) :: late) :
        front = [] ∧ fresh = exchanged sent (.error fault) := by
      rcases passes.single with rfl | rfl | ⟨asked, answer, rfl⟩
      · simp at isFresh
      · cases front <;> simp at isFresh
      · obtain ⟨isFirst, rfl, rfl⟩ := exchanged_eq_append _ _ isFresh
        exact ⟨isFirst, rfl⟩
    have passed := passes.passages
    rw [passed, List.append_eq_append_iff] at told
    rcases told with ⟨front, isEarly, isFresh⟩ | ⟨_ | ⟨passage, rest⟩, isBefore, isLate⟩
    · obtain ⟨rfl, rfl⟩ := last front isEarly isFresh
      rw [List.append_nil] at isEarly
      exact ⟨before, finish, strokes, isEarly.symm, stroke, passed, .refl⟩
    · rw [List.append_nil] at isBefore
      obtain ⟨_, rfl⟩ := last [] (by rw [List.append_nil, isBefore]) isLate.symm
      exact ⟨before, finish, strokes, isBefore, stroke, passed, .refl⟩
    · -- Otherwise it was told of before.
      obtain ⟨rfl, _⟩ := List.cons.inj isLate
      obtain ⟨early, late, reached, earlier, exchange, answered, further⟩ := ih isBefore
      exact ⟨early, late, reached, earlier, exchange, answered, further.tail stroke⟩

namespace Session.Loses

variable {before after later : Session}

/-- No tree from before a loss is valid again. -/
theorem tree (loses : before.Loses after) (aged : after.Aged later) {tree : TreeRef}
    {handle : Handle ConnectedTree} (found : before.tree? tree = some handle) :
    later.isTreeValid tree = false := by
  -- Right behind the loss nothing is valid, because nothing is connected.
  have invalid : after.isTreeValid tree = false := by
    refine Bool.eq_false_iff.mpr fun valid => ?_
    have connected := (loses.left.of_isTreeValid valid).1
    rw [loses.connected] at connected
    exact absurd connected (by decide)
  obtain ⟨behind, isBehind, _⟩ := loses.aged.trees tree.index handle found
  exact (loses.left.lostForGood aged).tree tree behind isBehind invalid

/-- No file from before a loss is valid again. -/
theorem file (loses : before.Loses after) (aged : after.Aged later) {file : FileRef}
    {handle : Handle OpenFile} (found : before.file? file = some handle) :
    later.isFileValid file = false := by
  -- The file tells a generation, which is worth nothing on a link that is down.
  have invalid : after.isFileValid file = false := by
    refine Bool.eq_false_iff.mpr fun valid => ?_
    obtain ⟨there, isThere, isValid⟩ := Session.isFileValid_iff.mp valid
    obtain ⟨made, isMade, _⟩ := loses.left.files file.index there isThere
    simp [Handle.isValid, isMade, Session.link, loses.connected] at isValid
  obtain ⟨behind, isBehind, _⟩ := loses.aged.files file.index handle found
  exact (loses.left.lostForGood aged).file file behind isBehind invalid

/-- Behind the loss nobody is asked to take a tree back that there was before. -/
theorem unseen (loses : before.Loses after) (aged : after.Aged later) {tree : TreeRef}
    {handle : Handle ConnectedTree} (isThere : later.tree? tree = some handle)
    (usable : later.isTreeValid tree = true ∨ handle.resource.epoch = later.resets) :
    before.tree? tree = none := by
  cases found : before.tree? tree with
  | none => rfl
  | some old =>
    rcases usable with valid | seen
    · rw [loses.tree aged found] at valid
      exact absurd valid (by decide)
    · -- The handle has seen no more losses than there were before.
      obtain ⟨behind, isBehind, older⟩ := (loses.aged.trans aged).trees tree.index old found
      obtain rfl := Option.some.inj (isBehind.symm.trans isThere)
      have epoch := (loses.ranked.trees tree.index old found).2.2
      have counted := loses.resets
      have since := aged.resets
      rw [older.resource] at seen
      omega

/-- Whatever is done behind the loss, each request connects or is sent on a further tree. -/
theorem requests {licence : Licence} (loses : before.Loses after)
    (strokes : Strokes licence after later) :
    ∃ fresh, later.passages.toList = after.passages.toList ++ fresh ∧
      ∀ sent ∈ requestsOf fresh, sent.tid = none ∨ ∃ tree handle, before.tree? tree = none ∧
        later.tree? tree = some handle ∧ sent.tid = some handle.resource.tid := by
  induction strokes with
  | refl => exact ⟨[], by simp, by simp [requestsOf]⟩
  | @tail middle later strokes stroke ih =>
    obtain ⟨early, passed, addressed⟩ := ih
    obtain ⟨late, passes⟩ := stroke.passes
    refine ⟨early ++ late, by rw [passes.passages, passed, List.append_assoc], ?_⟩
    intro sent listed
    rw [requestsOf, List.filterMap_append, List.mem_append] at listed
    rcases listed with early | late
    · -- The tree of an earlier request is still at its place.
      rcases addressed sent early with nobody | ⟨tree, handle, isNew, found, same⟩
      · exact .inl nobody
      · obtain ⟨behind, isBehind, older⟩ := stroke.aged.trees tree.index handle found
        exact .inr ⟨tree, behind, isNew, isBehind, by rw [older.resource]; exact same⟩
    · rcases passes.addressed sent late with nobody | ⟨tree, handle, found, same, usable⟩
      · exact .inl nobody
      · obtain ⟨behind, isBehind, older⟩ := stroke.aged.trees tree.index handle found
        have isNew := loses.unseen (Strokes.aged strokes) found usable
        exact .inr ⟨tree, behind, isNew, isBehind, by rw [older.resource]; exact same⟩

/-- Whatever follows a loss, nothing from before it is used any more. -/
theorem bereft {licence : Licence} (loses : before.Loses after)
    (strokes : Strokes licence after later) : before.Bereft after later where
  trees tree handle found := loses.tree strokes.aged found
  files file handle found := loses.file strokes.aged found
  requests := loses.requests strokes
  reconnects same := by
    refine later.acquire_asks fun tree _ => ?_
    -- A valid tree would be one that there was before.
    refine Bool.eq_false_iff.mpr fun valid => ?_
    obtain ⟨handle, found, _⟩ := Session.isTreeValid_iff.mp valid
    have within : tree.index < later.trees.size := (Array.getElem?_eq_some_iff.mp found).1
    have isNew := loses.unseen strokes.aged found (.inl valid)
    have outside : before.trees.size ≤ tree.index := Array.getElem?_eq_none_iff.mp isNew
    omega

end Session.Loses

/-- With time a table does not get shorter. -/
theorem Table.Aged.size_le {Resource : Type} {before after : Array (Handle Resource)}
    (aged : Table.Aged before after) : before.size ≤ after.size := by
  -- A handle behind the end of the later table would have no place there.
  by_contra shorter
  have within : after.size < before.size := by omega
  obtain ⟨later, isLater, _⟩ := aged after.size _ (Array.getElem?_eq_getElem within)
  simp at isLater

/-- Whoever is bereft of what there was is bereft of what there was before that. -/
theorem Session.Bereft.earlier {start before after later : Session}
    (bereft : before.Bereft after later) (aged : start.Aged before) (further : before.Aged later) :
    start.Bereft after later where
  trees tree handle found := by
    -- Every handle is still at its place when the connection is lost.
    obtain ⟨behind, isBehind, _⟩ := aged.trees tree.index handle found
    exact bereft.trees tree behind isBehind
  files file handle found := by
    obtain ⟨behind, isBehind, _⟩ := aged.files file.index handle found
    exact bereft.files file behind isBehind
  requests := by
    obtain ⟨fresh, passed, addressed⟩ := bereft.requests
    refine ⟨fresh, passed, fun sent listed => ?_⟩
    rcases addressed sent listed with nobody | ⟨tree, handle, isNew, found, same⟩
    · exact .inl nobody
    · -- A tree that is not there at the loss was not there before it either.
      refine .inr ⟨tree, handle, ?_, found, same⟩
      cases old : start.tree? tree with
      | none => rfl
      | some early =>
        obtain ⟨behind, isBehind, _⟩ := aged.trees tree.index early old
        exact absurd (isBehind.symm.trans isNew) (by simp)
  reconnects same := by
    -- If no tree came since then none came on the way to the loss.
    have grown := aged.trees.size_le
    have longer := further.trees.size_le
    exact bereft.reconnects (by omega)

end SmbBrowser
