import SmbBrowser.Proofs.Session.Ranked

/-!
The chronicle of a session: what passed between the two sides tells how often the share was
connected, which connecting made which tree handle, and whether the connection was lost since.
-/

namespace SmbBrowser

/-- A tree was connected. -/
def Passage.connects (passage : Passage) : Bool := passage.connected?.isSome

/-- The connecting that made the tree handle at a place comes behind as many others as there are
places before, and this is what passed behind it. -/
def MadeBy (passages : List Passage) (place : Nat) (tid : TreeId) (behind : List Passage) : Prop :=
  ∃ front connecting, passages = front ++ connecting :: behind ∧
    connecting.connected? = some tid ∧ front.countP Passage.connects = place

/-- What made a tree handle stays what made it, and what passes later comes behind it. -/
theorem MadeBy.append {passages behind : List Passage} {place : Nat} {tid : TreeId}
    (made : MadeBy passages place tid behind) (fresh : List Passage) :
    MadeBy (passages ++ fresh) place tid (behind ++ fresh) := by
  -- The connecting and all before it stay where they are.
  obtain ⟨front, connecting, rfl, connects, earlier⟩ := made
  exact ⟨front, connecting, by simp, connects, earlier⟩

/-- Passages in which no tree is connected, and every loss is counted. -/
structure Unconnecting (passages : List Passage) : Prop where
  attentive : Attentive passages
  none : ∀ passage ∈ passages, passage.connects = false

/-- Where nothing passes no tree is connected. -/
theorem Unconnecting.nothing : Unconnecting [] :=
  -- There is no passage to look at.
  ⟨attentive_nil, by simp⟩

/-- What connects no tree leaves the number of connectings as it is. -/
theorem Unconnecting.countP_append {fresh : List Passage} (unconnecting : Unconnecting fresh)
    (passages : List Passage) :
    (passages ++ fresh).countP Passage.connects = passages.countP Passage.connects := by
  -- None of the fresh passages is counted.
  have none : fresh.countP Passage.connects = 0 := by
    refine List.countP_eq_zero.mpr fun passage listed => ?_
    simp [unconnecting.none passage listed]
  rw [List.countP_append, none, Nat.add_zero]

section Exchanged

variable {sent : SentRequest} {answer : Except Fault Response}

/-- Only a request to connect, answered with a tree, connects one. -/
theorem unconnecting_exchanged (other : sent.request.isTreeConnect = false ∨
    ∀ tid, answer ≠ .ok (.treeConnect tid)) : Unconnecting (exchanged sent answer) := by
  refine ⟨attentive_exchanged sent answer, fun passage listed => ?_⟩
  -- What passes is the answer and perhaps the loss behind it, and a loss connects nothing.
  rcases mem_exchanged sent answer listed with rfl | ⟨rfl, _⟩
  · unfold Passage.connects Passage.connected?
    split
    · rename_i tid same
      simp only [Passage.asked.injEq] at same
      obtain ⟨rfl, isTree⟩ := same
      rcases other with notConnect | noTree
      · simp [notConnect]
      · exact absurd isTree (noTree tid)
    · rfl
  · rfl

/-- A request that is no tree request does not connect a tree. -/
theorem not_isTreeConnect_of_plain {request : Request} (plain : request.isTreeRequest = false) :
    request.isTreeConnect = false := by
  -- To connect a tree is one of the two tree requests.
  cases request <;> first | rfl | simp [Request.isTreeRequest] at plain

end Exchanged

/-- A tree handle was made by the connecting that its place tells, and has seen every loss exactly
if there was none behind that. -/
def Handle.TellsConnecting (passages : List Passage) (losses place : Nat)
    (handle : Handle ConnectedTree) : Prop :=
  ∃ behind, MadeBy passages place handle.resource.tid behind ∧
    (handle.resource.epoch = losses ↔ ∀ passage ∈ behind, passage.loses = false)

/-- What the passages tell of a session whose user leaves the tree requests to the handles. -/
structure Chronicle (session : Session) : Prop where
  generations : session.generation = session.passages.toList.countP Passage.connects
  trees : Table.AtEach (Handle.TellsConnecting session.passages.toList session.resets) session.trees

namespace Chronicle

variable {session : Session}

/-- The chronicle of a session that has not connected yet is empty. -/
theorem new (settings : Settings) (server : Playback) (sharePath oemDomain : String) :
    Chronicle (.new settings server sharePath oemDomain) where
  -- There is neither a handle nor a passage.
  generations := rfl
  trees place handle found := by simp [Session.new] at found

/-- What passes without a connecting is told behind every connecting. -/
theorem undergo (chronicle : Chronicle session) (numbered : Numbered session) (pool : ScratchPool)
    (server : Playback) (log : Array Event) {fresh : List Passage}
    (unconnecting : Unconnecting fresh) : Chronicle (session.undergo pool server log fresh) where
  generations := by
    simp only [Session.undergo, Array.toList_append, unconnecting.countP_append]
    exact chronicle.generations
  trees place handle found := by
    obtain ⟨behind, made, seen⟩ := chronicle.trees place handle found
    have epoch := (numbered.trees place handle found).2.2
    refine ⟨behind ++ fresh, by simpa [Session.undergo] using made.append fresh, ?_⟩
    simp only [Session.undergo, List.mem_append]
    -- A handle has seen every loss if it had before and there was none since.
    constructor
    · intro same passage listed
      rcases listed with early | late
      · exact seen.mp (by omega) passage early
      · exact unconnecting.attentive.mp (by omega) passage late
    · intro spared
      have before := seen.mpr fun passage early => spared passage (.inl early)
      have since := unconnecting.attentive.mpr fun passage late => spared passage (.inr late)
      omega

/-- Giving the current tree up leaves the chronicle as it is. -/
theorem detach (chronicle : Chronicle session) (generation : Nat) :
    Chronicle (session.detach generation) := by
  unfold Session.detach
  -- The handles, the losses and what passed are the same in both cases.
  split
  · exact ⟨chronicle.generations, chronicle.trees⟩
  · exact chronicle

/-- A change of a tree handle that leaves its tree alone leaves the chronicle true. -/
theorem modifyTree (chronicle : Chronicle session) {tree : TreeRef} {handle : Handle ConnectedTree}
    (found : session.tree? tree = some handle)
    {change : Handle ConnectedTree → Handle ConnectedTree}
    (same : (change handle).resource = handle.resource) :
    Chronicle { session with trees := session.trees.modify tree.index change } where
  generations := chronicle.generations
  trees := by
    -- What is told of a handle is told of its tree only.
    refine chronicle.trees.modify found ?_
    rw [Handle.TellsConnecting, same]
    exact chronicle.trees tree.index handle found

/-- Giving a tree back keeps the chronicle. -/
theorem disconnect (chronicle : Chronicle session) (numbered : Numbered session)
    (tree : ConnectedTree) : Chronicle (Session.disconnect tree session).2 := by
  obtain ⟨pool, server, log, fresh, given, sent⟩ := Session.disconnect_undergo tree session
  rw [given]
  refine (chronicle.undergo numbered pool server log ?_).detach tree.generation
  -- Whether the server is asked or not, it is not asked to connect.
  rcases sent with ⟨_, scratch, answer, rfl⟩ | ⟨_, rfl⟩
  · exact unconnecting_exchanged (.inl rfl)
  · exact .nothing

/-- The connecting that is answered with a tree makes the handle at the end of the table. -/
theorem connect (chronicle : Chronicle session) (numbered : Numbered session) :
    Chronicle session.connect.2 := by
  obtain ⟨pool, server, log, scratch, answer, fresh, passed, outcome⟩ := session.connect_undergo
  rcases outcome with ⟨fault, outcome, noTree⟩ | ⟨tid, named, outcome⟩
  · rw [outcome, passed]
    exact chronicle.undergo numbered pool server log (unconnecting_exchanged (.inr noTree))
  · rw [outcome, passed, named]
    have single : exchanged ⟨none, .treeConnect session.sharePath, .plain, scratch⟩
        (.ok (.treeConnect tid)) =
          [.asked ⟨none, .treeConnect session.sharePath, .plain, scratch⟩ (.ok (.treeConnect tid))] :=
      rfl
    rw [single]
    constructor
    · simp only [Session.undergo, Array.toList_append, List.countP_append, chronicle.generations]
      rfl
    · simp only [Session.undergo, Array.toList_append]
      refine Table.AtEach.push ?_ ?_
      · -- An earlier handle has one more connecting behind it, and no more losses.
        intro place handle found
        obtain ⟨behind, made, seen⟩ := chronicle.trees place handle found
        refine ⟨_, made.append _, ?_⟩
        have unlost : lossesIn [Passage.asked ⟨none, .treeConnect session.sharePath, .plain, scratch⟩
            (.ok (.treeConnect tid))] = 0 := rfl
        simp [seen, unlost, or_imp, forall_and, Passage.loses]
      · refine ⟨[], ⟨session.passages.toList, _, rfl, rfl, ?_⟩, ?_⟩
        · rw [← chronicle.generations, numbered.generations]
        · simp [lossesIn, Passage.isLost]

end Chronicle

/-- Every stroke keeps the chronicle, unless tree requests are put through by hand. -/
theorem Stroke.chronicle {licence : Licence} (handled : ¬ licence.treeRequests)
    {before after : Session} (stroke : Stroke licence before after) (ranked : Ranked before)
    (chronicle : Chronicle before) : Chronicle after := by
  -- All strokes but connecting pass something that connects no tree, or nothing.
  cases stroke with
  | write log hooks script => exact ⟨chronicle.generations, chronicle.trees⟩
  | lose =>
    obtain ⟨log, lost⟩ := before.invalidate_undergo
    rw [lost]
    refine chronicle.undergo ranked.toNumbered _ _ log ⟨attentive_lost, ?_⟩
    intro passage listed
    rw [List.mem_singleton.mp listed]
    rfl
  | connect alone => exact chronicle.connect ranked.toNumbered
  | @ask tree handle request delivery licensed found valid =>
    -- Put through by hand, a tree request would connect a tree for which no handle is made.
    have plain : request.isTreeRequest = false :=
      Bool.eq_false_iff.mpr fun isTree => handled (licensed.trees isTree)
    obtain ⟨pool, server, log, scratch, asked⟩ :=
      before.exchange_undergo (some handle.resource.tid) request delivery
    rw [asked]
    exact chronicle.undergo ranked.toNumbered pool server log
      (unconnecting_exchanged (.inl (not_isTreeConnect_of_plain plain)))
  | recountTree change found recounted => exact chronicle.modifyTree found recounted.resource
  | closeTree found last =>
    have numbered := ranked.toNumbered.modifyTree found ⟨rfl, rfl⟩ Handle.settled_released
    exact (chronicle.modifyTree found rfl).disconnect numbered _
  | bypass licensed found => exact chronicle.disconnect ranked.toNumbered _
  | recountFile change found recounted => exact ⟨chronicle.generations, chronicle.trees⟩
  | makeFile file traced => exact ⟨chronicle.generations, chronicle.trees⟩
  -- The file handle changes first, of which the chronicle does not tell.
  | @closeFile file handle found last =>
    have closed : Chronicle
        { before with files := before.files.modify file.index Handle.released } :=
      ⟨chronicle.generations, chronicle.trees⟩
    have numbered := ranked.toNumbered.modifyFile found rfl Handle.settled_released
    obtain ⟨pool, server, log, fresh, asked, sent⟩ := Session.closeOnServer_undergo handle.resource
      { before with files := before.files.modify file.index Handle.released }
    rw [asked]
    refine closed.undergo numbered pool server log ?_
    rcases sent with ⟨owner, scratch, answer, _, _, rfl⟩ | ⟨_, rfl⟩
    · exact unconnecting_exchanged (.inl rfl)
    · exact .nothing

end SmbBrowser
