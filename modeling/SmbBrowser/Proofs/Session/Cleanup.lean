import SmbBrowser.Browse
import SmbBrowser.Proofs.Listing.Likeness
import SmbBrowser.Proofs.Session.Standing

/-!
Sessions whose scripts differ in nothing but the outcomes of giving something back. Until something
is given back nobody can tell one from the other.
-/

namespace SmbBrowser

/-- The kinds of the requests that only give back what the server holds. -/
def cleanupKinds : List String := ["find_close2", "close", "tree_disconnect"]

/-- Two scripts that expect the same requests in the same order, with outcomes that are the same as
well, but for those of giving something back. -/
def CleanupApart (one other : List Exchange) : Prop :=
  List.Forall₂ (fun mine others => others.expect = mine.expect ∧
    (mine.expect ∉ cleanupKinds → others.reply = mine.reply)) one other

/-- Both scripts wait for the same request. -/
theorem CleanupApart.head {one other : List Exchange} (apart : CleanupApart one other)
    {next : Exchange} (isNext : next ∈ other.head?) :
    ∃ first ∈ one.head?, next.expect = first.expect := by
  -- The outcomes at the head may differ, and the requests do not.
  cases apart with
  | nil => simp at isNext
  | cons same further =>
    obtain rfl : _ = next := by simpa using isNext
    exact ⟨_, rfl, same.1⟩

/-- Only a request that gives something back is of their kinds. -/
theorem Request.kind_notMem_cleanupKinds {request : Request} (lasting : request.givesBack = false) :
    request.kind ∉ cleanupKinds := by
  -- The requests that give something back are excluded, and every other kind has another name.
  cases request <;> simp [kind, cleanupKinds, givesBack] at lasting ⊢

/-- The server with another script. -/
def Playback.recast (server : Playback) (script : List Exchange) : Playback :=
  { server with script }

/-- What a request comes to that the script does not expect depends on what the script waits for. -/
theorem Playback.unscripted_recast (server : Playback) {script : List Exchange}
    (apart : CleanupApart server.script script) (request : Request) (tid : Option TreeId) :
    (server.recast script).unscripted request tid =
      ((server.unscripted request tid).1, (server.unscripted request tid).2.recast script) := by
  unfold unscripted
  cases request with
  | treeConnect path => rfl
  | treeDisconnect => rfl
  | _ =>
    -- A refusal tells which kind the script waits for.
    obtain ⟨dialect, own, sent, nextTree⟩ := server
    cases apart with
    | nil => rfl
    | cons same further =>
      -- Both scripts wait for a request of the same kind.
      simp only [recast, same.1]

/-- A request that gives nothing back is answered the same by both servers. -/
theorem Playback.exchange_recast (server : Playback) {script : List Exchange}
    (apart : CleanupApart server.script script) (tid : Option TreeId) {request : Request}
    (lasting : request.givesBack = false) (delivery : Delivery) (scratch : Nat) :
    ∃ rest, CleanupApart (server.exchange tid request delivery scratch).2.script rest ∧
      (server.recast script).exchange tid request delivery scratch =
        ((server.exchange tid request delivery scratch).1,
          (server.exchange tid request delivery scratch).2.recast rest) := by
  rcases server.front_cases request with ⟨reply, rest, front⟩ | unexpected
  · -- Both scripts wait for the request, and have the same outcome for it.
    rw [front] at apart
    cases apart with
    | @cons mine others _ further same left =>
      obtain ⟨expect, outcome⟩ := others
      obtain rfl : expect = request.kind := same.1
      obtain rfl : outcome = reply := same.2 (Request.kind_notMem_cleanupKinds lasting)
      have frontToo : (server.recast (⟨request.kind, outcome⟩ :: further)).script =
          ⟨request.kind, outcome⟩ :: further := rfl
      rw [exchange_expected front, exchange_expected frontToo]
      exact ⟨further, left, rfl⟩
  · -- Neither script waits for the request.
    have unexpectedToo : ∀ next ∈ script.head?, next.expect ≠ request.kind := by
      intro next isNext
      obtain ⟨first, isFirst, same⟩ := apart.head isNext
      rw [same]
      exact unexpected first isFirst
    rw [exchange_unexpected server _ _ _ _ unexpected,
      exchange_unexpected (server.recast script) _ _ _ _ unexpectedToo]
    -- Each server only records the request, and keeps its script.
    let recorded : Playback :=
      { server with sent := server.sent.push { tid, request, delivery, scratch } }
    exact ⟨script, by rwa [script_unscripted], recorded.unscripted_recast apart request tid⟩

namespace Session

variable {one other : Session} {script : List Exchange}

/-- The session with another script on its other side. -/
def recast (session : Session) (script : List Exchange) : Session :=
  { session with server := session.server.recast script }

/-- Sessions that differ in their scripts at most, and in these only in what comes of giving
something back. -/
def Apart (one other : Session) : Prop :=
  ∃ script, CleanupApart one.server.script script ∧ other = one.recast script

/-- Outcomes with the same answer, behind which the sessions differ no more than before. -/
structure SameAnswer {Answer : Type} (mine others : Answer × Session) : Prop where
  answer : others.1 = mine.1
  apart : Apart mine.2 others.2

/-- What outcomes with the same answer are. -/
theorem SameAnswer.both {Answer : Type} {mine others : Answer × Session}
    (same : SameAnswer mine others) : ∃ answer after later, mine = (answer, after) ∧
      others = (answer, later) ∧ Apart after later :=
  -- The common answer is named once for both.
  ⟨mine.1, mine.2, others.2, rfl, Prod.ext same.answer rfl, same.apart⟩

/-- The script is no affair of what an answer says about the connection. -/
theorem heed_recast (session : Session) (script : List Exchange) (request : Request)
    (answer : Except Fault Response) :
    (session.recast script).heed request answer = (session.heed request answer).recast script := by
  -- Giving the connection up changes what the client knows, and nothing of the server.
  have lost (session : Session) :
      (session.recast script).invalidate = session.invalidate.recast script := by
    unfold invalidate recast
    cases session.connected <;> rfl
  -- Only a failure of the transport and a status that tells of a loss give it up.
  unfold heed
  split
  · exact lost (session.note (.exchangeFailed request.kind _))
  · split
    · exact lost (session.note (.connectionLost request.kind _))
    · rfl
  · rfl

namespace Apart

/-- A request that gives nothing back is answered the same. -/
theorem exchange (apart : Apart one other) (tid : Option TreeId) {request : Request}
    (lasting : request.givesBack = false) (delivery : Delivery) :
    SameAnswer (one.exchange tid request delivery) (other.exchange tid request delivery) := by
  obtain ⟨script, differ, rfl⟩ := apart
  -- The request is recorded in the same words, and what the answer says is heeded behind that.
  let scratch := one.pool.take.1
  let asked := one.server.exchange tid request delivery scratch.size
  obtain ⟨rest, left, answered⟩ :=
    one.server.exchange_recast differ tid lasting delivery scratch.size
  let sent : SentRequest := { tid, request, delivery, scratch := scratch.size }
  let told := ({ one with pool := one.pool.take.2, server := asked.2 }.pass
    (.asked sent asked.1.1)).note asked.1.2
  have heeded : (told.recast rest).heed request asked.1.1 =
      (told.heed request asked.1.1).recast rest :=
    heed_recast told rest request asked.1.1
  have outcome : (one.recast script).exchange tid request delivery =
      (asked.1.1, (one.exchange tid request delivery).2.recast rest) := by
    -- Both lend the same buffer, since both have the same pool.
    have answeredToo : (one.recast script).server.exchange tid request delivery
        (one.recast script).pool.take.1.size = (asked.1, asked.2.recast rest) := answered
    simp only [Session.exchange, answeredToo]
    refine Prod.ext rfl ?_
    exact congrArg (fun after => { after with pool := (after.pool.giveBack scratch).2 }) heeded
  have server : (one.exchange tid request delivery).2.server = asked.2 :=
    server_heed told request asked.1.1
  rw [outcome]
  exact ⟨rfl, rest, by rwa [server], rfl⟩

/-- A request on a tree that gives nothing back is answered the same. -/
theorem send (apart : Apart one other) (tree : TreeRef) {request : Request}
    (lasting : request.givesBack = false) (delivery : Delivery) :
    SameAnswer (one.send tree request delivery) (other.send tree request delivery) := by
  -- Whether the tree is valid does not depend on the script.
  have same : other.tree? tree = one.tree? tree ∧ other.link = one.link := by
    obtain ⟨script, _, rfl⟩ := apart
    exact ⟨rfl, rfl⟩
  unfold Session.send
  rw [same.1, same.2]
  cases one.tree? tree with
  | none =>
    -- A tree that was never made is refused unasked.
    exact ⟨rfl, apart⟩
  | some handle =>
    simp only
    cases handle.ensureValid one.link with
    | error fault =>
      -- So is one that is closed, or whose connection is gone.
      exact ⟨rfl, apart⟩
    | ok _ =>
      apply apart.exchange
      exact lasting

/-- A tree is shared in both or in neither. -/
theorem acquireTree (apart : Apart one other) (tree : TreeRef) :
    SameAnswer (one.acquireTree tree) (other.acquireTree tree) := by
  obtain ⟨script, differ, rfl⟩ := apart
  -- The tables are the same in both sessions.
  have same : (one.recast script).tree? tree = one.tree? tree := rfl
  unfold Session.acquireTree
  rw [same]
  cases one.tree? tree with
  | none => exact ⟨rfl, script, differ, rfl⟩
  | some handle =>
    simp only
    cases handle.acquire with
    | error fault => exact ⟨rfl, script, differ, rfl⟩
    | ok shared => exact ⟨rfl, script, differ, rfl⟩

/-- A directory gets the same handle in both. -/
theorem adoptFile (apart : Apart one other) (tree : TreeRef) (fid : FileId) (path : String)
    (mode : OpenMode) :
    SameAnswer (one.adoptFile tree fid path mode) (other.adoptFile tree fid path mode) := by
  obtain ⟨answer, after, later, taken, takenToo, still⟩ := (apart.acquireTree tree).both
  unfold Session.adoptFile
  rw [taken, takenToo]
  cases answer with
  | error fault => exact ⟨rfl, still⟩
  | ok _ =>
    -- The handle is put at the same place of the same table.
    obtain ⟨script, differ, rfl⟩ := still
    exact ⟨rfl, script, differ, rfl⟩

/-- Whoever forgets a tree changes nothing of the scripts. -/
theorem forgetTree (apart : Apart one other) (tree : TreeRef) :
    Apart (one.forgetTree tree) (other.forgetTree tree) := by
  obtain ⟨script, differ, rfl⟩ := apart
  -- The tables are the same in both sessions.
  have same : (one.recast script).tree? tree = one.tree? tree := rfl
  unfold Session.forgetTree
  rw [same]
  cases one.tree? tree with
  | none => exact ⟨script, differ, rfl⟩
  | some handle =>
    simp only
    split <;> exact ⟨script, differ, rfl⟩

/-- Whoever forgets a file changes nothing of the scripts. -/
theorem forgetFile (apart : Apart one other) (file : FileRef) :
    Apart (one.forgetFile file) (other.forgetFile file) := by
  obtain ⟨script, differ, rfl⟩ := apart
  have same : (one.recast script).file? file = one.file? file := rfl
  unfold Session.forgetFile
  rw [same]
  cases one.file? file with
  | none => exact ⟨script, differ, rfl⟩
  | some handle =>
    simp only
    split
    · -- The last who knows a file forgets its tree as well.
      apply forgetTree
      split <;> exact ⟨script, differ, rfl⟩
    · exact ⟨script, differ, rfl⟩

/-- The share is connected with the same result. -/
theorem connect (apart : Apart one other) : SameAnswer one.connect other.connect := by
  have path : other.sharePath = one.sharePath := by
    obtain ⟨script, _, rfl⟩ := apart
    rfl
  -- Connecting asks for something, so that both servers answer the same.
  have lasting : Request.givesBack (.treeConnect one.sharePath) = false := rfl
  obtain ⟨answer, after, later, asked, askedToo, still⟩ :=
    (apart.exchange none lasting .plain).both
  unfold Session.connect
  rw [path, asked, askedToo]
  obtain ⟨script, differ, rfl⟩ := still
  rcases answer with fault | response
  · exact ⟨rfl, script, differ, rfl⟩
  · cases response <;> exact ⟨rfl, script, differ, rfl⟩

/-- A tree is acquired with the same result. -/
theorem acquire (apart : Apart one other) : SameAnswer one.acquire other.acquire := by
  -- Whether the current tree can be shared is told by the handles and the connection.
  have reusable : other.reusable? = one.reusable? := by
    obtain ⟨script, _, rfl⟩ := apart
    rfl
  unfold Session.acquire
  rw [reusable]
  cases one.reusable? with
  | none => exact apart.connect
  | some tree =>
    obtain ⟨answer, after, later, taken, takenToo, still⟩ := (apart.acquireTree tree).both
    simp only [taken, takenToo]
    cases answer with
    | ok _ => exact ⟨rfl, still⟩
    | error fault =>
      -- A tree that cannot be shared after all is replaced in both.
      exact still.connect

/-- The same listing is made for a place. -/
theorem listingOf_eq (apart : Apart one other) (locator : Locator) (options : ListOptions) :
    other.listingOf locator options = one.listingOf locator options := by
  -- The dialect is all that a listing has to know of the server.
  obtain ⟨script, _, rfl⟩ := apart
  rfl

end Apart

/-- Nobody who gives nothing back can tell the sessions from each other. -/
theorem apart_resemblance (tree : TreeRef) : Resemblance tree fun _ => Apart where
  -- Only a request that lasts has the same outcome on both sides; giving back is not asked here.
  files := by
    rintro _ one _ ⟨script, _, rfl⟩
    rfl
  loosen := id
  ask apart request lasting delivery :=
    ⟨(apart.send tree lasting delivery).answer, (apart.send tree lasting delivery).apart⟩
  noteAll := by
    rintro _ one _ ⟨script, differ, rfl⟩ events
    exact ⟨script, differ, rfl⟩
  noteHook := by
    rintro _ one _ ⟨script, differ, rfl⟩ label hook
    exact ⟨script, differ, rfl⟩
  adopt apart _ fid path mode := by
    have adopted := apart.adoptFile tree fid path mode
    exact ⟨adopted.answer, fun _ _ => adopted.apart⟩
  forget := Apart.forgetFile

end Session

end SmbBrowser
