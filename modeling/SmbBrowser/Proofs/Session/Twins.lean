import SmbBrowser.Proofs.Listing.Likeness

/-!
Twin sessions: they differ in nothing but how often their trees are counted and what they logged. As
long as a tree is held in both, nobody who reads through it can tell one from the other.
-/

namespace SmbBrowser

namespace Session

/-- The session with other tree handles and another log. -/
def retold (session : Session) (trees : Array (Handle ConnectedTree)) (log : Array Event) :
    Session :=
  { session with trees, log }

/-- A tree that is open and has so many references at least. -/
def Holds (session : Session) (tree : TreeRef) (count : Nat) : Prop :=
  ∃ handle, session.tree? tree = some handle ∧ handle.closed = false ∧ count ≤ handle.refs

/-- Sessions that differ in their tree handles and their logs at most, and in the handle of a tree
only in how it is counted. -/
structure Twins (tree : TreeRef) (one other : Session) : Prop where
  apart : ∃ trees log, other = one.retold trees log
  handles : ∀ mine others, one.tree? tree = some mine → other.tree? tree = some others →
    others.resource = mine.resource ∧ others.generation = mine.generation

variable {session one other : Session} {tree : TreeRef} {count : Nat}

/-- Tree handles and the log are no affair of a loss. -/
theorem invalidate_retold (session : Session) (trees : Array (Handle ConnectedTree))
    (log : Array Event) :
    ∃ later, (session.retold trees log).invalidate = session.invalidate.retold trees later := by
  -- Whether the loss is logged depends on the link, which both sessions share.
  unfold invalidate retold
  cases session.connected <;> exact ⟨_, rfl⟩

/-- Nor of what an answer says about the connection. -/
theorem heed_retold (session : Session) (trees : Array (Handle ConnectedTree)) (log : Array Event)
    (request : Request) (answer : Except Fault Response) :
    ∃ later, (session.retold trees log).heed request answer =
      (session.heed request answer).retold trees later := by
  unfold heed
  -- A broken exchange loses the connection, and so does a status that tells of it.
  split
  · rename_i text
    exact invalidate_retold (session.note (.exchangeFailed request.kind text)) trees
      (log.push (.exchangeFailed request.kind text))
  · rename_i status
    split
    · exact invalidate_retold (session.note (.connectionLost request.kind status)) trees
        (log.push (.connectionLost request.kind status))
    · exact ⟨log, rfl⟩
  · exact ⟨log, rfl⟩

/-- Nor of a request. -/
theorem exchange_retold (session : Session) (trees : Array (Handle ConnectedTree))
    (log : Array Event) (tid : Option TreeId) (request : Request) (delivery : Delivery) :
    ∃ later, (session.retold trees log).exchange tid request delivery =
      ((session.exchange tid request delivery).1,
        (session.exchange tid request delivery).2.retold trees later) := by
  -- The request is recorded in the same words, and what the answer says is heeded behind that.
  let scratch := session.pool.take.1
  let asked := session.server.exchange tid request delivery scratch.size
  obtain ⟨later, heeded⟩ := heed_retold
    (({ session with pool := session.pool.take.2, server := asked.2 }.pass
      (.asked { tid, request, delivery, scratch := scratch.size } asked.1.1)).note asked.1.2)
    trees (log.push asked.1.2) request asked.1.1
  refine ⟨later, Prod.ext rfl ?_⟩
  exact congrArg (fun after => { after with pool := (after.pool.giveBack scratch).2 }) heeded

namespace Holds

/-- Fewer references are held as well. -/
theorem mono {fewer : Nat} (held : session.Holds tree count) (less : fewer ≤ count) :
    session.Holds tree fewer := by
  -- The handle has more than enough references.
  obtain ⟨handle, found, isOpen, enough⟩ := held
  exact ⟨handle, found, isOpen, Nat.le_trans less enough⟩

/-- What leaves the trees alone lets nothing go. -/
theorem of_trees {after : Session} (held : session.Holds tree count)
    (same : after.trees = session.trees) : after.Holds tree count := by
  -- The handle is found where it was.
  obtain ⟨handle, found, isOpen, enough⟩ := held
  exact ⟨handle, by rw [tree?, same]; exact found, isOpen, enough⟩

/-- Nor does what changes handles only in who knows them. -/
theorem of_modify {after : Session} {place : Nat}
    {change : Handle ConnectedTree → Handle ConnectedTree} (held : session.Holds tree count)
    (changed : after.trees = session.trees.modify place change)
    (closed : ∀ handle, (change handle).closed = handle.closed)
    (refs : ∀ handle, handle.refs ≤ (change handle).refs) : after.Holds tree count := by
  obtain ⟨handle, found, isOpen, enough⟩ := held
  -- Only at that place is there another handle.
  by_cases here : place = tree.index
  · refine ⟨change handle, ?_, by rw [closed, isOpen], Nat.le_trans enough (refs handle)⟩
    rw [tree?, changed, Array.getElem?_modify, if_pos here]
    exact congrArg (Option.map change) found
  · refine ⟨handle, ?_, isOpen, enough⟩
    rw [tree?, changed, Array.getElem?_modify, if_neg here]
    exact found

/-- Sending a request lets no tree go. -/
theorem send (held : session.Holds tree count) (place : TreeRef) (request : Request)
    (delivery : Delivery) : (session.send place request delivery).2.Holds tree count :=
  -- It leaves the table of trees alone.
  held.of_trees (session.tables_send place request delivery).1

/-- Forgetting a tree gives no reference to it back. -/
theorem forgetTree (held : session.Holds tree count) (place : TreeRef) :
    (session.forgetTree place).Holds tree count := by
  -- The places that know a tree are counted apart from its references.
  obtain ⟨log, forgotten⟩ := session.forgetTree_eq place
  rw [forgotten]
  exact held.of_modify rfl (fun _ => rfl) fun _ => Nat.le_refl _

/-- One more place that knows a tree takes no reference. -/
theorem keepTree (held : session.Holds tree count) (place : TreeRef) :
    (session.keepTree place).Holds tree count := by
  -- Only the count of such places changes.
  rw [keepTree_eq]
  exact held.of_modify rfl (fun _ => rfl) fun _ => Nat.le_refl _

/-- Forgetting a file gives no reference to its tree back. -/
theorem forgetFile (held : session.Holds tree count) (file : FileRef) :
    (session.forgetFile file).Holds tree count := by
  cases found : session.file? file with
  | none =>
    have same : session.forgetFile file = session := by simp [Session.forgetFile, found]
    rwa [same]
  | some handle =>
    obtain ⟨log, forgotten⟩ := forgetFile_eq found
    rw [forgotten]
    -- With the last place that knew the file its tree is forgotten too, and keeps its references.
    split
    · exact held.of_modify rfl (fun _ => rfl) fun _ => Nat.le_refl _
    · exact held.of_trees rfl

/-- A tree that is held can be shared, and is held once more then. -/
theorem acquireTree (held : session.Holds tree count) :
    session.acquireTree tree =
        (.ok (), { session with trees := session.trees.modify tree.index Handle.shared }) ∧
      Holds { session with trees := session.trees.modify tree.index Handle.shared } tree
        (count + 1) := by
  obtain ⟨handle, found, isOpen, enough⟩ := held
  -- The handle is open, so the share is granted, and it counts the new reference.
  constructor
  · rw [← Table.setIfInBounds_eq_modify Handle.shared found]
    simp [Session.acquireTree, found, Handle.acquire, isOpen, putTree, Handle.shared]
  · refine ⟨handle.shared, ?_, isOpen, Nat.succ_le_succ enough⟩
    rw [tree?, Array.getElem?_modify, if_pos rfl]
    exact congrArg (Option.map Handle.shared) found

/-- A tree that is held twice is only counted when it is released once. -/
theorem releaseTree (held : session.Holds tree (count + 1)) (still : 0 < count) :
    session.releaseTree tree =
        (.ok (), { session with trees := session.trees.modify tree.index Handle.released }) ∧
      Holds { session with trees := session.trees.modify tree.index Handle.released } tree
        count := by
  obtain ⟨handle, found, isOpen, enough⟩ := held
  -- Some reference remains, so that the release does not close the tree.
  have others : handle.refs ≠ 1 := by omega
  constructor
  · rcases releaseTree_cases found with ⟨unheld, _⟩ | ⟨last, _⟩ | ⟨_, outcome⟩
    · omega
    · exact absurd last others
    · exact outcome
  · refine ⟨handle.released, ?_, by simp [Handle.released, isOpen, others], ?_⟩
    · rw [tree?, Array.getElem?_modify, if_pos rfl]
      exact congrArg (Option.map Handle.released) found
    · simp only [Handle.released]
      omega

end Holds

namespace Twins

/-- A session is a twin of itself. -/
theorem refl (tree : TreeRef) (session : Session) : Twins tree session session where
  -- The one handle at the place is the same handle.
  apart := ⟨session.trees, session.log, rfl⟩
  handles mine others found foundToo := by
    obtain rfl := Option.some.inj (found.symm.trans foundToo)
    exact ⟨rfl, rfl⟩

/-- Twins of twins are twins, if the tree is there in the one between them. -/
theorem trans {middle : Session} (twins : Twins tree one middle) (held : middle.Holds tree count)
    (further : Twins tree middle other) : Twins tree one other where
  apart := by
    obtain ⟨trees, log, rfl⟩ := twins.apart
    obtain ⟨later, last, rfl⟩ := further.apart
    exact ⟨later, last, rfl⟩
  handles mine others found foundToo := by
    -- The handle in between has what both of the others have.
    obtain ⟨between, isBetween, _⟩ := held
    obtain ⟨resource, generation⟩ := twins.handles mine between found isBetween
    obtain ⟨resourceToo, generationToo⟩ := further.handles between others isBetween foundToo
    exact ⟨resourceToo.trans resource, generationToo.trans generation⟩

/-- Twins are twins of each other. -/
theorem symm (twins : Twins tree one other) : Twins tree other one where
  apart := by
    obtain ⟨trees, log, rfl⟩ := twins.apart
    exact ⟨one.trees, one.log, rfl⟩
  -- The handles agree in both directions.
  handles mine others found foundToo := by
    obtain ⟨resource, generation⟩ := twins.handles others mine foundToo found
    exact ⟨resource.symm, generation.symm⟩

/-- One of the twins may count its trees anew. -/
theorem recount (twins : Twins tree one other) (place : Nat)
    (change : Handle ConnectedTree → Handle ConnectedTree)
    (resource : ∀ handle, (change handle).resource = handle.resource)
    (generation : ∀ handle, (change handle).generation = handle.generation) (log : Array Event) :
    Twins tree one (other.retold (other.trees.modify place change) log) where
  apart := by
    obtain ⟨trees, _, rfl⟩ := twins.apart
    exact ⟨trees.modify place change, log, rfl⟩
  handles mine others found foundToo := by
    simp only [tree?, retold, Array.getElem?_modify] at foundToo
    -- Only what is captured is compared, and the change leaves that alone.
    by_cases here : place = tree.index
    · rw [if_pos here] at foundToo
      obtain ⟨handle, isThere, rfl⟩ := Option.map_eq_some_iff.mp foundToo
      rw [resource, generation]
      exact twins.handles mine handle found isThere
    · rw [if_neg here] at foundToo
      exact twins.handles mine others found foundToo

/-- Both may count their trees anew in the same way, and log what they like. -/
theorem recountBoth (twins : Twins tree one other) (place : Nat)
    (change : Handle ConnectedTree → Handle ConnectedTree)
    (resource : ∀ handle, (change handle).resource = handle.resource)
    (generation : ∀ handle, (change handle).generation = handle.generation)
    (mine others : Array Event) :
    Twins tree (one.retold (one.trees.modify place change) mine)
      (other.retold (other.trees.modify place change) others) :=
  -- What is true of the other twin is true of the one by symmetry.
  ((twins.recount place change resource generation others).symm.recount place change resource
    generation mine).symm

/-- One of the twins may forget a tree. -/
theorem forgetTree (twins : Twins tree one other) (place : TreeRef) :
    Twins tree one (other.forgetTree place) := by
  -- Forgetting only counts.
  obtain ⟨log, forgotten⟩ := other.forgetTree_eq place
  rw [forgotten]
  exact twins.recount place.index Handle.forget (fun _ => rfl) (fun _ => rfl) log

/-- One of the twins may know a tree at one more place. -/
theorem keepTree (twins : Twins tree one other) (place : TreeRef) :
    Twins tree one (other.keepTree place) := by
  -- To be known only counts.
  rw [keepTree_eq]
  exact twins.recount place.index Handle.keep (fun _ => rfl) (fun _ => rfl) other.log

/-- A handle that is held in both is valid in both or in neither. -/
theorem isValid_eq (twins : Twins tree one other) {mine others : Handle ConnectedTree}
    (found : one.tree? tree = some mine) (foundToo : other.tree? tree = some others)
    (isOpen : mine.closed = false) (isOpenToo : others.closed = false) (held : 1 ≤ mine.refs)
    (heldToo : 1 ≤ others.refs) : others.isValid other.link = mine.isValid one.link := by
  obtain ⟨_, generation⟩ := twins.handles mine others found foundToo
  -- The link is not among what the twins differ in.
  have link : other.link = one.link := by
    obtain ⟨trees, log, rfl⟩ := twins.apart
    rfl
  have refs : mine.refs ≠ 0 := by omega
  have refsToo : others.refs ≠ 0 := by omega
  simp [Handle.isValid, isOpen, isOpenToo, refs, refsToo, generation, link]

/-- So is the tree. -/
theorem isTreeValid_eq (twins : Twins tree one other) (held : one.Holds tree 1)
    (heldToo : other.Holds tree 1) : other.isTreeValid tree = one.isTreeValid tree := by
  -- Each session finds an open handle there, and these are valid alike.
  obtain ⟨mine, found, isOpen, enough⟩ := held
  obtain ⟨others, foundToo, isOpenToo, enoughToo⟩ := heldToo
  simp only [isTreeValid, found, foundToo, Option.any_some]
  exact twins.isValid_eq found foundToo isOpen isOpenToo enough enoughToo

/-- A request is answered the same in both. -/
theorem send (twins : Twins tree one other) (held : one.Holds tree 1)
    (heldToo : other.Holds tree 1) (request : Request) (delivery : Delivery) :
    (other.send tree request delivery).1 = (one.send tree request delivery).1 ∧
      Twins tree (one.send tree request delivery).2 (other.send tree request delivery).2 := by
  obtain ⟨mine, found, isOpen, enough⟩ := held
  obtain ⟨others, foundToo, isOpenToo, enoughToo⟩ := heldToo
  have verdict := twins.isValid_eq found foundToo isOpen isOpenToo enough enoughToo
  obtain ⟨resource, _⟩ := twins.handles mine others found foundToo
  simp only [Session.send, found, foundToo, Handle.ensureValid, isOpen, isOpenToo, verdict,
    resource, Bool.false_eq_true, if_false]
  by_cases valid : mine.isValid one.link = true
  · -- The request goes out in both.
    simp only [if_pos valid]
    obtain ⟨trees, log, rfl⟩ := twins.apart
    obtain ⟨later, same⟩ :=
      one.exchange_retold trees log (some mine.resource.tid) request delivery
    rw [same]
    refine ⟨rfl, ⟨trees, later, rfl⟩, fun before behind found' foundToo' => ?_⟩
    rw [tree?, (one.tables_exchange _ _ _).1] at found'
    exact twins.handles before behind found' foundToo'
  · simp only [if_neg valid]
    exact ⟨trivial, twins⟩

/-- What is logged in one need not be logged in the other. -/
theorem relog (twins : Twins tree one other) (mine others : Array Event) :
    Twins tree { one with log := mine } { other with log := others } where
  -- The trees are the same as before.
  apart := by
    obtain ⟨trees, _, rfl⟩ := twins.apart
    exact ⟨trees, others, rfl⟩
  handles := twins.handles

/-- A tree that is held once more in both is only counted when both release it. -/
theorem releaseTree (twins : Twins tree one other) {fewer : Nat}
    (held : one.Holds tree (count + 1)) (still : 0 < count)
    (heldToo : other.Holds tree (fewer + 1)) (stillToo : 0 < fewer) :
    (one.releaseTree tree).1 = .ok () ∧ (other.releaseTree tree).1 = .ok () ∧
      Twins tree (one.releaseTree tree).2 (other.releaseTree tree).2 ∧
      (one.releaseTree tree).2.Holds tree count ∧
      (other.releaseTree tree).2.Holds tree fewer := by
  -- Neither release is the last one, so neither asks the server.
  obtain ⟨released, holds⟩ := held.releaseTree still
  obtain ⟨releasedToo, holdsToo⟩ := heldToo.releaseTree stillToo
  rw [released, releasedToo]
  exact ⟨rfl, rfl, twins.recountBoth tree.index Handle.released (fun _ => rfl) (fun _ => rfl)
    one.log other.log, holds, holdsToo⟩

/-- A file on the tree is closed with the same result in both. -/
theorem closeFile (twins : Twins tree one other) {fewer : Nat} {file : OpenFile}
    (onTree : file.tree = tree) (held : one.Holds tree (count + 1)) (still : 0 < count)
    (heldToo : other.Holds tree (fewer + 1)) (stillToo : 0 < fewer) :
    (Session.closeFile file other).1 = (Session.closeFile file one).1 ∧
      Twins tree (Session.closeFile file one).2 (Session.closeFile file other).2 ∧
      (Session.closeFile file one).2.Holds tree count ∧
      (Session.closeFile file other).2.Holds tree fewer := by
  subst onTree
  -- A tree that is held in both is valid in both or in neither.
  have valid := twins.isTreeValid_eq (held.mono (by omega)) (heldToo.mono (by omega))
  unfold Session.closeFile
  simp only [valid]
  split
  · -- The server is asked in both.
    obtain ⟨same, asked⟩ := twins.send (held.mono (by omega)) (heldToo.mono (by omega))
      (.close file.fid) .cleanup
    obtain ⟨released, releasedToo, twins, holds, holdsToo⟩ := asked.releaseTree
      (held.send file.tree (.close file.fid) .cleanup) still
      (heldToo.send file.tree (.close file.fid) .cleanup) stillToo
    simp only [same, released, releasedToo]
    exact ⟨trivial, twins, holds, holdsToo⟩
  · -- Without a valid tree the file is gone, which either session logs for itself.
    obtain ⟨released, releasedToo, twins, holds, holdsToo⟩ :=
      (twins.relog (one.log.push (.fileGone file.path file.fid))
        (other.log.push (.fileGone file.path file.fid))).releaseTree
        (held.of_trees rfl) still (heldToo.of_trees rfl) stillToo
    simp only [note, released, releasedToo]
    exact ⟨trivial, twins, holds, holdsToo⟩

/-- The files are no affair of what is apart. -/
theorem refile (twins : Twins tree one other) (files : Array (Handle OpenFile)) :
    Twins tree { one with files } { other with files } where
  -- The files are the same in both, whichever they are.
  apart := by
    obtain ⟨trees, log, rfl⟩ := twins.apart
    exact ⟨trees, log, rfl⟩
  handles := twins.handles

/-- Twins have the same files. -/
theorem files (twins : Twins tree one other) : other.files = one.files := by
  -- They differ in trees and log alone.
  obtain ⟨trees, log, rfl⟩ := twins.apart
  rfl

/-- Any file may be forgotten in both. -/
theorem forgetFile (twins : Twins tree one other) (file : FileRef) :
    Twins tree (one.forgetFile file) (other.forgetFile file) := by
  have sameFile : other.file? file = one.file? file := by rw [file?, file?, twins.files]
  cases found : one.file? file with
  | none =>
    simp only [Session.forgetFile, sameFile, found]
    exact twins
  | some handle =>
    obtain ⟨mine, forgotten⟩ := forgetFile_eq found
    obtain ⟨others, forgottenToo⟩ := forgetFile_eq (sameFile.trans found)
    rw [forgotten, forgottenToo, twins.files]
    have filed := twins.refile (one.files.modify file.index Handle.forget)
    -- The last place that knows the file forgets its tree in both.
    split
    · exact filed.recountBoth handle.resource.tree.index Handle.forget (fun _ => rfl)
        (fun _ => rfl) mine others
    · exact filed.relog mine others

/-- A tree that is held in both is shared in both for a file that was opened on it. -/
theorem adoptFile (twins : Twins tree one other) {fewer : Nat} (held : one.Holds tree count)
    (heldToo : other.Holds tree fewer) (fid : FileId) (path : String) (mode : OpenMode) :
    ∃ after later, one.adoptFile tree fid path mode = (.ok ⟨one.files.size⟩, after) ∧
      other.adoptFile tree fid path mode = (.ok ⟨one.files.size⟩, later) ∧
      Twins tree after later ∧ after.Holds tree (count + 1) ∧ later.Holds tree (fewer + 1) ∧
      ∃ handle, after.file? ⟨one.files.size⟩ = some handle ∧ handle.refs = 1 ∧
        handle.resource.tree = tree := by
  obtain ⟨shared, holds⟩ := held.acquireTree
  obtain ⟨sharedToo, holdsToo⟩ := heldToo.acquireTree
  let handle : Handle OpenFile :=
    { resource := { tree, fid, path, mode }
      generation := some one.generation
      traced := one.settings.traceResourceUsage }
  -- What both sessions know of the file is what they have in common.
  have generation : other.generation = one.generation := by
    obtain ⟨trees, log, rfl⟩ := twins.apart
    rfl
  have settings : other.settings = one.settings := by
    obtain ⟨trees, log, rfl⟩ := twins.apart
    rfl
  have counted := twins.recountBoth tree.index Handle.shared (fun _ => rfl) (fun _ => rfl)
    (one.log.push (.fileOpened path fid)) (other.log.push (.fileOpened path fid))
  have filed := counted.refile (one.files.push handle)
  refine ⟨_, _, ?_, ?_, filed, holds.of_trees rfl, holdsToo.of_trees rfl, handle, ?_, rfl, rfl⟩
  · simp only [Session.adoptFile, shared]
    rfl
  · simp only [Session.adoptFile, sharedToo]
    simp only [handle, note, retold, generation, settings, twins.files]
  · simp [file?]

end Twins

/-- Two twins that are read through a tree with an open directory or without one. -/
structure Paired (tree : TreeRef) (dir : Option FileRef) (one other : Session) : Prop where
  twins : Twins tree one other
  /-- The reader holds the tree, and so does the directory. -/
  held : one.Holds tree (1 + dir.toList.length)
  /-- In one of them somebody else does so, too. -/
  heldToo : other.Holds tree (2 + dir.toList.length)
  /-- The reader has the only handle on the directory. -/
  dir : ∀ file ∈ dir, ∃ handle, one.file? file = some handle ∧ handle.refs = 1 ∧
    handle.resource.tree = tree

namespace Paired

variable {dir : Option FileRef}

/-- Paired sessions have the same files. -/
theorem files (paired : Paired tree dir one other) : other.files = one.files := by
  -- They are twins.
  obtain ⟨trees, log, rfl⟩ := paired.twins.apart
  rfl

/-- Sessions that are paired with an open directory are paired without it. -/
theorem loosen (paired : Paired tree dir one other) : Paired tree none one other where
  -- Fewer references have to be held then.
  twins := paired.twins
  held := paired.held.mono (by simp)
  heldToo := paired.heldToo.mono (by simp)
  dir := by simp

/-- A request on the tree has the same answer in paired sessions, and leaves them paired. -/
theorem send (paired : Paired tree dir one other) (request : Request) (delivery : Delivery) :
    (other.send tree request delivery).1 = (one.send tree request delivery).1 ∧
      Paired tree dir (one.send tree request delivery).2 (other.send tree request delivery).2 := by
  -- For a request the reader's own reference is enough.
  obtain ⟨same, twins⟩ := paired.twins.send (paired.held.mono (by simp))
    (paired.heldToo.mono (by omega)) request delivery
  refine ⟨same, twins, paired.held.send tree request delivery,
    paired.heldToo.send tree request delivery, fun file listed => ?_⟩
  rw [file?, (one.tables_send tree request delivery).2]
  exact paired.dir file listed

/-- A directory that was opened is adopted in both of the paired sessions alike. -/
theorem adopt (paired : Paired tree none one other) (fid : FileId) (path : String)
    (mode : OpenMode) :
    (other.adoptFile tree fid path mode).1 = (one.adoptFile tree fid path mode).1 ∧
      ∀ dir, (one.adoptFile tree fid path mode).1 = .ok dir →
        Paired tree (some dir) (one.adoptFile tree fid path mode).2
          (other.adoptFile tree fid path mode).2 := by
  obtain ⟨after, later, adopted, adoptedToo, twins, held, heldToo, own⟩ :=
    paired.twins.adoptFile paired.held paired.heldToo fid path mode
  rw [adopted, adoptedToo]
  -- Each now holds the tree once more, for the directory.
  refine ⟨rfl, fun dir isDir => ⟨twins, held, heldToo, fun file listed => ?_⟩⟩
  obtain rfl := Option.mem_some_iff.mp listed
  obtain rfl := Except.ok.inj isDir
  exact own

/-- The last reference to a file gives the file back in the session that knows it as released. -/
theorem releaseFile_last {file : FileRef} {handle : Handle OpenFile}
    (found : session.file? file = some handle) (last : handle.refs = 1) :
    ∃ log, session.releaseFile file = Session.closeFile handle.resource
      { session with log, files := session.files.modify file.index Handle.released } := by
  unfold releaseFile
  rw [found]
  -- The last reference is the second of the three ways of a release.
  rcases handle.release_cases (fileHome file) session with
    ⟨unheld, _⟩ | ⟨_, event, outcome⟩ | ⟨more, _⟩
  · omega
  · refine ⟨session.log.push event, outcome.trans ?_⟩
    rw [← Table.setIfInBounds_eq_modify Handle.released found]
    rfl
  · omega

/-- The open directory is given back in both of the paired sessions alike. -/
theorem release {dir : FileRef} (paired : Paired tree (some dir) one other) :
    (other.releaseFile dir).1 = (one.releaseFile dir).1 ∧
      Paired tree none ((one.releaseFile dir).2.forgetFile dir)
        ((other.releaseFile dir).2.forgetFile dir) := by
  obtain ⟨handle, found, last, onTree⟩ := paired.dir dir rfl
  have foundToo : other.file? dir = some handle := by rw [file?, paired.files]; exact found
  obtain ⟨mine, released⟩ := releaseFile_last found last
  obtain ⟨others, releasedToo⟩ := releaseFile_last foundToo last
  -- Behind the closing the tree is still held, once less.
  obtain ⟨same, twins, held, heldToo⟩ :=
    ((paired.twins.refile (one.files.modify dir.index Handle.released)).relog mine others).closeFile
      onTree (paired.held.of_trees rfl) (Nat.one_pos) (paired.heldToo.of_trees rfl) (Nat.two_pos)
  rw [released, releasedToo, paired.files]
  exact ⟨same, twins.forgetFile dir, held.forgetFile dir, heldToo.forgetFile dir, by simp⟩

/-- Paired sessions stay paired when both forget a file. -/
theorem forget (paired : Paired tree dir one other) (file : FileRef) :
    Paired tree dir (one.forgetFile file) (other.forgetFile file) where
  twins := paired.twins.forgetFile file
  held := paired.held.forgetFile file
  heldToo := paired.heldToo.forgetFile file
  dir opened listed := by
    obtain ⟨handle, found, last, onTree⟩ := paired.dir opened listed
    -- A file that is forgotten is counted no less.
    cases there : one.file? file with
    | none =>
      have same : one.forgetFile file = one := by simp [Session.forgetFile, there]
      rw [same]
      exact ⟨handle, found, last, onTree⟩
    | some known =>
      obtain ⟨log, forgotten⟩ := forgetFile_eq there
      have files : (one.forgetFile file).files = one.files.modify file.index Handle.forget := by
        rw [forgotten]
      -- The open directory may itself be the file that is forgotten.
      by_cases here : file.index = opened.index
      · refine ⟨handle.forget, ?_, last, onTree⟩
        rw [file?, files, Array.getElem?_modify, if_pos here]
        exact congrArg (Option.map Handle.forget) found
      · refine ⟨handle, ?_, last, onTree⟩
        rw [file?, files, Array.getElem?_modify, if_neg here]
        exact found

end Paired

/-- No listing can tell the paired twins from each other. -/
theorem paired_likeness (tree : TreeRef) : Likeness tree (Paired tree) where
  -- Requests, adoptions and releases have their lemmas; logs and hooks are no affair of twins.
  files := Paired.files
  loosen := Paired.loosen
  ask paired request _ := paired.send request
  giveBack paired request _ := paired.send request
  noteAll paired _ := ⟨paired.twins.relog _ _, paired.held.of_trees rfl,
    paired.heldToo.of_trees rfl, paired.dir⟩
  noteHook paired label hook := by
    refine ⟨⟨?_, paired.twins.handles⟩, paired.held.of_trees rfl, paired.heldToo.of_trees rfl,
      paired.dir⟩
    obtain ⟨trees, log, rfl⟩ := paired.twins.apart
    exact ⟨trees, log, rfl⟩
  adopt paired _ := paired.adopt
  release := Paired.release
  forget := Paired.forget

end Session

end SmbBrowser
