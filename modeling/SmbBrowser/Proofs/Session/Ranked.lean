import SmbBrowser.Proofs.Session.Stroke

/-!
Ranked sessions: every handle carries the generation that it was made in, and on a usable connection
the tree handle of the last generation is open and current. Whatever happens keeps a session ranked,
and no handle grows valid again with time.
-/

namespace SmbBrowser

namespace Table

variable {Resource : Type} {told : Nat → Handle Resource → Prop} {table : Array (Handle Resource)}

/-- Something is true of every handle of a table at its place. -/
def AtEach (told : Nat → Handle Resource → Prop) (table : Array (Handle Resource)) : Prop :=
  ∀ (place : Nat) (handle : Handle Resource), table[place]? = some handle → told place handle

/-- What is told of each handle is told of a table in which one handle was changed accordingly. -/
theorem AtEach.modify (each : AtEach told table) {place : Nat} {handle : Handle Resource}
    (found : table[place]? = some handle) {change : Handle Resource → Handle Resource}
    (changed : told place (change handle)) : AtEach told (table.modify place change) := by
  intro other there isThere
  rw [Array.getElem?_modify] at isThere
  by_cases here : place = other
  · -- The handle that was changed is the one that was found.
    subst here
    rw [if_pos rfl, found] at isThere
    obtain rfl := Option.some.inj isThere
    exact changed
  · rw [if_neg here] at isThere
    exact each other there isThere

/-- What is told of each handle is told of a table with one more handle of which it is true. -/
theorem AtEach.push (each : AtEach told table) {handle : Handle Resource}
    (fresh : told table.size handle) : AtEach told (table.push handle) := by
  intro place there isThere
  rw [Array.getElem?_push] at isThere
  -- The handle is the new one, or one of those that were there.
  by_cases last : place = table.size
  · rw [if_pos last] at isThere
    obtain rfl := Option.some.inj isThere
    rw [last]
    exact fresh
  · rw [if_neg last] at isThere
    exact each place there isThere

end Table

/-- A tree handle tells the generation of its place, and has seen no more losses than there were. -/
def Handle.TellsRank (losses place : Nat) (handle : Handle ConnectedTree) : Prop :=
  handle.generation = some (place + 1) ∧ handle.resource.generation = place + 1 ∧
    handle.resource.epoch ≤ losses

/-- A file handle tells a generation that there was. -/
def Handle.TellsMade (generations _place : Nat) (handle : Handle OpenFile) : Prop :=
  ∃ made, handle.generation = some made ∧ made ≤ generations

/-- What is told of all handles of a session, whether or not its connection can be used. -/
structure Numbered (session : Session) : Prop where
  /-- Every generation made one tree handle. -/
  generations : session.generation = session.trees.size
  trees : Table.AtEach (Handle.TellsRank session.resets) session.trees
  files : Table.AtEach (Handle.TellsMade session.generation) session.files
  settledTrees : Table.Settled session.trees
  settledFiles : Table.Settled session.files

/-- What holds of a session at every moment. -/
structure Ranked (session : Session) : Prop extends Numbered session where
  /-- The current tree is of the last generation. -/
  current : ∀ tree, session.current = some tree → tree.index + 1 = session.generation
  /-- On a usable connection that tree is open, and has seen every loss. -/
  usable : session.connected = true → ∃ place handle, place + 1 = session.generation ∧
    session.trees[place]? = some handle ∧ handle.closed = false ∧
    handle.resource.epoch = session.resets ∧ session.current = some ⟨place⟩

namespace Numbered

variable {session : Session}

/-- Whatever passes, all handles keep what they tell, and a tree has seen no more losses than
before. -/
theorem undergo (numbered : Numbered session) (pool : ScratchPool) (server : Playback)
    (log : Array Event) (fresh : List Passage) :
    Numbered (session.undergo pool server log fresh) where
  generations := numbered.generations
  -- The losses can only grow, and with them the bound on what a tree has seen.
  trees place handle found := by
    obtain ⟨generation, made, epoch⟩ := numbered.trees place handle found
    exact ⟨generation, made, Nat.le_trans epoch (Nat.le_add_right _ _)⟩
  files := numbered.files
  settledTrees := numbered.settledTrees
  settledFiles := numbered.settledFiles

/-- Giving the current tree up changes no handle. -/
theorem detach (numbered : Numbered session) (generation : Nat) :
    Numbered (session.detach generation) := by
  unfold Session.detach
  -- Only the link and the current tree change, of which nothing is told here.
  split
  · exact ⟨numbered.generations, numbered.trees, numbered.files, numbered.settledTrees,
      numbered.settledFiles⟩
  · exact numbered

/-- A tree handle may change in all but what it is a handle on and the generation it tells. -/
theorem modifyTree (numbered : Numbered session) {tree : TreeRef} {handle : Handle ConnectedTree}
    (found : session.tree? tree = some handle)
    {change : Handle ConnectedTree → Handle ConnectedTree}
    (same : (change handle).resource = handle.resource ∧
      (change handle).generation = handle.generation)
    (settled : handle.Settled → (change handle).Settled) :
    Numbered { session with trees := session.trees.modify tree.index change } where
  generations := by simpa using numbered.generations
  trees := by
    -- What the changed handle tells is read from the two fields that stay.
    refine numbered.trees.modify found ?_
    rw [Handle.TellsRank, same.1, same.2]
    exact numbered.trees tree.index handle found
  files := numbered.files
  settledTrees := by
    refine numbered.settledTrees.modify ?_
    intro there isThere
    obtain rfl := Option.some.inj (found.symm.trans isThere)
    exact settled
  settledFiles := numbered.settledFiles

/-- So may a file handle. -/
theorem modifyFile (numbered : Numbered session) {file : FileRef} {handle : Handle OpenFile}
    (found : session.file? file = some handle)
    {change : Handle OpenFile → Handle OpenFile}
    (same : (change handle).generation = handle.generation)
    (settled : handle.Settled → (change handle).Settled) :
    Numbered { session with files := session.files.modify file.index change } where
  generations := numbered.generations
  trees := numbered.trees
  files := by
    -- A file handle tells its generation alone.
    refine numbered.files.modify found ?_
    rw [Handle.TellsMade, same]
    exact numbered.files file.index handle found
  settledTrees := numbered.settledTrees
  settledFiles := by
    refine numbered.settledFiles.modify ?_
    intro there isThere
    obtain rfl := Option.some.inj (found.symm.trans isThere)
    exact settled

end Numbered

namespace Ranked

variable {session : Session}

/-- A session that has not connected yet is ranked. -/
theorem new (settings : Settings) (server : Playback) (sharePath oemDomain : String) :
    Ranked (.new settings server sharePath oemDomain) where
  -- There is no handle yet and no connection, so there is nothing to be told.
  generations := rfl
  trees place handle found := by simp [Session.new] at found
  files place handle found := by simp [Session.new] at found
  settledTrees place handle found := by simp [Session.new] at found
  settledFiles place handle found := by simp [Session.new] at found
  current tree isCurrent := by simp [Session.new] at isCurrent
  usable connected := by simp [Session.new] at connected

/-- What is written down does not matter. -/
theorem write (ranked : Ranked session) (log : Array Event) (hooks : Array HookCall)
    (script : List Exchange) :
    Ranked { session with log, hooks, server := { session.server with script } } :=
  -- No part of the invariant looks at the log, the hooks or the script.
  ⟨⟨ranked.generations, ranked.trees, ranked.files, ranked.settledTrees, ranked.settledFiles⟩,
    ranked.current, ranked.usable⟩

/-- Whatever passes keeps a session ranked: a loss only makes the connection unusable. -/
theorem undergo (ranked : Ranked session) (pool : ScratchPool) (server : Playback)
    (log : Array Event) (fresh : List Passage) :
    Ranked (session.undergo pool server log fresh) where
  toNumbered := ranked.toNumbered.undergo pool server log fresh
  current := ranked.current
  usable connected := by
    -- The connection can only be used while nothing was lost meanwhile.
    simp only [Session.undergo, Bool.and_eq_true, decide_eq_true_eq] at connected
    obtain ⟨place, handle, last, found, isOpen, epoch, current⟩ := ranked.usable connected.1
    refine ⟨place, handle, last, found, isOpen, ?_, current⟩
    simp only [Session.undergo, connected.2, Nat.add_zero]
    exact epoch

/-- A session that gives its current tree up stays ranked. -/
theorem detach (ranked : Ranked session) (generation : Nat) :
    Ranked (session.detach generation) := by
  refine ⟨ranked.toNumbered.detach generation, ?_, ?_⟩
  · -- If the tree that goes is the current one, none is current and the link is down behind it.
    unfold Session.detach
    split
    · simp
    · exact ranked.current
  · -- For the same reason there is nothing left to be usable.
    unfold Session.detach
    split
    · simp
    · exact ranked.usable

/-- A change of a tree handle that does not close the one of the last generation. -/
theorem modifyTree (ranked : Ranked session) {tree : TreeRef} {handle : Handle ConnectedTree}
    (found : session.tree? tree = some handle)
    {change : Handle ConnectedTree → Handle ConnectedTree}
    (same : (change handle).resource = handle.resource ∧
      (change handle).generation = handle.generation)
    (settled : handle.Settled → (change handle).Settled)
    (stays : (change handle).closed = handle.closed ∨ tree.index + 1 ≠ session.generation) :
    Ranked { session with trees := session.trees.modify tree.index change } where
  toNumbered := ranked.toNumbered.modifyTree found same settled
  current := ranked.current
  usable connected := by
    obtain ⟨place, last, isLast, foundLast, isOpen, epoch, current⟩ := ranked.usable connected
    -- If the changed handle is the last one, it must stay open; if not, the last one is untouched.
    by_cases here : tree.index = place
    · subst here
      obtain rfl := Option.some.inj (found.symm.trans foundLast)
      refine ⟨tree.index, change handle, isLast, by simp [Array.getElem?_modify, foundLast], ?_,
        by rwa [same.1], current⟩
      rcases stays with kept | earlier
      · rw [kept]
        exact isOpen
      · exact absurd isLast earlier
    · refine ⟨place, last, isLast, ?_, isOpen, epoch, current⟩
      simp only [Array.getElem?_modify, if_neg here]
      exact foundLast

/-- A change of a file handle does not touch the tree that is usable. -/
theorem modifyFile (ranked : Ranked session) {file : FileRef} {handle : Handle OpenFile}
    (found : session.file? file = some handle)
    {change : Handle OpenFile → Handle OpenFile}
    (same : (change handle).generation = handle.generation)
    (settled : handle.Settled → (change handle).Settled) :
    Ranked { session with files := session.files.modify file.index change } where
  -- Of the current tree and the link nothing is said about files.
  toNumbered := ranked.toNumbered.modifyFile found same settled
  current := ranked.current
  usable := ranked.usable

/-- The last release of a tree gives the connection up if the tree is the last one, and else leaves
it alone. -/
theorem closeTree (ranked : Ranked session) {tree : TreeRef} {handle : Handle ConnectedTree}
    (found : session.tree? tree = some handle) :
    Ranked (Session.disconnect handle.resource
      { session with trees := session.trees.modify tree.index Handle.released }).2 := by
  obtain ⟨pool, server, log, fresh, after, _⟩ := Session.disconnect_undergo handle.resource
    { session with trees := session.trees.modify tree.index Handle.released }
  have made := (ranked.trees tree.index handle found).2.1
  rw [after]
  by_cases last : tree.index + 1 = session.generation
  · have numbered := ranked.toNumbered.modifyTree found ⟨rfl, rfl⟩ Handle.settled_released
    have behind := (numbered.undergo pool server log fresh).detach handle.resource.generation
    -- Behind the giving up there is no current tree, and nothing is connected.
    have given : session.generation = handle.resource.generation := by rw [made, last]
    refine ⟨behind, ?_, ?_⟩
    · simp [Session.detach, Session.undergo, given]
    · simp [Session.detach, Session.undergo, given]
  · have changed := ranked.modifyTree found ⟨rfl, rfl⟩ Handle.settled_released (.inr last)
    exact (changed.undergo pool server log fresh).detach handle.resource.generation

/-- A new tree handle is of the last generation. -/
theorem connect (ranked : Ranked session) : Ranked session.connect.2 := by
  obtain ⟨pool, server, log, scratch, answer, fresh, passed, outcome⟩ := session.connect_undergo
  rcases outcome with ⟨fault, outcome, _⟩ | ⟨tid, named, outcome⟩
  · rw [outcome]
    exact ranked.undergo pool server log fresh
  · rw [outcome]
    -- An answer that names a tree tells of no loss.
    have holds : lossesIn fresh = 0 := by
      rw [passed, named]
      rfl
    have size := ranked.generations
    have numbered := ranked.toNumbered.undergo pool server log fresh
    refine ⟨⟨by simp [size], ?_, ?_, ?_, ranked.settledFiles⟩, ?_, ?_⟩
    · refine numbered.trees.push ?_
      simp [Handle.TellsRank, size, Session.undergo]
    · intro place handle found
      obtain ⟨made, generation, within⟩ := ranked.files place handle found
      exact ⟨made, generation, Nat.le_succ_of_le within⟩
    · exact ranked.settledTrees.push (by simp [Handle.Settled])
    · intro tree isCurrent
      simp only [Option.some.injEq] at isCurrent
      rw [← isCurrent, size]
    · intro _
      refine ⟨session.trees.size, _, by simp [size], Array.getElem?_push_size, rfl, ?_, rfl⟩
      simp [Session.undergo, holds]

end Ranked

/-- Every stroke keeps a session ranked. -/
theorem Stroke.ranked {licence : Licence} {before after : Session}
    (stroke : Stroke licence before after) (ranked : Ranked before) : Ranked after := by
  -- One lemma for each way in which a stroke changes tables, link or losses.
  cases stroke with
  | write log hooks script => exact ranked.write log hooks script
  | lose =>
    obtain ⟨log, lost⟩ := before.invalidate_undergo
    rw [lost]
    exact ranked.undergo _ _ log _
  | connect alone => exact ranked.connect
  | @ask tree handle request delivery licensed found valid =>
    obtain ⟨pool, server, log, scratch, asked⟩ :=
      before.exchange_undergo (some handle.resource.tid) request delivery
    rw [asked]
    exact ranked.undergo pool server log _
  | recountTree change found recounted =>
    exact ranked.modifyTree found ⟨recounted.resource, recounted.generation⟩ recounted.settled
      (.inl recounted.closed)
  | closeTree found last => exact ranked.closeTree found
  -- The handle itself stays, and what it was a handle on is given up.
  | @bypass tree handle licensed found =>
    obtain ⟨pool, server, log, fresh, given, _⟩ :=
      Session.disconnect_undergo handle.resource before
    rw [given]
    exact (ranked.undergo pool server log fresh).detach _
  | recountFile change found recounted =>
    exact ranked.modifyFile found recounted.generation recounted.settled
  -- The new file captures the generation that there is now.
  | makeFile file traced =>
    refine ⟨⟨ranked.generations, ranked.trees, ?_, ranked.settledTrees, ?_⟩, ranked.current,
      ranked.usable⟩
    · exact ranked.files.push ⟨before.generation, rfl, Nat.le_refl _⟩
    · exact ranked.settledFiles.push (by simp [Handle.Settled])
  -- The file handle is closed, and then something passes.
  | @closeFile file handle found last =>
    have closed := ranked.modifyFile found rfl Handle.settled_released
    obtain ⟨pool, server, log, fresh, asked, _⟩ := Session.closeOnServer_undergo handle.resource
      { before with files := before.files.modify file.index Handle.released }
    rw [asked]
    exact closed.undergo pool server log fresh

end SmbBrowser
