import SmbBrowser.Browse
import SmbBrowser.Proofs.Cursor.Deeds
import SmbBrowser.Proofs.Listing.Endings
import SmbBrowser.Proofs.Session.Tending

/-!
Places that cannot be listed. A listing of entries is refused before anybody is asked anything. A
listing of resources takes the tree first, so that it is refused without a trace only where there is
a tree to share; elsewhere the share is connected and given up again.
-/

namespace SmbBrowser

/-- A place that cannot be listed: a file, or a share or directory whose address lacks the separator
at its end in one of its notations. -/
def Locator.IsUnlistable (locator : Locator) : Prop :=
  locator.kind = .file ∨ (locator.kind = .share ∨ locator.kind = .directory) ∧
    (locator.uncPath.toList.getLast? ≠ some '\\' ∨ locator.url.toList.getLast? ≠ some '/')

instance (locator : Locator) : Decidable locator.IsUnlistable :=
  inferInstanceAs (Decidable (_ ∨ _ ∧ _))

/-- An address that lacks a separator is invalid. -/
theorem Locator.checkSeparators_lacking {locator : Locator}
    (lacking : locator.uncPath.toList.getLast? ≠ some '\\' ∨
      locator.url.toList.getLast? ≠ some '/') :
    ∃ why, locator.checkSeparators = .error (.invalid why) := by
  rcases locator.checkSeparators_cases with passed | refused
  · -- Whoever passes has both separators.
    unfold checkSeparators at passed
    rcases lacking with noBackslash | noSlash
    · rw [if_pos noBackslash] at passed
      simp at passed
    · rw [if_pos noSlash] at passed
      split at passed <;> simp at passed
  · exact refused

/-- Two changes of one place are one change. -/
theorem Table.modify_modify {α : Type} (table : Array α) (place : Nat) (first second : α → α) :
    (table.modify place first).modify place second =
      table.modify place (fun here => second (first here)) := by
  -- Both sides are compared place by place.
  apply Array.ext_getElem?
  intro other
  simp only [Array.getElem?_modify]
  split <;> simp [Function.comp_def]

/-- A change that leaves what is there as it is changes nothing. -/
theorem Table.modify_same {α : Type} {table : Array α} {place : Nat} {here : α}
    {change : α → α} (found : table[place]? = some here) (same : change here = here) :
    table.modify place change = table := by
  -- Writing back what is there changes nothing, whatever the change would do elsewhere.
  rw [← Table.setIfInBounds_eq_modify change found, same, Table.setIfInBounds_same found]

namespace Session

variable {locator : Locator}

/-- What a place cannot be listed for is told by its address alone. -/
theorem listingOf_unlistable (unlistable : locator.IsUnlistable) :
    ∃ why, ∀ (session : Session) options,
      session.listingOf locator options = .error (.invalid why) := by
  rcases unlistable with isFile | ⟨place, lacking⟩
  · refine ⟨locator.url ++ " is not a directory", fun session options => ?_⟩
    simp only [listingOf, isFile]
    rfl
  · -- In either dialect the separators are checked when the listing is made.
    obtain ⟨why, checked⟩ := Locator.checkSeparators_lacking lacking
    refine ⟨why, fun session options => ?_⟩
    unfold listingOf
    rcases place with kind | kind <;> rw [kind] <;> cases session.server.dialect <;>
      simp only [SearchListing.new, DirectoryListing.new, checked] <;> rfl

/-- A tree that is shared and given straight back leaves no trace. -/
theorem acquire_returned {session : Session} {tree : TreeRef}
    (shared : session.reusable? = some tree) :
    ∃ held again, session.acquire = (.ok tree, held) ∧
      held.releaseTree tree = (.ok (), again) ∧ again.forgetTree tree = session := by
  obtain ⟨_, handle, found, known, valid, isOpen⟩ := reusable_some shared
  rcases session.acquire_cases with ⟨other, held, isShared, taken, outcome⟩ | ⟨alone, _⟩
  · obtain rfl := Option.some.inj (shared.symm.trans isShared)
    obtain ⟨_, rfl⟩ := acquireTree_ok taken
    have isHeld : 0 < handle.refs := by
      simp only [Handle.isValid, Bool.and_eq_true, decide_eq_true_eq] at valid
      omega
    -- With somebody else's reference beside it this one is not the last.
    have foundShared : tree? { session with
        trees := session.trees.modify tree.index Handle.shared } tree = some handle.shared := by
      simp only [tree?, Array.getElem?_modify, if_pos]
      exact congrArg (Option.map _) found
    have more : 1 < handle.shared.refs := by
      simp only [Handle.shared]
      omega
    rcases releaseTree_cases foundShared with ⟨none, _⟩ | ⟨last, _⟩ | ⟨_, released⟩
    · omega
    · omega
    · refine ⟨_, _, outcome, released, ?_⟩
      have back : handle.shared.released.forget = handle := by
        simp [Handle.shared, Handle.released, Handle.forget, show handle.refs ≠ 0 by omega]
      have foundBack : ((session.trees.modify tree.index Handle.shared).modify tree.index
          Handle.released)[tree.index]? = some handle.shared.released := by
        rw [Table.modify_modify, Array.getElem?_modify, if_pos rfl]
        exact congrArg (Option.map _) found
      have sameTable : ((session.trees.modify tree.index Handle.shared).modify tree.index
          Handle.released).setIfInBounds tree.index handle = session.trees := by
        rw [← back, Table.setIfInBounds_eq_modify Handle.forget foundBack, Table.modify_modify,
          Table.modify_modify]
        exact Table.modify_same found back
      -- Somebody knew the tree before, so that nothing is reported.
      unfold forgetTree
      simp only [tree?, foundBack, back, putTree, sameTable]
      exact if_neg (by simp; omega)
  · rw [shared] at alone
    exact absurd alone (by simp)

/-- What is left of a session that connects the share in vain: a tree is asked for and given back,
and of all that was there before only the connection is gone. -/
structure ConnectsInVain (before after : Session) : Prop where
  /-- Nothing else is asked. -/
  asks : ∃ tid first last, requestsOf (before.since after) =
    [⟨none, .treeConnect before.sharePath, .plain, first⟩,
      ⟨some tid, .treeDisconnect, .cleanup, last⟩]
  /-- The connection began a generation. -/
  generation : after.generation = before.generation + 1
  /-- It cannot be used any more. -/
  connected : after.connected = false
  /-- The trees are as they were. -/
  trees : ∀ tree : TreeRef, tree.index < before.trees.size → after.tree? tree = before.tree? tree
  /-- The files are as they were. -/
  files : after.files = before.files

/-- What it means that the share was connected: a tree was asked for, and its handle stands at the
end of the table with one reference. -/
structure Connects (before after : Session) (tid : TreeId) : Prop where
  /-- The handle is at the end of the table. -/
  found : after.tree? ⟨before.trees.size⟩ = some
    { resource := { tid, generation := before.generation + 1, epoch := before.resets }
      generation := some (before.generation + 1)
      traced := before.settings.traceResourceUsage }
  /-- The trees before it are as they were. -/
  trees : ∀ tree : TreeRef, tree.index < before.trees.size → after.tree? tree = before.tree? tree
  /-- The files are as they were. -/
  files : after.files = before.files
  /-- A tree was asked for and given. -/
  asks : ∃ scratch, after.passages.toList = before.passages.toList ++
    exchanged ⟨none, .treeConnect before.sharePath, .plain, scratch⟩ (.ok (.treeConnect tid))
  /-- A generation began. -/
  generation : after.generation = before.generation + 1
  /-- No connection was lost over it. -/
  resets : after.resets = before.resets

/-- A connection that succeeds has asked for its tree and pushed the handle for it. -/
theorem connect_connects {session held : Session} {tree : TreeRef}
    (connected : session.connect = (.ok tree, held)) :
    tree = ⟨session.trees.size⟩ ∧ ∃ tid, session.Connects held tid := by
  -- All that connecting can do is one exchange, which either fails or brings a tree.
  obtain ⟨pool, server, log, scratch, answer, fresh, rfl, came⟩ := session.connect_undergo
  rcases came with ⟨fault, came, _⟩ | ⟨tid, rfl, came⟩
  · simp [came] at connected
  · obtain ⟨isTree, rfl⟩ := Prod.mk.inj (came.symm.trans connected)
    refine ⟨(Except.ok.inj isTree).symm, tid, ?_⟩
    exact
      { found := by simp [tree?]
        trees := fun tree early => by
          simp only [tree?, Array.getElem?_push, if_neg (Nat.ne_of_lt early)]
        files := rfl
        asks := ⟨scratch, session.passages_undergo pool server log _⟩
        generation := rfl
        resets := by simp [undergo, exchanged, Passage.loses, lossesIn, Passage.isLost] }

/-- Giving back the tree of the present connection asks the server once and ends the connection. -/
theorem disconnect_present {tree : ConnectedTree} {session : Session}
    (unlost : session.resets = tree.epoch) (present : session.generation = tree.generation) :
    ∃ scratch answer, (disconnect tree session).2.passages.toList = session.passages.toList ++
        exchanged ⟨some tree.tid, .treeDisconnect, .cleanup, scratch⟩ answer ∧
      (disconnect tree session).2.generation = session.generation ∧
      (disconnect tree session).2.connected = false := by
  obtain ⟨pool, server, log, fresh, given, sent⟩ := disconnect_undergo tree session
  -- Detaching compares generations, and the tree is of the present one.
  have ended (later : Session) (still : later.generation = tree.generation) :
      (later.detach tree.generation).generation = later.generation ∧
        (later.detach tree.generation).connected = false := by
    rw [detach, if_pos still]
    exact ⟨rfl, rfl⟩
  rcases sent with ⟨_, scratch, answer, rfl⟩ | ⟨lost, _⟩
  · rw [given, passages_detach, passages_undergo]
    exact ⟨scratch, answer, rfl, ended _ present⟩
  · exact absurd unlost lost

/-- So does giving up the only reference to it. -/
theorem releaseTree_present {session : Session} {tree : TreeRef} {handle : Handle ConnectedTree}
    (found : session.tree? tree = some handle) (only : handle.refs = 1)
    (unlost : session.resets = handle.resource.epoch)
    (present : session.generation = handle.resource.generation) :
    ∃ scratch answer, (session.releaseTree tree).2.passages.toList = session.passages.toList ++
        exchanged ⟨some handle.resource.tid, .treeDisconnect, .cleanup, scratch⟩ answer ∧
      (session.releaseTree tree).2.generation = session.generation ∧
      (session.releaseTree tree).2.connected = false := by
  -- Of the three cases, the only reference selects the one that disconnects.
  rcases releaseTree_cases found with ⟨none, _⟩ | ⟨_, log, outcome⟩ | ⟨more, _⟩
  · omega
  · let alone : Session := { session with
      log, trees := session.trees.modify tree.index Handle.released }
    have unlostAlone : alone.resets = handle.resource.epoch := unlost
    have presentAlone : alone.generation = handle.resource.generation := present
    rw [outcome]
    exact disconnect_present unlostAlone presentAlone
  · omega

/-- Whatever came of something, at most the log is written to. -/
theorem noteFailure_eq (session : Session) (event : Fault → Event) (result : Except Fault Unit) :
    ∃ log, session.noteFailure event result = { session with log } := by
  -- A success is not written down, and a failure is one line.
  cases result with
  | ok _ => exact ⟨session.log, rfl⟩
  | error fault => exact ⟨session.log.push (event fault), rfl⟩

/-- A tree that is connected, given straight back and forgotten was connected in vain. -/
theorem connect_returned {session held : Session} {tree : TreeRef}
    (connected : session.connect = (.ok tree, held)) (event : Fault → Event) :
    session.ConnectsInVain (((held.releaseTree tree).2.noteFailure event
      (held.releaseTree tree).1).forgetTree tree) := by
  obtain ⟨rfl, tid, connects⟩ := connect_connects connected
  obtain ⟨first, asked⟩ := connects.asks
  obtain ⟨last, answer, gaveBack, generation, ended⟩ := releaseTree_present connects.found rfl
    connects.resets connects.generation
  obtain ⟨gaveTrees, gaveFiles⟩ := held.tables_releaseTree ⟨session.trees.size⟩
  -- Behind that only the log and the count of those who know the tree are written to.
  obtain ⟨written, noted⟩ := noteFailure_eq (held.releaseTree ⟨session.trees.size⟩).2 event
    (held.releaseTree ⟨session.trees.size⟩).1
  obtain ⟨later, forgotten⟩ := forgetTree_eq
    { (held.releaseTree ⟨session.trees.size⟩).2 with log := written } ⟨session.trees.size⟩
  have further : (held.releaseTree ⟨session.trees.size⟩).2.passages.toList =
      session.passages.toList ++ (exchanged ⟨none, .treeConnect session.sharePath, .plain,
        first⟩ (.ok (.treeConnect tid)) ++
          exchanged ⟨some tid, .treeDisconnect, .cleanup, last⟩ answer) := by
    rw [gaveBack, asked, List.append_assoc]
  rw [noted, forgotten]
  exact
    { asks := by
        refine ⟨tid, first, last, (congrArg requestsOf (since_eq further)).trans ?_⟩
        rw [requestsOf, List.filterMap_append]
        exact congrArg₂ _ (requestsOf_exchanged _ _) (requestsOf_exchanged _ _)
      generation := generation.trans connects.generation
      connected := ended
      trees := fun tree early => by
        have others : session.trees.size ≠ tree.index := by omega
        rw [← connects.trees tree early]
        simp only [tree?, gaveTrees, Array.getElem?_modify, if_neg others]
      files := gaveFiles.trans connects.files }

/--
What becomes of a place that cannot be listed.

Its entries are refused whatever the session looks like, and the session stays as it was. Its
resources are refused with the same words and without a trace where there is a tree to share;
otherwise the share is connected first. What the connection fails with is all that the caller then
learns, and a connection that comes about is given up again before the caller learns what is wrong
with the place.
-/
theorem listResources_unlistable (unlistable : locator.IsUnlistable) (session : Session)
    (options : ListOptions) (filter : Option (Resource → Except Fault Bool)) :
    ∃ why, session.list locator options = (.error (.invalid why), session) ∧
      match session.reusable? with
      | some _ =>
        session.listResources locator options filter = (.error (.invalid why), session)
      | none =>
        match session.connect with
        | (.error fault, after) =>
          session.listResources locator options filter = (.error fault, after)
        | (.ok _, _) => ∃ after,
          session.listResources locator options filter = (.error (.invalid why), after) ∧
            session.ConnectsInVain after := by
  obtain ⟨why, refused⟩ := listingOf_unlistable unlistable
  have listRefused (held : Session) :
      held.list locator options = (.error (.invalid why), held) := by
    simp only [list, refused]
  refine ⟨why, listRefused session, ?_⟩
  cases shared : session.reusable? with
  | some tree =>
    obtain ⟨held, again, acquired, released, same⟩ := acquire_returned shared
    simp only [listResources, acquired, listRefused, released, noteFailure, same]
  | none =>
    -- Nothing can be shared, so that taking the tree is connecting the share.
    have fresh : session.acquire = session.connect := by
      simp only [acquire, shared]
    rcases connected : session.connect with ⟨fault | tree, held⟩
    · simp only [listResources, fresh, connected]
    · refine ⟨_, ?_, connect_returned connected .streamOpenReleaseFailed⟩
      simp only [listResources, fresh, connected, listRefused]

/-- Beside somebody who holds the tree both refuse a file without a trace. -/
theorem listResources_unlistable_shared :
    let session := (new {} (.ofTranscript { dialect := .smb2 }) "\\\\srv\\data" "").acquire.2
    let locator := Locator.path "srv" "data" "readme.txt"
    locator.IsUnlistable ∧ session.reusable?.isSome ∧
      ∃ why, session.list locator {} = (.error (.invalid why), session) ∧
        session.listResources locator {} none = (.error (.invalid why), session) := by
  intro session locator
  -- Both conditions are about fixed values and are computed.
  have unlistable : locator.IsUnlistable := by decide +kernel
  have shared : session.reusable? = some ⟨0⟩ := by decide +kernel
  obtain ⟨why, entries, resources⟩ := listResources_unlistable unlistable session {} none
  rw [shared] at resources
  exact ⟨unlistable, by simp [shared], why, entries, resources⟩

/-- Alone, who asks for the resources of a file connects the share and gives it up again before the
file is refused, while asking for its entries leaves no trace. -/
theorem listResources_connectsInVain :
    let session := new {} (.ofTranscript { dialect := .smb2 }) "\\\\srv\\data" ""
    let locator := Locator.path "srv" "data" "readme.txt"
    let entries := session.list locator {}
    let resources := session.listResources locator {} none
    let why : Fault := .invalid "smb://srv/data/readme.txt is not a directory"
    locator.kind = .file ∧
      (entries.1.map fun _ => ()) = .error why ∧
      entries.2.server.sentKinds = [] ∧ entries.2.generation = 0 ∧
      (resources.1.map fun _ => ()) = .error why ∧
      resources.2.server.sentKinds = ["tree_connect", "tree_disconnect"] ∧
      resources.2.generation = 1 := by
  -- The whole run is computed.
  decide +kernel

end Session

end SmbBrowser
