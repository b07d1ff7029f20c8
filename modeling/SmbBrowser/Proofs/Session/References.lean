import SmbBrowser.Proofs.Session.Keepers

/-!
Who holds a tree: the references of a tree handle are those that stand outside the session and one
for every file on the tree that is not closed. Every fair deal keeps the counts true.
-/

namespace SmbBrowser

namespace Handle

variable {Resource : Type}

/-- A handle is closed when its last reference is gone, and not before. -/
def Settled (handle : Handle Resource) : Prop := handle.closed = true ↔ handle.refs = 0

/-- An open handle may be shared. -/
theorem settled_shared {handle : Handle Resource} (isOpen : handle.closed = false) :
    handle.shared.Settled := by
  -- There is a reference now, and the handle is open.
  simp [Settled, shared, isOpen]

/-- A release closes a handle when it gives back the last reference. -/
theorem settled_released {handle : Handle Resource} (settled : handle.Settled) :
    handle.released.Settled := by
  -- Zero references less one are still none.
  unfold Settled at settled ⊢
  simp only [released, Bool.or_eq_true, decide_eq_true_eq, settled]
  omega

end Handle

/-- All handles of a table are settled. -/
def Table.Settled {Resource : Type} (table : Array (Handle Resource)) : Prop :=
  ∀ (place : Nat) (handle : Handle Resource), table[place]? = some handle → handle.Settled

namespace Table.Settled

variable {Resource : Type} {table : Array (Handle Resource)}

/-- A change that leaves a handle settled leaves the table settled. -/
theorem modify (settled : Table.Settled table) {place : Nat}
    {change : Handle Resource → Handle Resource}
    (changed : ∀ handle, table[place]? = some handle → handle.Settled → (change handle).Settled) :
    Table.Settled (table.modify place change) := by
  intro other handle found
  rw [Array.getElem?_modify] at found
  -- A handle elsewhere is as settled as before.
  by_cases same : place = other
  · subst same
    rw [if_pos rfl] at found
    obtain ⟨before, isBefore, rfl⟩ := Option.map_eq_some_iff.mp found
    exact changed before isBefore (settled place before isBefore)
  · rw [if_neg same] at found
    exact settled other handle found

/-- A settled handle may come to a settled table. -/
theorem push (settled : Table.Settled table) {handle : Handle Resource}
    (fresh : handle.Settled) : Table.Settled (table.push handle) := by
  intro place there found
  rw [Array.getElem?_push] at found
  -- The handle is the new one, or one of those that were there.
  by_cases last : place = table.size
  · rw [if_pos last, Option.some.injEq] at found
    rw [← found]
    exact fresh
  · rw [if_neg last] at found
    exact settled place there found

end Table.Settled

/-- How many files on a tree are open, be they known or not. -/
def openFiles (files : Array (Handle OpenFile)) (tree : TreeRef) : Nat :=
  filesOn (fun file => !file.closed) files tree

/-- Every tree handle counts its references, and every handle is settled. -/
structure Counted (trees : Array (Handle ConnectedTree)) (files : Array (Handle OpenFile))
    (stakes : Multiset Stake) : Prop where
  /-- A tree is held by references and by the open files on it. -/
  held : ∀ tree : TreeRef, Table.measure (·.refs) trees tree.index =
    stakes.count (.reference tree) + openFiles files tree
  /-- The tree handles are settled. -/
  trees : Table.Settled trees
  /-- The file handles are settled. -/
  files : Table.Settled files

namespace Counted

variable {trees : Array (Handle ConnectedTree)} {files : Array (Handle OpenFile)}
  {stakes after : Multiset Stake} {tree : TreeRef} {file : FileRef}

/-- Without handles nothing is held. -/
theorem new : Counted #[] #[] 0 where
  -- Both sides of each count are zero.
  held tree := by simp [Table.measure, openFiles, filesOn]
  trees place handle found := by simp at found
  files place handle found := by simp at found

/-- Places that know a handle do not hold it. -/
theorem restake (counted : Counted trees files stakes)
    (same : ∀ tree, after.count (.reference tree) = stakes.count (.reference tree)) :
    Counted trees files after where
  -- The places that know a tree are counted apart from the references.
  held tree := by
    rw [same tree]
    exact counted.held tree
  trees := counted.trees
  files := counted.files

/-- A tree whose references change as the stakes in it do. -/
theorem modifyTree (counted : Counted trees files stakes)
    {change : Handle ConnectedTree → Handle ConnectedTree}
    (own : Table.measure (fun handle => (change handle).refs) trees tree.index +
        stakes.count (.reference tree) =
      Table.measure (·.refs) trees tree.index + after.count (.reference tree))
    (others : ∀ other, other ≠ tree →
      after.count (.reference other) = stakes.count (.reference other))
    (settled : ∀ handle, trees[tree.index]? = some handle → handle.Settled →
      (change handle).Settled) :
    Counted (trees.modify tree.index change) files after where
  held other := by
    rw [Table.measure_modify]
    have before := counted.held other
    -- Only the own place of the table is changed.
    by_cases same : other = tree
    · subst same
      rw [if_pos rfl]
      omega
    · rw [if_neg (TreeRef.index_ne (Ne.symm same)), others other same]
      exact before
  trees := counted.trees.modify settled
  files := counted.files

/-- A change that neither takes nor gives a reference, nor opens or closes. -/
theorem recount (counted : Counted trees files stakes) (tree : TreeRef)
    (change : Handle ConnectedTree → Handle ConnectedTree)
    (same : ∀ handle, (change handle).refs = handle.refs ∧
      (change handle).closed = handle.closed) :
    Counted (trees.modify tree.index change) files stakes := by
  refine counted.modifyTree ?_ (fun _ _ => rfl) ?_
  · -- The references of the tree stay as they are.
    simp only [same]
  · -- So does whether it is closed.
    intro handle _ settled
    rw [Handle.Settled, (same handle).1, (same handle).2]
    exact settled

/-- Sharing an open tree takes a reference. -/
theorem share (counted : Counted trees files stakes) {handle : Handle ConnectedTree}
    (found : trees[tree.index]? = some handle) (isOpen : handle.closed = false) :
    Counted (trees.modify tree.index Handle.shared) files
      (.tree tree ::ₘ .reference tree ::ₘ stakes) := by
  -- The reference that is taken is the stake that is gained.
  refine counted.modifyTree ?_ ?_ ?_
  · rw [Table.measure_found found, Table.measure_found found,
      Multiset.count_cons_of_ne (by simp), Multiset.count_cons_self]
    simp only [Handle.shared]
    omega
  · intro other different
    rw [Multiset.count_cons_of_ne (by simp), Multiset.count_cons_of_ne (by simpa using different)]
  · intro there isThere _
    obtain rfl := Option.some.inj (found.symm.trans isThere)
    exact Handle.settled_shared isOpen

/-- Connecting the share takes the first reference. -/
theorem connect (counted : Counted trees files stakes) {handle : Handle ConnectedTree}
    (fresh : handle.refs = 1) (isOpen : handle.closed = false) :
    Counted (trees.push handle) files
      (.tree ⟨trees.size⟩ ::ₘ .reference ⟨trees.size⟩ ::ₘ stakes) where
  held other := by
    rw [Table.measure_push, Multiset.count_cons_of_ne (by simp)]
    have before := counted.held other
    -- The new tree has no reference before it is there.
    by_cases same : other = ⟨trees.size⟩
    · subst same
      rw [Table.measure_size] at before
      rw [if_pos rfl, Multiset.count_cons_self]
      omega
    · rw [if_neg (TreeRef.index_ne same), Multiset.count_cons_of_ne (by simpa using same)]
      exact before
  trees := counted.trees.push (by simp [Handle.Settled, fresh, isOpen])
  files := counted.files

/-- A release gives a reference back. -/
theorem release (counted : Counted trees files (.reference tree ::ₘ stakes)) :
    Counted (trees.modify tree.index Handle.released) files stakes := by
  -- Whoever gives a reference back has one, so the handle is there.
  have held := counted.held tree
  rw [Multiset.count_cons_self] at held
  have positive : 0 < Table.measure (·.refs) trees tree.index := by omega
  obtain ⟨handle, found, _⟩ := Table.exists_of_measure_pos (·.refs) positive
  refine counted.modifyTree ?_ ?_ fun _ _ => Handle.settled_released
  · rw [Table.measure_found found, Table.measure_found found, Multiset.count_cons_self]
    simp only [Handle.released]
    omega
  · intro other different
    rw [Multiset.count_cons_of_ne (by simpa using different)]

/-- A change of a file that leaves it open or closed. -/
theorem modifyFile (counted : Counted trees files stakes) {handle : Handle OpenFile}
    (found : files[file.index]? = some handle) {change : Handle OpenFile → Handle OpenFile}
    (sameResource : (change handle).resource = handle.resource)
    (sameClosed : (change handle).closed = handle.closed) (settled : (change handle).Settled) :
    Counted trees (files.modify file.index change) stakes where
  held tree := by
    -- The open files on each tree are as many as before.
    have counts := filesOn_modify (fun file => !file.closed) found change sameResource tree
    simp only [sameClosed] at counts
    have before := counted.held tree
    simp only [openFiles] at before ⊢
    omega
  trees := counted.trees
  files := counted.files.modify fun there isThere _ => by
    obtain rfl := Option.some.inj (found.symm.trans isThere)
    exact settled

/-- A file that is closed gives the reference back that it had. -/
theorem closeFile (counted : Counted trees files stakes) {handle : Handle OpenFile}
    (found : files[file.index]? = some handle) (last : handle.refs = 1) :
    Counted (trees.modify handle.resource.tree.index Handle.released)
      (files.modify file.index Handle.released) stakes := by
  -- A file with a reference is open.
  have isOpen : handle.closed = false := by
    have settled := counted.files file.index handle found
    simpa [Handle.Settled, last] using settled
  -- The open file turns into a reference, which is then given back.
  have turned : Counted trees (files.modify file.index Handle.released)
      (.reference handle.resource.tree ::ₘ stakes) := by
    refine ⟨fun tree => ?_, counted.trees, counted.files.modify fun _ _ => Handle.settled_released⟩
    have counts := filesOn_modify (fun file => !file.closed) found Handle.released rfl tree
    have before := counted.held tree
    simp only [openFiles] at before ⊢
    simp only [Handle.released, isOpen, last, Bool.not_false, and_true, decide_true, Bool.or_true,
      Bool.not_true, Bool.false_eq_true, and_false, if_false, add_zero] at counts
    by_cases same : handle.resource.tree = tree
    · subst same
      rw [if_pos rfl] at counts
      rw [Multiset.count_cons_self]
      omega
    · rw [if_neg same] at counts
      rw [Multiset.count_cons_of_ne (by simpa using Ne.symm same)]
      omega
  exact turned.release

/-- A file that is adopted takes a reference to its tree. -/
theorem adopt (counted : Counted trees files stakes) {owner : Handle ConnectedTree}
    {handle : Handle OpenFile} (found : trees[tree.index]? = some owner)
    (isOpen : owner.closed = false) (onTree : handle.resource.tree = tree)
    (fresh : handle.refs = 1 ∧ handle.closed = false) :
    Counted (trees.modify tree.index Handle.shared) (files.push handle) stakes where
  held other := by
    have before := counted.held other
    simp only [openFiles] at before ⊢
    rw [Table.measure_modify, filesOn_push, onTree]
    -- The file is one more that is open on its tree.
    by_cases same : tree = other
    · subst same
      rw [Table.measure_found found] at before
      rw [if_pos rfl, Table.measure_found found, if_pos ⟨rfl, by simp [fresh]⟩]
      simp only [Handle.shared]
      omega
    · rw [if_neg (TreeRef.index_ne same), if_neg (fun both => same both.1)]
      exact before
  trees := counted.trees.modify fun there isThere _ => by
    obtain rfl := Option.some.inj (found.symm.trans isThere)
    exact Handle.settled_shared isOpen
  files := counted.files.push (by simp [Handle.Settled, fresh])

end Counted

/-- Every deal keeps the counts of references, if nobody may release without one. -/
theorem Deal.counted {licence : Licence} {before after : Session × Multiset Stake}
    (deal : Deal licence before after) (fair : ¬ licence.overRelease)
    (counted : Counted before.1.trees before.1.files before.2) :
    Counted after.1.trees after.1.files after.2 := by
  -- Another place that knows a tree takes no reference.
  have kept (session : Session) (tree : TreeRef) {stakes : Multiset Stake}
      (counted : Counted session.trees session.files stakes) :
      Counted (session.keepTree tree).trees (session.keepTree tree).files
        (.tree tree ::ₘ stakes) := by
    rw [Session.keepTree_eq]
    refine (counted.recount tree Handle.keep fun _ => ⟨rfl, rfl⟩).restake fun other => ?_
    exact Multiset.count_cons_of_ne (by simp) _
  -- The last release of a file gives the reference back that the file has to its tree.
  have releasedFile (session : Session) (file : FileRef) {stakes : Multiset Stake}
      (counted : Counted session.trees session.files stakes) :
      Counted (session.releaseFile file).2.trees (session.releaseFile file).2.files stakes := by
    cases found : session.file? file with
    | none =>
      simp only [Session.releaseFile, found]
      exact counted
    | some handle =>
      obtain ⟨files, trees⟩ := Session.tables_releaseFile found
      simp only [files, trees]
      by_cases last : handle.refs = 1
      · rw [if_pos last]
        exact counted.closeFile found last
      · rw [if_neg last]
        have stays : handle.released.closed = handle.closed := by simp [Handle.released, last]
        exact counted.modifyFile found rfl stays
          (Handle.settled_released (counted.files file.index handle found))
  -- One case for each use of a session; most of them touch no reference.
  cases deal with
  | note log script => exact counted
  | call licensed hooks => exact counted
  | @invalidate session stakes =>
    obtain ⟨trees, files⟩ := session.tables_invalidate
    simp only [trees, files]
    exact counted
  | acquire acquired =>
    obtain ⟨files, ⟨handle, found, isOpen, trees⟩ | ⟨rfl, handle, trees, fresh, isOpen, _⟩⟩ :=
      Session.tables_acquire acquired
    · simp only [trees, files]
      exact counted.share found isOpen
    · simp only [trees, files]
      exact counted.connect fresh isOpen
  | refused failed =>
    obtain ⟨trees, files⟩ := Session.tables_refused failed
    simp only [trees, files]
    exact counted
  | share isKnown taken =>
    obtain ⟨⟨handle, found, isOpen⟩, rfl⟩ := Session.acquireTree_ok taken
    exact counted.share found isOpen
  | keep isKnown => exact kept _ _ counted
  | keepActive active => exact kept _ _ counted
  | keepOwner isKnown found => exact kept _ _ counted
  | @forget session stakes tree =>
    obtain ⟨log, forgotten⟩ := session.forgetTree_eq tree
    simp only [forgotten]
    refine (counted.recount tree Handle.forget fun _ => ⟨rfl, rfl⟩).restake fun other => ?_
    exact (Multiset.count_cons_of_ne (by simp) _).symm
  | @release session stakes tree isKnown =>
    obtain ⟨trees, files⟩ := session.tables_releaseTree tree
    simp only [trees, files]
    exact counted.release
  | overRelease licensed => exact (fair licensed).elim
  | @closeTree session stakes tree handle licensed isKnown found =>
    obtain ⟨trees, files⟩ := Session.tables_disconnect handle.resource session
    simp only [trees, files]
    exact counted
  | @send session stakes tree request delivery licensed isKnown =>
    obtain ⟨trees, files⟩ := session.tables_send tree request delivery
    simp only [trees, files]
    exact counted
  | adopt isKnown adopted =>
    obtain ⟨⟨owner, found, isOpen⟩, rfl, log, rfl⟩ := Session.adoptFile_ok adopted
    refine (counted.adopt found isOpen rfl ⟨rfl, rfl⟩).restake fun other => ?_
    rw [Multiset.count_cons_of_ne (by simp), Multiset.count_cons_of_ne (by simp)]
  | shareFile isKnown taken =>
    obtain ⟨⟨handle, found, isOpen⟩, rfl⟩ := Session.acquireFile_ok taken
    refine (counted.modifyFile found rfl rfl (Handle.settled_shared isOpen)).restake ?_
    intro other
    rw [Multiset.count_cons_of_ne (by simp), Multiset.count_cons_of_ne (by simp)]
  | releaseFile isKnown =>
    refine releasedFile _ _ (counted.restake fun other => ?_)
    exact (Multiset.count_cons_of_ne (by simp) _).symm
  | overReleaseFile licensed isKnown => exact releasedFile _ _ counted
  | abandonFile licensed file =>
    exact counted.restake fun other => (Multiset.count_cons_of_ne (by simp) _).symm
  | @forgetFile session stakes file =>
    have unstaked : Counted session.trees session.files stakes :=
      counted.restake fun other => (Multiset.count_cons_of_ne (by simp) _).symm
    cases found : session.file? file with
    | none =>
      simp only [Session.forgetFile, found]
      exact unstaked
    | some handle =>
      obtain ⟨log, forgotten⟩ := Session.forgetFile_eq found
      have still : Counted session.trees (session.files.modify file.index Handle.forget) stakes :=
        unstaked.modifyFile found rfl rfl (counted.files file.index handle found)
      simp only [forgotten]
      split
      · exact still.recount _ Handle.forget fun _ => ⟨rfl, rfl⟩
      · exact still

/-- A chain of deals keeps the counts of references, if nobody may release without one. -/
theorem Deals.counted {licence : Licence} {before after : Session × Multiset Stake}
    (deals : Deals licence before after) (fair : ¬ licence.overRelease)
    (counted : Counted before.1.trees before.1.files before.2) :
    Counted after.1.trees after.1.files after.2 :=
  -- Each deal keeps the counts, so a chain of them does.
  deals.keeps (fun deal => deal.counted fair) counted

end SmbBrowser
