import SmbBrowser.Proofs.Session.Deal
import SmbBrowser.Proofs.Session.Tables

/-!
Who knows a handle: a tree is known by the places outside the session that have a stake in it and by
the files that were opened on it, a file by the places outside. Every deal keeps the counts true.
-/

namespace SmbBrowser

/-- A place in the table of trees tells the tree. -/
theorem TreeRef.index_ne {tree other : TreeRef} (different : tree ≠ other) :
    tree.index ≠ other.index := by
  -- A reference to a tree is nothing but its place.
  intro same
  obtain ⟨index⟩ := tree
  subst same
  exact different rfl

/-- A place in the table of files tells the file. -/
theorem FileRef.index_ne {file other : FileRef} (different : file ≠ other) :
    file.index ≠ other.index := by
  -- A reference to a file is nothing but its place.
  intro same
  obtain ⟨index⟩ := file
  subst same
  exact different rfl

/-- A stake that is a reference, not a place that knows a handle. -/
def Stake.Refers : Stake → Prop
  | .reference _ => True
  | .fileReference _ => True
  | _ => False

/-- A reference to a tree is a reference. -/
theorem Stake.refers_reference (tree : TreeRef) : (Stake.reference tree).Refers :=
  trivial

/-- A reference to a file is a reference. -/
theorem Stake.refers_fileReference (file : FileRef) : (Stake.fileReference file).Refers :=
  trivial

/-- A reference is no place that knows a tree. -/
theorem Stake.Refers.ne_tree {stake : Stake} (refers : stake.Refers) (tree : TreeRef) :
    .tree tree ≠ stake := by
  -- A place that knows a tree would have to be a reference.
  rintro rfl
  exact refers

/-- A reference is no place that knows a file. -/
theorem Stake.Refers.ne_file {stake : Stake} (refers : stake.Refers) (file : FileRef) :
    .file file ≠ stake := by
  -- A place that knows a file would have to be a reference.
  rintro rfl
  exact refers

/-- Every handle counts the places that know it, and the files on a tree that are known count for
the tree. -/
structure Known (trees : Array (Handle ConnectedTree)) (files : Array (Handle OpenFile))
    (stakes : Multiset Stake) : Prop where
  /-- A tree is known by stakes and by the files on it. -/
  trees : ∀ tree : TreeRef, Table.measure (·.keepers) trees tree.index =
    stakes.count (.tree tree) + filesOn (fun file => decide (0 < file.keepers)) files tree
  /-- A file is known by stakes. -/
  files : ∀ file : FileRef, Table.measure (·.keepers) files file.index = stakes.count (.file file)

namespace Known

variable {trees : Array (Handle ConnectedTree)} {files : Array (Handle OpenFile)}
  {stakes after : Multiset Stake} {tree : TreeRef} {file : FileRef}

/-- Without handles nothing is known. -/
theorem new : Known #[] #[] 0 where
  -- Both sides of each count are zero.
  trees tree := by simp [Table.measure, filesOn]
  files file := by simp [Table.measure]

/-- A tree that somebody has a stake in is known. -/
theorem exists_tree (known : Known trees files stakes) (has : .tree tree ∈ stakes) :
    ∃ handle, trees[tree.index]? = some handle ∧ 0 < handle.keepers := by
  -- A stake counts, so the handle that it counts for is there.
  have counted := Multiset.count_pos.mpr has
  have equal := known.trees tree
  exact Table.exists_of_measure_pos (·.keepers) (by omega)

/-- A file that somebody has a stake in is known. -/
theorem exists_file (known : Known trees files stakes) (has : .file file ∈ stakes) :
    ∃ handle, files[file.index]? = some handle ∧ 0 < handle.keepers := by
  -- The stake is counted, so the handle that counts it is there.
  have counted := Multiset.count_pos.mpr has
  have equal := known.files file
  exact Table.exists_of_measure_pos (·.keepers) (by omega)

/-- The tree of a known file is known. -/
theorem exists_owner (known : Known trees files stakes) {handle : Handle OpenFile}
    (found : files[file.index]? = some handle) (keeps : 0 < handle.keepers) :
    ∃ owner, trees[handle.resource.tree.index]? = some owner ∧ 0 < owner.keepers := by
  -- The file itself counts for its tree.
  have counted : 0 < filesOn (fun file => decide (0 < file.keepers)) files
      handle.resource.tree := by
    refine Array.countP_pos_iff.mpr ⟨handle, Array.mem_of_getElem? found, ?_⟩
    simpa using keeps
  have equal := known.trees handle.resource.tree
  exact Table.exists_of_measure_pos (·.keepers) (by omega)

/-- A tree whose count changes as its stakes do. -/
theorem modifyTree (known : Known trees files stakes)
    {change : Handle ConnectedTree → Handle ConnectedTree}
    (own : Table.measure (fun handle => (change handle).keepers) trees tree.index +
        stakes.count (.tree tree) =
      Table.measure (·.keepers) trees tree.index + after.count (.tree tree))
    (others : ∀ other, other ≠ tree → after.count (.tree other) = stakes.count (.tree other))
    (sameFiles : ∀ file, after.count (.file file) = stakes.count (.file file)) :
    Known (trees.modify tree.index change) files after where
  trees other := by
    rw [Table.measure_modify]
    have before := known.trees other
    -- Only the own place of the table is changed.
    by_cases same : other = tree
    · subst same
      rw [if_pos rfl]
      omega
    · rw [if_neg (TreeRef.index_ne (Ne.symm same)), others other same]
      exact before
  files file := by
    rw [sameFiles file]
    exact known.files file

/-- One more place that knows a tree. -/
theorem keep (known : Known trees files stakes) {handle : Handle ConnectedTree}
    (found : trees[tree.index]? = some handle)
    {change : Handle ConnectedTree → Handle ConnectedTree}
    (more : (change handle).keepers = handle.keepers + 1) :
    Known (trees.modify tree.index change) files (.tree tree ::ₘ stakes) := by
  refine known.modifyTree ?_ ?_ ?_
  · -- The handle and the stakes both count one more.
    rw [Table.measure_found found, Table.measure_found found, Multiset.count_cons_self]
    omega
  · -- The stake is counted for no other tree, and for no file.
    intro other different
    exact Multiset.count_cons_of_ne (by simpa using different) _
  · intro file
    exact Multiset.count_cons_of_ne (by simp) _

/-- A reference is nothing that knows its handle. -/
theorem refer {stake : Stake} (refers : stake.Refers) (known : Known trees files stakes) :
    Known trees files (stake ::ₘ stakes) where
  -- A reference is counted among the references, not here.
  trees tree := by
    rw [Multiset.count_cons_of_ne (refers.ne_tree tree)]
    exact known.trees tree
  files file := by
    rw [Multiset.count_cons_of_ne (refers.ne_file file)]
    exact known.files file

/-- Without a reference as much is known of its handle. -/
theorem unrefer {stake : Stake} (refers : stake.Refers)
    (known : Known trees files (stake ::ₘ stakes)) : Known trees files stakes where
  -- What a reference adds to the stakes is not counted here.
  trees tree := by
    rw [known.trees tree, Multiset.count_cons_of_ne (refers.ne_tree tree)]
  files file := by
    rw [known.files file, Multiset.count_cons_of_ne (refers.ne_file file)]

/-- One place fewer that knows a tree. -/
theorem forget (known : Known trees files (.tree tree ::ₘ stakes)) :
    Known (trees.modify tree.index Handle.forget) files stakes := by
  -- The stake that goes shows that the count is not zero yet.
  obtain ⟨handle, found, keeps⟩ := known.exists_tree (Multiset.mem_cons_self _ _)
  refine known.modifyTree ?_ ?_ ?_
  · rw [Table.measure_found found, Table.measure_found found, Multiset.count_cons_self]
    simp only [Handle.forget]
    omega
  · intro other different
    rw [Multiset.count_cons_of_ne (by simpa using different)]
  · intro file
    rw [Multiset.count_cons_of_ne (by simp)]

/-- What changes neither the places that know a tree nor the stakes. -/
theorem recount (known : Known trees files stakes)
    {change : Handle ConnectedTree → Handle ConnectedTree}
    (same : ∀ handle, (change handle).keepers = handle.keepers) :
    Known (trees.modify tree.index change) files stakes := by
  -- No count of places that know a tree changes.
  refine known.modifyTree ?_ (fun _ _ => rfl) (fun _ => rfl)
  simp only [same]

/-- A tree that is connected is known by the one who connected it. -/
theorem connect (known : Known trees files stakes) {handle : Handle ConnectedTree}
    (fresh : handle.keepers = 1) :
    Known (trees.push handle) files (.tree ⟨trees.size⟩ ::ₘ stakes) where
  trees other := by
    rw [Table.measure_push]
    have before := known.trees other
    -- The new tree is not known before it is there.
    by_cases same : other = ⟨trees.size⟩
    · subst same
      rw [Table.measure_size] at before
      rw [if_pos rfl, Multiset.count_cons_self]
      omega
    · rw [if_neg (TreeRef.index_ne same), Multiset.count_cons_of_ne (by simpa using same)]
      exact before
  files file := by
    rw [Multiset.count_cons_of_ne (by simp)]
    exact known.files file

/-- A file whose count changes as its stakes do, and which stays known or unknown. -/
theorem modifyFile (known : Known trees files stakes) {handle : Handle OpenFile}
    (found : files[file.index]? = some handle) {change : Handle OpenFile → Handle OpenFile}
    (sameResource : (change handle).resource = handle.resource)
    (stays : 0 < (change handle).keepers ↔ 0 < handle.keepers)
    (own : (change handle).keepers + stakes.count (.file file) =
      handle.keepers + after.count (.file file))
    (others : ∀ other, other ≠ file → after.count (.file other) = stakes.count (.file other))
    (sameTrees : ∀ tree, after.count (.tree tree) = stakes.count (.tree tree)) :
    Known trees (files.modify file.index change) after where
  trees tree := by
    -- A file that stays known counts for its tree as before.
    have counts := filesOn_modify (fun file => decide (0 < file.keepers)) found change
      sameResource tree
    simp only [decide_eq_true_eq, stays] at counts
    rw [sameTrees tree, known.trees tree]
    omega
  files other := by
    rw [Table.measure_modify]
    have before := known.files other
    by_cases same : other = file
    · subst same
      rw [Table.measure_found found] at before
      rw [if_pos rfl, Table.measure_found found]
      omega
    · rw [if_neg (FileRef.index_ne (Ne.symm same)), others other same]
      exact before

/-- A file that is adopted is known by the one who adopted it, and knows its tree. -/
theorem adopt (known : Known trees files stakes) {owner : Handle ConnectedTree}
    {handle : Handle OpenFile} (found : trees[tree.index]? = some owner)
    (onTree : handle.resource.tree = tree) (fresh : handle.keepers = 1) :
    Known (trees.modify tree.index Handle.shared) (files.push handle)
      (.file ⟨files.size⟩ ::ₘ stakes) where
  trees other := by
    rw [Table.measure_modify, filesOn_push, Multiset.count_cons_of_ne (by simp), onTree]
    have before := known.trees other
    -- The file is one more that knows its tree.
    by_cases same : tree = other
    · subst same
      rw [Table.measure_found found] at before
      rw [if_pos rfl, Table.measure_found found, if_pos ⟨rfl, by simp [fresh]⟩]
      simp only [Handle.shared]
      omega
    · rw [if_neg (TreeRef.index_ne same), if_neg (fun both => same both.1)]
      exact before
  files other := by
    rw [Table.measure_push]
    have before := known.files other
    by_cases same : other = ⟨files.size⟩
    · subst same
      rw [Table.measure_size] at before
      rw [if_pos rfl, Multiset.count_cons_self]
      omega
    · rw [if_neg (FileRef.index_ne same), Multiset.count_cons_of_ne (by simpa using same)]
      exact before

/-- The last place that forgets a file forgets its tree as well. -/
theorem forgetFile (known : Known trees files (.file file ::ₘ stakes)) {handle : Handle OpenFile}
    (found : files[file.index]? = some handle) :
    Known
      (if handle.keepers ≤ 1 then trees.modify handle.resource.tree.index Handle.forget else trees)
      (files.modify file.index Handle.forget) stakes := by
  -- The place that forgets the file has known it.
  have keeps : 0 < handle.keepers := by
    obtain ⟨there, same, keeps⟩ := known.exists_file (Multiset.mem_cons_self _ _)
    rwa [Option.some.inj (same.symm.trans found)] at keeps
  by_cases last : handle.keepers ≤ 1
  · rw [if_pos last]
    obtain ⟨owner, owned, ownerKeeps⟩ := known.exists_owner found keeps
    -- The tree loses the place that the file was.
    refine ⟨fun other => ?_, fun other => ?_⟩
    · have counts := filesOn_modify (fun file => decide (0 < file.keepers)) found Handle.forget
        rfl other
      have gone : ¬ (handle.resource.tree = other ∧ 0 < handle.forget.keepers) := by
        simp only [Handle.forget]
        omega
      have before := known.trees other
      rw [Multiset.count_cons_of_ne (by simp)] at before
      simp only [decide_eq_true_eq, if_neg gone] at counts
      rw [Table.measure_modify]
      by_cases same : handle.resource.tree = other
      · subst same
        rw [Table.measure_found owned] at before
        rw [if_pos ⟨rfl, keeps⟩] at counts
        rw [if_pos rfl, Table.measure_found owned]
        simp only [Handle.forget] at *
        omega
      · rw [if_neg (fun both => same both.1)] at counts
        rw [if_neg (TreeRef.index_ne same)]
        omega
    · have before := known.files other
      rw [Table.measure_modify]
      by_cases same : other = file
      · subst same
        rw [Table.measure_found found, Multiset.count_cons_self] at before
        rw [if_pos rfl, Table.measure_found found]
        simp only [Handle.forget]
        omega
      · rw [Multiset.count_cons_of_ne (by simpa using same)] at before
        rw [if_neg (FileRef.index_ne (Ne.symm same))]
        exact before
  · -- The file is still known, so its tree is.
    rw [if_neg last]
    refine known.modifyFile found rfl ?_ ?_ ?_ ?_
    · simp only [Handle.forget]
      omega
    · rw [Multiset.count_cons_self]
      simp only [Handle.forget]
      omega
    · intro other different
      rw [Multiset.count_cons_of_ne (by simpa using different)]
    · intro tree
      rw [Multiset.count_cons_of_ne (by simp)]

end Known

/-- Every deal keeps the counts of the places that know a handle, under any licence. -/
theorem Deal.known {licence : Licence} {before after : Session × Multiset Stake}
    (deal : Deal licence before after) (known : Known before.1.trees before.1.files before.2) :
    Known after.1.trees after.1.files after.2 := by
  -- Releases, requests and lost connections leave the places that know a handle alone.
  have free (session : Session) (tree : TreeRef) {stakes : Multiset Stake}
      (known : Known session.trees session.files stakes) :
      Known (session.releaseTree tree).2.trees (session.releaseTree tree).2.files stakes := by
    obtain ⟨trees, files⟩ := session.tables_releaseTree tree
    rw [trees, files]
    exact known.recount fun _ => rfl
  have freeFile {session : Session} {file : FileRef} {stakes : Multiset Stake}
      (isKnown : .file file ∈ stakes) (known : Known session.trees session.files stakes) :
      Known (session.releaseFile file).2.trees (session.releaseFile file).2.files stakes := by
    obtain ⟨handle, found, _⟩ := known.exists_file isKnown
    obtain ⟨files, trees⟩ := Session.tables_releaseFile found
    have counted : Known session.trees (session.files.modify file.index Handle.released) stakes :=
      known.modifyFile found rfl Iff.rfl rfl (fun _ _ => rfl) fun _ => rfl
    simp only [files, trees]
    split
    · exact counted.recount fun _ => rfl
    · exact counted
  -- One case for each use of a session; only acquiring, keeping and forgetting change who knows.
  cases deal with
  | note log script => exact known
  | call licensed hooks => exact known
  | @invalidate session stakes =>
    obtain ⟨trees, files⟩ := session.tables_invalidate
    simp only [trees, files]
    exact known
  | acquire acquired =>
    obtain ⟨files, ⟨handle, found, _, trees⟩ | ⟨rfl, handle, trees, _, _, fresh⟩⟩ :=
      Session.tables_acquire acquired
    · simp only [trees, files]
      exact (known.refer (Stake.refers_reference _)).keep found rfl
    · simp only [trees, files]
      exact (known.refer (Stake.refers_reference _)).connect fresh
  | refused failed =>
    obtain ⟨trees, files⟩ := Session.tables_refused failed
    simp only [trees, files]
    exact known
  | share isKnown taken =>
    obtain ⟨⟨handle, found, _⟩, rfl⟩ := Session.acquireTree_ok taken
    exact (known.refer (Stake.refers_reference _)).keep found rfl
  | keep isKnown =>
    obtain ⟨handle, found, _⟩ := known.exists_tree isKnown
    rw [Session.keepTree_eq]
    exact known.keep found rfl
  | keepActive active =>
    obtain ⟨_, handle, found, _⟩ := Session.active_some active
    rw [Session.keepTree_eq]
    exact known.keep found rfl
  | keepOwner isKnown found =>
    obtain ⟨file, same, keeps⟩ := known.exists_file isKnown
    rw [Option.some.inj (same.symm.trans found)] at keeps
    obtain ⟨owner, owned, _⟩ := known.exists_owner found keeps
    rw [Session.keepTree_eq]
    exact known.keep owned rfl
  | @forget session stakes tree =>
    obtain ⟨log, forgotten⟩ := session.forgetTree_eq tree
    simp only [forgotten]
    exact known.forget
  | release isKnown => exact (free _ _ known).unrefer (Stake.refers_reference _)
  | overRelease licensed isKnown => exact free _ _ known
  | @closeTree session stakes tree handle licensed isKnown found =>
    obtain ⟨trees, files⟩ := Session.tables_disconnect handle.resource session
    simp only [trees, files]
    exact known
  | @send session stakes tree request delivery licensed isKnown =>
    obtain ⟨trees, files⟩ := session.tables_send tree request delivery
    simp only [trees, files]
    exact known
  | adopt isKnown adopted =>
    obtain ⟨⟨owner, found, _⟩, rfl, log, rfl⟩ := Session.adoptFile_ok adopted
    exact (known.refer (Stake.refers_fileReference _)).adopt found rfl rfl
  | @shareFile session after stakes file isKnown taken =>
    obtain ⟨_, there, keeps⟩ := known.exists_file isKnown
    obtain ⟨⟨handle, found, _⟩, rfl⟩ := Session.acquireFile_ok taken
    obtain rfl := Option.some.inj (there.symm.trans found)
    refine (known.refer (Stake.refers_fileReference file)).modifyFile found rfl ?_ ?_ ?_ ?_
    · simp only [Handle.shared]
      omega
    · rw [Multiset.count_cons_self]
      simp only [Handle.shared]
      omega
    · intro other different
      exact Multiset.count_cons_of_ne (by simpa using different) _
    · intro tree
      exact Multiset.count_cons_of_ne (by simp) _
  | releaseFile isKnown => exact freeFile isKnown (known.unrefer (Stake.refers_fileReference _))
  | overReleaseFile licensed isKnown => exact freeFile isKnown known
  | abandonFile licensed file => exact known.unrefer (Stake.refers_fileReference _)
  | @forgetFile session stakes file =>
    obtain ⟨handle, found, _⟩ := known.exists_file (Multiset.mem_cons_self _ _)
    obtain ⟨log, forgotten⟩ := Session.forgetFile_eq found
    simp only [forgotten]
    exact known.forgetFile found

end SmbBrowser
