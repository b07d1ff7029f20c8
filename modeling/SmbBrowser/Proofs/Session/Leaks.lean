import SmbBrowser.Proofs.Session.References

/-!
Leaks: a file counts the references that stand outside the session and those that were forgotten.
Whoever forgets none and gives back what it took leaves every handle as it was.
-/

namespace SmbBrowser

/-- Two lists that agree about a property at every place have it equally often. -/
theorem countP_eq_of_agree {α : Type} {p : α → Bool} {xs ys : List α}
    (agree : ∀ i : Nat, (xs[i]?).any p = (ys[i]?).any p) : xs.countP p = ys.countP p := by
  -- The lists are compared place by place, and the shorter one has nothing behind its end.
  induction xs generalizing ys with
  | nil =>
    -- Nothing in the other list has the property.
    rw [List.countP_nil, eq_comm, List.countP_eq_zero]
    intro y listed
    obtain ⟨i, found⟩ := List.getElem?_of_mem listed
    have absent := agree i
    simpa [found] using absent.symm
  | cons x xs ih =>
    cases ys with
    | nil =>
      have first : p x = false := by simpa using agree 0
      have rest := @ih [] fun i => by simpa using agree (i + 1)
      rw [List.countP_cons, rest, first]
      simp
    | cons y ys =>
      have first : p x = p y := by simpa using agree 0
      have rest := @ih ys fun i => by simpa using agree (i + 1)
      rw [List.countP_cons, List.countP_cons, rest, first]

/-- Every file counts the references outside the session and the `forgotten` ones, and the files
that there were at first are still on their trees. -/
structure FilesHeld (first : Array (Handle OpenFile)) (forgotten : FileRef → Nat)
    (files : Array (Handle OpenFile)) (stakes : Multiset Stake) : Prop where
  /-- A file is held by references. -/
  held : ∀ file : FileRef, Table.measure (·.refs) files file.index =
    stakes.count (.fileReference file) + forgotten file
  /-- The files that there were are still there. -/
  kept : ∀ (place : Nat) (handle : Handle OpenFile), first[place]? = some handle →
    ∃ now, files[place]? = some now ∧ now.resource = handle.resource

namespace FilesHeld

variable {first files : Array (Handle OpenFile)} {forgotten : FileRef → Nat}
  {stakes after : Multiset Stake} {file : FileRef}

/-- Places that know a handle and references to trees do not hold a file. -/
theorem restake (held : FilesHeld first forgotten files stakes)
    (same : ∀ file, after.count (.fileReference file) = stakes.count (.fileReference file)) :
    FilesHeld first forgotten files after where
  -- Only references to files are counted.
  held file := by
    rw [same file]
    exact held.held file
  kept := held.kept

/-- A file whose references change as the stakes in it do. -/
theorem modify (held : FilesHeld first forgotten files stakes)
    {change : Handle OpenFile → Handle OpenFile}
    (sameResource : ∀ handle, (change handle).resource = handle.resource)
    (own : Table.measure (fun handle => (change handle).refs) files file.index +
        stakes.count (.fileReference file) =
      Table.measure (·.refs) files file.index + after.count (.fileReference file))
    (others : ∀ other, other ≠ file →
      after.count (.fileReference other) = stakes.count (.fileReference other)) :
    FilesHeld first forgotten (files.modify file.index change) after where
  held other := by
    rw [Table.measure_modify]
    have before := held.held other
    -- Only the own place of the table is changed.
    by_cases same : other = file
    · subst same
      rw [if_pos rfl]
      omega
    · rw [if_neg (FileRef.index_ne (Ne.symm same)), others other same]
      exact before
  kept place handle isFirst := by
    obtain ⟨now, found, resource⟩ := held.kept place handle isFirst
    rw [Array.getElem?_modify, found]
    by_cases same : file.index = place
    · rw [if_pos same]
      exact ⟨change now, rfl, (sameResource now).trans resource⟩
    · rw [if_neg same]
      exact ⟨now, rfl, resource⟩

/-- A change that neither takes nor gives a reference. -/
theorem recount (held : FilesHeld first forgotten files stakes) (file : FileRef)
    {change : Handle OpenFile → Handle OpenFile}
    (same : ∀ handle, (change handle).refs = handle.refs ∧
      (change handle).resource = handle.resource) :
    FilesHeld first forgotten (files.modify file.index change) stakes := by
  -- The count of the file itself stays, and so do the stakes.
  refine held.modify (fun handle => (same handle).2) ?_ fun _ _ => rfl
  simp only [(same _).1]

/-- A file that is adopted has the reference of the one who adopted it. -/
theorem adopt (held : FilesHeld first forgotten files stakes) {handle : Handle OpenFile}
    (fresh : handle.refs = 1) :
    FilesHeld first forgotten (files.push handle)
      (.file ⟨files.size⟩ ::ₘ .fileReference ⟨files.size⟩ ::ₘ stakes) where
  held other := by
    rw [Table.measure_push, Multiset.count_cons_of_ne (by simp)]
    have before := held.held other
    -- The new file has no reference before it is there.
    by_cases same : other = ⟨files.size⟩
    · subst same
      rw [Table.measure_size] at before
      rw [if_pos rfl, Multiset.count_cons_self]
      omega
    · rw [if_neg (FileRef.index_ne same), Multiset.count_cons_of_ne (by simpa using same)]
      exact before
  kept place there isFirst := by
    obtain ⟨now, found, resource⟩ := held.kept place there isFirst
    have within : place < files.size := (Array.getElem?_eq_some_iff.mp found).1
    refine ⟨now, ?_, resource⟩
    rw [Array.getElem?_push, if_neg (by omega)]
    exact found

/-- Sharing an open file takes a reference. -/
theorem share (held : FilesHeld first forgotten files stakes) {handle : Handle OpenFile}
    (found : files[file.index]? = some handle) :
    FilesHeld first forgotten (files.modify file.index Handle.shared)
      (.file file ::ₘ .fileReference file ::ₘ stakes) := by
  refine held.modify (fun _ => rfl) ?_ ?_
  · -- The file counts one more, and one more reference stands outside.
    rw [Table.measure_found found, Table.measure_found found,
      Multiset.count_cons_of_ne (by simp), Multiset.count_cons_self]
    simp only [Handle.shared]
    omega
  · -- Both of the new stakes are in this file alone.
    intro other different
    rw [Multiset.count_cons_of_ne (by simp), Multiset.count_cons_of_ne (by simpa using different)]

/-- A release gives a reference back. -/
theorem release (held : FilesHeld first forgotten files (.fileReference file ::ₘ stakes)) :
    FilesHeld first forgotten (files.modify file.index Handle.released) stakes := by
  -- Whoever gives a reference back has one, so the handle is there.
  have counted := held.held file
  rw [Multiset.count_cons_self] at counted
  have positive : 0 < Table.measure (·.refs) files file.index := by omega
  obtain ⟨handle, found, _⟩ := Table.exists_of_measure_pos (·.refs) positive
  refine held.modify (fun _ => rfl) ?_ ?_
  · rw [Table.measure_found found] at counted
    rw [Table.measure_found found, Table.measure_found found, Multiset.count_cons_self]
    simp only [Handle.released]
    omega
  · intro other different
    rw [Multiset.count_cons_of_ne (by simpa using different)]

/-- A reference that is forgotten still counts. -/
theorem abandon (held : FilesHeld first forgotten files (.fileReference file ::ₘ stakes)) :
    FilesHeld first (fun other => forgotten other + if other = file then 1 else 0) files
      stakes where
  held other := by
    rw [held.held other]
    -- What leaves the stakes is counted as forgotten.
    by_cases same : other = file
    · subst same
      rw [if_pos rfl, Multiset.count_cons_self]
      omega
    · rw [if_neg same, Multiset.count_cons_of_ne (by simpa using same)]
      omega
  kept := held.kept

end FilesHeld

/-- Every deal keeps the counts of the files' references, if nobody may release without one; no
reference is forgotten without a licence. -/
theorem Deal.filesHeld {licence : Licence} {first : Array (Handle OpenFile)}
    {forgotten : FileRef → Nat} {before after : Session × Multiset Stake}
    (deal : Deal licence before after) (fair : ¬ licence.overRelease)
    (held : FilesHeld first forgotten before.1.files before.2) :
    ∃ lost, (lost = forgotten ∨ licence.abandon) ∧ FilesHeld first lost after.1.files after.2 := by
  -- Only forgetting changes what was forgotten.
  suffices counted : FilesHeld first forgotten after.1.files after.2 ∨
      ∃ lost, licence.abandon ∧ FilesHeld first lost after.1.files after.2 by
    rcases counted with counted | ⟨lost, licensed, counted⟩
    · exact ⟨forgotten, .inl rfl, counted⟩
    · exact ⟨lost, .inr licensed, counted⟩
  -- One case for each use of a session; uses of trees leave the files alone.
  cases deal with
  | note log script => exact .inl held
  | call licensed hooks => exact .inl held
  | @invalidate session stakes =>
    obtain ⟨_, files⟩ := session.tables_invalidate
    simp only [files]
    exact .inl held
  | acquire acquired =>
    obtain ⟨files, _⟩ := Session.tables_acquire acquired
    simp only [files]
    refine .inl (held.restake fun other => ?_)
    rw [Multiset.count_cons_of_ne (by simp), Multiset.count_cons_of_ne (by simp)]
  | refused failed =>
    obtain ⟨_, files⟩ := Session.tables_refused failed
    simp only [files]
    exact .inl held
  | share isKnown taken =>
    obtain ⟨_, rfl⟩ := Session.acquireTree_ok taken
    refine .inl (held.restake fun other => ?_)
    rw [Multiset.count_cons_of_ne (by simp), Multiset.count_cons_of_ne (by simp)]
  | keep isKnown =>
    rw [Session.keepTree_eq]
    exact .inl (held.restake fun other => Multiset.count_cons_of_ne (by simp) _)
  | keepActive active =>
    rw [Session.keepTree_eq]
    exact .inl (held.restake fun other => Multiset.count_cons_of_ne (by simp) _)
  | keepOwner isKnown found =>
    rw [Session.keepTree_eq]
    exact .inl (held.restake fun other => Multiset.count_cons_of_ne (by simp) _)
  | @forget session stakes tree =>
    obtain ⟨log, forgotten⟩ := session.forgetTree_eq tree
    simp only [forgotten]
    exact .inl (held.restake fun other => (Multiset.count_cons_of_ne (by simp) _).symm)
  | @release session stakes tree isKnown =>
    obtain ⟨_, files⟩ := session.tables_releaseTree tree
    simp only [files]
    exact .inl (held.restake fun other => (Multiset.count_cons_of_ne (by simp) _).symm)
  | overRelease licensed => exact (fair licensed).elim
  | @closeTree session stakes tree handle licensed isKnown found =>
    obtain ⟨_, files⟩ := Session.tables_disconnect handle.resource session
    simp only [files]
    exact .inl held
  | @send session stakes tree request delivery licensed isKnown =>
    obtain ⟨_, files⟩ := session.tables_send tree request delivery
    simp only [files]
    exact .inl held
  | adopt isKnown adopted =>
    obtain ⟨_, rfl, log, rfl⟩ := Session.adoptFile_ok adopted
    exact .inl (held.adopt rfl)
  | shareFile isKnown taken =>
    obtain ⟨⟨handle, found, _⟩, rfl⟩ := Session.acquireFile_ok taken
    exact .inl (held.share found)
  | @releaseFile session stakes file isKnown =>
    refine .inl ?_
    cases found : session.file? file with
    | none =>
      -- A file that somebody has a reference to is there.
      have counted : Table.measure (·.refs) session.files file.index = _ := held.held file
      have positive : 0 < Table.measure (·.refs) session.files file.index := by
        rw [counted, Multiset.count_cons_self]
        omega
      obtain ⟨handle, isThere, _⟩ := Table.exists_of_measure_pos (·.refs) positive
      have absent : session.files[file.index]? = none := found
      simp [absent] at isThere
    | some handle =>
      obtain ⟨files, _⟩ := Session.tables_releaseFile found
      simp only [files]
      exact held.release
  | overReleaseFile licensed => exact (fair licensed).elim
  | abandonFile licensed file => exact .inr ⟨_, licensed, held.abandon⟩
  | @forgetFile session stakes file =>
    have unstaked : FilesHeld first forgotten session.files stakes :=
      held.restake fun other => (Multiset.count_cons_of_ne (by simp) _).symm
    refine .inl ?_
    cases found : session.file? file with
    | none =>
      simp only [Session.forgetFile, found]
      exact unstaked
    | some handle =>
      obtain ⟨log, forgotten⟩ := Session.forgetFile_eq found
      simp only [forgotten]
      exact unstaked.recount file fun _ => ⟨rfl, rfl⟩

/-- Whoever may neither release too often nor forget keeps what was forgotten as it is. -/
theorem Deals.filesHeld {licence : Licence} {first : Array (Handle OpenFile)}
    {forgotten : FileRef → Nat} {before after : Session × Multiset Stake}
    (deals : Deals licence before after) (fair : ¬ licence.overRelease)
    (careful : ¬ licence.abandon) (held : FilesHeld first forgotten before.1.files before.2) :
    FilesHeld first forgotten after.1.files after.2 := by
  -- No deal of the chain forgets a reference without a licence.
  induction deals with
  | refl => exact held
  | tail _ deal ih =>
    obtain ⟨lost, rfl | licensed, still⟩ := deal.filesHeld fair ih
    · exact still
    · exact (careful licensed).elim

/-- Files that are settled and have the same references on the same trees are as many open ones. -/
theorem openFiles_eq {before after : Array (Handle OpenFile)} (settled : Table.Settled before)
    (stillSettled : Table.Settled after)
    (refs : ∀ file : FileRef, Table.measure (·.refs) after file.index =
      Table.measure (·.refs) before file.index)
    (kept : ∀ (place : Nat) (handle : Handle OpenFile), before[place]? = some handle →
      ∃ now, after[place]? = some now ∧ now.resource = handle.resource) (tree : TreeRef) :
    openFiles after tree = openFiles before tree := by
  unfold openFiles filesOn
  rw [← Array.countP_toList, ← Array.countP_toList]
  -- The tables are compared place by place.
  refine countP_eq_of_agree fun place => ?_
  rw [Array.getElem?_toList, Array.getElem?_toList]
  have same := refs ⟨place⟩
  cases found : before[place]? with
  | none =>
    -- A file that is new has no reference, and is closed.
    cases isNew : after[place]? with
    | none => rfl
    | some now =>
      simp only [Table.measure, found, isNew, Option.map_some, Option.getD_some, Option.map_none,
        Option.getD_none] at same
      have closed : now.closed = true := (stillSettled place now isNew).mpr same
      simp [closed]
  | some handle =>
    obtain ⟨now, isNow, resource⟩ := kept place handle found
    rw [Table.measure_found isNow, Table.measure_found found] at same
    have closed : now.closed = handle.closed := by
      have after : now.closed = true ↔ now.refs = 0 := stillSettled place now isNow
      have before : handle.closed = true ↔ handle.refs = 0 := settled place handle found
      rw [Bool.eq_iff_iff, after, before, same]
    rw [isNow]
    simp [closed, resource]

/-- Every handle has as many references in the second session as in the first. -/
structure Session.SameReferences (before after : Session) : Prop where
  /-- The trees have. -/
  trees : ∀ tree : TreeRef, Table.measure (·.refs) after.trees tree.index =
    Table.measure (·.refs) before.trees tree.index
  /-- The files have. -/
  files : ∀ file : FileRef, Table.measure (·.refs) after.files file.index =
    Table.measure (·.refs) before.files file.index

/-- Whoever gives back what it took leaves every handle with the references that it had. -/
theorem Deals.sameReferences {before after : Session} {stakes : Multiset Stake}
    {first : Array (Handle OpenFile)} {forgotten : FileRef → Nat}
    (deals : Deals .reading (before, stakes) (after, stakes))
    (counted : Counted before.trees before.files stakes)
    (held : FilesHeld first forgotten before.files stakes) : before.SameReferences after := by
  -- Nothing is forgotten on the way, and the files that there were are still there.
  have heldBefore : FilesHeld before.files forgotten before.files stakes :=
    ⟨held.held, fun _ handle found => ⟨handle, found, rfl⟩⟩
  have heldAfter : FilesHeld before.files forgotten after.files stakes :=
    deals.filesHeld id id heldBefore
  have countedAfter : Counted after.trees after.files stakes :=
    deals.counted id counted
  have files (file : FileRef) : Table.measure (·.refs) after.files file.index =
      Table.measure (·.refs) before.files file.index := by
    rw [heldAfter.held file, heldBefore.held file]
  refine ⟨fun tree => ?_, files⟩
  rw [countedAfter.held tree, counted.held tree,
    openFiles_eq counted.files countedAfter.files files heldAfter.kept tree]

end SmbBrowser
