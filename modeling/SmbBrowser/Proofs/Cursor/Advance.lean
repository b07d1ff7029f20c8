import SmbBrowser.Cursor

/-! What reading on leaves alone, and what is known of a cursor that found an entry. -/

namespace SmbBrowser.Cursor

variable {Listing : Type}

/-- An entry is wanted unless it stands for the directory itself or its parent, or the reader's
choice of names does not let it pass; a choice that fails lets nothing pass. -/
def wants (filter : Option NameFilter) (entry : Entry) : Bool :=
  !entry.isSelfOrParent &&
    match filter with
    | none => true
    | some choice => match choice entry.name with
      | .ok wanted => wanted
      | .error _ => false

/-- The entries that are wanted are those that a cursor judges so. -/
theorem judge_eq (filter : Option NameFilter) (entry : Entry) :
    (judge filter entry).1 = wants filter entry := by
  unfold judge wants
  -- The directory itself and its parent are left out before anybody is asked.
  cases entry.isSelfOrParent with
  | true => rfl
  | false =>
    cases filter with
    | none => rfl
    | some choice =>
      simp only [Bool.false_eq_true, if_false, Bool.not_false, Bool.true_and]
      -- A choice that fails answers as one that does not let the name pass.
      cases choice entry.name <;> rfl

/-- What there is to log about entries that are looked at. -/
def remarks (filter : Option NameFilter) (entries : List Entry) : List Event :=
  entries.flatMap fun entry => (judge filter entry).2

/-- Reading on changes neither what a cursor holds nor what it has in hand. -/
structure SameReader (cursor ahead : Cursor Listing) : Prop where
  tree : ahead.tree = cursor.tree
  filter : ahead.filter = cursor.filter
  next : ahead.next = cursor.next
  deferred : ahead.deferred = cursor.deferred

namespace SameReader

/-- Nothing was read. -/
theorem refl (cursor : Cursor Listing) : SameReader cursor cursor :=
  -- Everything that the reader has is the same.
  ⟨rfl, rfl, rfl, rfl⟩

/-- Reading on and on is reading on. -/
theorem trans {cursor ahead farther : Cursor Listing} (first : SameReader cursor ahead)
    (second : SameReader ahead farther) : SameReader cursor farther :=
  -- Each of the four fields is the same through both.
  ⟨second.tree.trans first.tree, second.filter.trans first.filter,
    second.next.trans first.next, second.deferred.trans first.deferred⟩

end SameReader

variable [PagedListing Listing]

/-- Each entry has its own remarks. -/
theorem remarks_cons (filter : Option NameFilter) (entry : Entry) (entries : List Entry) :
    remarks filter (entry :: entries) = (judge filter entry).2 ++ remarks filter entries :=
  -- The remarks are gathered entry by entry.
  List.flatMap_cons

/-- A scan that finds an entry has found the first one that is wanted, and has looked at the
entries before it. -/
theorem scan_found {filter : Option NameFilter} {entries : List Entry} {entry : Entry}
    (found : (scan filter entries).found = some entry) :
    entries.filter (wants filter) =
        entry :: (entries.drop (scan filter entries).read).filter (wants filter) ∧
      remarks filter entries = (scan filter entries).events ++
        remarks filter (entries.drop (scan filter entries).read) := by
  -- The scan goes on exactly while the entries are not wanted.
  induction entries with
  | nil => simp [scan] at found
  | cons first rest ih =>
    have judged := judge_eq filter first
    rw [remarks_cons]
    simp only [scan] at found ⊢
    split at found <;> rename_i verdict <;> rw [verdict] at judged <;> simp only at judged found ⊢
    · -- The first entry is wanted, so nothing before it was looked at.
      obtain rfl := Option.some.inj found
      rw [List.filter_cons_of_pos judged.symm, verdict]
      exact ⟨rfl, rfl⟩
    · -- The first entry is not wanted, and is only looked at.
      obtain ⟨wanted, noted⟩ := ih found
      rw [List.filter_cons_of_neg (by simp [← judged]), List.drop_succ_cons, List.append_assoc,
        ← noted, verdict]
      exact ⟨wanted, rfl⟩

/-- A scan that finds nothing has looked at everything, and nothing of it is wanted. -/
theorem scan_ended {filter : Option NameFilter} {entries : List Entry}
    (ended : (scan filter entries).found = none) :
    entries.filter (wants filter) = [] ∧ (scan filter entries).events = remarks filter entries := by
  -- A scan that finds nothing has gone past every entry.
  induction entries with
  | nil => exact ⟨rfl, rfl⟩
  | cons first rest ih =>
    have judged := judge_eq filter first
    rw [remarks_cons]
    simp only [scan] at ended ⊢
    split at ended <;> rename_i verdict <;> rw [verdict] at judged <;> simp only at judged ended ⊢
    · simp at ended
    · obtain ⟨nothing, noted⟩ := ih ended
      rw [List.filter_cons_of_neg (by simp [← judged]), noted, verdict]
      exact ⟨nothing, rfl⟩

/-- What a scan finds is wanted. -/
theorem wants_of_found {filter : Option NameFilter} {entries : List Entry} {entry : Entry}
    (found : (scan filter entries).found = some entry) : wants filter entry = true := by
  -- What is found is the first of the wanted entries.
  have listed : entry ∈ entries.filter (wants filter) := by
    rw [(scan_found found).1]
    exact List.mem_cons_self
  exact (List.mem_filter.mp listed).2

/-- Turning the page keeps the reader. -/
theorem sameReader_turnPage (cursor : Cursor Listing) (session : Session) :
    SameReader cursor (cursor.turnPage session).2.1 := by
  unfold turnPage
  simp only
  -- Each outcome changes only the listing, the position and the state.
  split
  · exact ⟨rfl, rfl, rfl, rfl⟩
  · split
    · exact ⟨rfl, rfl, rfl, rfl⟩
    · split <;> exact ⟨rfl, rfl, rfl, rfl⟩

/-- Reading a page keeps the reader. -/
theorem sameReader_readPage (cursor : Cursor Listing) (session : Session) :
    SameReader cursor (cursor.readPage session).2.1 := by
  unfold readPage
  simp only
  -- Either an entry is found on the page, or the page is turned, which keeps the reader.
  split
  · exact ⟨rfl, rfl, rfl, rfl⟩
  · have turned := sameReader_turnPage
      { cursor with index := cursor.index + (scan cursor.filter cursor.unread).read }
      (session.noteAll (scan cursor.filter cursor.unread).events)
    exact ⟨turned.tree, turned.filter, turned.next, turned.deferred⟩

/-- Reading on keeps the reader. -/
theorem sameReader_advance (cursor : Cursor Listing) (session : Session) :
    SameReader cursor (cursor.advance session).2.1 := by
  -- Every turn of the loop reads one page.
  fun_induction advance cursor session with
  | case1 cursor session result ahead after page =>
    have read := cursor.sameReader_readPage session
    rwa [page] at read
  | case2 cursor session turned later page ih =>
    have read := cursor.sameReader_readPage session
    rw [page] at read
    exact read.trans ih

/-- Turning the page closes nothing. -/
theorem state_turnPage_ne_closed (cursor : Cursor Listing) (session : Session)
    (isOpen : cursor.state ≠ .closed) : (cursor.turnPage session).2.1.state ≠ .closed := by
  unfold turnPage
  simp only
  -- No outcome leads to the closed state.
  split
  · simp
  · split
    · exact isOpen
    · split <;> simp

/-- Reading on closes nothing. -/
theorem state_advance_ne_closed (cursor : Cursor Listing) (session : Session)
    (isOpen : cursor.state ≠ .closed) : (cursor.advance session).2.1.state ≠ .closed := by
  -- A page that is read either stays the page or is turned.
  have read (cursor : Cursor Listing) (session : Session) (isOpen : cursor.state ≠ .closed) :
      (cursor.readPage session).2.1.state ≠ .closed := by
    unfold readPage
    simp only
    split
    · exact isOpen
    · exact state_turnPage_ne_closed { cursor with index := _ } _ isOpen
  fun_induction advance cursor session with
  | case1 cursor session result ahead after page =>
    have still := read cursor session isOpen
    rwa [page] at still
  | case2 cursor session turned later page ih =>
    have still := read cursor session isOpen
    rw [page] at still
    exact ih still

end SmbBrowser.Cursor
