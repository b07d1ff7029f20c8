import SmbBrowser.Session.File

/-!
What the uses of a session do to its tables of handles: each of them changes one handle of a table,
or puts one more at its end, or leaves both tables alone. What is measured of a handle and how many
files are counted on a tree changes accordingly.
-/

namespace SmbBrowser

namespace Handle

variable {Resource World : Type}

/-- A handle with one more reference, held by one more place. -/
def shared (handle : Handle Resource) : Handle Resource :=
  { handle with refs := handle.refs + 1, keepers := handle.keepers + 1 }

/-- A handle that was released once; the last release closes it. -/
def released (handle : Handle Resource) : Handle Resource :=
  { handle with
    refs := handle.refs - 1
    closed := handle.closed || handle.refs = 1 }

/-- What is acquired is open, and shared afterwards. -/
theorem acquire_ok {handle after : Handle Resource} (acquired : handle.acquire = .ok after) :
    handle.closed = false ∧ after = handle.shared := by
  unfold acquire at acquired
  -- Only a closed handle refuses, so what was acquired was open.
  split at acquired
  · simp at acquired
  · rename_i isOpen
    simp only [Except.ok.injEq] at acquired
    exact ⟨by simpa using isOpen, acquired.symm⟩

/-- A release of nobody's handle is reported, and does nothing else. -/
theorem release_unheld (home : Home Resource World) {handle : Handle Resource}
    (unheld : handle.refs = 0) (world : World) :
    handle.release home world = (.ok (), home.note
      (.releaseUnderflow (home.describe handle.resource world) handle.closed) world) := by
  -- That nobody holds it is looked at first.
  unfold release
  rw [if_pos unheld]

/-- The release of the last reference closes the handle first, and takes the resource with it. -/
theorem release_last (home : Home Resource World) {handle : Handle Resource}
    (last : handle.refs = 1) (world : World) :
    handle.release home world = home.close handle.resource
      (home.note (.handleClosing (home.describe handle.resource (home.put handle.released world)))
        (home.put handle.released world)) := by
  -- Counting down from one reference is what closes the handle.
  have closing : handle.released = { handle with refs := 0, closed := true } := by
    simp [released, last]
  unfold release
  rw [if_neg (by omega), if_pos last, closing]

/-- Further references keep the handle open. -/
theorem release_shared (home : Home Resource World) {handle : Handle Resource}
    (more : 1 < handle.refs) (world : World) :
    handle.release home world = (.ok (), home.put handle.released world) := by
  -- Counting down from more than one leaves the handle open.
  have counting : handle.released = { handle with refs := handle.refs - 1 } := by
    simp [released, show handle.refs ≠ 1 by omega]
  unfold release
  rw [if_neg (by omega), if_neg (by omega), counting]

/-- Nobody's handle stays as it is; the last release closes the resource; any other only counts. -/
theorem release_cases (home : Home Resource World) (handle : Handle Resource) (world : World) :
    (handle.refs = 0 ∧ ∃ event, handle.release home world = (.ok (), home.note event world)) ∨
      (handle.refs = 1 ∧ ∃ event, handle.release home world =
        home.close handle.resource (home.note event (home.put handle.released world))) ∨
      (1 < handle.refs ∧ handle.release home world = (.ok (), home.put handle.released world)) := by
  -- The three branches of a release are the three sides of one reference.
  rcases Nat.lt_trichotomy handle.refs 1 with unheld | last | more
  · have unheld : handle.refs = 0 := by omega
    exact .inl ⟨unheld, _, release_unheld home unheld world⟩
  · exact .inr (.inl ⟨last, _, release_last home last world⟩)
  · exact .inr (.inr ⟨more, release_shared home more world⟩)

/-- A release of nobody's handle changes nothing of it. -/
theorem released_unheld {handle : Handle Resource} (unheld : handle.refs = 0) :
    handle.released = handle := by
  obtain ⟨resource, refs, closed, generation, traced, keepers⟩ := handle
  simp only at unheld
  -- The count cannot go below zero, and only a count of one closes.
  subst unheld
  simp [released]

end Handle

/-- A place that is overwritten with a change of what is there. -/
theorem Table.setIfInBounds_eq_modify {α : Type} {table : Array α} {place : Nat} {here : α}
    (change : α → α) (found : table[place]? = some here) :
    table.setIfInBounds place (change here) = table.modify place change := by
  -- Both tables are read at every place.
  apply Array.ext_getElem?
  intro other
  obtain ⟨within, isHere⟩ := Array.getElem?_eq_some_iff.mp found
  rw [Array.getElem?_setIfInBounds, Array.getElem?_modify]
  by_cases same : place = other
  · subst same
    simp [within, isHere]
  · simp [same]

/-- A change where nothing is changes nothing. -/
theorem Table.modify_absent {α : Type} {table : Array α} {place : Nat} (change : α → α)
    (absent : table[place]? = none) : table.modify place change = table := by
  apply Array.ext_getElem?
  intro other
  rw [Array.getElem?_modify]
  -- The change would be made at a place where nothing is, and nowhere else.
  by_cases same : place = other
  · subst same
    simp [absent]
  · simp [same]

/-- A place that is overwritten with what is there. -/
theorem Table.setIfInBounds_same {α : Type} {table : Array α} {place : Nat} {here : α}
    (found : table[place]? = some here) : table.setIfInBounds place here = table := by
  apply Array.ext_getElem?
  intro other
  obtain ⟨within, isHere⟩ := Array.getElem?_eq_some_iff.mp found
  rw [Array.getElem?_setIfInBounds]
  -- The place keeps what it has, and the others are not written to.
  by_cases same : place = other
  · subst same
    simp [within, isHere]
  · simp [same]

namespace Session

/-- Losing the connection leaves the tables alone. -/
theorem tables_invalidate (session : Session) :
    session.invalidate.trees = session.trees ∧ session.invalidate.files = session.files := by
  unfold invalidate
  simp only
  -- Whether the connection was up before only decides what is logged.
  split <;> exact ⟨rfl, rfl⟩

/-- Sending a request leaves the tables alone, whatever comes of it. -/
theorem tables_exchange (session : Session) (tid : Option TreeId) (request : Request)
    (delivery : Delivery) :
    (session.exchange tid request delivery).2.trees = session.trees ∧
      (session.exchange tid request delivery).2.files = session.files := by
  -- What an answer says about the connection is no affair of the tables.
  have heeded (session : Session) (answer : Except Fault Response) :
      (session.heed request answer).trees = session.trees ∧
        (session.heed request answer).files = session.files := by
    unfold heed
    split
    · exact tables_invalidate _
    · split
      · exact tables_invalidate _
      · exact ⟨rfl, rfl⟩
    · exact ⟨rfl, rfl⟩
  unfold exchange
  exact heeded _ _

/-- Sending a request on a tree leaves the tables alone. -/
theorem tables_send (session : Session) (tree : TreeRef) (request : Request)
    (delivery : Delivery) :
    (session.send tree request delivery).2.trees = session.trees ∧
      (session.send tree request delivery).2.files = session.files := by
  unfold send
  -- Nothing is sent on an unknown or invalid tree, and an exchange changes no table.
  split
  · exact ⟨rfl, rfl⟩
  · split
    · exact ⟨rfl, rfl⟩
    · exact tables_exchange session _ request delivery

/-- Giving a tree back to the server leaves the tables alone. -/
theorem tables_disconnect (tree : ConnectedTree) (session : Session) :
    (disconnect tree session).2.trees = session.trees ∧
      (disconnect tree session).2.files = session.files := by
  -- Giving up the connection is no affair of the tables either.
  have detached (session : Session) : (session.detach tree.generation).trees = session.trees ∧
      (session.detach tree.generation).files = session.files := by
    unfold detach
    split <;> exact ⟨rfl, rfl⟩
  unfold disconnect
  simp only [note, detached]
  split
  · exact tables_exchange session _ _ _
  · exact ⟨rfl, rfl⟩

/-- Only an open tree is shared, and only the handle changes. -/
theorem acquireTree_ok {session after : Session} {tree : TreeRef}
    (acquired : session.acquireTree tree = (.ok (), after)) :
    (∃ handle, session.tree? tree = some handle ∧ handle.closed = false) ∧
      after = { session with trees := session.trees.modify tree.index Handle.shared } := by
  unfold acquireTree at acquired
  split at acquired
  · simp at acquired
  · rename_i handle found
    split at acquired
    · simp at acquired
    · -- A handle that can be acquired is open, and is put back with one reference more.
      rename_i shared taken
      obtain ⟨isOpen, rfl⟩ := Handle.acquire_ok taken
      simp only [Prod.mk.injEq, true_and] at acquired
      subst acquired
      refine ⟨⟨handle, found, isOpen⟩, ?_⟩
      rw [putTree, Table.setIfInBounds_eq_modify Handle.shared found]

/-- Releasing a tree changes its handle and no other. -/
theorem tables_releaseTree (session : Session) (tree : TreeRef) :
    (session.releaseTree tree).2.trees = session.trees.modify tree.index Handle.released ∧
      (session.releaseTree tree).2.files = session.files := by
  unfold releaseTree
  -- A tree without a handle is nowhere in the table.
  cases found : session.tree? tree with
  | none => exact ⟨(Table.modify_absent _ found).symm, rfl⟩
  | some handle =>
    rw [← Table.setIfInBounds_eq_modify Handle.released found]
    simp only
    rcases handle.release_cases (treeHome tree) session with
      ⟨unheld, event, outcome⟩ | ⟨last, event, outcome⟩ | ⟨more, outcome⟩
    · -- The handle stays as it is.
      rw [outcome, Handle.released_unheld unheld, Table.setIfInBounds_same found]
      exact ⟨rfl, rfl⟩
    · -- The last release sends a request, which leaves the tables alone.
      rw [outcome]
      exact tables_disconnect handle.resource _
    · rw [outcome]
      exact ⟨rfl, rfl⟩

/-- One more place that knows a tree changes its handle and no other. -/
theorem keepTree_eq (session : Session) (tree : TreeRef) :
    session.keepTree tree =
      { session with trees := session.trees.modify tree.index Handle.keep } := by
  unfold keepTree
  -- Where there is no handle, there is nothing to change either.
  cases found : session.tree? tree with
  | none =>
    rw [Table.modify_absent _ found]
  | some handle =>
    rw [← Table.setIfInBounds_eq_modify Handle.keep found]
    rfl

/-- One place fewer that knows a tree changes its handle and no other, and may be reported. -/
theorem forgetTree_eq (session : Session) (tree : TreeRef) :
    ∃ log, session.forgetTree tree =
      { session with trees := session.trees.modify tree.index Handle.forget, log } := by
  unfold forgetTree
  cases found : session.tree? tree with
  | none =>
    rw [Table.modify_absent _ found]
    exact ⟨session.log, rfl⟩
  | some handle =>
    rw [← Table.setIfInBounds_eq_modify Handle.forget found]
    simp only
    -- The handle that nobody knows any more may be reported as leaked.
    split
    · exact ⟨_, rfl⟩
    · exact ⟨session.log, rfl⟩

/-- Connecting sends one request, and puts a new handle at the end of the table. -/
theorem connect_ok {session after : Session} {tree : TreeRef}
    (connected : session.connect = (.ok tree, after)) :
    ∃ tid later log, session.exchange none (.treeConnect session.sharePath) .plain =
        (.ok (.treeConnect tid), later) ∧ tree = ⟨later.trees.size⟩ ∧
      after = { later with
        generation := later.generation + 1
        connected := true
        current := some tree
        log
        trees := later.trees.push
          { resource := { tid, generation := later.generation + 1, epoch := later.resets }
            generation := some (later.generation + 1)
            traced := later.settings.traceResourceUsage } } := by
  -- Only an answer that names a tree makes a handle.
  unfold connect at connected
  split at connected
  · simp at connected
  · rename_i tid later answered
    simp only [Prod.mk.injEq, Except.ok.injEq] at connected
    obtain ⟨isTree, rfl⟩ := connected
    exact ⟨tid, later, _, answered, isTree.symm, by rw [← isTree]; rfl⟩
  · simp at connected

/-- Without a tree connecting sends one request and does nothing else. -/
theorem connect_error {session after : Session} {fault : Fault}
    (failed : session.connect = (.error fault, after)) :
    ∃ answer, session.exchange none (.treeConnect session.sharePath) .plain = (answer, after) ∧
      ∀ tid, answer ≠ .ok (.treeConnect tid) := by
  unfold connect at failed
  -- The exchange fails, or is answered with something that is no tree.
  split at failed
  · rename_i answered
    simp only [Prod.mk.injEq] at failed
    obtain ⟨_, rfl⟩ := failed
    exact ⟨_, answered, by simp⟩
  · simp at failed
  · rename_i response later other answered
    simp only [Prod.mk.injEq] at failed
    obtain ⟨_, rfl⟩ := failed
    refine ⟨_, answered, ?_⟩
    intro tid same
    simp only [Except.ok.injEq] at same
    exact other tid same

/-- A tree that can be shared is the connected one; it is known, open and valid. -/
theorem reusable_some {session : Session} {tree : TreeRef}
    (shared : session.reusable? = some tree) :
    session.current = some tree ∧ ∃ handle, session.tree? tree = some handle ∧
      0 < handle.keepers ∧ handle.isValid session.link = true ∧ handle.closed = false := by
  -- The current tree passed the filter, so there is a handle for it.
  obtain ⟨isCurrent, usable⟩ := Option.filter_eq_some_iff.mp shared
  simp only [isTreeKnown, isTreeValid, Bool.and_eq_true] at usable
  cases found : session.tree? tree with
  | none => simp [found] at usable
  | some handle =>
    simp only [found, Option.any_some, decide_eq_true_eq] at usable
    have isOpen : handle.closed = false := by
      have valid := usable.2
      simp only [Handle.isValid, Bool.and_eq_true] at valid
      simpa using valid.1.1
    exact ⟨isCurrent, handle, rfl, usable.1, usable.2, isOpen⟩

/-- The tree that is looked at is the connected one, and there is a handle for it. -/
theorem active_some {session : Session} {tree : TreeRef} (active : session.active? = some tree) :
    session.current = some tree ∧ ∃ handle, session.tree? tree = some handle ∧
      0 < handle.keepers ∧ handle.closed = false := by
  -- The current tree passed the filter, so there is a handle for it.
  obtain ⟨isCurrent, usable⟩ := Option.filter_eq_some_iff.mp active
  simp only [isTreeKnown, Bool.and_eq_true] at usable
  cases found : session.tree? tree with
  | none => simp [found] at usable
  | some handle =>
    simp only [found, Option.any_some, decide_eq_true_eq] at usable
    exact ⟨isCurrent, handle, rfl, usable.1, by simpa using usable.2⟩

/-- The tree that is acquired is the one that can be shared, or else the share is connected. -/
theorem acquire_cases (session : Session) :
    (∃ tree after, session.reusable? = some tree ∧ session.acquireTree tree = (.ok (), after) ∧
        session.acquire = (.ok tree, after)) ∨
      (session.reusable? = none ∧ session.acquire = session.connect) := by
  unfold acquire
  -- An open tree is never refused, so that sharing it cannot fail.
  cases shared : session.reusable? with
  | none => exact .inr ⟨rfl, rfl⟩
  | some tree =>
    obtain ⟨_, handle, found, _, _, isOpen⟩ := reusable_some shared
    have taken : ∃ after, session.acquireTree tree = (.ok (), after) := by
      simp [acquireTree, found, Handle.acquire, isOpen]
    obtain ⟨after, taken⟩ := taken
    refine .inl ⟨tree, after, rfl, taken, ?_⟩
    simp only [taken]

/-- Acquiring shares an open tree, or puts a new handle at the end of the table. -/
theorem tables_acquire {session after : Session} {tree : TreeRef}
    (acquired : session.acquire = (.ok tree, after)) :
    after.files = session.files ∧
      ((∃ handle, session.tree? tree = some handle ∧ handle.closed = false ∧
          after.trees = session.trees.modify tree.index Handle.shared) ∨
        (tree = ⟨session.trees.size⟩ ∧ ∃ handle, after.trees = session.trees.push handle ∧
          handle.refs = 1 ∧ handle.closed = false ∧ handle.keepers = 1)) := by
  rcases session.acquire_cases with ⟨shared, later, _, taken, outcome⟩ | ⟨_, outcome⟩
  · -- The current tree is shared.
    rw [outcome] at acquired
    simp only [Prod.mk.injEq, Except.ok.injEq] at acquired
    obtain ⟨rfl, rfl⟩ := acquired
    obtain ⟨⟨handle, found, isOpen⟩, rfl⟩ := acquireTree_ok taken
    exact ⟨rfl, .inl ⟨handle, found, isOpen, rfl⟩⟩
  · rw [outcome] at acquired
    obtain ⟨tid, later, log, answered, rfl, rfl⟩ := connect_ok acquired
    obtain ⟨trees, files⟩ := session.tables_exchange none (.treeConnect session.sharePath) .plain
    simp only [answered] at trees files
    refine ⟨files, .inr ⟨by rw [trees], _, by rw [trees], ?_, ?_, ?_⟩⟩ <;> rfl

/-- Without a tree acquiring leaves the tables alone. -/
theorem tables_refused {session after : Session} {fault : Fault}
    (failed : session.acquire = (.error fault, after)) :
    after.trees = session.trees ∧ after.files = session.files := by
  rcases session.acquire_cases with ⟨shared, later, _, _, outcome⟩ | ⟨_, outcome⟩
  · -- A tree that can be shared is not refused.
    simp [outcome] at failed
  · rw [outcome] at failed
    obtain ⟨answer, answered, _⟩ := connect_error failed
    have tables := session.tables_exchange none (.treeConnect session.sharePath) .plain
    rwa [answered] at tables

/-- Closing a file releases its tree, and leaves the table of files alone. -/
theorem tables_closeFile (file : OpenFile) (session : Session) :
    (closeFile file session).2.trees = session.trees.modify file.tree.index Handle.released ∧
      (closeFile file session).2.files = session.files := by
  -- The tree is released whether or not the server is asked to close the file.
  have freed (asked : Session) (sameTrees : asked.trees = session.trees)
      (sameFiles : asked.files = session.files) :
      (asked.releaseTree file.tree).2.trees =
          session.trees.modify file.tree.index Handle.released ∧
        (asked.releaseTree file.tree).2.files = session.files := by
    obtain ⟨trees, files⟩ := asked.tables_releaseTree file.tree
    rw [trees, files, sameTrees, sameFiles]
    exact ⟨rfl, rfl⟩
  unfold closeFile
  simp only
  split
  · obtain ⟨sameTrees, sameFiles⟩ :=
      session.tables_send file.tree (.close file.fid) .cleanup
    exact freed _ sameTrees sameFiles
  · exact freed _ rfl rfl

/-- Only an open file is shared, and only its handle changes. -/
theorem acquireFile_ok {session after : Session} {file : FileRef}
    (acquired : session.acquireFile file = (.ok (), after)) :
    (∃ handle, session.file? file = some handle ∧ handle.closed = false) ∧
      after = { session with files := session.files.modify file.index Handle.shared } := by
  unfold acquireFile at acquired
  -- A reference to no file and a closed file are both refused.
  split at acquired
  · simp at acquired
  · rename_i handle found
    split at acquired
    · simp at acquired
    · rename_i shared taken
      obtain ⟨isOpen, rfl⟩ := Handle.acquire_ok taken
      simp only [Prod.mk.injEq, true_and] at acquired
      subst acquired
      refine ⟨⟨handle, found, isOpen⟩, ?_⟩
      rw [putFile, Table.setIfInBounds_eq_modify Handle.shared found]

/-- Releasing a file changes its handle, and releases its tree when it was the last release. -/
theorem tables_releaseFile {session : Session} {file : FileRef} {handle : Handle OpenFile}
    (found : session.file? file = some handle) :
    (session.releaseFile file).2.files = session.files.modify file.index Handle.released ∧
      (session.releaseFile file).2.trees =
        if handle.refs = 1 then
          session.trees.modify handle.resource.tree.index Handle.released
        else session.trees := by
  unfold releaseFile
  rw [← Table.setIfInBounds_eq_modify Handle.released found, found]
  simp only
  rcases handle.release_cases (fileHome file) session with
    ⟨unheld, event, outcome⟩ | ⟨last, event, outcome⟩ | ⟨more, outcome⟩
  · -- The handle stays as it is.
    have others : handle.refs ≠ 1 := by omega
    rw [outcome, Handle.released_unheld unheld, Table.setIfInBounds_same found, if_neg others]
    exact ⟨rfl, rfl⟩
  · -- The last release gives the reference to the tree back.
    obtain ⟨trees, files⟩ := tables_closeFile handle.resource
      ((fileHome file).note event ((fileHome file).put handle.released session))
    rw [outcome, if_pos last]
    exact ⟨files, trees⟩
  · have others : handle.refs ≠ 1 := by omega
    rw [outcome, if_neg others]
    exact ⟨rfl, rfl⟩

/-- One place fewer that knows a file; the last of them forgets the tree as well. -/
theorem forgetFile_eq {session : Session} {file : FileRef} {handle : Handle OpenFile}
    (found : session.file? file = some handle) :
    ∃ log, session.forgetFile file =
      { session with
        log
        files := session.files.modify file.index Handle.forget
        trees :=
          if handle.keepers ≤ 1 then
            session.trees.modify handle.resource.tree.index Handle.forget
          else session.trees } := by
  have last : handle.forget.keepers = 0 ↔ handle.keepers ≤ 1 := by
    simp only [Handle.forget]
    omega
  unfold forgetFile
  rw [← Table.setIfInBounds_eq_modify Handle.forget found, found]
  simp only
  -- The tree is forgotten with the last place that knows the file.
  by_cases gone : handle.keepers ≤ 1
  · rw [if_pos (last.mpr gone), if_pos gone]
    split
    · exact forgetTree_eq _ _
    · exact forgetTree_eq _ _
  · rw [if_neg (fun none => gone (last.mp none)), if_neg gone]
    exact ⟨session.log, rfl⟩

/-- A file is adopted on an open tree, with a handle at the end of the table. -/
theorem adoptFile_ok {session after : Session} {tree : TreeRef} {fid : FileId} {path : String}
    {mode : OpenMode} {file : FileRef}
    (adopted : session.adoptFile tree fid path mode = (.ok file, after)) :
    (∃ handle, session.tree? tree = some handle ∧ handle.closed = false) ∧
      file = ⟨session.files.size⟩ ∧
      ∃ log, after = { session with
        log
        trees := session.trees.modify tree.index Handle.shared
        files := session.files.push
          { resource := { tree, fid, path, mode }
            generation := some session.generation
            traced := session.settings.traceResourceUsage } } := by
  unfold adoptFile at adopted
  split at adopted
  · simp at adopted
  · -- The file is put at the end of the table only when its tree could be shared.
    rename_i shared taken
    obtain ⟨isOpen, rfl⟩ := acquireTree_ok taken
    simp only [Prod.mk.injEq, Except.ok.injEq] at adopted
    obtain ⟨rfl, rfl⟩ := adopted
    exact ⟨isOpen, rfl, _, rfl⟩

end Session

namespace Table

variable {Resource : Type}

/-- What is measured of the handle at a place; nothing where there is no handle. -/
def measure (weigh : Handle Resource → Nat) (table : Array (Handle Resource)) (place : Nat) : Nat :=
  (table[place]?.map weigh).getD 0

/-- Where something is measured there is a handle. -/
theorem exists_of_measure_pos (weigh : Handle Resource → Nat) {table : Array (Handle Resource)}
    {place : Nat} (positive : 0 < measure weigh table place) :
    ∃ handle, table[place]? = some handle ∧ 0 < weigh handle := by
  unfold measure at positive
  -- Nothing is measured where there is no handle.
  cases found : table[place]? with
  | none => simp [found] at positive
  | some handle => exact ⟨handle, rfl, by simpa [found] using positive⟩

/-- The measure of a handle that is there. -/
theorem measure_found {weigh : Handle Resource → Nat} {table : Array (Handle Resource)}
    {place : Nat} {handle : Handle Resource} (found : table[place]? = some handle) :
    measure weigh table place = weigh handle := by
  -- The place holds this handle.
  simp [measure, found]

/-- A change of one handle changes its own measure at most. -/
theorem measure_modify (weigh : Handle Resource → Nat) (table : Array (Handle Resource))
    (place other : Nat) (change : Handle Resource → Handle Resource) :
    measure weigh (table.modify place change) other =
      if place = other then measure (fun handle => weigh (change handle)) table other
      else measure weigh table other := by
  unfold measure
  rw [Array.getElem?_modify]
  -- The change is seen at its own place only.
  by_cases same : place = other
  · simp only [if_pos same, Option.map_map]
    rfl
  · simp only [if_neg same]

/-- A handle at the end of the table is measured there. -/
theorem measure_push (weigh : Handle Resource → Nat) (table : Array (Handle Resource))
    (handle : Handle Resource) (place : Nat) :
    measure weigh (table.push handle) place =
      if place = table.size then weigh handle else measure weigh table place := by
  unfold measure
  rw [Array.getElem?_push]
  -- The new handle stands where the table ended.
  by_cases last : place = table.size
  · simp [last]
  · simp [last]

/-- Nothing is measured behind the end of a table. -/
theorem measure_size (weigh : Handle Resource → Nat) (table : Array (Handle Resource)) :
    measure weigh table table.size = 0 := by
  -- There is no handle at that place.
  simp [measure]

end Table

/-- How many files on a tree are counted. -/
def filesOn (counted : Handle OpenFile → Bool) (files : Array (Handle OpenFile)) (tree : TreeRef) :
    Nat :=
  files.countP fun file => decide (file.resource.tree = tree) && counted file

/-- A file at the end of the table is counted with its tree. -/
theorem filesOn_push (counted : Handle OpenFile → Bool) (files : Array (Handle OpenFile))
    (file : Handle OpenFile) (tree : TreeRef) :
    filesOn counted (files.push file) tree =
      filesOn counted files tree + if file.resource.tree = tree ∧ counted file then 1 else 0 := by
  -- The count goes on by the one file that came.
  simp [filesOn, Array.countP_push]

/-- A change of one file changes the count of its own tree at most. -/
theorem filesOn_modify (counted : Handle OpenFile → Bool) {files : Array (Handle OpenFile)}
    {place : Nat} {file : Handle OpenFile} (found : files[place]? = some file)
    (change : Handle OpenFile → Handle OpenFile) (same : (change file).resource = file.resource)
    (tree : TreeRef) :
    filesOn counted (files.modify place change) tree +
        (if file.resource.tree = tree ∧ counted file then 1 else 0) =
      filesOn counted files tree +
        if file.resource.tree = tree ∧ counted (change file) then 1 else 0 := by
  obtain ⟨within, isHere⟩ := Array.getElem?_eq_some_iff.mp found
  -- The file that is changed is among those that were counted, if it counts at all.
  have counts : (if decide (file.resource.tree = tree) && counted file then 1 else 0) ≤
      filesOn counted files tree := by
    split
    · rename_i both
      refine Array.countP_pos_iff.mpr ⟨file, Array.mem_of_getElem? found, both⟩
    · exact Nat.zero_le _
  rw [← Table.setIfInBounds_eq_modify change found, Array.setIfInBounds, dif_pos within]
  unfold filesOn at counts ⊢
  rw [Array.countP_set within, isHere, same]
  simp only [Bool.and_eq_true, decide_eq_true_eq] at counts ⊢
  omega

end SmbBrowser
