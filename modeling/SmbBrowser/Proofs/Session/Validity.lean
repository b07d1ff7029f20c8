import SmbBrowser.Proofs.Session.Ranked

/-!
Validity: at most one tree handle of a session is valid, the one of the last generation, and a
handle that is valid at some moment was valid at every moment before since it was made.
-/

namespace SmbBrowser

/-- What time does to a handle: it never opens again, and stays a handle on what it was. -/
structure Handle.Aged {Resource : Type} (before after : Handle Resource) : Prop where
  resource : after.resource = before.resource
  generation : after.generation = before.generation
  closed : before.closed = true → after.closed = true

namespace Handle

variable {Resource : Type} {handle : Handle Resource}

/-- A handle that nothing happened to has only aged. -/
theorem Aged.refl (handle : Handle Resource) : handle.Aged handle :=
  -- Everything about it is the same.
  ⟨rfl, rfl, id⟩

/-- What aged twice has aged. -/
theorem Aged.trans {later last : Handle Resource} (first : handle.Aged later)
    (second : later.Aged last) : handle.Aged last :=
  -- What is captured stays through both, and closed stays closed.
  ⟨second.resource.trans first.resource, second.generation.trans first.generation,
    fun closed => second.closed (first.closed closed)⟩

/-- Counting the references of a handle anew only ages it. -/
theorem Recounted.aged {after : Handle Resource} (recounted : handle.Recounted after) :
    handle.Aged after :=
  -- A recount touches nothing but the count, so a closed handle stays closed.
  ⟨recounted.resource, recounted.generation, fun closed => by rw [recounted.closed, closed]⟩

/-- Releasing a handle only ages it. -/
theorem aged_released (handle : Handle Resource) : handle.Aged handle.released :=
  -- A release can close the handle and cannot open it.
  ⟨rfl, rfl, fun closed => by simp [released, closed]⟩

end Handle

namespace Table

variable {Resource : Type} {related : Handle Resource → Handle Resource → Prop}

/-- Every handle stays at its place, related to what it was; further ones may come. -/
def Carried (related : Handle Resource → Handle Resource → Prop)
    (before after : Array (Handle Resource)) : Prop :=
  AtEach (fun place handle => ∃ later, after[place]? = some later ∧ related handle later) before

namespace Carried

variable {table : Array (Handle Resource)}

/-- A table that nothing happened to carries every handle on as it is. -/
theorem refl (same : ∀ handle, related handle handle) (table : Array (Handle Resource)) :
    Carried related table table :=
  -- Each handle is found where it was.
  fun _ handle found => ⟨handle, found, same handle⟩

/-- A change of one handle that is related to what it was carries the whole table on. -/
theorem modify (same : ∀ handle, related handle handle) {place : Nat} {handle : Handle Resource}
    (found : table[place]? = some handle) {change : Handle Resource → Handle Resource}
    (changed : related handle (change handle)) :
    Carried related table (table.modify place change) := by
  intro other there isThere
  rw [Array.getElem?_modify]
  -- Only the handle at the changed place is another one.
  by_cases here : place = other
  · subst here
    obtain rfl := Option.some.inj (found.symm.trans isThere)
    exact ⟨change handle, by rw [if_pos rfl, found]; rfl, changed⟩
  · exact ⟨there, by rw [if_neg here, isThere], same there⟩

/-- A further handle at the end of a table leaves all others at their places. -/
theorem push (same : ∀ handle, related handle handle) (table : Array (Handle Resource))
    (handle : Handle Resource) : Carried related table (table.push handle) := by
  intro place there isThere
  -- What is in the table is not at the place behind its end.
  have within : place ≠ table.size := by
    rintro rfl
    simp at isThere
  exact ⟨there, by rw [Array.getElem?_push, if_neg within, isThere], same there⟩

end Carried

/-- What time does to a table: every handle stays at its place, and further ones may come. -/
def Aged (before after : Array (Handle Resource)) : Prop := Carried Handle.Aged before after

namespace Aged

variable {table : Array (Handle Resource)}

/-- A table that nothing happened to has only aged. -/
theorem refl (table : Array (Handle Resource)) : Table.Aged table table :=
  -- Every handle aged by nothing.
  Carried.refl Handle.Aged.refl table

/-- A table that aged twice has aged. -/
theorem trans {later last : Array (Handle Resource)} (first : Table.Aged table later)
    (second : Table.Aged later last) : Table.Aged table last := by
  intro place handle found
  -- The handle is followed from its place to the same place of each later table.
  obtain ⟨between, isBetween, aged⟩ := first place handle found
  obtain ⟨behind, isBehind, further⟩ := second place between isBetween
  exact ⟨behind, isBehind, aged.trans further⟩

/-- A change that ages one handle ages the table. -/
theorem modify {place : Nat} {handle : Handle Resource} (found : table[place]? = some handle)
    {change : Handle Resource → Handle Resource} (aged : handle.Aged (change handle)) :
    Table.Aged table (table.modify place change) :=
  -- A change of one handle carries the others on, and they age by nothing.
  Carried.modify Handle.Aged.refl found aged

/-- A further handle ages the table. -/
theorem push (table : Array (Handle Resource)) (handle : Handle Resource) :
    Table.Aged table (table.push handle) :=
  -- What was there stays there, unchanged.
  Carried.push Handle.Aged.refl table handle

end Aged

end Table

/-- What time does to a session. A connection that was lost or given up only becomes usable again
with a further generation. -/
structure Session.Aged (before after : Session) : Prop where
  generations : before.generation ≤ after.generation
  resets : before.resets ≤ after.resets
  usable : after.generation = before.generation → after.connected = true → before.connected = true
  trees : Table.Aged before.trees after.trees
  files : Table.Aged before.files after.files

namespace Session.Aged

variable {before after : Session}

/-- A session in which nothing happened has only aged. -/
theorem refl (session : Session) : session.Aged session :=
  -- The counters stand still, and both tables aged by nothing.
  ⟨Nat.le_refl _, Nat.le_refl _, fun _ => id, .refl _, .refl _⟩

/-- A session that aged twice has aged. -/
theorem trans {later : Session} (first : before.Aged after) (second : after.Aged later) :
    before.Aged later where
  generations := Nat.le_trans first.generations second.generations
  resets := Nat.le_trans first.resets second.resets
  usable same connected := by
    -- The generation only grows, so if it is the same at the end it was the same between.
    have between := first.generations
    have behind := second.generations
    exact first.usable (by omega) (second.usable (by omega) connected)
  trees := first.trees.trans second.trees
  files := first.files.trans second.files

/-- Whatever passes between a session and its server only ages the session. -/
theorem undergo (session : Session) (pool : ScratchPool) (server : Playback) (log : Array Event)
    (fresh : List Passage) : session.Aged (session.undergo pool server log fresh) where
  generations := Nat.le_refl _
  resets := Nat.le_add_right _ _
  -- A loss can break the connection and nothing that passes can mend it.
  usable _ connected := by
    simp only [Session.undergo, Bool.and_eq_true] at connected
    exact connected.1
  trees := .refl _
  files := .refl _

/-- Giving the current tree up only ages the session. -/
theorem detach (session : Session) (generation : Nat) :
    session.Aged (session.detach generation) := by
  unfold Session.detach
  -- Either the tree that is given up is the current one, or nothing is done.
  split
  · exact ⟨Nat.le_refl _, Nat.le_refl _, by simp, .refl _, .refl _⟩
  · exact refl session

/-- Giving a tree back to the server only ages the session. -/
theorem disconnect (tree : ConnectedTree) (session : Session) :
    session.Aged (Session.disconnect tree session).2 := by
  -- Something passes at the server, and then the tree is given up.
  obtain ⟨pool, server, log, fresh, given, _⟩ := Session.disconnect_undergo tree session
  rw [given]
  exact (undergo session pool server log fresh).trans (detach _ _)

/-- Connecting the share only ages the session. -/
theorem connect (session : Session) : session.Aged session.connect.2 := by
  obtain ⟨pool, server, log, scratch, answer, fresh, _, outcome⟩ := session.connect_undergo
  rcases outcome with ⟨fault, outcome, _⟩ | ⟨tid, _, outcome⟩
  · rw [outcome]
    exact undergo session pool server log fresh
  · rw [outcome]
    -- Connecting begins a further generation.
    exact ⟨Nat.le_succ _, Nat.le_add_right _ _, by simp, .push _ _, .refl _⟩

end Session.Aged

/-- Whatever happens in a session at once only ages it. -/
theorem Stroke.aged {licence : Licence} {before after : Session}
    (stroke : Stroke licence before after) : before.Aged after := by
  -- Handles are recounted, released or added at the end, and the rest is what passes at the server.
  cases stroke with
  | write log hooks script => exact ⟨Nat.le_refl _, Nat.le_refl _, fun _ => id, .refl _, .refl _⟩
  | lose =>
    obtain ⟨log, lost⟩ := before.invalidate_undergo
    rw [lost]
    exact .undergo before _ _ log _
  | connect alone => exact .connect before
  | @ask tree handle request delivery licensed found valid =>
    obtain ⟨pool, server, log, scratch, asked⟩ :=
      before.exchange_undergo (some handle.resource.tid) request delivery
    rw [asked]
    exact .undergo before pool server log _
  | recountTree change found recounted =>
    exact ⟨Nat.le_refl _, Nat.le_refl _, fun _ => id, .modify found recounted.aged, .refl _⟩
  -- The handle is released first, and only then is its tree given back.
  | @closeTree tree handle found last =>
    have released : before.Aged
        { before with trees := before.trees.modify tree.index Handle.released } :=
      ⟨Nat.le_refl _, Nat.le_refl _, fun _ => id, .modify found handle.aged_released, .refl _⟩
    exact released.trans (.disconnect _ _)
  -- Closing behind the handle's back changes no handle at all.
  | bypass licensed found => exact .disconnect _ before
  | recountFile change found recounted =>
    exact ⟨Nat.le_refl _, Nat.le_refl _, fun _ => id, .refl _, .modify found recounted.aged⟩
  | makeFile file traced => exact ⟨Nat.le_refl _, Nat.le_refl _, fun _ => id, .refl _, .push _ _⟩
  -- As for trees: the release comes first, and the request to close behind it.
  | @closeFile file handle found last =>
    have released : before.Aged
        { before with files := before.files.modify file.index Handle.released } :=
      ⟨Nat.le_refl _, Nat.le_refl _, fun _ => id, .refl _, .modify found handle.aged_released⟩
    obtain ⟨pool, server, log, fresh, asked, _⟩ := Session.closeOnServer_undergo handle.resource
      { before with files := before.files.modify file.index Handle.released }
    rw [asked]
    exact released.trans (.undergo _ pool server log fresh)

/-- Whatever happens in a session one after the other only ages it. -/
theorem Strokes.aged {licence : Licence} {before after : Session}
    (strokes : Strokes licence before after) : before.Aged after := by
  -- Ageing is transitive, so each stroke adds to what those before it did.
  induction strokes with
  | refl => exact .refl _
  | tail _ stroke ih => exact ih.trans stroke.aged

/-- A handle that is valid later on was valid before, on a link that it had not outlived. -/
theorem Handle.Aged.isValid {Resource : Type} {handle later : Handle Resource}
    (aged : handle.Aged later) (settled : handle.Settled) {made : Nat}
    (isMade : handle.generation = some made) {before after : Session} (older : before.Aged after)
    (within : made ≤ before.generation) (valid : later.isValid after.link = true) :
    handle.isValid before.link = true := by
  -- A valid handle is open, and was made in the generation that there is.
  simp only [Handle.isValid, aged.generation, isMade, Session.link, Option.any_some,
    Bool.and_eq_true, Bool.not_eq_true', decide_eq_true_eq] at valid ⊢
  obtain ⟨⟨isOpen, _⟩, same, connected⟩ := valid
  have between := older.generations
  have wasOpen : handle.closed = false := by
    cases closed : handle.closed with
    | false => rfl
    | true =>
      have stays := aged.closed closed
      rw [isOpen] at stays
      exact absurd stays (by decide)
  have held : handle.refs ≠ 0 := by
    intro none
    rw [settled.mpr none] at wasOpen
    exact absurd wasOpen (by decide)
  exact ⟨⟨wasOpen, held⟩, by omega, older.usable (by omega) connected⟩

namespace Session

variable {session : Session}

/-- A tree is valid if there is a handle for it and this one is valid. -/
theorem isTreeValid_iff {tree : TreeRef} : session.isTreeValid tree = true ↔
    ∃ handle, session.tree? tree = some handle ∧ handle.isValid session.link = true := by
  -- A reference that points nowhere is not valid.
  simp [isTreeValid, Option.any_eq_true]

/-- A file is valid if there is a handle for it and this one is valid. -/
theorem isFileValid_iff {file : FileRef} : session.isFileValid file = true ↔
    ∃ handle, session.file? file = some handle ∧ handle.isValid session.link = true := by
  -- A reference that points nowhere is not valid.
  simp [isFileValid, Option.any_eq_true]

/-- At most one tree is valid. It is of the generation that there is, and whoever looks at the
connected tree while somebody knows it sees this one. -/
structure ValidOnce (session : Session) : Prop where
  unique : ∀ tree other, session.isTreeValid tree = true → session.isTreeValid other = true →
    tree = other
  active : ∀ tree, session.isTreeValid tree = true → session.isTreeKnown tree = true →
    session.active? = some tree
  generation : ∀ tree handle, session.tree? tree = some handle → session.isTreeValid tree = true →
    handle.generation = some session.generation

/-- What was made before and is invalid then is invalid afterwards as well. -/
structure LostForGood (before after : Session) : Prop where
  tree : ∀ tree handle, before.tree? tree = some handle → before.isTreeValid tree = false →
    after.isTreeValid tree = false
  file : ∀ file handle, before.file? file = some handle → before.isFileValid file = false →
    after.isFileValid file = false

end Session

namespace Ranked

variable {session later : Session}

/-- A valid tree is the current one, of the last generation, on a connection that can be used. -/
theorem of_isTreeValid (ranked : Ranked session) {tree : TreeRef}
    (valid : session.isTreeValid tree = true) :
    session.connected = true ∧ tree.index + 1 = session.generation ∧
      session.current = some tree ∧ ∃ handle, session.tree? tree = some handle ∧
        handle.closed = false ∧ handle.resource.epoch = session.resets := by
  obtain ⟨handle, found, isValid⟩ := Session.isTreeValid_iff.mp valid
  have told := ranked.trees tree.index handle found
  simp only [Handle.isValid, told.1, Session.link, Option.any_some, Bool.and_eq_true,
    Bool.not_eq_true', decide_eq_true_eq] at isValid
  obtain ⟨⟨isOpen, _⟩, last, connected⟩ := isValid
  -- There is only one tree of the last generation.
  obtain ⟨place, there, isLast, isThere, _, epoch, current⟩ := ranked.usable connected
  obtain rfl : place = tree.index := by omega
  obtain rfl := Option.some.inj (found.symm.trans isThere)
  exact ⟨connected, isLast, current, handle, found, isOpen, epoch⟩

/-- In a ranked session at most one tree is valid. -/
theorem validOnce (ranked : Ranked session) : session.ValidOnce where
  unique tree other valid otherValid := by
    -- A valid tree is the current one, and there is one current tree at most.
    have current := (ranked.of_isTreeValid valid).2.2.1
    have otherCurrent := (ranked.of_isTreeValid otherValid).2.2.1
    exact Option.some.inj (current.symm.trans otherCurrent)
  active tree valid known := by
    -- The current tree is open and known, which is all that whoever looks at it asks for.
    obtain ⟨_, _, current, handle, found, isOpen, _⟩ := ranked.of_isTreeValid valid
    simp [Session.active?, current, known, found, isOpen]
  generation tree handle found valid := by
    -- A tree was made for the generation after its place, and the valid one for the last.
    rw [(ranked.trees tree.index handle found).1, (ranked.of_isTreeValid valid).2.1]

/-- In a ranked session, what is invalid stays invalid. -/
theorem lostForGood (ranked : Ranked session) (aged : session.Aged later) :
    session.LostForGood later where
  tree tree handle found invalid := by
    -- A handle that is valid again is still the one at its place.
    refine Bool.eq_false_iff.mpr fun again => ?_
    obtain ⟨behind, isBehind, older⟩ := aged.trees tree.index handle found
    obtain ⟨there, isThere, isValid⟩ := Session.isTreeValid_iff.mp again
    obtain rfl := Option.some.inj (isBehind.symm.trans isThere)
    -- It carries the generation of its place, so it was valid before.
    have made := (ranked.trees tree.index handle found).1
    have within : tree.index < session.trees.size := (Array.getElem?_eq_some_iff.mp found).1
    rw [← ranked.generations] at within
    have settled := ranked.settledTrees tree.index handle found
    have was := older.isValid settled made aged within isValid
    rw [Session.isTreeValid_iff.mpr ⟨handle, found, was⟩] at invalid
    exact absurd invalid (by decide)
  file file handle found invalid := by
    refine Bool.eq_false_iff.mpr fun again => ?_
    -- It is the same for files, which captured a generation of their own.
    obtain ⟨behind, isBehind, older⟩ := aged.files file.index handle found
    obtain ⟨there, isThere, isValid⟩ := Session.isFileValid_iff.mp again
    obtain rfl := Option.some.inj (isBehind.symm.trans isThere)
    obtain ⟨made, isMade, within⟩ := ranked.files file.index handle found
    have settled := ranked.settledFiles file.index handle found
    have was := older.isValid settled isMade aged within isValid
    rw [Session.isFileValid_iff.mpr ⟨handle, found, was⟩] at invalid
    exact absurd invalid (by decide)

end Ranked

end SmbBrowser
