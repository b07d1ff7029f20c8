import SmbBrowser.Proofs.Session.Leaks
import SmbBrowser.Proofs.Workbench.Account

/-!
The references of a tree, seen from a workbench: its user's own, and one for everything that was
opened on the tree and has not been given back. Failing operations leave nothing behind.
-/

namespace SmbBrowser

/-- The tree that something to read from holds until it is closed. -/
def Reader.held : Reader → Option TreeRef
  | .cursor _ => none
  | .fixed _ => none
  | .names stream => stream.stream.held
  | .fixedNames stream => stream.held
  | .resources stream => stream.stream.held

/-- Whether an object is a stream that holds a tree. -/
def Item.streams (tree : TreeRef) : Item → Bool
  | .reader content => decide (content.held = some tree)
  | _ => false

/-- Whether an object is a resource that was listed through a tree. -/
def Item.listed (tree : TreeRef) : Item → Bool
  | .resource content => decide (content.tree = tree)
  | _ => false

namespace Workbench

variable {bench : Workbench} {tree : TreeRef}

/-- How many cursors on a tree are open. -/
def openCursors (bench : Workbench) (tree : TreeRef) : Nat :=
  bench.cursors.countP fun cursor => !cursor.isClosed && decide (cursor.tree = some tree)

/-- How many streams hold a tree. -/
def streams (bench : Workbench) (tree : TreeRef) : Nat :=
  bench.items.entries.countP fun entry => entry.2.streams tree

/-- How many resources were listed through a tree. -/
def resources (bench : Workbench) (tree : TreeRef) : Nat :=
  bench.items.entries.countP fun entry => entry.2.listed tree

end Workbench

namespace Account

/-- How many references a tree is to have: its user's own, and one for every open cursor, open
file, stream and resource on it. -/
def holders (account : Account) (tree : TreeRef) : Nat :=
  account.owned.count (.reference tree) + account.bench.openCursors tree +
    openFiles account.bench.session.files tree + account.bench.streams tree +
    account.bench.resources tree

end Account

namespace ResourceStream

/-- A stream has a reference to the tree that it holds, and none to the one that is only known. -/
theorem count_holdings {Source Item : Type} (stream : ResourceStream Source Item)
    (tree : TreeRef) :
    stream.holdings.count (.reference tree) = if stream.held = some tree then 1 else 0 := by
  -- A handle that is known is no reference.
  have known : ((stream.known.map fun known => ({.tree known} : Multiset Stake)).getD 0).count
      (.reference tree) = 0 := by
    cases stream.known <;> simp
  rw [holdings, Multiset.count_add, TreeRef.count_held, known, add_zero]

end ResourceStream

/-- Something to read from has a reference to the tree that it holds. -/
theorem Reader.count_stakes (reader : Reader) (tree : TreeRef) :
    reader.stakes.count (.reference tree) = if reader.held = some tree then 1 else 0 := by
  -- A cursor's reference is counted in the table, not here.
  cases reader with
  | cursor place => simp [stakes, held]
  | fixed source => simp [stakes, held]
  | names stream => exact stream.stream.count_holdings tree
  | fixedNames stream => exact stream.count_holdings tree
  | resources stream => exact stream.stream.count_holdings tree

/-- Among the objects only streams and resources have references. -/
theorem Item.count_stakes (item : Item) (tree : TreeRef) :
    item.stakes.count (.reference tree) =
      (if item.streams tree then 1 else 0) + if item.listed tree then 1 else 0 := by
  -- A tree under a name is known there, but its reference is in the account.
  cases item with
  | tree place => simp [stakes, streams, listed]
  | file place => simp [stakes, streams, listed]
  | listing content =>
    have unheld : content.stakes.count (.reference tree) = 0 :=
      Multiset.count_eq_zero.mpr (StakedListing.unheld content tree)
    simpa [stakes, streams, listed] using unheld
  | closer place => simp [stakes, streams, listed]
  | resource content =>
    have held : content.stakes.count (.reference tree) = _ := content.tree.count_hold tree
    simp only [stakes, streams, listed, held, decide_eq_true_eq, Bool.false_eq_true, if_false,
      zero_add]
  | reader content =>
    simp only [stakes, streams, listed, content.count_stakes tree, decide_eq_true_eq,
      Bool.false_eq_true, if_false, add_zero]

namespace Workbench

variable {origin : Session} {bench : Workbench}

/-- The cursors' references to a tree are those of the open cursors on it. -/
theorem count_cursorStakes (live : bench.CursorsLive origin) (tree : TreeRef) :
    bench.cursorStakes.count (.reference tree) = bench.openCursors tree := by
  have each : ∀ cursor ∈ bench.cursors.toList, ∃ opened, cursor.Sound opened :=
    fun cursor listed => (live cursor (Array.mem_toList_iff.mp listed)).clean.sound
  unfold cursorStakes openCursors
  rw [← Array.countP_toList]
  -- The induction is on the table, one cursor at a time.
  generalize bench.cursors.toList = cursors at each
  induction cursors with
  | nil => simp
  | cons cursor cursors ih =>
    obtain ⟨opened, soundHere⟩ := each cursor List.mem_cons_self
    have rest := ih fun other listed => each other (List.mem_cons_of_mem _ listed)
    rw [List.map_cons, List.sum_cons, Multiset.count_add, Cursor.count_stakes soundHere, rest,
      List.countP_cons, add_comm]

/-- The objects' references to a tree are those of the streams that hold it and the resources
that were listed through it. -/
theorem count_items (bench : Workbench) (tree : TreeRef) :
    (bench.items.total Item.stakes).count (.reference tree) =
      bench.streams tree + bench.resources tree := by
  unfold Registry.total streams resources
  -- The objects are counted one by one.
  induction bench.items.entries with
  | nil => simp
  | cons entry entries ih =>
    rw [List.map_cons, List.sum_cons, Multiset.count_add, Item.count_stakes, ih,
      List.countP_cons, List.countP_cons]
    omega

end Workbench

namespace Account

/-- The references in an account are its user's, the cursors' and the objects'. -/
theorem count_position {origin : Session} {account : Account} (fits : account.bench.Fits origin)
    (tree : TreeRef) :
    account.position.2.count (.reference tree) +
      openFiles account.bench.session.files tree = account.holders tree := by
  -- The stakes are added up object by object, and the files are counted in their own table.
  simp only [position, Workbench.stakes, Multiset.count_add,
    Workbench.count_cursorStakes fits.cursors, Workbench.count_items, holders]
  omega

/-- Whoever is permitted anything but to release too often may do whatever can be done. -/
theorem permits_fair (operation : Operation) : Licence.fair.Permits operation := by
  -- That licence lacks nothing that an operation asks for.
  cases operation with
  | closeTree name => trivial
  | send name request delivery => exact ⟨fun _ => trivial, fun _ => trivial⟩
  | _ => trivial

end Account

/-- The references that stand outside a session are counted in its handles. -/
def Balanced (position : Session × Multiset Stake) : Prop :=
  Counted position.1.trees position.1.files position.2 ∧
    ∃ forgotten, FilesHeld #[] forgotten position.1.files position.2

/-- Without handles nothing is to be counted. -/
theorem balanced_new (settings : Settings) (server : Playback) (sharePath oemDomain : String) :
    Balanced (.new settings server sharePath oemDomain, 0) :=
  -- All three counts begin at none.
  ⟨Counted.new, fun _ => 0, fun file => by simp [Session.new, Table.measure],
    fun place handle found => by simp at found⟩

/-- Every deal keeps the balance, if nobody may release without a reference. -/
theorem Balanced.keep {licence : Licence} {before after : Session × Multiset Stake}
    (fair : ¬ licence.overRelease) (deal : Deal licence before after)
    (balanced : Balanced before) : Balanced after := by
  obtain ⟨counted, forgotten, held⟩ := balanced
  -- That references to files are held is part of the balance, for a file that is given up frees its
  -- tree.
  obtain ⟨lost, _, still⟩ := deal.filesHeld fair held
  exact ⟨deal.counted fair counted, lost, still⟩

/-- A call that gives back what it took changes no references. -/
theorem Balanced.sameReferences {session after : Session} {stakes : Multiset Stake}
    (balanced : Balanced (session, stakes))
    (deals : Deals .reading (session, stakes) (after, stakes)) : session.SameReferences after := by
  -- The stakes are the same before and after, and what is counted follows them.
  obtain ⟨counted, forgotten, held⟩ := balanced
  exact deals.sameReferences counted held

/-- Listing a place fails without a trace in the references. -/
theorem Balanced.list_error {session after : Session} {stakes : Multiset Stake} {fault : Fault}
    (balanced : Balanced (session, stakes)) {locator : Locator} {options : ListOptions}
    (failed : session.list locator options = (.error fault, after)) :
    session.SameReferences after := by
  -- A failure gains nothing, so the call has given back whatever it took.
  have dealt : Deals .reading (session, stakes) _ := session.list_deals locator options
  rw [failed] at dealt
  exact balanced.sameReferences (by simpa [gainedBy] using dealt)

/-- Listing the resources of a place fails without a trace in the references. -/
theorem Balanced.listResources_error {session after : Session} {stakes : Multiset Stake}
    {fault : Fault} (balanced : Balanced (session, stakes)) {locator : Locator}
    {options : ListOptions} {filter : Option (Resource → Except Fault Bool)}
    (failed : session.listResources locator options filter = (.error fault, after)) :
    session.SameReferences after := by
  have dealt : Deals .reading (session, stakes) _ :=
    session.listResources_deals locator options filter
  rw [failed] at dealt
  -- As with a listing of entries, a failure gains nothing.
  exact balanced.sameReferences (by simpa [gainedBy] using dealt)

/-- Opening a file fails without a trace in the references. -/
theorem Balanced.openFile_error {session after : Session} {stakes : Multiset Stake}
    {fault : Fault} (balanced : Balanced (session, stakes)) {tree : TreeRef}
    (known : .tree tree ∈ stakes) {path : String} {mode : OpenMode}
    (failed : session.openFile tree path mode = (.error fault, after)) :
    session.SameReferences after := by
  -- The tree is known before and after, and nothing is gained.
  have dealt : Deals .reading (session, stakes) _ := session.openFile_deals path mode known
  rw [failed] at dealt
  exact balanced.sameReferences (by simpa [gainedBy] using dealt)

/-- A pull that fails gives back the tree and whatever the listing held open. -/
theorem Balanced.pull_error {Listing : Type} [PagedListing Listing] [StakedListing Listing]
    {session after : Session} {cursor used : Cursor Listing} {rest : Multiset Stake}
    {fault : Fault} (balanced : Balanced (session, cursor.stakes + rest)) (clean : cursor.Clean)
    (failed : cursor.pull session = (.error fault, used, after)) (file : FileRef) :
    used.tree = none ∧ Table.measure (·.refs) after.files file.index +
        cursor.stakes.count (.fileReference file) =
      Table.measure (·.refs) session.files file.index := by
  obtain ⟨_, forgotten, held⟩ := balanced
  obtain ⟨tree, sound⟩ := clean.sound
  have spent := sound.spent_of_pull failed
  have dealt : Deals .reading (session, cursor.stakes + rest) _ := cursor.pull_deals session
  rw [failed] at dealt
  -- A closed cursor has no stake, so what it had is all that went.
  have nothing : used.stakes = 0 := by
    have still := clean.pull session
    rw [failed] at still
    exact still.empty spent.state
  have heldAfter : FilesHeld _ forgotten after.files (used.stakes + rest) :=
    dealt.filesHeld id id held
  have before : Table.measure (·.refs) session.files file.index = _ := held.held file
  have behind := heldAfter.held file
  rw [Multiset.count_add] at before behind
  rw [nothing, Multiset.count_zero] at behind
  exact ⟨spent.released, by omega⟩

namespace Account

/-- However a run goes in which nothing is released more often than it was acquired, every tree
handle counts exactly its holders behind it, and is closed when the last of them is gone. A call
that fails then leaves every handle with the references that it had, and a pull that fails gives
back all that its cursor held. -/
theorem run_counts_holders (settings : Settings) (server : Playback)
    (sharePath oemDomain : String) (operations : List Operation)
    (fair : (new settings server sharePath oemDomain).Fair operations) :
    let account := (new settings server sharePath oemDomain).run operations
    let session := account.bench.session
    (∀ tree handle, session.tree? tree = some handle →
      handle.refs = account.holders tree ∧ (handle.closed = true ↔ account.holders tree = 0)) ∧
    (∀ locator options fault after, session.list locator options = (.error fault, after) →
      session.SameReferences after) ∧
    (∀ locator options filter fault after,
      session.listResources locator options filter = (.error fault, after) →
      session.SameReferences after) ∧
    (∀ name tree path mode fault after, account.bench.items.get? name = some (.tree tree) →
      session.openFile tree path mode = (.error fault, after) → session.SameReferences after) ∧
    (∀ place here fault used after, account.bench.cursor? place = some here →
      here.pull session = (.error fault, used, after) → ∀ file : FileRef,
        used.tree = none ∧ Table.measure (·.refs) after.files file.index +
            here.stakes.count (.fileReference file) =
          Table.measure (·.refs) session.files file.index) := by
  intro account session
  -- The references are counted from the beginning on.
  have kept := run_new_keeps (Balanced.keep id) (fun operation _ => permits_fair operation)
    (.inr fair) (balanced_new settings server sharePath oemDomain)
  obtain ⟨balanced, fits⟩ := kept
  change Balanced account.position at balanced
  change account.bench.Fits (.new settings server sharePath oemDomain) at fits
  refine ⟨fun tree handle found => ?_, fun locator options fault after => balanced.list_error,
    fun locator options filter fault after => balanced.listResources_error, ?_, ?_⟩
  · obtain ⟨counted, _⟩ := balanced
    have measured : handle.refs = _ := (Table.measure_found found).symm.trans (counted.held tree)
    have refs := measured.trans (count_position fits tree)
    have settled := counted.trees tree.index handle found
    rw [Handle.Settled, refs] at settled
    exact ⟨refs, settled⟩
  · intro name tree path mode fault after found
    have known : .tree tree ∈ account.position.2 :=
      Workbench.known_tree found (Multiset.subset_of_le (Multiset.le_add_right _ _))
    exact balanced.openFile_error known
  · intro place here fault used after found failed
    obtain ⟨others, parted, _⟩ := Workbench.cursorStakes_putCursor found
    have clean := (fits.cursors here (Array.mem_of_getElem? found)).clean
    have position : account.position = (session, here.stakes +
        (others + (account.bench.items.total Item.stakes + account.owned))) := by
      simp only [Account.position, Workbench.stakes, parted, add_assoc]
      rfl
    rw [position] at balanced
    exact balanced.pull_error clean failed

/-- A tree that is acquired twice and released once, with a file and a resource on it; a cursor
over it cannot be opened. -/
def heldManyTimes : List Operation :=
  [.connect "tree", .acquire "tree" "further", .adoptFile "tree" "file" (.legacy 0) "" {},
    .child "tree" "host" .root { name := "host", kind := .server },
    .openCursor "entries" (.rehearsed ⟨.fail (.protocol "gone"), [], none, [], false⟩) none none,
    .release "further"]

/-- One reference is the user's, one the file's and one the resource's; the cursor left none. -/
theorem run_counts_holders_heldManyTimes :
    let account := (new { maxBufferSize := 1 } (.ofTranscript { dialect := .smb2 }) "" "").run
      heldManyTimes
    account.holders ⟨0⟩ = 3 ∧
      ∃ handle, account.bench.session.tree? ⟨0⟩ = some handle ∧
        handle.refs = account.holders ⟨0⟩ := by
  intro account
  -- That the handle is there is computed; its count is what the theorem says it is.
  have isThere : (account.bench.session.tree? ⟨0⟩).isSome = true := by decide
  obtain ⟨handle, found⟩ := Option.isSome_iff_exists.mp isThere
  have counts := run_counts_holders { maxBufferSize := 1 } (.ofTranscript { dialect := .smb2 }) ""
    "" heldManyTimes (by decide)
  exact ⟨by decide, handle, found, (counts.1 ⟨0⟩ handle found).1⟩

end Account

end SmbBrowser
