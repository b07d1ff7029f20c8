import SmbBrowser.Proofs.Workbench.Stakes

/-!
The objects on a workbench: what each of them has in the session's handles, and that reading from
them, closing them and letting go of them uses up and takes exactly that.
-/

namespace SmbBrowser

variable {licence : Licence} [licence.Works]

namespace CursorStream

variable {Item : Type}

/-- A stream fits its workbench when its cursor has a place in the table and its adapter is honest
about the stakes of its items. -/
structure Fits (stream : CursorStream Item) (itemStakes : Item → Multiset Stake) (size : Nat) :
    Prop where
  /-- The cursor has a place in the table. -/
  inTable : stream.cursor.index < size
  /-- The adapter takes and gives back what its items have. -/
  adapter : stream.stream.adapter.Fits stream.stream.known itemStakes

/-- A stream fits a longer table as well. -/
theorem Fits.mono {stream : CursorStream Item} {itemStakes : Item → Multiset Stake}
    {size longer : Nat} (fits : stream.Fits itemStakes size) (grown : size ≤ longer) :
    stream.Fits itemStakes longer :=
  -- The table only grows, so a place in it stays one.
  ⟨Nat.lt_of_lt_of_le fits.inTable grown, fits.adapter⟩

end CursorStream

namespace Workbench

variable {Item : Type} {itemStakes : Item → Multiset Stake} {stream : CursorStream Item}

/-- Closing a cursor uses up what it held. -/
theorem closeCursor_turn (bench : Workbench) (place : CursorRef) :
    Turn licence 0 bench 0 (bench.closeCursor place) := by
  unfold closeCursor
  -- A place without a cursor has nothing to close.
  cases found : bench.cursor? place with
  | none => exact .refl 0 bench
  | some here =>
    exact .ofCursor found (fun rest => here.close_deals bench.session)
      fun lives => lives.move .close

/-- Only the source of a stream is renewed. -/
theorem freshen_eq (bench : Workbench) (stream : CursorStream Item) :
    bench.freshen stream = { stream.stream with source := (bench.freshen stream).source } := by
  -- The stream keeps its own source only where the table has no cursor for it.
  unfold freshen
  split <;> rfl

/-- A stream whose cursor has a place in the table reads from there. -/
theorem source_freshen (bench : Workbench) (inTable : stream.cursor.index < bench.cursors.size) :
    bench.cursor? stream.cursor = some (bench.freshen stream).source := by
  -- The place is there, so the source is taken from it.
  have found : bench.cursor? stream.cursor = some bench.cursors[stream.cursor.index] :=
    Array.getElem?_eq_getElem inTable
  unfold freshen
  rw [found]

/-- Reading on from a stream takes the stakes of the item that comes, if one does. -/
theorem nextOf_turn {bench : Workbench} (fits : stream.Fits itemStakes bench.cursors.size) :
    Turn licence stream.stream.holdings bench
      (gainedBy (fun item => (item.map itemStakes).getD 0) (bench.nextOf stream).1 +
        (bench.nextOf stream).2.1.stream.holdings) (bench.nextOf stream).2.2 := by
  have found := bench.source_freshen fits.inTable
  have fresh := bench.freshen_eq stream
  have honest : (bench.freshen stream).adapter.Fits (bench.freshen stream).known itemStakes := by
    rw [fresh]
    exact fits.adapter
  refine .ofCursor found (fun rest => ?_) fun {origin} lives => ?_
  · -- The stream's own holdings are among the stakes of the others while it reads.
    have known : ∀ tree, (bench.freshen stream).known = some tree →
        .tree tree ∈ (bench.freshen stream).holdings + rest :=
      fun tree isKnown => ResourceStream.tree_mem_holdings isKnown rest
    have read : Deals licence (bench.session,
        (bench.freshen stream).source.stakes + ((bench.freshen stream).holdings + rest)) _ :=
      ResourceStream.next_deals honest bench.session known
    have kept := (bench.freshen stream).next_eq bench.session
    have before : (bench.freshen stream).holdings = stream.stream.holdings := by
      rw [fresh]
      rfl
    have after : (bench.nextOf stream).2.1.stream.holdings = stream.stream.holdings := by
      simp only [nextOf, settle]
      rw [kept, ← before]
      rfl
    rw [before] at read
    rw [after, add_assoc]
    exact read
  · -- The cursor that is read lives on while items are made of its entries.
    have pull (source : Cursor Listing) (session : Session) (lives : source.LivesIn origin session) :
        (EntrySource.pull source session).2.1.LivesIn origin (EntrySource.pull source session).2.2 :=
      lives.move .pull
    exact ResourceStream.next_keeps pull _
      (fun _ entry later lives => lives.later (ResourceStream.offer_leads honest entry later))
      bench.session lives

/-- A stream that was read from fits as before. -/
theorem nextOf_fits {size : Nat} (bench : Workbench) (fits : stream.Fits itemStakes size) :
    (bench.nextOf stream).2.1.Fits itemStakes size where
  inTable := fits.inTable
  adapter := by
    -- Reading on replaces the source of the stream and nothing else.
    have kept := (bench.freshen stream).next_eq bench.session
    have fresh := bench.freshen_eq stream
    simp only [nextOf, settle]
    rw [kept, fresh]
    exact fits.adapter

/-- Closing a stream uses up what it held. -/
theorem closeStream_turn (bench : Workbench) (inTable : stream.cursor.index < bench.cursors.size) :
    Turn licence stream.stream.holdings bench
      (bench.closeStream stream).1.stream.holdings (bench.closeStream stream).2 := by
  refine .ofCursor (bench.source_freshen inTable) (fun rest => ?_) fun lives => ?_
  · -- What is closed is the stream with the table's cursor.
    have before : stream.stream.holdings = (bench.freshen stream).holdings := by
      rw [bench.freshen_eq stream]
      rfl
    rw [before]
    exact (bench.freshen stream).close_deals bench.session
  · have closed := (bench.freshen stream).source_close bench.session
    change ((bench.freshen stream).close bench.session).1.source.LivesIn _ _
    rw [closed]
    exact (lives.move .close).later ((bench.freshen stream).close_leads bench.session)

/-- A stream that was closed fits as before. -/
theorem closeStream_fits {size : Nat} (bench : Workbench) (fits : stream.Fits itemStakes size) :
    (bench.closeStream stream).1.Fits itemStakes size where
  inTable := fits.inTable
  adapter := by
    -- Neither renewing nor closing touches what is made of the entries.
    have fresh := bench.freshen_eq stream
    obtain ⟨adapter, known⟩ := (bench.freshen stream).close_same bench.session
    simp only [closeStream, settle]
    rw [adapter, known, fresh]
    exact fits.adapter

/-- Dropping a stream uses up what it held and what its adapter knew. -/
theorem dropStream_turn (bench : Workbench) (inTable : stream.cursor.index < bench.cursors.size) :
    Turn licence stream.stream.holdings bench 0 (bench.dropStream stream) := by
  refine .ofCursor (bench.source_freshen inTable) (fun rest => ?_) fun lives => ?_
  · -- What is dropped is the stream with the table's cursor.
    have before : stream.stream.holdings = (bench.freshen stream).holdings := by
      rw [bench.freshen_eq stream]
      rfl
    rw [before, zero_add]
    exact (bench.freshen stream).drop_deals bench.session
  · have closed := (bench.freshen stream).source_drop bench.session
    change ((bench.freshen stream).drop bench.session).1.source.LivesIn _ _
    rw [closed]
    exact (lives.move .close).later ((bench.freshen stream).drop_leads bench.session)

end Workbench

namespace Reader

/-- What something to read from has besides the cursor that it reads. -/
def stakes : Reader → Multiset Stake
  | .cursor _ => 0
  | .fixed _ => 0
  | .names stream => stream.stream.holdings
  | .fixedNames stream => stream.holdings
  | .resources stream => stream.stream.holdings

/-- Whatever is read from fits its workbench. -/
def Fits (size : Nat) : Reader → Prop
  | .cursor _ => True
  | .fixed _ => True
  | .names stream => stream.Fits (fun _ => 0) size
  | .fixedNames stream => stream.adapter.Fits stream.known fun _ => 0
  | .resources stream => stream.Fits Resource.stakes size

end Reader

/-- What was read holds a tree if it is a resource. -/
def Drawn.stakes : Drawn → Multiset Stake
  | .entry _ => 0
  | .name _ => 0
  | .resource drawn => drawn.stakes

/-- The stakes of what may have been read. -/
def Drawn.stakesOf (result : Except Fault (Option Drawn)) : Multiset Stake :=
  gainedBy (fun drawn => (drawn.map Drawn.stakes).getD 0) result

/-- Giving back what was read uses its stakes up. -/
theorem Drawn.discard_turn (licence : Licence) [licence.Works] (drawn : Drawn) (bench : Workbench) :
    bench.Turn licence drawn.stakes 0 (drawn.discard bench) := by
  -- Entries and names hold nothing, so nothing is used up.
  cases drawn with
  | entry _ => exact .refl 0 bench
  | name _ => exact .refl 0 bench
  | resource drawn =>
    refine .ofSession fun rest => ?_
    simpa [stakes] using drawn.discard_deals bench.session

namespace Reader

open Workbench

/-- Reading takes the stakes of what comes, if something does. -/
theorem draw_turn {reader : Reader} {bench : Workbench} (fits : reader.Fits bench.cursors.size) :
    bench.Turn licence reader.stakes
      (Drawn.stakesOf (reader.draw bench).1 + (reader.draw bench).2.1.stakes)
      (reader.draw bench).2.2 := by
  -- An entry or a name that comes has no stakes.
  have entries (result : Except Fault (Option Entry)) :
      Drawn.stakesOf (result.map (·.map .entry)) = 0 := by
    rcases result with fault | _ | entry <;> rfl
  have names (result : Except Fault (Option String)) :
      Drawn.stakesOf (result.map (·.map .name)) =
        gainedBy (fun item => (item.map fun _ => 0).getD 0) result := by
    rcases result with fault | _ | name <;> rfl
  have resources (result : Except Fault (Option Resource)) :
      Drawn.stakesOf (result.map (·.map .resource)) =
        gainedBy (fun item => (item.map Resource.stakes).getD 0) result := by
    rcases result with fault | _ | resource <;> rfl
  cases reader with
  | cursor place =>
    simp only [draw]
    cases found : bench.cursor? place with
    | none => exact .refl 0 bench
    | some here =>
      simp only [entries, zero_add]
      exact .ofCursor found (fun rest => here.pull_deals bench.session)
        fun lives => lives.move .pull
  | fixed source =>
    simp only [draw, entries, zero_add]
    refine .ofSession fun rest => ?_
    rw [source.session_pull bench.session]
    exact .refl
  | names stream =>
    simp only [draw, names]
    exact nextOf_turn fits
  | fixedNames stream =>
    simp only [draw, names]
    have kept := stream.next_eq bench.session
    refine .ofSession fun rest => ?_
    have read : Deals licence (bench.session, 0 + (stream.holdings + rest)) _ :=
      ResourceStream.next_deals fits bench.session
        fun tree isKnown => ResourceStream.tree_mem_holdings isKnown rest
    have after : (stream.next bench.session).2.1.holdings = stream.holdings := by
      rw [kept]
      rfl
    change Deals licence (_, stream.holdings + rest)
      (_, _ + (stream.next bench.session).2.1.holdings + rest)
    rw [after, add_assoc]
    simpa only [StakedSource.stakes, zero_add] using read
  | resources stream =>
    simp only [draw, resources]
    exact nextOf_turn fits

/-- What was read from fits as before. -/
theorem draw_fits {reader : Reader} {size : Nat} (bench : Workbench) (fits : reader.Fits size) :
    (reader.draw bench).2.1.Fits size := by
  -- Each keeps its adapter, and only a stream over a cursor has a place in the table to keep.
  cases reader with
  | cursor place =>
    simp only [draw]
    split <;> trivial
  | fixed source => trivial
  | names stream => exact nextOf_fits bench fits
  | fixedNames stream =>
    have kept := stream.next_eq bench.session
    simp only [draw, Fits]
    rw [kept]
    exact fits
  | resources stream => exact nextOf_fits bench fits

/-- Closing uses up what is held. -/
theorem close_turn {reader : Reader} {bench : Workbench} (fits : reader.Fits bench.cursors.size) :
    bench.Turn licence reader.stakes (reader.close bench).1.stakes (reader.close bench).2 := by
  -- What the caller laid down is not the session's affair.
  cases reader with
  | cursor place => exact bench.closeCursor_turn place
  | fixed source => exact .refl 0 bench
  | names stream => exact bench.closeStream_turn fits.inTable
  | fixedNames stream =>
    refine .ofSession fun rest => ?_
    have closed : Deals licence (bench.session, 0 + (stream.holdings + rest)) _ :=
      stream.close_deals bench.session
    simp only [StakedSource.stakes, zero_add] at closed
    exact closed
  | resources stream => exact bench.closeStream_turn fits.inTable

/-- What was closed fits as before. -/
theorem close_fits {reader : Reader} {size : Nat} (bench : Workbench) (fits : reader.Fits size) :
    (reader.close bench).1.Fits size := by
  -- Closing leaves the reader's shape as drawing does.
  cases reader with
  | cursor place => trivial
  | fixed source => trivial
  | names stream => exact bench.closeStream_fits fits
  | fixedNames stream =>
    obtain ⟨adapter, known⟩ := stream.close_same bench.session
    simp only [close, Fits]
    rw [adapter, known]
    exact fits
  | resources stream => exact bench.closeStream_fits fits

/-- Dropping uses up what is held and what is known. -/
theorem drop_turn {reader : Reader} {bench : Workbench} (fits : reader.Fits bench.cursors.size) :
    bench.Turn licence reader.stakes 0 (reader.drop bench) := by
  cases reader with
  | cursor place => exact bench.closeCursor_turn place
  | fixed source => exact .refl 0 bench
  | names stream => exact bench.dropStream_turn fits.inTable
  | fixedNames stream =>
    refine .ofSession fun rest => ?_
    -- Such a stream is not in any table, so its own deals are all there is.
    have dropped : Deals licence (bench.session, 0 + (stream.holdings + rest)) _ :=
      stream.drop_deals bench.session
    simp only [StakedSource.stakes, zero_add] at dropped
    rw [zero_add]
    exact dropped
  | resources stream => exact bench.dropStream_turn fits.inTable

/-- The names of what is read from hold nothing, and fit where a cursor is there to be read. -/
theorem adapt_fits {reader adapted : Reader} {wants : NameFilter} {filter : Option NameFilter}
    {bench : Workbench} (turned : reader.adapt wants filter bench = some adapted) :
    reader.stakes = 0 ∧ adapted.stakes = 0 ∧ adapted.Fits bench.cursors.size := by
  -- Only sources of entries can be made sources of names.
  cases reader with
  | cursor place =>
    obtain ⟨source, found, isAdapted⟩ := Option.bind_eq_some_iff.mp turned
    simp only [pure, Option.some.injEq] at isAdapted
    subst isAdapted
    obtain ⟨within, _⟩ := Array.getElem?_eq_some_iff.mp found
    exact ⟨rfl, rfl, within, Adapter.fits_names wants⟩
  | fixed source =>
    simp only [adapt, Option.some.injEq] at turned
    subst turned
    exact ⟨rfl, rfl, Adapter.fits_names wants⟩
  | names stream => simp [adapt] at turned
  | fixedNames stream => simp [adapt] at turned
  | resources stream => simp [adapt] at turned

end Reader

namespace Item

/-- What an object has in the session's handles. A tree's reference is its holder's own affair. -/
def stakes : Item → Multiset Stake
  | .tree place => {.tree place}
  | .file place => {.file place}
  | .listing content => content.stakes
  | .closer _ => 0
  | .resource content => content.stakes
  | .reader content => content.stakes

/-- An object fits its workbench. -/
def Fits (size : Nat) : Item → Prop
  | .reader content => content.Fits size
  | _ => True

/-- An object fits a longer table as well. -/
theorem Fits.mono {item : Item} {size longer : Nat} (fits : item.Fits size)
    (grown : size ≤ longer) : item.Fits longer := by
  -- Only streams over a cursor look at the table.
  cases item with
  | reader content =>
    cases content with
    | names stream => exact CursorStream.Fits.mono fits grown
    | resources stream => exact CursorStream.Fits.mono fits grown
    | _ => exact fits
  | _ => trivial

/-- Letting go of an object uses up what it has. -/
theorem drop_turn {item : Item} {bench : Workbench} (fits : item.Fits bench.cursors.size) :
    bench.Turn licence item.stakes 0 (item.drop bench) := by
  -- Each sort of object is let go of in its own way.
  cases item with
  | tree place =>
    refine .ofSession fun rest => ?_
    simpa [stakes] using Relation.ReflTransGen.single (Deal.forget place)
  | file place =>
    refine .ofSession fun rest => ?_
    simpa [stakes] using Relation.ReflTransGen.single (Deal.forgetFile place)
  | listing content =>
    refine .ofSession fun rest => ?_
    simpa [stakes] using content.forget_deals bench.session
  | closer place => exact .refl 0 bench
  | resource content =>
    refine .ofSession fun rest => ?_
    simpa [stakes] using content.discard_deals bench.session
  | reader content => exact Reader.drop_turn fits

end Item

end SmbBrowser
