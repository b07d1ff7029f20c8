import SmbBrowser.Proofs.Workbench.Objects

/-!
Uses of a workbench as a whole: every name keeps its object's stakes, and what is put under a name
brings its own along. An operation is put together from such uses.
-/

namespace SmbBrowser.Workbench

variable {licence : Licence} {origin : Session} {taken given : Multiset Stake}
  {bench after : Workbench}

/-- The stakes of everything on a workbench. -/
def stakes (bench : Workbench) : Multiset Stake :=
  bench.cursorStakes + bench.items.total Item.stakes

/-- A workbench is in order when its objects fit it and its cursors live, in a session that has begun
somewhere. -/
structure Fits (bench : Workbench) (origin : Session) : Prop where
  /-- Every object on the workbench fits it. -/
  items : ∀ entry ∈ bench.items.entries, entry.2.Fits bench.cursors.size
  /-- The session has come from where it began. -/
  leads : origin.LeadsTo bench.session
  /-- Every cursor in the table lives in the session. -/
  cursors : bench.CursorsLive origin

/-- A use of a workbench: the stakes `taken` go in and the stakes `given` come out. -/
structure Use (licence : Licence) (origin : Session) (taken : Multiset Stake) (bench : Workbench)
    (given : Multiset Stake) (after : Workbench) : Prop where
  /-- It is a chain of deals, whoever else has stakes. -/
  deals : ∀ rest, Deals licence (bench.session, taken + (bench.stakes + rest))
    (after.session, given + (after.stakes + rest))
  /-- Everything still fits. -/
  fits : after.Fits origin

/-- An object under a name fits the workbench. -/
theorem Fits.item (fits : bench.Fits origin) {name : String} {item : Item}
    (found : bench.items.get? name = some item) : item.Fits bench.cursors.size :=
  -- Whatever is found is one of the entries.
  fits.items _ (Registry.mem_of_get? found)

/-- The other objects fit without it. -/
theorem Fits.erase (fits : bench.Fits origin) (name : String) :
    Fits { bench with items := bench.items.erase name } origin where
  -- What is left was there before.
  items entry listed := fits.items entry (List.mem_of_mem_filter listed)
  leads := fits.leads
  cursors := fits.cursors

/-- What happens to the session disturbs nothing on the workbench. -/
theorem Fits.withSession (fits : bench.Fits origin) {session : Session}
    (leads : bench.session.LeadsTo session) : (bench.withSession session).Fits origin :=
  -- The objects do not look at the session, and the cursors live on in it.
  ⟨fits.items, fits.leads.trans leads, fun cursor listed => (fits.cursors cursor listed).later leads⟩

/-- The stakes of an object under a name, and the rest. -/
theorem stakes_erase {name : String} {item : Item} (found : bench.items.get? name = some item) :
    bench.stakes =
      item.stakes + (bench.cursorStakes + (bench.items.erase name).total Item.stakes) := by
  -- The objects' total is split at the name, and the cursors stand between.
  rw [stakes, Registry.total_erase Item.stakes bench.items name, found]
  exact add_left_comm _ _ _

/-- What an object under a name has is among the stakes of the workbench. -/
theorem mem_stakes {name : String} {item : Item} (found : bench.items.get? name = some item)
    {stake : Stake} (has : stake ∈ item.stakes) : stake ∈ bench.stakes := by
  -- They are one of the two parts of the sum.
  rw [stakes_erase found]
  exact Multiset.mem_add.mpr (.inl has)

namespace Use

/-- Nothing happens. -/
theorem refl (fits : bench.Fits origin) (stakes : Multiset Stake) :
    Use licence origin stakes bench stakes bench :=
  -- Neither the session nor an object is touched.
  ⟨fun _ => .refl, fits⟩

/-- One use after the other. -/
theorem trans {farther : Workbench} {last : Multiset Stake}
    (first : Use licence origin taken bench given after) (second : Use licence origin given after last farther) :
    Use licence origin taken bench last farther where
  deals rest := (first.deals rest).trans (second.deals rest)
  -- Behind the second it is the second that knows what fits.
  fits := second.fits

/-- Stakes that a use does not touch are there before and after. -/
theorem frame (others : Multiset Stake) (use : Use licence origin taken bench given after) :
    Use licence origin (taken + others) bench (given + others) after where
  deals rest := by
    -- The use holds beside any rest, so the others are part of one.
    have dealt := use.deals (others + rest)
    simpa only [add_assoc, add_left_comm, add_comm] using dealt
  fits := use.fits

/-- A use of the session alone; whatever is on the workbench is known meanwhile. -/
theorem ofSession {session : Session} (fits : bench.Fits origin)
    (deals : ∀ rest, bench.stakes ⊆ rest →
      Deals licence (bench.session, taken + rest) (session, given + rest)) :
    Use licence origin taken bench given (bench.withSession session) where
  -- The workbench's own stakes are in the rest, so whatever it knows is known.
  deals rest := deals (bench.stakes + rest) (Multiset.subset_of_le (Multiset.le_add_right _ _))
  fits := fits.withSession (deals bench.stakes (Multiset.Subset.refl _)).leadsTo

/-- A use that leaves the objects alone. -/
theorem ofTurn (fits : bench.Fits origin) (turn : Turn licence taken bench given after) :
    Use licence origin taken bench given after where
  deals rest := by
    -- The objects have the same stakes before and after.
    have dealt := turn.deals (bench.items.total Item.stakes + rest)
    simpa only [stakes, turn.items, add_assoc] using dealt
  fits := by
    refine ⟨fun entry listed => ?_, fits.leads.trans (turn.deals 0).leadsTo, turn.live fits.cursors⟩
    rw [turn.items] at listed
    rw [turn.size]
    exact fits.items entry listed

end Use

/-- A cursor that lives may be put into the table, and has its stakes there. -/
theorem addCursor_use (licence : Licence) (fits : bench.Fits origin) {cursor : Cursor Listing}
    (lives : cursor.LivesIn origin bench.session) :
    Use licence origin cursor.stakes bench 0 (bench.addCursor cursor).2 where
  deals rest := by
    -- The cursor brings its stakes into the table.
    have grown : (bench.addCursor cursor).2.stakes = cursor.stakes + bench.stakes := by
      simp only [stakes, cursorStakes, addCursor, Array.toList_push, List.map_append,
        List.sum_append, List.map_singleton, List.sum_singleton]
      ac_rfl
    rw [grown, zero_add, add_assoc]
    exact .refl
  fits := by
    refine ⟨fun entry listed => ?_, fits.leads, fun other listed => ?_⟩
    · have longer : bench.cursors.size ≤ (bench.addCursor cursor).2.cursors.size := by
        simp [addCursor]
      exact (fits.items entry listed).mono longer
    · rcases Array.mem_push.mp listed with listed | rfl
      · exact fits.cursors other listed
      · exact lives

/-- What an object has that takes a name over, and the rest. -/
theorem stakes_replace (bench : Workbench) (name : String) (item : Item) :
    (bench.replace name item).stakes =
      item.stakes + (bench.cursorStakes + (bench.items.erase name).total Item.stakes) := by
  -- Replacing is putting, and puts the new object in front.
  rw [stakes, replace, Registry.total_put]
  exact add_left_comm _ _ _

/-- An object that fits may take a name over. -/
theorem Fits.replace (fits : bench.Fits origin) (name : String) {item : Item}
    (itemFits : item.Fits bench.cursors.size) : (bench.replace name item).Fits origin := by
  refine ⟨fun entry listed => ?_, fits.leads, fits.cursors⟩
  -- The entry in front is new, and those behind it fitted before.
  rcases List.mem_cons.mp listed with rfl | listed
  · exact itemFits
  · exact (fits.erase name).items entry listed

/-- An object that was used takes its own name over. -/
theorem replace_use (fits : bench.Fits origin) {name : String} {item : Item} (new : Item)
    (found : bench.items.get? name = some item)
    (turn : Turn licence item.stakes bench (given + new.stakes) after)
    (newFits : new.Fits bench.cursors.size) :
    Use licence origin 0 bench given (after.replace name new) where
  deals rest := by
    -- The object leaves with the stakes that it had, and comes back with those that it has.
    have dealt := turn.deals ((bench.items.erase name).total Item.stakes + rest)
    rw [stakes_erase found, stakes_replace, turn.items]
    simpa only [replace, zero_add, add_assoc] using dealt
  fits := by
    have still : after.Fits origin := (Use.ofTurn fits turn).fits
    rw [← turn.size] at newFits
    exact still.replace name newFits

/-- Letting go of an object uses up what it has; nothing is left under its name, and the table of
cursors is as long as before. -/
theorem drop_use (licence : Licence) [licence.Works] (fits : bench.Fits origin) (name : String) :
    Use licence origin 0 bench 0 (bench.drop name) ∧ (bench.drop name).items.get? name = none ∧
      (bench.drop name).cursors.size = bench.cursors.size := by
  -- Without the name there is nothing to let go of.
  cases found : bench.items.get? name with
  | none =>
    have same : bench.drop name = bench := by simp only [drop, found]
    rw [same]
    exact ⟨.refl fits 0, found, rfl⟩
  | some item =>
    have gone : bench.drop name = item.drop { bench with items := bench.items.erase name } := by
      simp only [drop, found]
    have turn : Turn licence item.stakes { bench with items := bench.items.erase name } 0 _ :=
      Item.drop_turn (fits.item found)
    rw [gone]
    refine ⟨⟨fun rest => ?_, (Use.ofTurn (fits.erase name) turn).fits⟩, ?_, turn.size⟩
    · have dealt := turn.deals ((bench.items.erase name).total Item.stakes + rest)
      rw [stakes_erase found, stakes, turn.items]
      simpa only [cursorStakes, zero_add, add_assoc] using dealt
    · rw [turn.items]
      exact bench.items.get?_erase name

/-- An object that is put under a name has its stakes there; what was there is let go of. -/
theorem put_use (licence : Licence) [licence.Works] (fits : bench.Fits origin) (name : String)
    (item : Item) (itemFits : item.Fits bench.cursors.size) :
    Use licence origin item.stakes bench 0 (bench.put name item) := by
  -- First what was there is let go of, then the object takes the name.
  obtain ⟨dropped, absent, sameSize⟩ := drop_use licence fits name
  have behind : bench.put name item = (bench.drop name).replace name item := by
    unfold put drop
    cases bench.items.get? name <;> rfl
  have stored : Use licence origin item.stakes (bench.drop name) 0 (bench.put name item) := by
    rw [behind]
    refine ⟨fun rest => ?_, dropped.fits.replace name (sameSize ▸ itemFits)⟩
    have nothing := Registry.total_erase Item.stakes (bench.drop name).items name
    rw [absent] at nothing
    simp only [Option.map_none, Option.getD_none, zero_add] at nothing
    rw [stakes_replace, ← nothing, zero_add, add_assoc]
    exact .refl
  have emptied : Use licence origin item.stakes bench item.stakes (bench.drop name) := by
    simpa only [zero_add] using dropped.frame item.stakes
  exact emptied.trans stored

end SmbBrowser.Workbench
