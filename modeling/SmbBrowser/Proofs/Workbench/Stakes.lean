import SmbBrowser.Proofs.Resource.Stakes
import SmbBrowser.Workbench.Reader

/-!
The stakes on a workbench: its cursors have theirs, and so have the objects under its names.
Whatever is read, closed or let go of there is a chain of deals.
-/

namespace SmbBrowser

namespace Registry

variable {Object : Type}

/-- What all objects together have. -/
def total (weigh : Object → Multiset Stake) (registry : Registry Object) : Multiset Stake :=
  (registry.entries.map fun entry => weigh entry.2).sum

/-- Without a name, what its object had is missing. -/
theorem total_erase (weigh : Object → Multiset Stake) (registry : Registry Object)
    (name : String) :
    registry.total weigh =
      ((registry.get? name).map weigh).getD 0 + (registry.erase name).total weigh := by
  obtain ⟨entries, distinct⟩ := registry
  simp only [total, get?, erase]
  -- The names are distinct, so behind the entry that is found no other bears the name.
  induction entries with
  | nil => rfl
  | cons entry entries ih =>
    obtain ⟨key, object⟩ := entry
    simp only [List.map_cons, List.nodup_cons] at distinct
    by_cases same : name = key
    · subst same
      have others : entries.filter (fun entry => decide (entry.1 ≠ name)) = entries := by
        rw [List.filter_eq_self]
        intro entry listed
        have different : entry.1 ≠ name := by
          rintro rfl
          exact distinct.1 (List.mem_map_of_mem listed)
        simpa using different
      rw [List.filter_cons_of_neg (by simp), others]
      simp
    · have unequal : (name == key) = false := by simpa using same
      rw [List.lookup_cons, unequal, List.filter_cons_of_pos (by simpa using Ne.symm same)]
      simp only [List.map_cons, List.sum_cons]
      rw [ih distinct.2]
      exact add_left_comm _ _ _

/-- Nothing is found under a name that was taken away. -/
theorem get?_erase (registry : Registry Object) (name : String) :
    (registry.erase name).get? name = none := by
  rw [get?, List.lookup_eq_none_iff]
  -- What is left are the entries of other names.
  intro entry listed
  have different : entry.1 ≠ name := by simpa using (List.mem_filter.mp listed).2
  simpa using different.symm

/-- What is found under another name is still there. -/
theorem get?_erase_of_ne (registry : Registry Object) {name other : String}
    (different : other ≠ name) : (registry.erase name).get? other = registry.get? other := by
  obtain ⟨entries, distinct⟩ := registry
  simp only [get?, erase]
  clear distinct
  -- The entry that goes is not the one that is looked for.
  induction entries with
  | nil => rfl
  | cons entry entries ih =>
    obtain ⟨key, object⟩ := entry
    by_cases gone : key = name
    · subst gone
      have passed : (other == key) = false := by simpa using different
      rw [List.filter_cons_of_neg (by simp), List.lookup_cons, passed]
      exact ih
    · rw [List.filter_cons_of_pos (by simpa using gone), List.lookup_cons, List.lookup_cons, ih]

/-- An object that is put under a name takes the place of what was there. -/
theorem total_put (weigh : Object → Multiset Stake) (registry : Registry Object) (name : String)
    (object : Object) :
    (registry.put name object).total weigh = weigh object + (registry.erase name).total weigh := by
  -- Putting takes away what was there before.
  simp [total, put]

/-- An object that can be found is one of the entries. -/
theorem mem_of_get? {registry : Registry Object} {name : String} {object : Object}
    (found : registry.get? name = some object) : (name, object) ∈ registry.entries := by
  obtain ⟨before, after, split, _⟩ := List.lookup_eq_some_iff.mp found
  -- The search stops at the first entry of the name, which is one of them.
  rw [split]
  simp

end Registry

namespace Workbench

/-- The stakes of every cursor in the table. -/
def cursorStakes (bench : Workbench) : Multiset Stake :=
  (bench.cursors.toList.map Cursor.stakes).sum

/-- A cursor that is put back at its place takes the stakes of the one that was there. -/
theorem cursorStakes_putCursor {bench : Workbench} {place : CursorRef} {here : Cursor Listing}
    (found : bench.cursor? place = some here) :
    ∃ others, bench.cursorStakes = here.stakes + others ∧
      ∀ after, (bench.putCursor place after).cursorStakes = after.stakes + others := by
  obtain ⟨within, isHere⟩ := Array.getElem?_eq_some_iff.mp found
  have listed : bench.cursors.toList[place.index]? = some here := by simpa [cursor?] using found
  simp only [cursorStakes, putCursor, Array.toList_setIfInBounds]
  -- The table falls into the cursors before the place, the one there and those behind it.
  have long : place.index < bench.cursors.toList.length := by simpa using within
  refine ⟨((bench.cursors.toList.take place.index).map Cursor.stakes).sum +
    ((bench.cursors.toList.drop (place.index + 1)).map Cursor.stakes).sum, ?_, ?_⟩
  · have parted : bench.cursors.toList =
        bench.cursors.toList.take place.index ++
          here :: bench.cursors.toList.drop (place.index + 1) := by
      rw [← (List.getElem?_eq_some_iff.mp listed).2, List.cons_getElem_drop_succ,
        List.take_append_drop]
    conv_lhs => rw [parted]
    simp only [List.map_append, List.map_cons, List.sum_append, List.sum_cons]
    exact add_left_comm _ _ _
  · intro after
    rw [List.set_eq_take_append_cons_drop, if_pos long]
    simp only [List.map_append, List.map_cons, List.sum_append, List.sum_cons]
    exact add_left_comm _ _ _

/-- Every cursor in the table lives in the session, since that has begun somewhere. -/
def CursorsLive (bench : Workbench) (origin : Session) : Prop :=
  ∀ cursor ∈ bench.cursors, cursor.LivesIn origin bench.session

/-- A use of a workbench that leaves the objects under its names alone: the stakes `taken` go in
and the stakes `given` come out. -/
structure Turn (licence : Licence) (taken : Multiset Stake) (bench : Workbench)
    (given : Multiset Stake) (after : Workbench) : Prop where
  /-- It is a chain of deals, whoever else has stakes. -/
  deals : ∀ rest, Deals licence (bench.session, taken + (bench.cursorStakes + rest))
    (after.session, given + (after.cursorStakes + rest))
  /-- The objects are the same. -/
  items : after.items = bench.items
  /-- The table has the same places. -/
  size : after.cursors.size = bench.cursors.size
  /-- The cursors in it live on. -/
  live : ∀ {origin}, bench.CursorsLive origin → after.CursorsLive origin

namespace Turn

variable {licence : Licence} {taken given : Multiset Stake} {bench after : Workbench}

/-- Nothing happens. -/
theorem refl (stakes : Multiset Stake) (bench : Workbench) :
    Turn licence stakes bench stakes bench :=
  -- Nothing goes in that does not come out.
  ⟨fun _ => .refl, rfl, rfl, fun live => live⟩

/-- One use after the other. -/
theorem trans {farther : Workbench} {last : Multiset Stake}
    (first : Turn licence taken bench given after)
    (second : Turn licence given after last farther) :
    Turn licence taken bench last farther where
  -- What the first brings out, the second takes in.
  deals rest := (first.deals rest).trans (second.deals rest)
  items := second.items.trans first.items
  size := second.size.trans first.size
  live lived := second.live (first.live lived)

/-- Stakes that a use does not touch are there before and after. -/
theorem frame (others : Multiset Stake) (turn : Turn licence taken bench given after) :
    Turn licence (taken + others) bench (given + others) after where
  deals rest := by
    -- What others have goes into the rest, and comes out of it again.
    have dealt := turn.deals (others + rest)
    simpa only [add_assoc, add_left_comm, add_comm] using dealt
  items := turn.items
  size := turn.size
  live := turn.live

/-- A use of the session alone. -/
theorem ofSession {session : Session}
    (deals : ∀ rest, Deals licence (bench.session, taken + rest) (session, given + rest)) :
    Turn licence taken bench given (bench.withSession session) :=
  -- The cursors stay where they are, and live on in what the session leads to.
  ⟨fun _ => deals _, rfl, rfl, fun live cursor listed =>
    (live cursor listed).later (deals 0).leadsTo⟩

/-- A use of the session and of one cursor in the table. -/
theorem ofCursor {session : Session} {place : CursorRef} {here used : Cursor Listing}
    (found : bench.cursor? place = some here)
    (deals : ∀ rest, Deals licence (bench.session, here.stakes + (taken + rest))
      (session, used.stakes + (given + rest)))
    (lives : ∀ {origin}, here.LivesIn origin bench.session → used.LivesIn origin session) :
    Turn licence taken bench given ((bench.putCursor place used).withSession session) where
  deals rest := by
    -- The stakes of the other cursors stay with the rest.
    obtain ⟨others, before, behind⟩ := cursorStakes_putCursor found
    have dealt := deals (others + rest)
    have stakes : ((bench.putCursor place used).withSession session).cursorStakes =
        used.stakes + others := behind used
    rw [before, stakes]
    change Deals licence _ (session, _)
    simpa only [add_assoc, add_left_comm, add_comm] using dealt
  items := rfl
  size := by simp [withSession, putCursor]
  live := by
    intro origin before cursor listed
    rcases Array.mem_or_eq_of_mem_setIfInBounds listed with listed | rfl
    · -- The other cursors live on meanwhile.
      exact (before cursor listed).later (deals 0).leadsTo
    · exact lives (before here (Array.mem_of_getElem? found))

end Turn

end Workbench

end SmbBrowser
