import SmbBrowser.ScratchPool

/-!
What a scratch pool keeps to: its counter tells how many places are taken, and what lies in them is
zeroed. Both directions look at the counter first, so a drift would end the lending or the keeping.
-/

namespace SmbBrowser.ScratchPool

/-- How many buffers lie in the places of a pool. -/
def cached (pool : ScratchPool) : Nat := pool.slots.countP Option.isSome

/-- A pool of so many places for buffers of one size, whose counter is right and whose buffers are clean. -/
structure Sound (capacity size : Nat) (pool : ScratchPool) : Prop where
  bounded : pool.capacity = capacity
  places : pool.slots.length = capacity
  sized : pool.bufferSize = size
  counted : pool.free = pool.cached
  clean : ∀ buffer, some buffer ∈ pool.slots → buffer = .zeroed size

/-- No place is emptied where none is taken. -/
theorem takeFirst_none {slots : List (Option Buffer)} (nothing : takeFirst slots = none) :
    slots.countP Option.isSome = 0 := by
  induction slots with
  | nil => rfl
  | cons slot slots ih =>
    cases slot with
    -- A buffer in front would have been taken.
    | some buffer => simp [takeFirst] at nothing
    | none =>
      have behind : takeFirst slots = none := by simpa [takeFirst] using nothing
      simpa using ih behind

/-- What is taken lay in one of the places, of which one more is empty then. -/
theorem takeFirst_some {slots left : List (Option Buffer)} {buffer : Buffer}
    (taken : takeFirst slots = some (buffer, left)) :
    some buffer ∈ slots ∧ left.length = slots.length ∧
      left.countP Option.isSome + 1 = slots.countP Option.isSome ∧
      ∀ other, some other ∈ left → some other ∈ slots := by
  induction slots generalizing left with
  | nil => simp [takeFirst] at taken
  | cons slot slots ih =>
    cases slot with
    | some first =>
      -- The first place is the one that is emptied.
      obtain ⟨rfl, rfl⟩ : first = buffer ∧ none :: slots = left := by
        simpa [takeFirst] using taken
      exact ⟨by simp, by simp, by simp, fun other listed => List.mem_cons_of_mem _ (by simpa using listed)⟩
    | none =>
      -- The place is emptied further behind.
      obtain ⟨⟨_, rest⟩, behind, same⟩ := Option.map_eq_some_iff.mp taken
      obtain ⟨rfl, rfl⟩ := Prod.mk.inj same
      obtain ⟨among, length, count, others⟩ := ih behind
      exact ⟨by simp [among], by simp [length], by simpa using count,
        fun other listed => by simpa using others other (by simpa using listed)⟩

/-- No place is filled where all are taken. -/
theorem fillFirst_none {slots : List (Option Buffer)} {buffer : Buffer}
    (full : fillFirst buffer slots = none) : slots.countP Option.isSome = slots.length := by
  induction slots with
  | nil => rfl
  | cons slot slots ih =>
    cases slot with
    -- An empty place in front would have been filled.
    | none => simp [fillFirst] at full
    | some taken =>
      have behind : fillFirst buffer slots = none := by simpa [fillFirst] using full
      simpa using ih behind

/-- One more place is taken once a buffer is put into it. -/
theorem fillFirst_some {slots filled : List (Option Buffer)} {buffer : Buffer}
    (put : fillFirst buffer slots = some filled) :
    filled.length = slots.length ∧
      filled.countP Option.isSome = slots.countP Option.isSome + 1 ∧
      ∀ other, some other ∈ filled → other = buffer ∨ some other ∈ slots := by
  induction slots generalizing filled with
  | nil => simp [fillFirst] at put
  | cons slot slots ih =>
    cases slot with
    | none =>
      -- The first place is the one that is filled.
      obtain rfl : some buffer :: slots = filled := by simpa [fillFirst] using put
      refine ⟨by simp, by simp, ?_⟩
      intro other listed
      simpa using listed
    | some taken =>
      -- The place is filled further behind.
      obtain ⟨rest, behind, rfl⟩ := Option.map_eq_some_iff.mp put
      obtain ⟨length, count, others⟩ := ih behind
      refine ⟨by simp [length], by simp [count], ?_⟩
      intro other listed
      rcases List.mem_cons.mp listed with same | further
      · exact .inr (by simp [same])
      · rcases others other further with same | among
        · exact .inl same
        · exact .inr (by simp [among])

namespace Sound

variable {capacity size : Nat} {pool : ScratchPool}

/-- A new pool has only empty places. -/
theorem new (capacity size : Nat) : Sound capacity size { capacity, bufferSize := size } where
  -- The counter is zero and no place is taken.
  bounded := rfl
  places := List.length_replicate
  sized := rfl
  counted := by simp [cached, List.countP_replicate]
  clean buffer listed := by simp [List.mem_replicate] at listed

/-- No more buffers lie in a pool than it has places. -/
theorem free_le (sound : Sound capacity size pool) : pool.free ≤ capacity := by
  -- The counter counts some of the places.
  rw [sound.counted, ← sound.places]
  exact List.countP_le_length

/-- A buffer that is handed out is zeroed, and is one less that lies in the pool if any did. -/
theorem take (sound : Sound capacity size pool) :
    pool.take.1 = .zeroed size ∧ Sound capacity size pool.take.2 ∧
      pool.take.2.free = pool.free - 1 := by
  unfold ScratchPool.take
  simp only [sound.sized]
  split
  · rename_i some_free
    -- The counter is right, so that a place is taken indeed.
    cases found : takeFirst pool.slots with
    | none =>
      have empty := takeFirst_none found
      have counted := sound.counted
      simp only [cached] at counted
      omega
    | some taken =>
      obtain ⟨buffer, left⟩ := taken
      obtain ⟨among, length, count, others⟩ := takeFirst_some found
      refine ⟨sound.clean buffer among, ?_, rfl⟩
      have counted := sound.counted
      simp only [cached] at counted
      exact {
        bounded := sound.bounded
        places := length.trans sound.places
        sized := rfl
        counted := by
          show pool.free - 1 = left.countP Option.isSome
          omega
        clean := fun other listed => sound.clean other (others other listed) }
  · -- Where nothing lies in the pool, a new buffer is made.
    rename_i none_free
    have empty : pool.free = 0 := by omega
    exact ⟨rfl, sound, by rw [empty]⟩

/-- A buffer that is given back is kept, zeroed, if it has the size of the pool and there is room. -/
theorem giveBack (sound : Sound capacity size pool) (buffer : Buffer) :
    Sound capacity size (pool.giveBack buffer).2 ∧ (pool.giveBack buffer).2.free =
      if buffer.size = size ∧ pool.free < capacity then pool.free + 1 else pool.free := by
  unfold ScratchPool.giveBack
  simp only [sound.sized, sound.places]
  split
  · -- A buffer of another size is no business of the pool.
    rename_i foreign
    exact ⟨sound, by rw [if_neg fun kept => foreign kept.1]⟩
  · rename_i own
    have own : buffer.size = size := by simpa using own
    split
    · -- The pool is full.
      rename_i full
      exact ⟨sound, by rw [if_neg fun kept => absurd kept.2 (Nat.not_lt.mpr full)]⟩
    · rename_i room
      have room : pool.free < capacity := Nat.not_le.mp room
      have counted := sound.counted
      have places := sound.places
      simp only [cached] at counted
      -- The counter is right, so that a place is empty indeed.
      cases found : fillFirst (.zeroed buffer.size) pool.slots with
      | none =>
        have full := fillFirst_none found
        omega
      | some filled =>
        obtain ⟨length, count, others⟩ := fillFirst_some found
        refine ⟨?_, by rw [if_pos ⟨own, room⟩]⟩
        exact {
          bounded := sound.bounded
          places := length.trans sound.places
          sized := rfl
          counted := by
            show pool.free + 1 = filled.countP Option.isSome
            omega
          clean := by
            intro other listed
            -- What was put there is zeroed, whatever was written to it before.
            rcases others other listed with rfl | among
            · rw [own]
            · exact sound.clean other among }

end Sound

end SmbBrowser.ScratchPool
