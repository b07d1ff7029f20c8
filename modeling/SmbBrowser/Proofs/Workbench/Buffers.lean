import SmbBrowser.Proofs.ScratchPool
import SmbBrowser.Workbench.Buffers

/-!
Work with a scratch pool, step by step: whatever is written to the buffers that are out of the pool
and whatever is given back to it, it hands out zeroed buffers of its own size and counts what it keeps.
-/

namespace SmbBrowser

/-- The step takes a buffer out of the pool. -/
def BufferStep.draws : BufferStep → Bool
  | .take _ | .borrow _ => true
  | _ => false

namespace BufferBench

/-- The buffer that a step lets the pool have; a loan also ends when another begins under its name. -/
def returned? (bench : BufferBench) : BufferStep → Option Buffer
  | .giveBack name => bench.owned.get? name
  | .endLoan name | .borrow name => bench.lent.get? name
  | _ => none

/-- How many buffers are idle behind a step, in a pool of so many places for buffers of one size. -/
def freeBehind (capacity size : Nat) (bench : BufferBench) (step : BufferStep) : Nat :=
  -- Taking a buffer from a pool without idle buffers leaves it without.
  let drawn := if step.draws then bench.pool.free - 1 else bench.pool.free
  match bench.returned? step with
  | none => drawn
  | some buffer => if buffer.size = size ∧ drawn < capacity then drawn + 1 else drawn

open ScratchPool

variable {capacity size : Nat} {bench : BufferBench}

/-- What is written to a buffer is no business of the pool. -/
theorem pool_write (bench : BufferBench) (name : String) (position : Option Nat) (byte : UInt8) :
    (bench.write name position byte).2.pool = bench.pool := by
  -- A buffer is held under its name or by its loan, and neither is in the pool.
  have updated (buffer : Buffer) : (bench.update name buffer).pool = bench.pool := by
    unfold update
    split <;> rfl
  unfold write
  split
  · rfl
  · exact updated _
  · split
    · exact updated _
    · rfl

/-- A step leaves the pool sound, counts what it does to it, and shows a clean buffer if it takes one. -/
theorem step_sound (sound : Sound capacity size bench.pool) (step : BufferStep) :
    Sound capacity size (bench.step step).2.pool ∧
      (bench.step step).2.pool.free = bench.freeBehind capacity size step ∧
      (step.draws = true → (bench.step step).1 = .shown (.zeroed size)) := by
  cases step with
  | take name =>
    -- What is taken is the next clean buffer of the pool.
    obtain ⟨clean, still, count⟩ := sound.take
    exact ⟨still, count, fun _ => congrArg BufferAnswer.shown clean⟩
  | make name length byte => exact ⟨sound, rfl, fun drawn => by cases drawn⟩
  | borrow name =>
    obtain ⟨clean, still, count⟩ := sound.take
    have shown : BufferAnswer.shown bench.pool.take.1 = .shown (.zeroed size) := by rw [clean]
    simp only [step, endLoan, freeBehind, returned?, BufferStep.draws, if_true]
    -- Under a name that is in use the old loan ends behind the new one.
    cases bench.lent.get? name with
    | none => exact ⟨still, count, fun _ => shown⟩
    | some old =>
      obtain ⟨kept, keptCount⟩ := still.giveBack old
      rw [count] at keptCount
      exact ⟨kept, keptCount, fun _ => shown⟩
  | endLoan name =>
    simp only [step, endLoan, freeBehind, returned?, BufferStep.draws, Bool.false_eq_true, if_false]
    cases bench.lent.get? name with
    | none => exact ⟨sound, rfl, fun drawn => drawn.elim⟩
    | some buffer =>
      -- The buffer comes back as its borrower has left it.
      obtain ⟨kept, keptCount⟩ := sound.giveBack buffer
      exact ⟨kept, keptCount, fun drawn => drawn.elim⟩
  | write name position byte =>
    have same := bench.pool_write name position byte
    simp only [step, freeBehind, returned?, BufferStep.draws, Bool.false_eq_true, if_false, same]
    exact ⟨sound, trivial, fun drawn => drawn.elim⟩
  | read name =>
    simp only [step, freeBehind, returned?, BufferStep.draws, Bool.false_eq_true, if_false]
    cases bench.buffer? name <;> exact ⟨sound, rfl, fun drawn => drawn.elim⟩
  | giveBack name =>
    simp only [step, freeBehind, returned?, BufferStep.draws, Bool.false_eq_true, if_false]
    cases bench.owned.get? name with
    | none => exact ⟨sound, rfl, fun drawn => drawn.elim⟩
    | some buffer =>
      -- The buffer may be any that the caller has, of any size.
      obtain ⟨kept, keptCount⟩ := sound.giveBack buffer
      exact ⟨kept, keptCount, fun drawn => drawn.elim⟩

/-- So do any steps, one after the other. -/
theorem run_sound (sound : Sound capacity size bench.pool) (steps : List BufferStep) :
    Sound capacity size (run steps bench).pool := by
  -- Each step hands on a sound pool to the next.
  induction steps generalizing bench with
  | nil => exact sound
  | cons step steps ih => exact ih (step_sound sound step).1

/--
A pool never leaks what was written to its buffers, and never loses count of them.

Whatever was done before, the counter tells how many buffers lie in the pool's places, of which there
are always as many as at the beginning. A buffer that is taken or borrowed has the size of the pool
and holds nothing but zeros, and is one less to be idle if any was. A buffer that comes back is one
more to be idle if it has the size of the pool and there is room, and changes nothing otherwise.
-/
theorem run_keepsPool (capacity size : Nat) (steps : List BufferStep) (step : BufferStep) :
    let bench := run steps { pool := { capacity, bufferSize := size } }
    bench.pool.free = bench.pool.slots.countP Option.isSome ∧
      bench.pool.free ≤ capacity ∧
      bench.pool.capacity = capacity ∧ bench.pool.slots.length = capacity ∧
      (bench.step step).2.pool.free = bench.freeBehind capacity size step ∧
      (step.draws = true →
        ∃ buffer, (bench.step step).1 = .shown buffer ∧ buffer.size = size ∧
          ∀ byte ∈ buffer, byte = 0) := by
  intro bench
  have sound : Sound capacity size bench.pool := run_sound (.new capacity size) steps
  -- What the last step does follows from a sound pool, and soundness from the steps before.
  obtain ⟨_, count, clean⟩ := step_sound sound step
  refine ⟨sound.counted, sound.free_le, sound.bounded, sound.places, count, ?_⟩
  intro drawn
  refine ⟨.zeroed size, clean drawn, by simp [Buffer.zeroed], ?_⟩
  intro byte listed
  exact Array.eq_of_mem_replicate listed

end BufferBench

end SmbBrowser
