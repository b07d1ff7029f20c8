import SmbBrowser.Proofs.Workbench.Operations

/-!
Accounts: a workbench beside the references that its user acquired and has not given back. What
every deal keeps is kept by every run of operations.
-/

namespace SmbBrowser

/-- A workbench and what its user has in handles besides the objects on it. -/
structure Account where
  /-- The workbench. -/
  bench : Workbench
  /-- The references that the user has not given back. -/
  owned : Multiset Stake := 0

namespace Account

/-- Carries out an operation; what it acquires is owned afterwards, what it releases no longer. -/
def perform (account : Account) (operation : Operation) : Account where
  bench := (account.bench.perform operation).2
  owned := account.bench.gained operation +
    match account.bench.returned operation with
    | none => account.owned
    | some reference => account.owned.erase reference

/-- Carries out operations one after the other. -/
def run : List Operation → Account → Account
  | [], account => account
  | operation :: operations, account => run operations (account.perform operation)

/-- A run is fair when whatever it releases is released by somebody who has a reference. -/
def Fair : List Operation → Account → Prop
  | [], _ => True
  | operation :: operations, account =>
    (∀ reference ∈ account.bench.returned operation, reference ∈ account.owned) ∧
      Fair operations (account.perform operation)

/-- Whether a run is fair can be found out by carrying it out. -/
instance decidableFair : (operations : List Operation) → (account : Account) →
    Decidable (account.Fair operations)
  | [], _ => .isTrue trivial
  | operation :: operations, account =>
    have : Decidable (Fair operations (account.perform operation)) := decidableFair _ _
    inferInstanceAs (Decidable (_ ∧ _))

/-- An account with nothing on the workbench of a session that has not connected yet. -/
def new (settings : Settings) (server : Playback) (sharePath oemDomain : String) : Account :=
  { bench := { session := .new settings server sharePath oemDomain } }

/-- The session with everybody's stakes in it. -/
def position (account : Account) : Session × Multiset Stake :=
  (account.bench.session, account.bench.stakes + account.owned)

/-- The account runs the workbench. -/
theorem bench_run (operations : List Operation) (account : Account) :
    (account.run operations).bench = (Workbench.run operations account.bench).2 := by
  -- An account performs what its workbench performs.
  induction operations generalizing account with
  | nil => rfl
  | cons operation operations ih =>
    simp only [run, Workbench.run, Workbench.step]
    exact ih (account.perform operation)

variable {licence : Licence} [licence.Works] {origin : Session}

/-- An operation is a chain of deals, and everything on the workbench still fits. -/
theorem perform_deals {account : Account} (fits : account.bench.Fits origin) {operation : Operation}
    (permitted : licence.Permits operation)
    (honest : licence.overRelease ∨
      ∀ reference ∈ account.bench.returned operation, reference ∈ account.owned) :
    Deals licence account.position (account.perform operation).position ∧
      (account.perform operation).bench.Fits origin := by
  -- The user pays with a reference of its own, or has a licence not to.
  have paid : ∃ paid left, account.owned = paid + left ∧
      licence.Settles (account.bench.returned operation) paid ∧
      (account.perform operation).owned = account.bench.gained operation + left := by
    unfold perform
    cases released : account.bench.returned operation with
    | none => exact ⟨0, account.owned, (zero_add _).symm, rfl, rfl⟩
    | some reference =>
      by_cases has : reference ∈ account.owned
      · refine ⟨{reference}, account.owned.erase reference, ?_, .inl rfl, rfl⟩
        rw [Multiset.singleton_add, Multiset.cons_erase has]
      · have licensed : licence.overRelease := by
          rcases honest with licensed | owns
          · exact licensed
          · exact (has (owns reference released)).elim
        refine ⟨0, account.owned, (zero_add _).symm, .inr ⟨licensed, rfl⟩, ?_⟩
        simp only [Multiset.erase_of_notMem has]
  obtain ⟨paid, left, owned, settled, after⟩ := paid
  have use := Workbench.perform_use fits permitted settled
  refine ⟨?_, use.fits⟩
  have dealt := use.deals left
  simp only [position, owned, after]
  rw [add_left_comm, add_left_comm (account.bench.gained operation)] at dealt
  exact dealt

/-- What every deal keeps is kept by every run that is permitted, and fair where it has to be;
everything on the workbench still fits behind it. -/
theorem run_keeps {Kept : Session × Multiset Stake → Prop}
    (step : ∀ {before after}, Deal licence before after → Kept before → Kept after)
    {operations : List Operation} {account : Account} (fits : account.bench.Fits origin)
    (permitted : ∀ operation ∈ operations, licence.Permits operation)
    (honest : licence.overRelease ∨ account.Fair operations) (kept : Kept account.position) :
    Kept (account.run operations).position ∧ (account.run operations).bench.Fits origin := by
  -- Each operation is a chain of deals, and leaves a workbench on which the next one fits.
  induction operations generalizing account with
  | nil => exact ⟨kept, fits⟩
  | cons operation operations ih =>
    have first : licence.overRelease ∨
        ∀ reference ∈ account.bench.returned operation, reference ∈ account.owned :=
      honest.imp_right And.left
    obtain ⟨deals, still⟩ := perform_deals fits (permitted operation List.mem_cons_self) first
    exact ih still (fun later listed => permitted later (List.mem_cons_of_mem _ listed))
      (honest.imp_right And.right) (Deals.keeps step deals kept)

/-- With nothing on it a workbench is in order, and its session begins. -/
theorem fits_new (settings : Settings) (server : Playback) (sharePath oemDomain : String) :
    (new settings server sharePath oemDomain).bench.Fits
      (.new settings server sharePath oemDomain) where
  -- Everything on it is asked about, and there is nothing.
  items entry listed := by simp [new] at listed
  leads := .refl _
  cursors cursor listed := by simp [new] at listed

/-- What every deal keeps and holds without stakes is true of every run from the beginning. -/
theorem run_new_keeps {Kept : Session × Multiset Stake → Prop}
    (step : ∀ {before after}, Deal licence before after → Kept before → Kept after)
    {settings : Settings} {server : Playback} {sharePath oemDomain : String}
    {operations : List Operation}
    (permitted : ∀ operation ∈ operations, licence.Permits operation)
    (honest : licence.overRelease ∨ (new settings server sharePath oemDomain).Fair operations)
    (kept : Kept (.new settings server sharePath oemDomain, 0)) :
    Kept ((new settings server sharePath oemDomain).run operations).position ∧
      ((new settings server sharePath oemDomain).run operations).bench.Fits
        (.new settings server sharePath oemDomain) :=
  -- The first session is the one that the objects look back to.
  run_keeps step (fits_new settings server sharePath oemDomain) permitted honest kept

end Account

end SmbBrowser
