import SmbBrowser.Proofs.Session.Validity
import SmbBrowser.Proofs.Workbench.Account

/-!
The moments of a run: between any two operations, and between the strokes that each consists of. At
every moment at most one tree is valid, and no handle is ever valid again.
-/

namespace SmbBrowser

/-- No operation goes beyond the licence to do anything. -/
theorem Licence.permits_anything (operation : Operation) : anything.Permits operation := by
  -- Only closing a tree and sending a request by hand take a licence at all.
  cases operation with
  | closeTree name => trivial
  | send name request delivery => exact ⟨fun _ => trivial, fun _ => trivial⟩
  | _ => trivial

namespace Account

/-- The session after some operations from the beginning. -/
def sessionAfter (settings : Settings) (server : Playback) (sharePath oemDomain : String)
    (operations : List Operation) : Session :=
  ((new settings server sharePath oemDomain).run operations).bench.session

/-- Doing some operations and then more is doing them all. -/
theorem run_append (operations more : List Operation) (account : Account) :
    account.run (operations ++ more) = (account.run operations).run more := by
  -- The account behind the first operation is where the others begin.
  induction operations generalizing account with
  | nil => rfl
  | cons operation operations ih => exact ih (account.perform operation)

variable {licence : Licence} [licence.Works] {origin : Session}

/-- A run is a chain of strokes. -/
theorem run_strokes (free : licence.overRelease) {account : Account} (fits : account.bench.Fits origin)
    {operations : List Operation} (permitted : ∀ operation ∈ operations, licence.Permits operation) :
    Strokes licence account.bench.session (account.run operations).bench.session ∧
      (account.run operations).bench.Fits origin := by
  -- Each deal of the run adds its strokes to the chain.
  have step {before after : Session × Multiset Stake} (deal : Deal licence before after)
      (strokes : Strokes licence account.bench.session before.1) :
      Strokes licence account.bench.session after.1 :=
    strokes.trans deal.strokes
  exact run_keeps step fits permitted (.inl free) .refl

variable (settings : Settings) (server : Playback) (sharePath oemDomain : String)

/-- Whatever every stroke keeps holds after every run from the beginning. -/
theorem sessionAfter_keeps (free : licence.overRelease) {Kept : Session → Prop}
    (step : ∀ {before after}, Stroke licence before after → Kept before → Kept after)
    {operations : List Operation} (permitted : ∀ operation ∈ operations, licence.Permits operation)
    (kept : Kept (.new settings server sharePath oemDomain)) :
    Kept (sessionAfter settings server sharePath oemDomain operations) := by
  -- A workbench that is empty fits, and an operation on one that fits is a chain of strokes.
  obtain ⟨strokes, _⟩ := run_strokes free (fits_new settings server sharePath oemDomain) permitted
  exact strokes.keeps step kept

/-- Going on with a run is a chain of strokes. -/
theorem sessionAfter_strokes (free : licence.overRelease) {operations more : List Operation}
    (permitted : ∀ operation ∈ operations ++ more, licence.Permits operation) :
    Strokes licence (sessionAfter settings server sharePath oemDomain operations)
      (sessionAfter settings server sharePath oemDomain (operations ++ more)) := by
  -- The first part is needed for the order in which it leaves the workbench.
  obtain ⟨_, fits⟩ := run_strokes free (fits_new settings server sharePath oemDomain)
    fun operation listed => permitted operation (List.mem_append_left more listed)
  obtain ⟨strokes, _⟩ := run_strokes free fits
    fun operation listed => permitted operation (List.mem_append_right operations listed)
  rw [sessionAfter, sessionAfter, run_append]
  exact strokes

/-- Whatever is done, at every moment at most one tree handle is valid; it is the one that whoever
looks at the connected tree sees, and of the generation that there is. A tree or file handle that is
invalid at some moment is invalid at every later one. -/
theorem run_validity (operations more : List Operation) :
    let before := sessionAfter settings server sharePath oemDomain operations
    let after := sessionAfter settings server sharePath oemDomain (operations ++ more)
    Strokes .anything before after ∧
    ∀ moment, Strokes .anything before moment → moment.ValidOnce ∧
      ∀ later, Strokes .anything moment later → moment.LostForGood later := by
  intro before after
  have permitted : ∀ operation ∈ operations, Licence.anything.Permits operation :=
    fun operation _ => Licence.permits_anything operation
  -- What is looked at is one invariant, and it holds at the moment from which the run goes on.
  have ranked : Ranked before := sessionAfter_keeps settings server sharePath oemDomain trivial
    Stroke.ranked permitted (.new settings server sharePath oemDomain)
  have further : Strokes .anything before after :=
    sessionAfter_strokes settings server sharePath oemDomain trivial
      fun operation _ => Licence.permits_anything operation
  refine ⟨further, fun moment reached => ?_⟩
  have still : Ranked moment := reached.keeps Stroke.ranked ranked
  exact ⟨still.validOnce, fun later behind => still.lostForGood behind.aged⟩

end Account

end SmbBrowser
