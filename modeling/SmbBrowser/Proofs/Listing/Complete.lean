import SmbBrowser.Browse
import SmbBrowser.Proofs.Cursor.Drain
import SmbBrowser.Proofs.Session.Standing

/-!
Listings that are read to their end without a failure: what whoever pulls at the cursor gets, what
the server is asked meanwhile, and that nothing is left behind.
-/

namespace SmbBrowser

/-- Whoever only pulls gets the wanted ones of these entries, in their order and each of them once,
and then nothing for ever. With the last of them all of this was asked, the tree was given back, and
the script is used up. -/
def Session.Lists (session : Session) (locator : Locator) (options : ListOptions)
    (entries : List Entry) (asked : List (Option TreeId × Request × Delivery)) : Prop :=
  let wanted := entries.filter (Cursor.wants options.nameFilter)
  ∃ cursor opened, session.list locator options = (.ok cursor, opened) ∧
    ∀ pulls,
      Cursor.answers pulls cursor opened =
          (wanted.map (fun entry => Except.ok (some entry)) ++
            List.replicate pulls (Except.ok none)).take pulls ∧
        (wanted.length ≤ pulls →
          let drained := (cursor.play opened (List.replicate pulls .pull)).2
          drained.asked = asked ∧ drained.active? = none ∧ drained.server.script = [])

namespace Cursor

variable {Listing : Type} [PagedListing Listing]

/-- A reading without a failure, after which the listing can be given back: the entries that came,
and what was asked by then. -/
structure Reading.Completes (reading : Reading Listing) (entries : List Entry)
    (asked : List (Option TreeId × Request × Delivery)) : Prop where
  whole : reading.failure = none
  entries : reading.pages.flatten = entries
  left : ∃ given later files,
    PagedListing.finish reading.listing ⟨0⟩
        (reading.session.noteHook (PagedListing.label reading.listing) .finish) =
      (.ok (), given, later) ∧
    Stands later { files, asked, script := [] }

/-- One page more before brings its entries first. -/
theorem Reading.Completes.behind {reading : Reading Listing} {entries : List Entry}
    {asked : List (Option TreeId × Request × Delivery)} (complete : reading.Completes entries asked)
    (page : List Entry) : (reading.behind page).Completes (page ++ entries) asked :=
  -- A page more changes the entries only.
  ⟨complete.whole, congrArg (page ++ ·) complete.entries, complete.left⟩

/-- A listing that was given back leaves the tree last, and nobody shares the tree then. -/
theorem giveBack_left {listing given : Listing} {session later : Session} {standing : Standing}
    (finished : PagedListing.finish listing ⟨0⟩
      (session.noteHook (PagedListing.label listing) .finish) = (.ok (), given, later))
    (stands : Stands later standing) (last : standing.refs = 1) (done : standing.script = []) :
    let after := (giveBack ⟨0⟩ listing session).2
    after.asked = standing.asked ++ [(some ⟨1⟩, .treeDisconnect, .cleanup)] ∧
      after.active? = none ∧ after.server.script = [] := by
  obtain ⟨after, released, asked, script, current⟩ := stands.leave last (by simp [done])
  simp only [giveBack, finished, Session.noteFailure, released]
  -- The tree is forgotten when nobody shares it any more.
  obtain ⟨log, forgotten⟩ :=
    (after.note (.cursorClosed (PagedListing.label listing))).forgetTree_eq ⟨0⟩
  rw [forgotten]
  refine ⟨asked, ?_, script.trans done⟩
  simp only [Session.active?, Session.note, current, Option.filter_none]

end Cursor

/-- A place whose listing completes on the first tree of a session is listed. -/
theorem Session.lists_new {settings : Settings} {transcript : Transcript}
    {sharePath oemDomain : String} {locator : Locator} {options : ListOptions} {listing : Listing}
    {entries : List Entry} {asked : List (Option TreeId × Request × Delivery)}
    (called : (new settings (.ofTranscript transcript) sharePath oemDomain).listingOf locator
      options = .ok listing)
    (other : ∀ next ∈ transcript.exchanges.head?, next.expect ≠ "tree_connect")
    (completes : ∀ held,
      Stands held
          { asked := [(none, .treeConnect sharePath, .plain)], script := transcript.exchanges } →
        (Cursor.readOut ⟨0⟩ options.nameFilter listing held).Completes entries asked) :
    (new settings (.ofTranscript transcript) sharePath oemDomain).Lists locator options entries
      (asked ++ [(some ⟨1⟩, .treeDisconnect, .cleanup)]) := by
  obtain ⟨held, acquired, stands⟩ := Stands.acquire_new settings transcript sharePath oemDomain other
  obtain ⟨whole, brought, given, later, files, finished, still⟩ := completes held stands
  obtain ⟨cursor, opened, listed, drained⟩ := Cursor.ofListing_readOut acquired whole
  refine ⟨cursor, opened, ?_, fun pulls => ?_⟩
  · simp only [list, called, listed]
  · obtain ⟨answered, settled⟩ := drained pulls
    have wanted : (Cursor.readOut ⟨0⟩ options.nameFilter listing held).course.entries
        options.nameFilter = entries.filter (Cursor.wants options.nameFilter) :=
      congrArg (List.filter _) brought
    rw [wanted] at settled
    refine ⟨?_, fun enough => ?_⟩
    · have noFailure : (Cursor.readOut ⟨0⟩ options.nameFilter listing held).course.failure = none :=
        whole
      rw [answered, Course.answers, wanted, noFailure]
      rfl
    · -- What was read to its end without a failure is given back as it is.
      rw [settled enough]
      simp only [Cursor.Finale.settled, whole]
      exact Cursor.giveBack_left finished still rfl rfl

end SmbBrowser
