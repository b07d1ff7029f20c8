import SmbBrowser.Browse
import SmbBrowser.Proofs.Cursor.Reads
import SmbBrowser.Proofs.Listing.Consumption
import SmbBrowser.Proofs.Listing.Succession

/-!
Listings come to an end on every script: each further page takes one exchange off, so that nobody
waits for more pages than the script has exchanges, and whoever keeps pulling gets to the end.
-/

namespace SmbBrowser

/-- How many pages can still come from a place on: one for each exchange of the script, and the first
one while it has not come. -/
def Place.credit {Listing : Type} (place : Place Listing) : Nat :=
  place.session.server.script.length + if place.begun then 0 else 1

namespace Course

/-- How often whoever pulls is told anything: every wanted entry once, and then the failure. -/
def span (filter : Option NameFilter) (course : Course) : Nat :=
  (course.entries filter).length + course.failure.toList.length

/-- Behind that nothing comes any more. -/
theorem drop_answers (filter : Option NameFilter) (course : Course) (more : Nat) :
    (course.answers filter (course.span filter + more)).drop (course.span filter) =
      List.replicate more (.ok none) := by
  -- What comes before is the entries and at most one failure.
  have front : ((course.entries filter).map (fun entry => Except.ok (some entry)) ++
      course.failure.toList.map Except.error).length = course.span filter := by
    simp only [List.length_append, List.length_map, span]
  rw [answers, ending, ← List.append_assoc, List.drop_take, List.drop_left' front,
    List.take_replicate]
  congr 1
  omega

end Course

namespace Cursor

section Answers

variable {Listing : Type} [PagedListing Listing] {tree : TreeRef} {cursor : Cursor Listing}

/-- Whoever keeps pulling at a sound cursor gets to the end of the listing, and stays there. -/
theorem Sound.drop_answers (sound : cursor.Sound tree) (session : Session) :
    ∃ pulls, ∀ more, (answers (pulls + more) cursor session).drop pulls =
      List.replicate more (.ok none) := by
  rcases sound with reading | spent
  · -- The entry in hand comes before everything that is still to come.
    obtain ⟨entry, inHand, _⟩ := reading.inHand
    let rest := cursor.remaining tree session
    refine ⟨rest.span cursor.filter + 1, fun more => ?_⟩
    rw [Nat.add_right_comm, reading.answers_succ inHand session, List.drop_succ_cons]
    exact rest.drop_answers cursor.filter more
  · -- At most a failure waits to be reported.
    let rest : Course := { failure := cursor.deferred }
    refine ⟨rest.span none, fun more => ?_⟩
    have ended : rest.answers none (rest.span none + more) =
        (Course.ending cursor.deferred (rest.span none + more)).take (rest.span none + more) :=
      Course.answers_ended rfl _
    rw [spent.answers_eq session, ← ended]
    exact rest.drop_answers none more

end Answers

variable {tree : TreeRef} {filter : Option NameFilter} {origin place : Place Listing}
  {found : List Entry} {pages : List Turn}

/-- Every page that comes uses up what can come. -/
theorem Reads.length_add_credit_le (reads : Reads tree filter origin found pages place)
    (served : origin.listing.IsServed) :
    place.listing.IsServed ∧ pages.length + place.credit ≤ origin.credit := by
  induction reads with
  | none => exact ⟨served, by simp⟩
  | note _ _ _ ih => exact ih
  | look _ _ ih => exact ih
  | @turn found pages place more after _ _ _ came ih =>
    obtain ⟨isServed, within⟩ := ih
    simp only [Place.credit, List.length_append, List.length_singleton, if_true] at within ⊢
    simp only [Place.ask] at came
    split at came <;> rename_i begun
    · -- A further page takes one exchange off the script.
      obtain ⟨exchange, taken⟩ := Listing.fetchMore_takes isServed came
      have kept := isServed.fetchMore tree place.session
      rw [show place.listing.fetchMore tree place.session = (.ok true, more, after) from came] at kept
      rw [taken] at within
      simp only [begun, if_true, List.length_cons] at within
      exact ⟨kept, by omega⟩
    · -- The first page adds nothing to the script.
      have uses := (place.listing.start_usesUp tree place.session).length_le
      have kept := isServed.start tree place.session
      rw [show place.listing.start tree place.session = (.ok true, more, after) from came] at uses kept
      simp only [begun, if_false, Bool.false_eq_true] at within uses
      exact ⟨kept, by omega⟩

/-- Of the turns of a listing that is read out all but the last bring a page. -/
theorem ReadsOut.countP_isPage_le {turns : List Turn} {last : Listing × Session}
    (reads : ReadsOut tree filter origin found turns last) (served : origin.listing.IsServed) :
    turns.countP Turn.isPage ≤ origin.credit ∧ turns.length ≤ turns.countP Turn.isPage + 1 := by
  cases reads with
  | done reads =>
    obtain ⟨_, within⟩ := reads.length_add_credit_le served
    -- Every turn brought a page.
    have all := List.countP_eq_length.mpr reads.isPage
    omega
  | @last _ _ result listing session reads _ _ _ noPage =>
    obtain ⟨_, within⟩ := reads.length_add_credit_le served
    have all := List.countP_eq_length.mpr reads.isPage
    -- The last turn comes on top, and brings no page.
    have none : List.countP Turn.isPage [.of (result, listing, session)] = 0 := by
      rcases result with fault | _ | _
      · rfl
      · rfl
      · exact absurd rfl noPage
    rw [List.countP_append, none, List.length_append, List.length_singleton]
    omega

/-- Reading on from a place stops, after so many pages at most: at an entry, or where the listing and
the tree were given back, after one call more at most that brought no page. -/
inductive Halts (tree : TreeRef) (filter : Option NameFilter) (origin : Place Listing)
    (bound : Nat) : Listing × Session → Prop where
  /-- It stops without giving anything back. -/
  | reading {found : List Entry} {pages : List Turn} {place : Place Listing}
    (reads : Reads tree filter origin found pages place) (few : pages.length ≤ bound) :
    Halts tree filter origin bound (place.listing, place.session)
  /-- It stops where everything was given back. -/
  | closed {found : List Entry} {turns : List Turn} {given : Listing × Session}
    (gives : GivesBack tree filter origin found turns given)
    (few : turns.countP Turn.isPage ≤ bound) (once : turns.length ≤ turns.countP Turn.isPage + 1) :
    Halts tree filter origin bound given

/-- What was read out halts when it is given back. -/
theorem GivesBack.halts {turns : List Turn} {given : Listing × Session} {bound : Nat}
    (gives : GivesBack tree filter origin found turns given) (served : origin.listing.IsServed)
    (enough : origin.credit ≤ bound) : Halts tree filter origin bound given := by
  -- Reading out asks for no more pages than there is credit, and giving back asks for none.
  obtain ⟨last, out, calls⟩ := gives
  obtain ⟨few, once⟩ := out.countP_isPage_le served
  exact .closed ⟨last, out, calls⟩ (Nat.le_trans few enough) once

/-- Reading on to the next entry halts. -/
theorem Steps.halts {left : List Turn} {outcome : Cursor Listing × Session} {bound : Nat}
    (steps : Steps tree filter origin left outcome) (served : origin.listing.IsServed)
    (enough : origin.credit ≤ bound) :
    Halts tree filter origin bound (outcome.1.listing, outcome.2) := by
  -- With an entry in hand some credit may be left, and at the end there is a last call without a
  -- page.
  cases steps with
  | found reading chosen reads taken needed =>
    obtain ⟨_, within⟩ := reads.length_add_credit_le served
    exact .reading reads (by omega)
  | ended spent gives => exact gives.halts served enough

/-- A pull halts, and asks for no more pages than the script has exchanges. -/
theorem Sound.pull_halts {cursor : Cursor Listing} (sound : cursor.Sound tree)
    (served : cursor.listing.IsServed) (session : Session) :
    Halts tree cursor.filter (cursor.place session) session.server.script.length
      ((cursor.pull session).2.1.listing, (cursor.pull session).2.2) := by
  rcases sound with reading | spent
  · exact (reading.pull_steps session).halts served (Nat.le_refl _)
  · -- Behind the end nothing is asked any more.
    rw [spent.pull_eq session]
    exact .reading .none (Nat.zero_le _)

/-- Opening a cursor halts, and asks for no more pages than the script has exchanges, besides the
first one. -/
theorem ofListing_halts {listing : Listing} (served : listing.IsServed) {session held : Session}
    (acquired : session.acquire = (.ok tree, held)) (filter : Option NameFilter) :
    ∃ last, Halts tree filter (.fresh listing held) (session.server.script.length + 1)
      (last, (ofListing listing filter session).2) := by
  have uses := session.acquire_usesUp.length_le
  rw [acquired] at uses
  -- The first page may come besides what the script has.
  have enough : (Place.fresh listing held).credit ≤ session.server.script.length + 1 :=
    Nat.add_le_add_right uses 1
  have steps := ofListing_steps listing acquired filter
  rcases opening : ofListing listing filter session with ⟨fault | cursor, opened⟩ <;>
    rw [opening] at steps
  · obtain ⟨given, gives⟩ := steps
    exact ⟨given, gives.halts served enough⟩
  · exact ⟨_, Steps.halts steps served enough⟩

/-- A cursor over a listing that a server answers stays one. -/
theorem Lives.isServed {listing : Listing} {cursor : Cursor Listing} {passed : List Passage}
    (lives : Lives listing filter tree (some cursor) passed) (served : listing.IsServed) :
    cursor.listing.IsServed := by
  obtain ⟨_, deeds, last, life, same⟩ := lives.life
  rw [same cursor rfl]
  refine (life.chained.keeps Listing.IsServed (fun deed _ kept => ?_) served).2
  obtain ⟨call, listing, session⟩ := deed
  -- No call changes the sort of the listing.
  cases call with
  | start => exact kept.start tree session
  | fetchMore => exact kept.fetchMore tree session
  | finish => exact kept.finish tree session
  | release | forget => exact kept

end Cursor

/-- Only what a server answers is listed at a place. -/
theorem Session.isServed_listingOf {session : Session} {locator : Locator} {options : ListOptions}
    {listing : Listing} (isListing : session.listingOf locator options = .ok listing) :
    listing.IsServed := by
  unfold listingOf at isListing
  cases kind : locator.kind <;> simp only [kind] at isListing
  case root | workgroup | server =>
    cases isListing
    trivial
  case share | directory =>
    -- A directory is listed by search or by opening it, if it can be made sense of.
    split at isListing
    · cases made : SearchListing.new locator options.pattern options.searchAttributes
          session.settings with
      | error fault => simp [made, Except.map] at isListing
      | ok listing =>
        simp only [made, Except.map, Except.ok.injEq] at isListing
        subst isListing
        trivial
    · cases made : DirectoryListing.new locator options.pattern session.settings with
      | error fault => simp [made, Except.map] at isListing
      | ok listing =>
        simp only [made, Except.map, Except.ok.injEq] at isListing
        subst isListing
        trivial
  case file => cases isListing

/-- Listing a place ends on every script. A further page of what a server answers takes exactly one
exchange off the script. So opening a cursor asks for no more further pages than the script has
exchanges, and neither does a pull, whatever was done before with the cursor and the session; besides
there is one call at most that brings no page, and that is the last. Whoever keeps pulling gets to
the end after finitely many pulls. -/
theorem Session.list_terminates (session : Session) (locator : Locator) (options : ListOptions) :
    (∀ (listing more : Listing) (tree : TreeRef) (before after : Session), listing.IsServed →
      PagedListing.fetchMore listing tree before = (.ok true, more, after) →
        ∃ exchange, before.server.script = exchange :: after.server.script) ∧
    match session.listingOf locator options with
    | .error fault => session.list locator options = (.error fault, session)
    | .ok listing => listing.IsServed ∧
      (match session.acquire with
      | (.error fault, refused) => session.list locator options = (.error fault, refused)
      | (.ok tree, held) => ∃ last,
        Cursor.Halts tree options.nameFilter (.fresh listing held)
          (session.server.script.length + 1) (last, (session.list locator options).2)) ∧
      ∀ tree cursor passed, Cursor.Lives listing options.nameFilter tree (some cursor) passed →
        ∀ later : Session,
          Cursor.Halts tree cursor.filter (cursor.place later) later.server.script.length
            ((cursor.pull later).2.1.listing, (cursor.pull later).2.2) ∧
          ∃ pulls, ∀ more, (Cursor.answers (pulls + more) cursor later).drop pulls =
            List.replicate more (.ok none) := by
  refine ⟨fun _ _ _ _ _ served => Listing.fetchMore_takes served, ?_⟩
  rcases called : session.listingOf locator options with fault | listing
  · simp only [list, called]
  · -- What is listed at a place is served, and stays so in the life of its cursor.
    have served := isServed_listingOf called
    refine ⟨served, ?_, fun tree cursor passed lives later => ?_⟩
    · simp only [list, called]
      rcases acquired : session.acquire with ⟨fault | tree, held⟩
      · simp only [Cursor.ofListing, acquired]
      · exact Cursor.ofListing_halts served acquired options.nameFilter
    · have sound := lives.life.1 cursor rfl
      exact ⟨sound.pull_halts (lives.isServed served) later, sound.drop_answers later⟩

/-- The pages behind the first bring nothing that is wanted, so that one pull looks through all of
them: it asks for as many as the script has. -/
theorem Session.list_terminates_dotsOnly :
    let dots : Exchange := ⟨"find_next2", .ok (.find { entries := [{ name := "." }] })⟩
    let session := new { maxBufferSize := 1024 }
      (.ofTranscript
        { dialect := .smb1
          exchanges :=
            [⟨"find_first2", .ok (.find { sid := ⟨7⟩, entries := [{ name := "A" }] })⟩, dots, dots] })
      "\\\\srv\\data" ""
    ∃ cursor opened,
      session.list (.ofShare "srv" "data") {} = (.ok cursor, opened) ∧
      opened.server.script.length = 2 ∧ (cursor.pull opened).2.2.server.script = [] ∧
      (∃ exchange, opened.server.script =
        exchange :: (PagedListing.fetchMore cursor.listing ⟨0⟩ opened).2.2.server.script) ∧
      Cursor.Halts ⟨0⟩ cursor.filter (cursor.place opened) 2
        ((cursor.pull opened).2.1.listing, (cursor.pull opened).2.2) ∧
      ∃ pulls, ∀ more, (Cursor.answers (pulls + more) cursor opened).drop pulls =
        List.replicate more (.ok none) := by
  intro dots session
  let listing : Listing := .search
    { path := "\\", pattern := "*", searchAttributes := 22, maxItems := 200, maxBuffer := 65435 }
  have called : session.listingOf (.ofShare "srv" "data") {} = .ok listing := rfl
  have acquired : session.acquire = (.ok ⟨0⟩, session.acquire.2) := rfl
  -- Two further pages are scripted, and one pull takes both.
  have seen : (session.list (.ofShare "srv" "data") {}).1.toOption.map (fun cursor =>
      let opened := (session.list (.ofShare "srv" "data") {}).2
      (opened.server.script.length, (cursor.pull opened).2.2.server.script.length,
        (PagedListing.fetchMore cursor.listing ⟨0⟩ opened).1)) = some (2, 0, .ok true) := by
    decide +kernel
  obtain ⟨takes, ends⟩ := list_terminates session (.ofShare "srv" "data") {}
  simp only [called] at ends
  obtain ⟨served, _, pulled⟩ := ends
  rcases listed : session.list (.ofShare "srv" "data") {} with ⟨fault | cursor, opened⟩
  · simp [listed, Except.toOption] at seen
  · simp only [listed, Except.toOption, Option.map_some, Option.some.injEq, Prod.mk.injEq] at seen
    obtain ⟨two, empty, came⟩ := seen
    have begun : Cursor.ofListing listing none session = (.ok cursor, opened) := by
      simpa only [list, called] using listed
    have lives : Cursor.Lives listing none ⟨0⟩ (some cursor) _ := .opened acquired begun
    obtain ⟨halts, ended⟩ := pulled _ _ _ lives opened
    exact ⟨cursor, opened, rfl, two, List.length_eq_zero_iff.mp empty,
      takes cursor.listing _ _ opened _ (lives.isServed served) (Prod.ext came rfl), two ▸ halts,
      ended⟩

end SmbBrowser
