import SmbBrowser.Browse
import SmbBrowser.Proofs.Cursor.Lifetime

/-!
What a closed cursor still says. Closing it ends the entries, whatever was read ahead, but it does
not take back a failure that a pull met behind the entry that it handed out: that failure is told
once, to whoever pulls at the closed cursor next.
-/

namespace SmbBrowser.Cursor

variable {Listing : Type} [PagedListing Listing]

/-- Does one thing after another with a cursor, each in whatever session there is by then. -/
def amid (cursor : Cursor Listing) : List (Session × Move) → Cursor Listing
  | [] => cursor
  | (session, first) :: moves => (cursor.move session first).1.amid moves

/-- What pulls answer, each in whatever session there is by then. -/
def answersAmid (cursor : Cursor Listing) : List Session → List (Except Fault (Option Entry))
  | [] => []
  | session :: sessions =>
    let (answer, cursor, _) := cursor.pull session
    answer :: cursor.answersAmid sessions

/-- All that is still to come of the listing that an open cursor reads is this failure. -/
def FailsBehind (cursor : Cursor Listing) (session : Session) (fault : Fault) : Prop :=
  ∃ tree, cursor.tree = some tree ∧
    (cursor.remaining tree session).entries cursor.filter = [] ∧
    (cursor.remaining tree session).failure = some fault

/-- The last pull met this failure behind the entry that it handed out, and nobody has pulled
since. -/
def LeavesUntold (cursor : Cursor Listing) (moves : List (Session × Move)) (fault : Fault) : Prop :=
  ∃ before session since, moves = before ++ (session, .pull) :: since ∧
    (∀ later ∈ since, later.2 ≠ .pull) ∧ (cursor.amid before).FailsBehind session fault

variable {cursor : Cursor Listing} {tree : TreeRef} {session opened : Session}

/-- Whatever is done with it in whichever session, a cursor stays sound. -/
theorem Sound.amid (sound : cursor.Sound tree) (moves : List (Session × Move)) :
    (cursor.amid moves).Sound tree := by
  -- Each move may be made in a session of its own.
  induction moves generalizing cursor with
  | nil => exact sound
  | cons first moves ih => exact ih (sound.move first.1 first.2)

/-- Whatever ends a cursor, everything is given back. -/
theorem Sound.spent_of_closing (sound : cursor.Sound tree) (session : Session) {closing : Move}
    (closes : closing ≠ .pull) : (cursor.move session closing).1.Spent := by
  -- All ways but a pull end in the same close.
  cases closing with
  | pull => exact absurd rfl closes
  | close | closer | drop => exact sound.close session

/-- What waits to be reported is left as it is by whatever ends a cursor. -/
theorem deferred_closing (cursor : Cursor Listing) (session : Session) {closing : Move}
    (closes : closing ≠ .pull) :
    (cursor.move session closing).1.deferred = cursor.deferred := by
  -- Closing looks at the state, the listing and the tree only.
  cases closing with
  | pull => exact absurd rfl closes
  | close | closer | drop => exact cursor.deferred_close session

/-- What waits to be reported waits until there is a pull. -/
theorem deferred_unpulled (cursor : Cursor Listing) (moves : List (Session × Move))
    (noPull : ∀ move ∈ moves, move.2 ≠ .pull) : (cursor.amid moves).deferred = cursor.deferred := by
  -- Each move but a pull closes, and leaves what waits alone.
  induction moves generalizing cursor with
  | nil => rfl
  | cons first moves ih =>
    obtain ⟨closes, others⟩ := List.forall_mem_cons.mp noPull
    exact (ih _ others).trans (deferred_closing cursor first.1 closes)

/-- A cursor that gave everything back answers in every session what it answers in one. -/
theorem Spent.answersAmid_eq (spent : cursor.Spent) (sessions : List Session) :
    cursor.answersAmid sessions =
      (Course.ending cursor.deferred sessions.length).take sessions.length := by
  -- Once the failure is reported, every pull leaves the cursor as it is.
  induction sessions generalizing cursor with
  | nil => rfl
  | cons session sessions ih =>
    rw [← spent.answers_eq session, List.length_cons]
    simp only [answersAmid, answers, spent.pull_eq session, ih (spent.withDeferred none),
      (spent.withDeferred none).answers_eq session]

/-- Behind a pull a failure waits to be reported exactly if it is all that was still to come. -/
theorem Sound.deferred_pull (sound : cursor.Sound tree) (session : Session) (fault : Fault) :
    (cursor.pull session).2.1.deferred = some fault ↔ cursor.FailsBehind session fault := by
  rcases sound with reading | spent
  · obtain ⟨entry, inHand, _⟩ := reading.inHand
    obtain ⟨used, after, pulled, comes⟩ := reading.pull_eq inHand session
    have behind : cursor.FailsBehind session fault ↔
        (cursor.remaining tree session).entries cursor.filter = [] ∧
          (cursor.remaining tree session).failure = some fault := by
      simp only [FailsBehind, reading.holds, Option.some.injEq, exists_eq_left']
    rw [pulled, behind]
    rcases comes with ⟨still, _, found, _, entries, _⟩ | ⟨_, noEntry, failure⟩
    · -- Another entry was read ahead, and it is to come before any failure.
      simp [still.settled, entries]
    · simp [noEntry, failure]
  · -- What waited was reported by the pull, and nothing more is read.
    simp [spent.pull_eq session, FailsBehind, spent.released]

/-- A failure is left untold by the first move, if no pull follows it, or by the moves behind it. -/
theorem leavesUntold_cons {first : Move} {moves : List (Session × Move)} {fault : Fault} :
    cursor.LeavesUntold ((session, first) :: moves) fault ↔
      (first = .pull ∧ cursor.FailsBehind session fault ∧ ∀ later ∈ moves, later.2 ≠ .pull) ∨
        (cursor.move session first).1.LeavesUntold moves fault := by
  constructor
  · rintro ⟨before, there, since, split, noPull, fails⟩
    -- The pull that is left untold is the first move, or one of those behind it.
    cases before with
    | nil =>
      simp only [List.nil_append, List.cons.injEq, Prod.mk.injEq] at split
      obtain ⟨⟨rfl, rfl⟩, rfl⟩ := split
      exact .inl ⟨rfl, fails, noPull⟩
    | cons earliest before =>
      simp only [List.cons_append, List.cons.injEq] at split
      obtain ⟨rfl, split⟩ := split
      exact .inr ⟨before, there, since, split, noPull, fails⟩
  · rintro (⟨rfl, fails, noPull⟩ | ⟨before, there, since, rfl, noPull, fails⟩)
    · exact ⟨[], session, moves, rfl, noPull, fails⟩
    · exact ⟨(session, first) :: before, there, since, rfl, noPull, fails⟩

/-- A failure waits to be reported exactly if the last pull left it untold, or if it waited before
and there was no pull. -/
theorem Sound.deferred_amid (sound : cursor.Sound tree) (moves : List (Session × Move))
    (fault : Fault) :
    (cursor.amid moves).deferred = some fault ↔
      cursor.LeavesUntold moves fault ∨
        cursor.deferred = some fault ∧ ∀ move ∈ moves, move.2 ≠ .pull := by
  -- Every move either is a pull, and settles what waits, or leaves it as it is.
  induction moves generalizing cursor with
  | nil => simp [Cursor.amid, LeavesUntold]
  | cons first moves ih =>
    obtain ⟨session, first⟩ := first
    rw [Cursor.amid, ih (sound.move session first), leavesUntold_cons]
    by_cases pulls : first = .pull
    · subst pulls
      rw [show (cursor.move session .pull).1.deferred = some fault ↔ _ from
        sound.deferred_pull session fault]
      simp only [List.mem_cons, forall_eq_or_imp, ne_eq, not_true, false_and, and_false, or_false,
        true_and]
      exact or_comm
    · rw [deferred_closing cursor session pulls]
      simp only [List.mem_cons, forall_eq_or_imp, ne_eq, pulls, not_false_eq_true, true_and,
        false_and, false_or]

/-- A cursor that could begin has no failure to report. -/
theorem Begun.deferred {outcome : Except Fault Unit × Cursor Listing × Session}
    (begun : Begun tree cursor session outcome) (settled : cursor.deferred = none)
    (succeeded : outcome.1 = .ok ()) : outcome.2.1.deferred = none := by
  -- A cursor without an entry in hand is closed at once, which leaves nothing to wait.
  cases begun with
  | refused | failed => simp at succeeded
  | empty started opened => exact (deferred_close _ _).trans settled
  | found started advanced reading => exact reading.settled
  | @ended listing ahead later after started advanced opened =>
    have same := sameReader_advance { cursor with listing, state := .hasResult } later
    rw [advanced] at same
    exact (deferred_close _ _).trans (same.deferred.trans settled)

/--
What a closed cursor still says.

Whatever was done with a cursor since it was opened, in whatever sessions: once it is closed, by its
reader, by one of its closers or by being dropped, it brings no entry any more, whatever it had read
ahead. Every pull says that there is nothing more, except that the first one tells of a failure that
still waits to be told. Such a failure waits exactly if the last pull before met it behind the entry
that it handed out, all that was still to come being that failure; in particular none waits at a
cursor that was not closed before.
-/
theorem ofListing_closed {listing : Listing} {filter : Option NameFilter}
    (succeeded : ofListing listing filter session = (.ok cursor, opened))
    (moves : List (Session × Move)) (here : Session) {closing : Move} (closes : closing ≠ .pull) :
    let used := cursor.amid moves
    let shut := (used.move here closing).1
    shut.isClosed = true ∧
      (∀ later : List Session,
        shut.answersAmid later = (Course.ending used.deferred later.length).take later.length) ∧
      (∀ fault, used.deferred = some fault ↔ cursor.LeavesUntold moves fault) ∧
      (used.isClosed = false → used.deferred = none) := by
  intro used shut
  rcases acquired : session.acquire with ⟨fault | tree, held⟩
  · simp [ofListing, acquired] at succeeded
  · -- Opening comes to a sound cursor with nothing to report, from which the moves start.
    have begun := begun_fresh listing tree filter held
    rcases began : begin { listing, tree := some tree, filter } tree held with
      ⟨fault | _, begunCursor, after⟩ <;> rw [began] at begun <;>
      simp only [ofListing, acquired, began, Prod.mk.injEq, reduceCtorEq, false_and,
        Except.ok.injEq] at succeeded
    obtain ⟨rfl, rfl⟩ := succeeded
    have sound : begunCursor.Sound tree := (begun.lived rfl).sound
    have settled : begunCursor.deferred = none := begun.deferred rfl rfl
    -- Behind the closing the cursor is spent, and only what waits is left of it.
    have spent : shut.Spent := (sound.amid moves).spent_of_closing here closes
    have same : shut.deferred = used.deferred := deferred_closing used here closes
    refine ⟨spent.isClosed_eq, fun later => ?_, fun fault => ?_, fun isOpen => ?_⟩
    · rw [spent.answersAmid_eq later, same]
    · simp only [used, sound.deferred_amid moves fault, settled, reduceCtorEq, false_and, or_false]
    · rcases sound.amid moves with reading | gone
      · exact reading.settled
      · simp [used, gone.isClosed_eq] at isOpen

/-- A cursor that is closed with an entry in hand and a page to come says nothing more, and tells no
failure, since none was met. -/
theorem ofListing_closed_early :
    let entries : List Entry := [{ name := "A" }, { name := "B" }, { name := "C" }]
    let session := Session.new {} (.ofTranscript { dialect := .smb2 }) "\\\\srv\\data" ""
    let listing : RehearsedListing :=
      { opening := .page entries false, turns := [.fail .handleClosed], closing := none }
    ∃ cursor opened, ofListing listing none session = (.ok cursor, opened) ∧
      ∀ later : List Session,
        ((cursor.amid [(opened, .pull)]).move opened (.closer 3)).1.answersAmid later =
          List.replicate later.length (.ok none) := by
  intro entries session listing
  have started : (ofListing listing none session).1.toOption.isSome = true := by decide +kernel
  rcases succeeded : ofListing listing none session with ⟨fault | cursor, opened⟩
  · simp [succeeded, Except.toOption] at started
  · -- The cursor is open behind the first pull, since B is read ahead by then.
    have stillOpen : ((ofListing listing none session).1.toOption.map fun cursor =>
        (cursor.amid [((ofListing listing none session).2, .pull)]).isClosed) = some false := by
      decide +kernel
    simp only [succeeded, Except.toOption, Option.map_some, Option.some.injEq] at stillOpen
    have closes : Move.closer 3 ≠ .pull := by simp
    obtain ⟨_, answers, _, none⟩ := ofListing_closed succeeded [(opened, .pull)] opened closes
    refine ⟨cursor, opened, rfl, fun later => ?_⟩
    rw [answers later, none stillOpen, Course.ending]
    simp

/-- A failure that was met behind the last entry is told by a cursor that was closed since. -/
theorem ofListing_closed_untold :
    let script : List Exchange :=
      [⟨"find_first2",
          .ok (.find { sid := ⟨4⟩, entries := [{ name := "A" }, { name := "B" }] })⟩,
        ⟨"find_next2", .status .accessDenied⟩, ⟨"find_close2", .ok .empty⟩]
    let session := Session.new {} (.ofTranscript { dialect := .smb1, exchanges := script })
      "\\\\srv\\data" ""
    let listed := session.list (.path "srv" "data" "docs/") {}
    (listed.1.toOption.map fun cursor =>
      let used := cursor.play listed.2 [.pull, .pull, .close]
      (used.1.isClosed, used.1.answers 2 used.2)) =
        some (true, [.error (.status .accessDenied), .ok none]) := by
  -- Each pull is made in the session that what was done before it left.
  decide +kernel

end SmbBrowser.Cursor
