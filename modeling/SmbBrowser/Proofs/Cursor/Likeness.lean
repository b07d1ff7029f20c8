import SmbBrowser.Proofs.Cursor.Course
import SmbBrowser.Proofs.Listing.Likeness

/-!
A cursor in two sessions that are alike for whoever reads through its tree: it reads on to the same
entry, and up to the moment in which it lets go of the tree the sessions stay alike. What comes of
its listing is already the same where the sessions only resemble each other.
-/

namespace SmbBrowser.Cursor

open Session

variable {tree : TreeRef} {Like : Option FileRef → Session → Session → Prop}
  {one other : Session}

/-- The directory that a cursor's listing holds open, if it holds one. -/
def dir? (cursor : Cursor Listing) : Option FileRef := cursor.listing.dir?

/-- A cursor lets go of its tree: it gives its reference back and knows it no longer. -/
def letGo (tree : TreeRef) (label : String) (session : Session) : Session :=
  (((session.releaseTree tree).2.noteFailure (.cursorReleaseFailed label)
    (session.releaseTree tree).1).note (.cursorClosed label)).forgetTree tree

section

variable (likeness : Likeness tree Like)

include likeness

/-- The page is turned to the same one. -/
theorem turnPage_accord {cursor : Cursor Listing} (through : ∀ used ∈ cursor.tree, used = tree)
    (like : Like cursor.dir? one other) :
    Accord Like dir? (cursor.turnPage one) (cursor.turnPage other) := by
  have asked := likeness.noteHook like cursor.label .isDone
  unfold turnPage
  simp only
  split
  · exact ⟨rfl, rfl, asked⟩
  · split
    · exact ⟨rfl, rfl, asked⟩
    · -- The listing is asked through the tree that the cursor holds.
      rename_i used holds
      obtain rfl := through used holds
      obtain ⟨answer, listing, after, later, fetched, fetchedToo, still⟩ :=
        (Listing.fetchMore_accord likeness.toResemblance cursor.listing
          (likeness.noteHook asked cursor.label .fetchMore)).both
      simp only [PagedListing.fetchMore, fetched, fetchedToo]
      rcases answer with fault | found
      · exact ⟨rfl, rfl, still⟩
      · cases found <;> exact ⟨rfl, rfl, still⟩

/-- The same is found on the page. -/
theorem readPage_accord {cursor : Cursor Listing} (through : ∀ used ∈ cursor.tree, used = tree)
    (like : Like cursor.dir? one other) :
    Accord Like dir? (cursor.readPage one) (cursor.readPage other) := by
  -- What is skipped on the page is logged in both.
  have noted := likeness.noteAll like (scan cursor.filter cursor.unread).events
  unfold readPage
  simp only
  split
  · exact ⟨rfl, rfl, noted⟩
  · exact turnPage_accord likeness through noted

/-- Reading on comes to the same entry, or ends the same. -/
theorem advance_accord (cursor : Cursor Listing) (through : ∀ used ∈ cursor.tree, used = tree)
    (like : Like cursor.dir? one other) :
    Accord Like dir? (cursor.advance one) (cursor.advance other) := by
  -- The same pages are turned in both sessions.
  fun_induction advance cursor one generalizing other with
  | case1 cursor one result ahead after page =>
    -- The page settles what comes: an entry, a failure or the end.
    obtain ⟨_, _, _, later, first, second, still⟩ :=
      (readPage_accord likeness through like).both
    obtain ⟨rfl, rfl, rfl⟩ : _ ∧ _ ∧ _ := by simpa [page] using first
    have read : cursor.advance other = (result, ahead, later) := by
      rw [advance]
      split <;> rename_i met <;> rw [second] at met <;> simp_all
    rw [read]
    exact ⟨rfl, rfl, still⟩
  | case2 cursor one turned after page ih =>
    obtain ⟨_, _, _, later, first, second, still⟩ :=
      (readPage_accord likeness through like).both
    obtain ⟨rfl, rfl, rfl⟩ : _ ∧ _ ∧ _ := by simpa [page] using first
    have read : cursor.advance other = turned.advance later := by
      rw [advance]
      split <;> rename_i met <;> rw [second] at met <;> simp_all
    have same := cursor.sameReader_readPage one
    rw [page] at same
    rw [read]
    exact ih (by rwa [same.tree]) still

/-- An open cursor gives its listing back alike, and lets go of the tree behind that. -/
theorem close_accord {cursor : Cursor Listing} (isOpen : cursor.state ≠ .closed)
    (holds : cursor.tree = some tree) (like : Like cursor.dir? one other) :
    (cursor.close other).1 = (cursor.close one).1 ∧ ∃ mine others, Like none mine others ∧
      (cursor.close one).2 = letGo tree cursor.label mine ∧
      (cursor.close other).2 = letGo tree cursor.label others := by
  obtain ⟨answer, listing, after, later, given, givenToo, still⟩ :=
    (Listing.finish_accord likeness cursor.listing
      (likeness.noteHook like cursor.label .finish)).both
  -- Behind its finish nobody looks at the directory of the listing any more.
  have gone := likeness.loosen still
  unfold close
  rw [if_neg isOpen, if_neg isOpen]
  simp only [holds, PagedListing.finish, label] at given givenToo gone ⊢
  simp only [given, givenToo]
  refine ⟨trivial, after.noteFailure (.cursorFinishFailed cursor.label) answer,
    later.noteFailure (.cursorFinishFailed cursor.label) answer, ?_, rfl, rfl⟩
  cases answer with
  | ok _ => exact gone
  | error fault => exact likeness.note gone _

end

/-- Two sessions in which a cursor has let go of its tree, and which were alike before that. -/
def Parted (tree : TreeRef) (Like : Option FileRef → Session → Session → Prop)
    (one other : Session) : Prop :=
  ∃ label mine others, Like none mine others ∧ one = letGo tree label mine ∧
    other = letGo tree label others

/-- A cursor that did the same in two sessions that were alike: they still are, unless it has given
everything back in both. -/
def Together (tree : TreeRef) (Like : Option FileRef → Session → Session → Prop)
    (cursor : Cursor Listing) (one other : Session) : Prop :=
  (cursor.Open tree ∧ Like cursor.dir? one other) ∨ (cursor.Spent ∧ Parted tree Like one other)

section

variable (likeness : Likeness tree Like)

include likeness

/-- An open cursor that is closed has given everything back in both sessions. -/
theorem Open.close_together {cursor : Cursor Listing} (opened : cursor.Open tree)
    (like : Like cursor.dir? one other) :
    ∃ used mine others, cursor.close one = (used, mine) ∧ cursor.close other = (used, others) ∧
      used.Spent ∧ Parted tree Like mine others := by
  -- Up to the release of the tree the sessions are alike, and the cursor is the same in both.
  obtain ⟨same, mine, others, still, left, leftToo⟩ :=
    close_accord likeness opened.isOpen opened.holds like
  exact ⟨_, _, (cursor.close other).2, rfl, Prod.ext same rfl, opened.close one,
    cursor.label, mine, others, still, left, leftToo⟩

/-- A pull at a cursor that has read ahead does the same in both sessions. -/
theorem Ahead.pull_together {cursor : Cursor Listing} (reading : cursor.Ahead tree)
    (like : Like cursor.dir? one other) :
    ∃ answer used mine others, cursor.pull one = (answer, used, mine) ∧
      cursor.pull other = (answer, used, others) ∧ Together tree Like used mine others := by
  have opened : Open tree { cursor with next := none } := ⟨reading.opened.isOpen, reading.holds⟩
  obtain ⟨entry, inHand, _⟩ := reading.inHand
  obtain ⟨found, ahead, after, later, read, readToo, still⟩ :=
    (advance_accord likeness { cursor with next := none } (by simp [reading.holds]) like).both
  have isOpen := opened.advance one
  rw [read] at isOpen
  unfold pull
  -- What was in hand is answered, and the emptied cursor reads on.
  generalize { cursor with next := none } = emptied at read readToo
  simp only [reading.settled, if_neg reading.opened.isOpen, inHand, read, readToo]
  rcases found with fault | _ | next
  · -- The failure is written down before everything is given back.
    obtain ⟨used, mine, others, closed, closedToo, spent, parted⟩ :=
      isOpen.close_together likeness (likeness.note still (.cursorAdvanceFailed ahead.label fault))
    simp only [closed, closedToo]
    exact ⟨_, _, _, _, rfl, rfl, .inr ⟨spent.withDeferred _, parted⟩⟩
  · obtain ⟨used, mine, others, closed, closedToo, spent, parted⟩ :=
      isOpen.close_together likeness still
    simp only [closed, closedToo]
    exact ⟨_, _, _, _, rfl, rfl, .inr ⟨spent, parted⟩⟩
  · exact ⟨_, _, _, _, rfl, rfl, .inl ⟨⟨isOpen.isOpen, isOpen.holds⟩, still⟩⟩

/-- A cursor that begins does the same in both sessions. -/
theorem Open.begin_together {cursor : Cursor Listing} (opened : cursor.Open tree)
    (like : Like cursor.dir? one other) :
    ∃ answer used mine others, cursor.begin tree one = (answer, used, mine) ∧
      cursor.begin tree other = (answer, used, others) ∧ Together tree Like used mine others := by
  obtain ⟨found, listing, after, later, started, startedToo, still⟩ :=
    (Listing.start_accord likeness cursor.listing
      (likeness.noteHook like cursor.label .start)).both
  unfold begin
  simp only [PagedListing.start, started, startedToo]
  rcases found with fault | found
  · exact ⟨_, _, _, _, rfl, rfl, .inl ⟨⟨opened.isOpen, opened.holds⟩, still⟩⟩
  · cases found with
    | false =>
      -- An empty listing is closed at once.
      have begun : Open tree { cursor with listing } := ⟨opened.isOpen, opened.holds⟩
      obtain ⟨used, mine, others, closed, closedToo, spent, parted⟩ :=
        begun.close_together likeness (likeness.note still (.cursorEmpty listing.label))
      simp only [PagedListing.label, closed, closedToo]
      exact ⟨_, _, _, _, rfl, rfl, .inr ⟨spent, parted⟩⟩
    | true =>
      -- Behind the first page the cursor reads ahead.
      have paged : Open tree { cursor with listing, state := .hasResult } :=
        ⟨by simp, opened.holds⟩
      obtain ⟨found, ahead, mine, others, read, readToo, further⟩ :=
        (advance_accord likeness { cursor with listing, state := .hasResult }
          (by simp [opened.holds]) still).both
      have isOpen := paged.advance after
      rw [read] at isOpen
      simp only [read, readToo]
      rcases found with fault | _ | next
      · exact ⟨_, _, _, _, rfl, rfl, .inl ⟨isOpen, further⟩⟩
      · obtain ⟨used, last, lastToo, closed, closedToo, spent, parted⟩ :=
          isOpen.close_together likeness further
        simp only [closed, closedToo]
        exact ⟨_, _, _, _, rfl, rfl, .inr ⟨spent, parted⟩⟩
      · exact ⟨_, _, _, _, rfl, rfl, .inl ⟨⟨isOpen.isOpen, isOpen.holds⟩, further⟩⟩

end

section

variable (resemblance : Resemblance tree Like) (filter : Option NameFilter)

include resemblance

/-- A further page comes alike behind a page. -/
theorem fetchMore_accord (listing : Listing) (like : Like listing.dir? one other) (label : String) :
    Accord Like Listing.dir?
      (PagedListing.fetchMore listing tree ((one.noteHook label .isDone).noteHook label .fetchMore))
      (PagedListing.fetchMore listing tree
        ((other.noteHook label .isDone).noteHook label .fetchMore)) :=
  -- Writing the calls down leaves the sessions resembling each other.
  Listing.fetchMore_accord resemblance listing (resemblance.noteHook
    (resemblance.noteHook like label .isDone) label .fetchMore)

/-- The same pages come behind a page. -/
theorem pagesBehind_congr (listing : Listing) (like : Like listing.dir? one other) :
    pagesBehind tree filter listing other = pagesBehind tree filter listing one := by
  -- The induction follows the pages that come in the one session.
  fun_induction pagesBehind tree filter listing one generalizing other with
  | case1 listing one done =>
    rw [pagesBehind, if_pos done]
  | case2 listing one label asked unfinished fault =>
    rename_i fetched
    obtain ⟨_, _, _, later, first, second, still⟩ :=
      (fetchMore_accord resemblance listing like label).both
    obtain ⟨rfl, rfl, rfl⟩ : _ ∧ _ ∧ _ := by simpa using fetched.symm.trans first
    rw [pagesBehind_more unfinished, second]
  | case3 listing one label asked unfinished =>
    rename_i fetched
    obtain ⟨_, _, _, later, first, second, still⟩ :=
      (fetchMore_accord resemblance listing like label).both
    obtain ⟨rfl, rfl, rfl⟩ : _ ∧ _ ∧ _ := by simpa using fetched.symm.trans first
    rw [pagesBehind_more unfinished, second]
  | case4 listing one label asked unfinished more after fetched page =>
    rename_i ih
    -- The page that is turned to is the same, and so is what comes behind it.
    obtain ⟨_, _, _, later, first, second, still⟩ :=
      (fetchMore_accord resemblance listing like label).both
    obtain ⟨rfl, rfl, rfl⟩ : _ ∧ _ ∧ _ := by simpa using fetched.symm.trans first
    rw [pagesBehind_more unfinished, second]
    exact congrArg (Course.behind page) (ih (resemblance.noteAll still (remarks filter page)))

/-- Sessions that resemble each other bring the same of a listing from its start on. -/
theorem course_congr (listing : Listing) (like : Like listing.dir? one other) :
    course tree filter listing other = course tree filter listing one := by
  have started := Listing.start_concur resemblance listing
    (resemblance.noteHook like (PagedListing.label listing) .start)
  -- The start fails alike in both, or they go on alike.
  rcases started with ⟨fault, failed, failedToo⟩ | accord
  · rw [course_failed failedToo, course_failed failed]
  · obtain ⟨answer, listing, after, later, begun, begunToo, still⟩ := accord.both
    simp only [course, PagedListing.start, begun, begunToo]
    rcases answer with fault | found
    · rfl
    · cases found with
      | false => rfl
      | true =>
        exact congrArg (Course.behind _)
          (pagesBehind_congr resemblance filter listing (resemblance.noteAll still _))

end

end SmbBrowser.Cursor
