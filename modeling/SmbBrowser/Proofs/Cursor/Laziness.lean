import SmbBrowser.Proofs.Cursor.Reads

/-!
A cursor is one entry ahead of its reader and no farther: after so many pulls it has asked for as few
pages as bring one wanted entry more, and for everything there is only when no other entry is wanted.
-/

namespace SmbBrowser

/-- The shortest front of turns that brings so many wanted entries. -/
structure Turn.ShortestFront (filter : Option NameFilter) (count : Nat) (turns front : List Turn) :
    Prop where
  isFront : front <+: turns
  enough : count ≤ (wanted filter front).length
  shortest : ∀ other, other <+: turns → count ≤ (wanted filter other).length → front <+: other

/-- A front that brings enough is the shortest if it does not without its last turn. -/
theorem Turn.shortestFront_of_dropLast {filter : Option NameFilter} {count : Nat}
    {turns front : List Turn} (isFront : front <+: turns)
    (enough : count ≤ (wanted filter front).length)
    (tooFew : (wanted filter front.dropLast).length < count) :
    ShortestFront filter count turns front where
  isFront := isFront
  enough := enough
  shortest other isOther otherEnough := by
    rcases List.prefix_or_prefix_of_prefix isFront isOther with within | ⟨rest, rfl⟩
    · exact within
    · -- A shorter front is one of the front without its last turn.
      by_cases same : rest = []
      · simp only [same, List.append_nil, List.prefix_rfl]
      · rw [List.dropLast_append_of_ne_nil same, wanted_append, List.length_append] at tooFew
        omega

namespace Cursor

variable {Listing : Type} [PagedListing Listing] {tree : TreeRef} {filter : Option NameFilter}

/-- Where a cursor is after so many pulls. -/
inductive KeepsPace (tree : TreeRef) (filter : Option NameFilter) (origin : Place Listing)
    (whole : List Turn) (pulls : Nat) : Cursor Listing × Session → Prop where
  /-- It has found one entry more, in pages that were all needed. -/
  | reading {used after found front} (reading : used.Ahead tree) (chosen : used.filter = filter)
    (reads : Reads tree filter origin found front (used.place after))
    (taken : whole = front ++ used.turnsLeft tree after) (ahead : found.length = pulls + 1)
    (needed : (Turn.wanted filter front.dropLast).length ≤ pulls) :
    KeepsPace tree filter origin whole pulls (used, after)
  /-- It has found everything that is wanted, and given everything back. -/
  | closed {used after found} (spent : used.Spent)
    (gives : GivesBack tree filter origin found whole (used.listing, after))
    (few : found.length ≤ pulls) : KeepsPace tree filter origin whole pulls (used, after)

variable {whole : List Turn} {pulls : Nat} {outcome : Cursor Listing × Session}

/-- A cursor that was just opened is one entry ahead of a reader who has none. -/
theorem Steps.keepsPace {listing : Listing} {held : Session}
    (steps : Steps tree filter (.fresh listing held) whole outcome) :
    KeepsPace tree filter (.fresh listing held) whole 0 outcome := by
  cases steps with
  | @found used after entry pages reading chosen reads taken needed =>
    -- All pages but the last one brought no wanted entry, or the last would not have been needed.
    have nothing : Turn.wanted filter pages.dropLast = [] := by
      by_cases same : pages = []
      · rw [same]
        rfl
      · exact (needed same).2
    exact .reading reading chosen reads taken rfl (by simp [nothing])
  | ended spent gives => exact .closed spent gives (Nat.zero_le _)

/-- With every pull a cursor reads on to one entry more. -/
theorem KeepsPace.pull {listing : Listing} {held : Session}
    (keeps : KeepsPace tree filter (.fresh listing held) whole pulls outcome) :
    KeepsPace tree filter (.fresh listing held) whole (pulls + 1) (outcome.1.pull outcome.2).2 := by
  cases keeps with
  | @reading used after found front reading chosen reads taken ahead needed =>
    have steps := reading.pull_steps after
    rw [chosen] at steps
    generalize (used.pull after).2 = later at steps ⊢
    cases steps with
    | @found _ _ entry pages still same further left isNeeded =>
      refine .reading still same (reads.trans further) ?_ (by simp [ahead]) ?_
      · rw [taken, left, List.append_assoc]
      · by_cases turned : pages = []
        · rw [turned, List.append_nil]
          omega
        · -- Another page came only when everything on those before was found.
          obtain ⟨through, nothing⟩ := isNeeded turned
          have balance := reads.wanted_eq
          rw [show (used.place after).unread.filter (wants filter) = [] from through] at balance
          have before : Turn.wanted filter front = found := by simpa [Place.fresh] using balance
          rw [List.dropLast_append_of_ne_nil turned, Turn.wanted_append, before, nothing]
          simp [ahead]
    | ended spent gives =>
      obtain ⟨last, out, calls⟩ := gives
      rw [taken]
      exact .closed spent ⟨last, reads.readsOut out, calls⟩ (by simp [ahead])
  | @closed used after found spent gives few =>
    rw [spent.pull_eq]
    exact .closed (spent.withDeferred none) gives (Nat.le_succ_of_le few)

/-- A cursor keeps pace with whoever only pulls at it. -/
theorem KeepsPace.play {listing : Listing} {held : Session} {cursor : Cursor Listing}
    {session : Session} (more : Nat)
    (keeps : KeepsPace tree filter (.fresh listing held) whole pulls (cursor, session)) :
    KeepsPace tree filter (.fresh listing held) whole (pulls + more)
      (cursor.play session (List.replicate more .pull)) := by
  -- Each pull keeps pace by one entry.
  induction more generalizing pulls cursor session with
  | zero => exact keeps
  | succ more ih =>
    have played := ih keeps.pull
    rwa [Nat.add_assoc, Nat.add_comm 1 more] at played

/-- A cursor that keeps pace has taken the shortest front of the turns that is enough, or all. -/
theorem KeepsPace.lazy {listing : Listing} {held after : Session} {used : Cursor Listing}
    (keeps : KeepsPace tree filter (.fresh listing held) whole pulls (used, after)) :
    if pulls < (Turn.wanted filter whole).length then
      ∃ front, Turn.ShortestFront filter (pulls + 1) whole front ∧
        Reads tree filter (.fresh listing held) ((Turn.wanted filter whole).take (pulls + 1))
          front (used.place after)
    else
      GivesBack tree filter (.fresh listing held) (Turn.wanted filter whole) whole
        (used.listing, after) := by
  cases keeps with
  | @reading _ _ found front reading chosen reads taken ahead needed =>
    -- What was found comes first among all that is wanted.
    have before : Turn.wanted filter front = found ++ used.unread.filter (wants filter) :=
      reads.wanted_eq
    have enough : pulls + 1 ≤ (Turn.wanted filter front).length := by
      rw [before, List.length_append]
      omega
    have all : Turn.wanted filter whole =
        found ++ (used.unread.filter (wants filter) ++
          Turn.wanted filter (used.turnsLeft tree after)) := by
      rw [taken, Turn.wanted_append, before, List.append_assoc]
    rw [if_pos (by rw [all, List.length_append]; omega), all, List.take_left' ahead]
    exact ⟨front, Turn.shortestFront_of_dropLast ⟨_, taken.symm⟩ enough (by omega), reads⟩
  | @closed _ _ found spent gives few =>
    obtain ⟨last, out, calls⟩ := gives
    have all : Turn.wanted filter whole = found := out.wanted_eq
    rw [if_neg (by rw [all]; omega), all]
    exact ⟨last, out, calls⟩

/-- After any number of pulls at a cursor that was opened, the turns taken so far are the shortest
front of all turns of the listing that brings one wanted entry more than was pulled. When there is no
such entry they are all turns of the listing, up to what ends it, and everything was given back. No
page is asked for before the one in front of it was looked through, and none behind the last. -/
theorem ofListing_lazy (listing : Listing) (filter : Option NameFilter) (session : Session) :
    match session.acquire with
    | (.error fault, refused) => ofListing listing filter session = (.error fault, refused)
    | (.ok tree, held) =>
      let whole := turns tree filter listing held
      match ofListing listing filter session with
      | (.error _, after) => Turn.wanted filter whole = [] ∧
        ∃ given, GivesBack tree filter (.fresh listing held) [] whole (given, after)
      | (.ok cursor, opened) => ∀ pulls,
        let (used, after) := cursor.play opened (List.replicate pulls .pull)
        if pulls < (Turn.wanted filter whole).length then
          ∃ front, Turn.ShortestFront filter (pulls + 1) whole front ∧
            Reads tree filter (.fresh listing held) ((Turn.wanted filter whole).take (pulls + 1))
              front (used.place after)
        else
          GivesBack tree filter (.fresh listing held) (Turn.wanted filter whole) whole
            (used.listing, after) := by
  -- Without a tree nothing is asked of the listing.
  rcases acquired : session.acquire with ⟨fault | tree, held⟩
  · simp only [ofListing, acquired]
  · have steps := ofListing_steps listing acquired filter
    simp only
    rcases opening : ofListing listing filter session with ⟨fault | cursor, opened⟩ <;>
      rw [opening] at steps
    · -- A cursor that cannot begin has asked for everything.
      obtain ⟨given, last, out, closed⟩ := steps
      exact ⟨out.wanted_eq, given, last, out, closed⟩
    · exact fun pulls => (Nat.zero_add pulls ▸ (Steps.keepsPace steps).play pulls).lazy

end Cursor

end SmbBrowser
