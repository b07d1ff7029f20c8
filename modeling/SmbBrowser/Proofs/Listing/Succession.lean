import SmbBrowser.Proofs.Cursor.Deeds
import SmbBrowser.Proofs.Session.Closing

/-!
The succession of requests in the life of a cursor over a directory: the opening comes first, further
pages are asked for while the server holds something open for the listing, and what gives that back
comes last.
-/

namespace SmbBrowser

/-- A request was sent in some passages, and it was one of these. -/
def OnlyAsks (wanted : Request → Prop) (passages : List Passage) : Prop :=
  ∀ sent ∈ requestsOf passages, wanted sent.request

namespace OnlyAsks

variable {wanted : Request → Prop}

/-- Where nothing passes nothing else is asked. -/
theorem nil : OnlyAsks wanted [] := by
  -- There is no request.
  simp [OnlyAsks, requestsOf]

/-- Two stretches that ask for nothing else ask for nothing else together. -/
theorem append {before behind : List Passage} (first : OnlyAsks wanted before)
    (second : OnlyAsks wanted behind) : OnlyAsks wanted (before ++ behind) := by
  intro sent listed
  rw [requestsOf, List.filterMap_append] at listed
  -- Each request was sent in one of the two.
  rcases List.mem_append.mp listed with early | late
  · exact first sent early
  · exact second sent late

/-- Stretches that ask for nothing else each do not do so one after the other. -/
theorem flatMap {Item : Type} {items : List Item} {passed : Item → List Passage}
    (each : ∀ item ∈ items, OnlyAsks wanted (passed item)) :
    OnlyAsks wanted (items.flatMap passed) := by
  -- One stretch is put in front of the others at a time.
  induction items with
  | nil => exact nil
  | cons item items ih =>
    rw [List.flatMap_cons]
    exact (each item List.mem_cons_self).append
      (ih fun other listed => each other (List.mem_cons_of_mem item listed))

end OnlyAsks

/-- What asks once for something that is wanted asks for nothing else. -/
theorem Session.AsksOnce.onlyAsks {wanted : Request → Prop} {session : Session} {tree : TreeRef}
    {request : Request} {delivery : Delivery} {answer : Except Fault Response}
    {fresh : List Passage} (asks : session.AsksOnce tree request delivery answer fresh)
    (isWanted : wanted request) : OnlyAsks wanted fresh := by
  -- The only request is this one.
  intro sent listed
  rw [(asks.requests listed).1]
  exact isWanted

/-- Passages that part into the opening of a listing, further pages, and what gives everything back.
The opening is one request at most, and there are further pages only if it was answered. -/
def Successive (opens continues gives : Request → Prop) (passages : List Passage) : Prop :=
  ∃ opening pages closing, passages = opening ++ pages ++ closing ∧
    OnlyAsks opens opening ∧ (requestsOf opening).length ≤ 1 ∧
    OnlyAsks continues pages ∧ OnlyAsks gives closing ∧
    (pages ≠ [] → ∃ sent response, Passage.asked sent (.ok response) ∈ opening)

/-- A listing for which the server holds something open, between the opening and the end. -/
class HeldListing (Listing : Type) [PagedListing Listing] where
  /-- The server holds something open. -/
  Held : Listing → Prop
  /-- Requests that open a listing. -/
  Opens : Request → Prop
  /-- Requests for a further page. -/
  Continues : Request → Prop
  /-- Requests that give back what the server holds, or the tree. -/
  Gives : Request → Prop
  /-- The tree may be given back. -/
  gives_tree : Gives .treeDisconnect
  /-- The start opens the listing. What it gives back at once is not held behind it. -/
  start_passes : ∀ (listing : Listing) (tree : TreeRef) (session : Session), ¬ Held listing →
    ∃ request answer opening closing, Opens request ∧
      (PagedListing.start listing tree session).2.2.passages.toList =
        session.passages.toList ++ (opening ++ closing) ∧
      session.AsksOnce tree request .plain answer opening ∧ OnlyAsks Gives closing ∧
      (Held (PagedListing.start listing tree session).2.1 →
        closing = [] ∧ ∃ response, answer = .ok response)
  /-- A further page is asked for only while something is held, and it is held behind that too. -/
  fetchMore_passes : ∀ (listing : Listing) (tree : TreeRef) (session : Session),
    ∃ fresh, (PagedListing.fetchMore listing tree session).2.2.passages.toList =
        session.passages.toList ++ fresh ∧
      OnlyAsks Continues fresh ∧ (¬ Held listing → fresh = []) ∧
      (Held (PagedListing.fetchMore listing tree session).2.1 ↔ Held listing)
  /-- The end gives it back. -/
  finish_passes : ∀ (listing : Listing) (tree : TreeRef) (session : Session),
    ∃ fresh, (PagedListing.finish listing tree session).2.2.passages.toList =
        session.passages.toList ++ fresh ∧ OnlyAsks Gives fresh

namespace Cursor

variable {Listing : Type} [PagedListing Listing] {tree : TreeRef} {listing last : Listing}
  {done more : List (Deed Listing)}

/-- Deeds that are chained can be parted anywhere. -/
theorem Deeds.split (deeds : Deeds tree listing (done ++ more) last) :
    ∃ middle, Deeds tree listing done middle ∧ Deeds tree middle more last := by
  -- The place between is where the first deeds lead to.
  induction done generalizing listing with
  | nil => exact ⟨listing, .none, deeds⟩
  | cons deed done ih =>
    cases deeds with
    | first rest =>
      obtain ⟨middle, before, behind⟩ := ih rest
      exact ⟨middle, .first before, behind⟩

/-- What every deed keeps of the listing is found by every deed, and at the end. -/
theorem Deeds.keeps (Kept : Listing → Prop) (deeds : Deeds tree listing done last)
    (step : ∀ deed ∈ done, Kept deed.listing → Kept (deed.outcome tree).1) (kept : Kept listing) :
    (∀ deed ∈ done, Kept deed.listing) ∧ Kept last := by
  -- The listing that a deed finds is the one that the deed before it left.
  induction deeds with
  | none => exact ⟨by simp, kept⟩
  | @first call listing session deeds last rest ih =>
    have next := step _ List.mem_cons_self kept
    obtain ⟨found, isKept⟩ :=
      ih (fun deed listed => step deed (List.mem_cons_of_mem _ listed)) next
    refine ⟨fun deed listed => ?_, isKept⟩
    rcases List.mem_cons.mp listed with rfl | behind
    · exact kept
    · exact found deed behind

/-- A life begins with the start, goes on with further pages, and ends as a lifetime ends. -/
theorem Life.split {isClosed : Bool} {passed : List Passage}
    (life : Life tree listing isClosed passed done last) :
    ∃ session fetches ends middle, done = ⟨.start, listing, session⟩ :: fetches ++ ends ∧
      Deeds tree (PagedListing.start listing tree session).2.1 fetches middle ∧
      Deeds tree middle ends last ∧ (∀ deed ∈ fetches, deed.call = .fetchMore) ∧
      ends.map (·.call) = if isClosed then [.finish, .release, .forget] else [] := by
  obtain ⟨pages, calls⟩ := life.calls
  have chained := life.chained
  rw [lifetime, List.cons_append, List.map_eq_cons_iff] at calls
  obtain ⟨first, rest, rfl, starts, calls⟩ := calls
  obtain ⟨fetches, ends, rfl, fetching, ending⟩ := List.map_eq_append_iff.mp calls
  -- The first call of a lifetime is the start, on the listing as it was made.
  cases chained with
  | @first call _ session _ _ chained =>
    obtain ⟨middle, before, behind⟩ := chained.split
    simp only at starts
    subst starts
    refine ⟨session, fetches, ends, middle, rfl, before, behind, fun deed listed => ?_, ending⟩
    exact List.eq_of_mem_replicate (fetching ▸ List.mem_map_of_mem listed)

/-- Of the deeds at the end of a life the first finds the listing as it was left before, and finishes
it; the others deal with the tree. -/
theorem Deeds.ends {isClosed : Bool} {ends : List (Deed Listing)}
    (chained : Deeds tree listing ends last)
    (ending : ends.map (·.call) = if isClosed then [.finish, .release, .forget] else []) :
    ∀ deed ∈ ends, (deed.call = .finish ∧ deed.listing = listing) ∨
      deed.call = .release ∨ deed.call = .forget := by
  intro deed listed
  cases isClosed with
  | false =>
    -- As long as the cursor is open, there is no such deed.
    rw [if_neg (by decide), List.map_eq_nil_iff] at ending
    simp [ending] at listed
  | true =>
    rw [if_pos rfl, List.map_eq_cons_iff] at ending
    obtain ⟨first, rest, rfl, isFinish, ending⟩ := ending
    rcases List.mem_cons.mp listed with rfl | later
    · cases chained with
      | first _ => exact .inl ⟨isFinish, rfl⟩
    · have called : deed.call ∈ rest.map (·.call) := List.mem_map_of_mem later
      rw [ending] at called
      exact .inr (by simpa using called)

/-- A closed life leaves the listing as its end has left it. -/
theorem Life.last_closed {passed : List Passage} (life : Life tree listing true passed done last) :
    ∃ before session, last = (PagedListing.finish before tree session).2.1 := by
  obtain ⟨_, _, ends, middle, rfl, _, behind, _, ending⟩ := life.split
  rw [if_pos rfl, List.map_eq_cons_iff] at ending
  obtain ⟨first, rest, rfl, isFinish, ending⟩ := ending
  cases behind with
  | @first call _ session _ _ behind =>
    simp only at isFinish
    subst isFinish
    -- Behind the end only the tree is dealt with.
    have others (deed : Deed Listing) (listed : deed ∈ rest) :
        (deed.outcome tree).1 = deed.listing := by
      have called : deed.call ∈ rest.map (·.call) := List.mem_map_of_mem listed
      rw [ending] at called
      have isBehind : deed.call = .release ∨ deed.call = .forget := by simpa using called
      obtain ⟨call, listing, session⟩ := deed
      rcases isBehind with rfl | rfl <;> rfl
    obtain ⟨_, same⟩ := behind.keeps (· = (PagedListing.finish middle tree session).2.1)
      (fun deed listed kept => (others deed listed).trans kept) rfl
    exact ⟨middle, session, same⟩

/-- Giving a tree back or forgetting it asks for nothing else. -/
theorem Deed.passed_behind (tree : TreeRef) (deed : Deed Listing)
    (behind : deed.call = .release ∨ deed.call = .forget) :
    OnlyAsks (· = .treeDisconnect) (deed.passed tree) := by
  obtain ⟨call, listing, session⟩ := deed
  -- The release may give the tree back, and to forget it asks for nothing.
  rcases behind with rfl | rfl
  · obtain ⟨fresh, passed, gives, _⟩ := session.releaseTree_gives tree
    have same : Deed.passed tree ⟨.release, listing, session⟩ = fresh := Session.since_eq passed
    rw [same]
    exact gives
  · obtain ⟨log, forgotten⟩ := session.forgetTree_eq tree
    have unchanged : (session.forgetTree tree).passages.toList = session.passages.toList ++ [] := by
      rw [forgotten, List.append_nil]
    have same : Deed.passed tree ⟨.forget, listing, session⟩ = [] := Session.since_eq unchanged
    rw [same]
    exact .nil

section Held

variable [HeldListing Listing]

open HeldListing

/-- Each further page finds the listing held, or asks nothing. -/
theorem Deed.passed_fetch (tree : TreeRef) (deed : Deed Listing) (fetch : deed.call = .fetchMore) :
    OnlyAsks (Continues Listing) (deed.passed tree) ∧
      (¬ Held deed.listing → deed.passed tree = []) ∧
      (Held (deed.outcome tree).1 ↔ Held deed.listing) := by
  -- The deed is the call of the listing, of which this is known.
  obtain ⟨call, listing, session⟩ := deed
  obtain rfl : call = .fetchMore := fetch
  obtain ⟨fresh, passed, continues, nothing, same⟩ := fetchMore_passes listing tree session
  have isFresh : Deed.passed tree ⟨.fetchMore, listing, session⟩ = fresh := Session.since_eq passed
  rw [isFresh]
  exact ⟨continues, nothing, same⟩

/-- At the end everything is given back, and nothing else is asked. -/
theorem Deed.passed_end (tree : TreeRef) (deed : Deed Listing)
    (ending : deed.call ∈ [Call.finish, .release, .forget]) :
    OnlyAsks (Gives Listing) (deed.passed tree) := by
  obtain ⟨call, listing, session⟩ := deed
  simp only [List.mem_cons, List.not_mem_nil, or_false] at ending
  -- Finishing gives back what the server holds, and behind it comes the tree.
  rcases ending with rfl | behind
  · obtain ⟨fresh, passed, gives⟩ := finish_passes listing tree session
    have same : Deed.passed tree ⟨.finish, listing, session⟩ = fresh := Session.since_eq passed
    rw [same]
    exact gives
  · intro sent listed
    rw [Deed.passed_behind tree _ behind sent listed]
    exact gives_tree

/-- In the life of a cursor the opening comes first, and what gives back comes last. -/
theorem Life.successive {isClosed : Bool} {passed : List Passage}
    (life : Life tree listing isClosed passed done last) (fresh : ¬ Held listing) :
    Successive (Opens Listing) (Continues Listing) (Gives Listing) passed := by
  obtain ⟨session, fetches, ends, middle, rfl, chained, _, fetching, ending⟩ := life.split
  obtain ⟨request, answer, opening, closing, opens, started, asks, gives, held⟩ :=
    start_passes listing tree session fresh
  have start : Deed.passed tree ⟨.start, listing, session⟩ = opening ++ closing :=
    Session.since_eq started
  have fetched (deed : Deed Listing) (listed : deed ∈ fetches) :=
    deed.passed_fetch tree (fetching deed listed)
  have ended (deed : Deed Listing) (listed : deed ∈ ends) :
      OnlyAsks (Gives Listing) (deed.passed tree) := by
    refine deed.passed_end tree ?_
    have called : deed.call ∈ ends.map (·.call) := List.mem_map_of_mem listed
    rw [ending] at called
    cases isClosed with
    | true => exact called
    | false => simp at called
  have whole : passed = opening ++ closing ++ fetches.flatMap (Deed.passed tree) ++
      ends.flatMap (Deed.passed tree) := by
    rw [← life.passed, List.flatMap_append, List.flatMap_cons, start]
  have one : (requestsOf opening).length ≤ 1 := by
    rcases asks with ⟨_, owner, scratch, _, rfl⟩ | ⟨_, rfl, _⟩
    · rw [requestsOf_exchanged]
      rfl
    · simp [requestsOf]
  by_cases holds : Held (PagedListing.start listing tree session).2.1
  · -- What the server holds is given back at the end.
    obtain ⟨rfl, response, rfl⟩ := held holds
    refine ⟨opening, fetches.flatMap (Deed.passed tree), ends.flatMap (Deed.passed tree),
      by rw [whole, List.append_nil], asks.onlyAsks opens, one,
      .flatMap fun deed listed => (fetched deed listed).1, .flatMap ended, fun _ => ?_⟩
    rcases asks with ⟨_, owner, scratch, _, rfl⟩ | ⟨_, _, fault, failed⟩
    · exact ⟨_, response, asked_mem_exchanged _ _⟩
    · simp at failed
  · -- Nothing is held, so no further page is asked for.
    have still (deed : Deed Listing) (listed : deed ∈ fetches) (never : ¬ Held deed.listing) :
        ¬ Held (deed.outcome tree).1 :=
      fun again => never ((fetched deed listed).2.2.mp again)
    obtain ⟨never, _⟩ := chained.keeps (fun listing => ¬ Held listing) still holds
    have nothing : fetches.flatMap (Deed.passed tree) = [] :=
      List.flatMap_eq_nil_iff.mpr fun deed listed =>
        (fetched deed listed).2.1 (never deed listed)
    refine ⟨opening, [], closing ++ ends.flatMap (Deed.passed tree), ?_, asks.onlyAsks opens, one,
      .nil, gives.append (.flatMap ended), fun some => absurd rfl some⟩
    rw [whole, nothing]
    simp

end Held

end Cursor

end SmbBrowser
