import Mathlib.Data.List.Chain
import Mathlib.Data.List.Dedup
import SmbBrowser.Proofs.Cursor.Keeping
import SmbBrowser.Proofs.Listing.Alarms
import SmbBrowser.Proofs.Listing.Succession

/-!
Whether a listing of servers gets on: from which names it goes on in its life, and what a server has
to do to be asked for the same page again.
-/

namespace SmbBrowser

/-- The query that goes on from a name. -/
def ServerQuery.resumedAt (query : ServerQuery) (name : String) : ServerQuery :=
  { query with command := .netServerEnum3, lastName := some name }

/-- Queries that go on from different names are different. -/
theorem ServerQuery.resumedAt_injective (query : ServerQuery) :
    Function.Injective query.resumedAt := by
  -- The name stands in the query.
  intro one other same
  simpa [resumedAt] using same

/-- The query that a request makes for a further page of servers. -/
def Request.continuation? : Request → Option ServerQuery
  | .serverEnum query => if query.command = .netServerEnum3 then some query else none
  | _ => none

namespace Passage

/-- The query for a further page of servers that was sent. -/
def continuation? : Passage → Option ServerQuery
  | .asked sent _ => sent.request.continuation?
  | .lost => none

/-- The name at which a page of servers broke off. -/
def breaksOff? : Passage → Option String
  | .asked sent answer =>
    match sent.request, answer with
    | .serverEnum _, .ok (.serverList page) =>
      if page.status = .moreData then page.entries.getLast?.map (·.name) else none
    | _, _ => none
  | .lost => none

end Passage

/-- The queries for further pages of servers among some passages, in turn. -/
def continuations (passed : List Passage) : List ServerQuery :=
  passed.filterMap Passage.continuation?

/-- The names at which pages of servers broke off, in turn. -/
def breaks (passed : List Passage) : List String := passed.filterMap Passage.breaksOff?

/-- The further pages of two stretches are asked for one after the other. -/
@[simp]
theorem continuations_append (passed more : List Passage) :
    continuations (passed ++ more) = continuations passed ++ continuations more :=
  -- They are picked out passage by passage.
  List.filterMap_append

/-- The names at which two stretches broke off come one after the other. -/
@[simp]
theorem breaks_append (passed more : List Passage) :
    breaks (passed ++ more) = breaks passed ++ breaks more :=
  -- They are picked out passage by passage.
  List.filterMap_append

/-- An exchange holds one query for a further page at most. -/
theorem continuations_exchanged (sent : SentRequest) (answer : Except Fault Response) :
    continuations (exchanged sent answer) = sent.request.continuation?.toList := by
  unfold exchanged continuations
  -- The loss that may follow the answer asks for nothing.
  split <;> cases asked : sent.request.continuation? <;> simp [Passage.continuation?, asked]

/-- An exchange breaks off once at most. -/
theorem breaks_exchanged (sent : SentRequest) (answer : Except Fault Response) :
    breaks (exchanged sent answer) = (Passage.asked sent answer).breaksOff?.toList := by
  unfold exchanged breaks
  -- The loss that may follow the answer breaks nothing off.
  split <;> cases broke : (Passage.asked sent answer).breaksOff? <;>
    simp [broke, show Passage.lost.breaksOff? = none from rfl]

/-- Where nobody asks for servers nothing is gone on from, and nothing breaks off. -/
theorem OnlyAsks.silent {passed : List Passage}
    (others : OnlyAsks (fun request => ∀ query, request ≠ .serverEnum query) passed) :
    continuations passed = [] ∧ breaks passed = [] := by
  -- Both are read off queries for servers, of which there are none.
  have each (passage : Passage) (listed : passage ∈ passed) :
      passage.continuation? = none ∧ passage.breaksOff? = none := by
    cases passage with
    | lost => exact ⟨rfl, rfl⟩
    | asked sent answer =>
      have other := others sent (List.mem_filterMap.mpr ⟨_, listed, rfl⟩)
      rcases sent with ⟨tid, request, delivery, scratch⟩
      cases request with
      | serverEnum query => exact absurd rfl (other query)
      | _ => exact ⟨rfl, rfl⟩
  exact ⟨List.filterMap_eq_nil_iff.mpr fun passage listed => (each passage listed).1,
    List.filterMap_eq_nil_iff.mpr fun passage listed => (each passage listed).2⟩

/-- Names that lead in a circle: one of them returns behind others. -/
def Circles (names : List String) : Prop :=
  ∃ front name between back, names = front ++ name :: (between ++ name :: back) ∧ between ≠ []

/-- Names of which none comes twice on end are all different exactly if they lead in no circle. -/
theorem nodup_iff_not_circles {names : List String} (apart : names.IsChain (· ≠ ·)) :
    names.Nodup ↔ ¬ Circles names := by
  constructor
  · rintro once ⟨front, name, between, back, rfl, _⟩
    have behind := (List.nodup_cons.mp (List.nodup_append.mp once).2.1).1
    exact behind (List.mem_append_right between List.mem_cons_self)
  · intro forward
    induction names with
    | nil => exact List.nodup_nil
    | cons name names ih =>
      have rest : ¬ Circles names := by
        rintro ⟨front, other, between, back, rfl, others⟩
        exact forward ⟨name :: front, other, between, back, rfl, others⟩
      refine List.nodup_cons.mpr ⟨fun again => ?_, ih apart.tail rest⟩
      obtain ⟨between, back, rfl⟩ := List.append_of_mem again
      -- The name returns at once, which it does not, or behind others, which is a circle.
      cases between with
      | nil => exact (List.isChain_cons_cons.mp apart).1 rfl
      | cons => exact forward ⟨[], name, _, back, rfl, List.cons_ne_nil _ _⟩

/-- What has passed in the life of a listing of servers: it has gone on from each name at which the
server broke off, in turn, except for the last one at most. -/
structure GoesOn (base : ServerQuery) (names : List String) (left : Option String)
    (passed : List Passage) : Prop where
  /-- Its further pages were asked for from these names on. -/
  asked : continuations passed = names.map base.resumedAt
  /-- The server broke off at them, and at one more at most. -/
  broke : breaks passed = names ++ left.toList
  /-- No page was asked for twice on end. -/
  apart : names.IsChain (· ≠ ·)

/-- A listing goes on from the name that is left. -/
theorem GoesOn.exchanged {base : ServerQuery} {names : List String} {name : String}
    {passed : List Passage} (goes : GoesOn base names (some name) passed)
    (onward : names.getLast? ≠ some name) {sent : SentRequest}
    (further : sent.request.continuation? = some (base.resumedAt name))
    (answer : Except Fault Response) :
    GoesOn base (names ++ [name]) (Passage.asked sent answer).breaksOff?
      (passed ++ SmbBrowser.exchanged sent answer) where
  asked := by
    rw [continuations_append, continuations_exchanged, further, goes.asked, List.map_append]
    rfl
  broke := by
    rw [breaks_append, breaks_exchanged, goes.broke]
    rfl
  -- The new name is not the last one that was gone on from.
  apart := by
    refine List.isChain_append.mpr ⟨goes.apart, .singleton name, fun last isLast next isNext => ?_⟩
    obtain rfl : name = next := by simpa using isNext
    exact fun same => onward (same ▸ isLast)

/-- Whatever else passes leaves a listing where it is. -/
theorem GoesOn.append {base : ServerQuery} {names : List String} {left : Option String}
    {passed fresh : List Passage} (goes : GoesOn base names left passed)
    (unasked : continuations fresh = []) (unbroken : breaks fresh = []) :
    GoesOn base names left (passed ++ fresh) where
  -- Neither list grows.
  asked := by rw [continuations_append, unasked, List.append_nil, goes.asked]
  broke := by rw [breaks_append, unbroken, List.append_nil, goes.broke]
  apart := goes.apart

namespace NetworkListing

/-- A listing is asked for one page at a time, and what comes is the page that was answered. -/
theorem ask_asks (listing : NetworkListing) (tree : TreeRef) (session : Session) :
    ∃ answer fresh,
      (listing.ask tree session).2.2.passages.toList = session.passages.toList ++ fresh ∧
      session.AsksOnce tree (.serverEnum listing.query) .plain answer fresh ∧
      ∀ more after, listing.ask tree session = (.ok (), more, after) →
        ∃ page, answer = .ok (.serverList page) ∧ more = listing.turned page.status page.entries := by
  obtain ⟨fresh, passed, asks⟩ := session.send_asksOnce tree (.serverEnum listing.query) .plain
  refine ⟨_, fresh, ?_, asks, fun more after came => ?_⟩
  · -- The one request is sent, and its answer is only read.
    unfold ask
    split <;> rename_i answered <;> rw [answered] at passed
    · exact passed
    · split
      · exact passed
      · split <;> exact passed
    · exact passed
  · -- Only a page that is accepted is a success.
    unfold ask at came
    split at came <;> rename_i answered
    · simp at came
    · split at came
      · simp at came
      · split at came
        · rw [answered]
          exact ⟨_, rfl, (Prod.mk.inj (Prod.mk.inj came).2).1.symm⟩
        · simp at came
    · simp at came

/-- The name at which the page of a listing broke off. -/
def brokeOff? (listing : NetworkListing) : Option String :=
  if listing.status = .moreData then listing.page.getLast?.map (·.name) else none

/-- The answer that has brought a page tells where it broke off. -/
theorem breaksOff?_turned (listing : NetworkListing) (page : ServerPage) {sent : SentRequest}
    {query : ServerQuery} (isQuery : sent.request = .serverEnum query) :
    (Passage.asked sent (.ok (.serverList page))).breaksOff? =
      (listing.turned page.status page.entries).brokeOff? := by
  -- The listing keeps status and names of the page as they came.
  simp only [Passage.breaksOff?, isQuery, brokeOff?, turned, List.getLast?_map, Option.map_map]
  rfl

/-- A listing that has not stalled at a name did not break off there. -/
theorem brokeOff?_ne {listing : NetworkListing} {name : String}
    (onward : listing.isStalled name = false) : listing.brokeOff? ≠ some name := by
  intro stops
  unfold brokeOff? at stops
  -- A whole page does not break off, and a partial one that ends in this name would have stalled.
  split at stops <;> rename_i isPartial
  · simp [isStalled, NetworkListing.isPartial, isPartial, stops] at onward
  · simp at stops

/-- A listing that is read goes on from where its page broke off, and that is not where it has gone
on from just now. -/
structure Pending (listing : NetworkListing) (base : ServerQuery) (names : List String)
    (passed : List Passage) : Prop where
  goes : GoesOn base names listing.brokeOff? passed
  /-- It asks in the same words as ever. -/
  same : listing.query.resumedAt = base.resumedAt
  onward : ∀ name ∈ listing.brokeOff?, names.getLast? ≠ some name

/-- A listing is read. -/
def Reading (base : ServerQuery) (listing : NetworkListing) (passed : List Passage) : Prop :=
  ∃ names, listing.Pending base names passed

/-- Nothing else has passed in the life of a listing. -/
def Ended (base : ServerQuery) (_ : NetworkListing) (passed : List Passage) : Prop :=
  ∃ names left, GoesOn base names left passed

variable {listing more : NetworkListing} {base : ServerQuery} {names : List String}
  {passed : List Passage} {name : String} {tree : TreeRef} {session after : Session}

/-- Asking for the page behind a name goes on from it. Unless the page that comes stops there too, the
listing may go on again. -/
theorem Pending.ask (pending : listing.Pending base names passed)
    (stops : listing.brokeOff? = some name) {result : Except Fault Unit}
    (asked : (listing.resumed name).ask tree session = (result, more, after)) :
    Ended base more (passed ++ session.since after) ∧
      (result = .ok () → more.isStalled name = false →
        Reading base more (passed ++ session.since after)) := by
  obtain ⟨answer, fresh, further, asks, came⟩ := (listing.resumed name).ask_asks tree session
  rw [asked] at further came
  rw [Session.since_eq further]
  rcases asks with ⟨_, owner, scratch, _, rfl⟩ | ⟨_, rfl, fault, rfl⟩
  · -- The name is gone on from, and the answer may break off at another one.
    have again : (listing.resumed name).query = base.resumedAt name := congrFun pending.same name
    let sent : SentRequest :=
      ⟨some owner.resource.tid, .serverEnum (listing.resumed name).query, .plain, scratch⟩
    have isFurther : sent.request.continuation? = some (base.resumedAt name) :=
      congrArg some again
    have goes := (stops ▸ pending.goes).exchanged (pending.onward name stops) isFurther answer
    refine ⟨⟨_, _, goes⟩, ?_⟩
    rintro rfl goesOn
    obtain ⟨page, rfl, rfl⟩ := came more after rfl
    rw [breaksOff?_turned (listing.resumed name) page rfl] at goes
    refine ⟨_, goes, pending.same, fun next isNext same => ?_⟩
    rw [List.getLast?_concat] at same
    exact brokeOff?_ne goesOn (Option.some.inj same ▸ isNext)
  · -- Nothing was asked, and nothing came.
    rw [List.append_nil]
    refine ⟨⟨names, _, pending.goes⟩, ?_⟩
    rintro rfl
    obtain ⟨page, impossible, _⟩ := came more after rfl
    simp at impossible

/-- A listing that goes on goes on from where its page broke off, or fails and asks nothing. -/
theorem Pending.fetchMore (pending : listing.Pending base names passed)
    (isPartial : listing.status = .moreData) (tree : TreeRef) (session : Session) :
    Cursor.Asked (Reading base) (Ended base) passed session (listing.fetchMore tree session) := by
  -- A failure of its own is one without asking.
  have unasked : Ended base listing (passed ++ session.since session) := by
    rw [Session.since_eq (List.append_nil _).symm, List.append_nil]
    exact ⟨names, _, pending.goes⟩
  by_cases continues : listing.workgroup = true
  · cases isLast : listing.page.getLast? with
    | none =>
      rw [NetworkListing.fetchMore, if_neg (by simp [continues]), isLast]
      exact unasked
    | some last =>
      have stops : listing.brokeOff? = some last.name := by
        rw [brokeOff?, if_pos isPartial, isLast]
        rfl
      rw [fetchMore_eq continues isLast]
      rcases asked : (listing.resumed last.name).ask tree session with ⟨fault | _, left, later⟩ <;>
        obtain ⟨ended, reading⟩ := pending.ask stops asked <;> simp only
      · exact ended
      · by_cases stalled : left.isStalled last.name = true
        · rw [if_pos stalled]
          exact ended
        · rw [if_neg stalled]
          exact reading rfl (by simpa using stalled)
  · rw [NetworkListing.fetchMore, if_pos (by simp [continues])]
    exact unasked

/-- The first page is no further one, but may be gone on from. -/
theorem start_asked (first : listing.query.command = .netServerEnum2) (tree : TreeRef)
    (session : Session) :
    Cursor.Asked (Reading listing.query) (Ended listing.query) [] session
      (listing.start tree session) := by
  obtain ⟨answer, fresh, further, asks, came⟩ := listing.ask_asks tree session
  have goes : ∃ left, GoesOn listing.query [] left fresh ∧
      ∀ page, answer = .ok (.serverList page) →
        left = (listing.turned page.status page.entries).brokeOff? := by
    rcases asks with ⟨_, owner, scratch, _, rfl⟩ | ⟨_, rfl, fault, rfl⟩
    · refine ⟨_, ⟨?_, breaks_exchanged _ answer, .nil⟩, ?_⟩
      · rw [continuations_exchanged]
        simp [Request.continuation?, first]
      · rintro page rfl
        exact breaksOff?_turned listing page rfl
    · exact ⟨none, ⟨rfl, rfl, .nil⟩, by simp⟩
  obtain ⟨left, goes, brought⟩ := goes
  unfold start
  rcases asked : listing.ask tree session with ⟨fault | _, started, after⟩ <;>
    rw [asked] at further <;>
    simp only [Cursor.Asked, Session.since_eq further, List.nil_append]
  · exact ⟨[], left, goes⟩
  · obtain ⟨page, isPage, rfl⟩ := came started after asked
    have pending : Pending (listing.turned page.status page.entries) listing.query [] fresh :=
      ⟨brought page isPage ▸ goes, rfl, by simp⟩
    -- An empty page is none.
    cases (listing.turned page.status page.entries).page.isEmpty with
    | true => exact ⟨[], left, (Session.since_eq further).symm ▸ goes⟩
    | false => exact ⟨[], (Session.since_eq further).symm ▸ pending⟩

end NetworkListing

/-- What is asked of a listing of one sort is asked of it as a listing of any sort. -/
theorem Cursor.Asked.lift {Kind : Type} [PagedListing Kind] (wrap : Kind → Listing)
    {Reading Ended : Kind → List Passage → Prop} {passed : List Passage} {before : Session}
    {outcome : Except Fault Bool × Kind × Session} (asked : Asked Reading Ended passed before outcome) :
    Asked (fun whole passed => ∃ listing, whole = wrap listing ∧ Reading listing passed)
      (fun whole passed => ∃ listing, whole = wrap listing ∧ Ended listing passed) passed before
      (Listing.lift wrap outcome) := by
  -- Wrapping a listing into the sum changes nothing of what has passed.
  obtain ⟨fault | _ | _, listing, after⟩ := outcome <;> exact ⟨listing, rfl, asked⟩

/-- Whatever a cursor does, its listing of servers goes on as it should. -/
theorem NetworkListing.keeps {listing : NetworkListing}
    (first : listing.query.command = .netServerEnum2) (tree : TreeRef) :
    Cursor.Keeps tree (Listing.network listing)
      (fun whole passed => ∃ more, whole = Listing.network more ∧ Reading listing.query more passed)
      (fun whole passed => ∃ more, whole = Listing.network more ∧ Ended listing.query more passed) where
  start session := (start_asked first tree session).lift Listing.network
  fetchMore session reading isMore := by
    obtain ⟨more, rfl, names, pending⟩ := reading
    have isPartial : more.status = .moreData := by
      simpa [PagedListing.isDone, Listing.isDone, NetworkListing.isPartial] using isMore
    exact (pending.fetchMore isPartial tree session).lift Listing.network
  ended reading := by
    obtain ⟨more, rfl, names, pending⟩ := reading
    exact ⟨more, rfl, names, _, pending.goes⟩
  closing {_ passed} call session ended isClosing := by
    obtain ⟨more, rfl, names, left, goes⟩ := ended
    -- The listing gives nothing back, and giving the tree back asks for nothing else.
    have behind (isBehind : call = .release ∨ call = .forget) :
        GoesOn listing.query names left
          (passed ++ Cursor.Deed.passed tree ⟨call, Listing.network more, session⟩) := by
      obtain ⟨unasked, unbroken⟩ := OnlyAsks.silent fun sent listed query => by
        rw [Cursor.Deed.passed_behind tree ⟨call, Listing.network more, session⟩ isBehind sent listed]
        simp
      exact goes.append unasked unbroken
    cases call with
    | start | fetchMore => simp at isClosing
    | finish =>
      have nothing : session.since session = [] := Session.since_eq (List.append_nil _).symm
      exact ⟨more, rfl, names, left,
        goes.append (congrArg continuations nothing) (congrArg breaks nothing)⟩
    | release => exact ⟨more, rfl, names, left, behind (.inl rfl)⟩
    | forget => exact ⟨more, rfl, names, left, behind (.inr rfl)⟩

/-- A listing of servers or domains goes on from every name at which the server broke off, in turn,
except for the last one at most. It never asks for the same page twice on end, and for none of them
twice at all exactly if those names lead in no circle. So unless they do, it asks for no more further
pages than there are names at which the server broke off. -/
theorem Session.list_progresses {session : Session} {locator : Locator} {options : ListOptions}
    {listing : NetworkListing} (called : session.listingOf locator options = .ok (.network listing))
    {filter : Option NameFilter} {tree : TreeRef} {cursor : Option (Cursor Listing)}
    {passed : List Passage} (lives : Cursor.Lives (.network listing) filter tree cursor passed) :
    ∃ (names : List String) (left : Option String), breaks passed = names ++ left.toList ∧
      continuations passed = names.map listing.query.resumedAt ∧
      (continuations passed).IsChain (· ≠ ·) ∧
      ((continuations passed).Nodup ↔ ¬ Circles names) ∧
      (¬ Circles names → (continuations passed).length ≤ (breaks passed).dedup.length) := by
  obtain ⟨_, _, _, names, left, goes⟩ :=
    lives.keeps (NetworkListing.keeps (fresh_listingOf called) tree)
  have injective := listing.query.resumedAt_injective
  have once := nodup_iff_not_circles goes.apart
  refine ⟨names, left, goes.broke, goes.asked, ?_, ?_, fun forward => ?_⟩
  · rw [goes.asked, List.isChain_map]
    exact goes.apart.imp fun _ _ apart => injective.ne apart
  · rw [goes.asked, List.nodup_map_iff injective, once]
  · -- The names are different ones among those at which the server broke off.
    have among : names ⊆ (breaks passed).dedup := by
      rw [goes.broke]
      exact fun name listed => List.mem_dedup.mpr (List.mem_append_left _ listed)
    rw [goes.asked, List.length_map]
    exact ((once.mpr forward).subperm among).length_le

/-- Over three pages a listing goes on from one name after the other. -/
theorem Session.list_progresses_threePages :
    let settings : Settings := { maxBufferSize := 1024 }
    let session := new settings
      (.ofTranscript
        { dialect := .smb1
          exchanges := NetworkListing.replies
            [[⟨"alpha", 0, ""⟩, ⟨"beta", 0, ""⟩], [⟨"beta", 0, ""⟩, ⟨"gamma", 0, ""⟩],
              [⟨"gamma", 0, ""⟩]] })
      "\\\\srv\\ipc$" "LAN"
    let listing := NetworkListing.ofWorkgroup "office" settings
    ∃ cursor passed, Cursor.Lives (Listing.network listing) none ⟨0⟩ (some cursor) passed ∧
      session.listingOf (.workgroup "office") {} = .ok (.network listing) ∧
      breaks passed = ["beta", "gamma"] ∧
      continuations passed = ["beta", "gamma"].map listing.query.resumedAt ∧
      (continuations passed).IsChain (· ≠ ·) ∧ (continuations passed).Nodup ∧
      (continuations passed).length ≤ (breaks passed).dedup.length := by
  intro settings session listing
  have called : session.listingOf (.workgroup "office") {} = .ok (.network listing) := rfl
  have acquired : session.acquire = (.ok ⟨0⟩, session.acquire.2) := rfl
  have seen : (session.list (.workgroup "office") {}).1.toOption.map (fun cursor =>
      let opened := (session.list (.workgroup "office") {}).2
      let (first, later) := cursor.move opened .pull
      let passed := session.acquire.2.since opened ++ opened.since later ++
        later.since (first.move later .pull).2
      (breaks passed, continuations passed)) =
        some (["beta", "gamma"], ["beta", "gamma"].map listing.query.resumedAt) := by
    decide +kernel
  rcases listed : session.list (.workgroup "office") {} with ⟨fault | cursor, opened⟩
  · simp [listed, Except.toOption] at seen
  · simp only [listed, Except.toOption, Option.map_some, Option.some.injEq, Prod.mk.injEq] at seen
    obtain ⟨broke, asked⟩ := seen
    have begun : Cursor.ofListing (Listing.network listing) none session = (.ok cursor, opened) := by
      simpa only [list, called] using listed
    have pulled := (Cursor.Lives.opened acquired begun).moved opened .pull
    have lives := pulled.moved (cursor.move opened .pull).2 .pull
    obtain ⟨names, left, _, goesOn, apart, once, few⟩ := list_progresses called lives
    -- The names are those that were seen.
    obtain rfl : ["beta", "gamma"] = names :=
      List.map_injective_iff.mpr listing.query.resumedAt_injective (asked.symm.trans goesOn)
    have forward : ¬ Circles ["beta", "gamma"] :=
      (nodup_iff_not_circles (by simp)).mp (by decide)
    exact ⟨_, _, lives, rfl, broke, asked, apart, once.mpr forward, few forward⟩

/-- A server that leads in a circle is asked for the same page again. -/
theorem Session.list_askedAgain :
    let settings : Settings := { maxBufferSize := 1024 }
    let session := new settings
      (.ofTranscript
        { dialect := .smb1
          exchanges :=
            [NetworkListing.reply .moreData [⟨"X", 0, ""⟩, ⟨"A", 0, ""⟩],
              NetworkListing.reply .moreData [⟨"A", 0, ""⟩, ⟨"B", 0, ""⟩],
              NetworkListing.reply .moreData [⟨"B", 0, ""⟩, ⟨"A", 0, ""⟩],
              NetworkListing.reply .success [⟨"A", 0, ""⟩, ⟨"Z", 0, ""⟩]] })
      "\\\\srv\\data" ""
    let listing := NetworkListing.ofWorkgroup "OFFICE" settings
    ∃ cursor passed, Cursor.Lives (Listing.network listing) none ⟨0⟩ (some cursor) passed ∧
      session.listingOf (.workgroup "OFFICE") {} = .ok (.network listing) ∧
      continuations passed = ["A", "B", "A"].map listing.query.resumedAt ∧
      ¬ (continuations passed).Nodup := by
  intro settings session listing
  have called : session.listingOf (.workgroup "OFFICE") {} = .ok (.network listing) := rfl
  have acquired : session.acquire = (.ok ⟨0⟩, session.acquire.2) := rfl
  -- The circle is closed by the third page, which ends in the name that the first one ended in.
  have asked : (session.list (.workgroup "OFFICE") {}).1.toOption.map (fun cursor =>
      let opened := (session.list (.workgroup "OFFICE") {}).2
      let (first, later) := cursor.move opened .pull
      let (second, last) := first.move later .pull
      continuations (session.acquire.2.since opened ++ opened.since later ++ later.since last ++
        last.since (second.move last .pull).2)) =
          some (["A", "B", "A"].map listing.query.resumedAt) := by
    decide +kernel
  rcases listed : session.list (.workgroup "OFFICE") {} with ⟨fault | cursor, opened⟩
  · simp [listed, Except.toOption] at asked
  · simp only [listed, Except.toOption, Option.map_some, Option.some.injEq] at asked
    have begun : Cursor.ofListing (Listing.network listing) none session = (.ok cursor, opened) := by
      simpa only [list, called] using listed
    -- The same moves, as moves of a life.
    have pulled := (Cursor.Lives.opened acquired begun).moved opened .pull
    have again := pulled.moved (cursor.move opened .pull).2 .pull
    have lives :=
      again.moved ((cursor.move opened .pull).1.move (cursor.move opened .pull).2 .pull).2 .pull
    refine ⟨_, _, lives, rfl, asked, ?_⟩
    rw [asked]
    decide

end SmbBrowser
