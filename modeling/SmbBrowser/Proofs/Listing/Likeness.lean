import SmbBrowser.Listing.Sorts
import SmbBrowser.Proofs.Session.Validity

/-!
Resemblances and likenesses: relations between sessions that a listing cannot tell from equality.
Whatever a listing asks for through its tree, in sessions that resemble each other it comes to the
same; if they are alike it also gives back the same.
-/

namespace SmbBrowser

/-- A request that only gives back what the server holds. -/
def Request.givesBack : Request → Bool
  | .treeDisconnect | .findClose _ | .close _ => true
  | _ => false

/-- A request is only answered on a tree that is valid, and which is valid behind the answer too. -/
theorem Session.isTreeValid_of_answered {session after : Session} {tree : TreeRef}
    {request : Request} {delivery : Delivery} {response : Response}
    (answered : session.send tree request delivery = (.ok response, after)) :
    session.isTreeValid tree = true ∧ after.isTreeValid tree = true := by
  rcases session.send_cases tree request delivery with
    ⟨handle, found, valid, sent⟩ | ⟨_, fault, refused⟩
  · -- Sending leaves the handles as they were.
    have same := (session.tables_send tree request delivery).1
    rw [answered] at same
    have still : after.tree? tree = some handle := by rw [tree?, same]; exact found
    refine ⟨isTreeValid_iff.mpr ⟨handle, found, valid⟩,
      isTreeValid_iff.mpr ⟨handle, still, ?_⟩⟩
    -- An answer says nothing about the connection.
    have link : after.link = session.link := by
      rw [answered] at sent
      have answer := congrArg Prod.fst sent
      have later := congrArg Prod.snd sent
      simp only [exchange] at answer later
      rw [later, ← answer]
      rfl
    rwa [link]
  · rw [refused] at answered
    simp at answered

/--
Sessions that resemble each other for whoever reads through a tree and gives nothing back. Besides
the tree such a reader may hold an open directory on it, which is why it may depend on one.
-/
structure Session.Resemblance (tree : TreeRef)
    (Like : Option FileRef → Session → Session → Prop) : Prop where
  /-- The files are the same. -/
  files : ∀ {dir one other}, Like dir one other → other.files = one.files
  /-- A directory need not be looked at. -/
  loosen : ∀ {dir one other}, Like dir one other → Like none one other
  /-- Requests on the tree are answered the same, but for those that give something back. -/
  ask : ∀ {dir one other}, Like dir one other → ∀ request, request.givesBack = false →
    ∀ delivery, (other.send tree request delivery).1 = (one.send tree request delivery).1 ∧
      Like dir (one.send tree request delivery).2 (other.send tree request delivery).2
  /-- Events may be logged. -/
  noteAll : ∀ {dir one other}, Like dir one other → ∀ events,
    Like dir (one.noteAll events) (other.noteAll events)
  /-- Calls may be written down. -/
  noteHook : ∀ {dir one other}, Like dir one other → ∀ label hook,
    Like dir (one.noteHook label hook) (other.noteHook label hook)
  /-- A directory that was opened on the valid tree gets the same handle. -/
  adopt : ∀ {one other}, Like none one other → one.isTreeValid tree = true → ∀ fid path mode,
    (other.adoptFile tree fid path mode).1 = (one.adoptFile tree fid path mode).1 ∧
      ∀ dir, (one.adoptFile tree fid path mode).1 = .ok dir →
        Like (some dir) (one.adoptFile tree fid path mode).2
          (other.adoptFile tree fid path mode).2
  /-- Any file may be forgotten. -/
  forget : ∀ {dir one other}, Like dir one other → ∀ file,
    Like dir (one.forgetFile file) (other.forgetFile file)

/-- Sessions that are alike for whoever reads through a tree: they resemble each other, and stay so
when something is given back. -/
structure Session.Likeness (tree : TreeRef) (Like : Option FileRef → Session → Session → Prop) :
    Prop extends Resemblance tree Like where
  /-- What is given back is answered the same. -/
  giveBack : ∀ {dir one other}, Like dir one other → ∀ request, request.givesBack = true →
    ∀ delivery, (other.send tree request delivery).1 = (one.send tree request delivery).1 ∧
      Like dir (one.send tree request delivery).2 (other.send tree request delivery).2
  /-- The directory is given back with the same result. -/
  release : ∀ {dir one other}, Like (some dir) one other →
    (other.releaseFile dir).1 = (one.releaseFile dir).1 ∧
      Like none ((one.releaseFile dir).2.forgetFile dir) ((other.releaseFile dir).2.forgetFile dir)

/-- Calls that come to the same: the same result, the same listing, and sessions that are alike. -/
structure Session.Accord {Answer Kind : Type} (Like : Option FileRef → Session → Session → Prop)
    (dir? : Kind → Option FileRef) (one other : Answer × Kind × Session) : Prop where
  result : other.1 = one.1
  listing : other.2.1 = one.2.1
  like : Like (dir? one.2.1) one.2.2 other.2.2

/-- What calls that come to the same come to. -/
theorem Session.Accord.both {Answer Kind : Type} {Like : Option FileRef → Session → Session → Prop}
    {dir? : Kind → Option FileRef} {one other : Answer × Kind × Session}
    (accord : Accord Like dir? one other) :
    ∃ answer kind after later, one = (answer, kind, after) ∧
      other = (answer, kind, later) ∧ Like (dir? kind) after later := by
  -- The common answer and the common listing are named once for both.
  obtain ⟨same, sameKind, like⟩ := accord
  exact ⟨one.1, one.2.1, one.2.2, other.2.2, rfl, Prod.ext same (Prod.ext sameKind rfl), like⟩

/-- Calls that fail the same, or else come to the same. -/
def Session.Concur {Answer Kind : Type} (Like : Option FileRef → Session → Session → Prop)
    (dir? : Kind → Option FileRef) (one other : Except Fault Answer × Kind × Session) : Prop :=
  (∃ fault, one.1 = .error fault ∧ other.1 = .error fault) ∨ Accord Like dir? one other

open Session

section

variable {tree : TreeRef} {Like : Option FileRef → Session → Session → Prop}
  {dir : Option FileRef} {one other : Session}

namespace Session.Resemblance

variable (resemblance : Resemblance tree Like)

include resemblance

/-- One event may be logged. -/
theorem note (like : Like dir one other) (event : Event) :
    Like dir (one.note event) (other.note event) := by
  have single (session : Session) : session.noteAll [event] = session.note event := rfl
  -- One event is a list of one.
  rw [← single, ← single]
  exact resemblance.noteAll like [event]

/-- What comes of a request on the tree that gives nothing back. -/
theorem asked (like : Like dir one other) (request : Request)
    (lasting : request.givesBack = false) (delivery : Delivery) :
    ∃ answer after later, one.send tree request delivery = (answer, after) ∧
      other.send tree request delivery = (answer, later) ∧ Like dir after later := by
  -- The answer is named once, since it is the same on both sides.
  obtain ⟨same, still⟩ := resemblance.ask like request lasting delivery
  exact ⟨_, _, (other.send tree request delivery).2, rfl, Prod.ext same rfl, still⟩

/-- What comes of a directory that was opened on the valid tree. -/
theorem adopted (like : Like none one other) (valid : one.isTreeValid tree = true) (fid : FileId)
    (path : String) (mode : OpenMode) :
    (∃ fault, one.adoptFile tree fid path mode = (.error fault, one) ∧
        other.adoptFile tree fid path mode = (.error fault, other)) ∨
      ∃ dir after later, one.adoptFile tree fid path mode = (.ok dir, after) ∧
        other.adoptFile tree fid path mode = (.ok dir, later) ∧ Like (some dir) after later := by
  obtain ⟨same, still⟩ := resemblance.adopt like valid fid path mode
  rcases adopted : one.adoptFile tree fid path mode with ⟨fault | dir, after⟩
  · -- What is refused changes nothing.
    rw [adopted] at same
    have refused : other.adoptFile tree fid path mode =
        (.error fault, (other.adoptFile tree fid path mode).2) := Prod.ext same rfl
    have unchanged := adoptFile_refused adopted
    rw [adoptFile_refused refused] at refused
    subst unchanged
    exact .inl ⟨fault, rfl, refused⟩
  · rw [adopted] at same still
    exact .inr ⟨dir, after, (other.adoptFile tree fid path mode).2, rfl, Prod.ext same rfl,
      still dir rfl⟩

end Session.Resemblance

/-- What comes of giving something back on the tree. -/
theorem Session.Likeness.returned (likeness : Likeness tree Like) (like : Like dir one other)
    (request : Request) (given : request.givesBack = true) (delivery : Delivery) :
    ∃ answer after later, one.send tree request delivery = (answer, after) ∧
      other.send tree request delivery = (answer, later) ∧ Like dir after later := by
  -- Here, too, one answer stands for both.
  obtain ⟨same, still⟩ := likeness.giveBack like request given delivery
  exact ⟨_, _, (other.send tree request delivery).2, rfl, Prod.ext same rfl, still⟩

variable (resemblance : Resemblance tree Like) (likeness : Likeness tree Like)

namespace SearchListing

include resemblance in

/-- A search begins the same in sessions that resemble each other. -/
theorem start_accord (listing : SearchListing) (like : Like none one other) :
    Accord Like (fun _ => none) (listing.start tree one) (listing.start tree other) := by
  obtain ⟨answer, after, later, asked, askedToo, still⟩ :=
    resemblance.asked like listing.first rfl .plain
  unfold start
  rw [asked, askedToo]
  rcases answer with fault | response
  · -- An end is logged; any other failure is only passed on.
    simp only
    split
    · exact ⟨rfl, rfl, resemblance.note still _⟩
    · exact ⟨rfl, rfl, still⟩
  · cases response with
    | find page =>
      simp only
      split <;> exact ⟨rfl, rfl, still⟩
    | _ => exact ⟨rfl, rfl, still⟩

include resemblance in
/-- A search goes on the same in sessions that resemble each other. -/
theorem fetchMore_accord (listing : SearchListing) (like : Like none one other) :
    Accord Like (fun _ => none) (listing.fetchMore tree one) (listing.fetchMore tree other) := by
  unfold fetchMore
  -- Without a search there is nothing to go on with.
  cases listing.sid with
  | none => exact ⟨rfl, rfl, like⟩
  | some sid =>
    obtain ⟨answer, after, later, asked, askedToo, still⟩ :=
      resemblance.asked like (listing.next sid) rfl .plain
    simp only [asked, askedToo]
    rcases answer with fault | response
    · exact ⟨rfl, rfl, still⟩
    · cases response with
      | find page =>
        simp only
        split <;> exact ⟨rfl, rfl, still⟩
      | _ => exact ⟨rfl, rfl, still⟩

include likeness in
/-- A search is given back the same in sessions that are alike. -/
theorem finish_accord (listing : SearchListing) (like : Like none one other) :
    Accord Like (fun _ => none) (listing.finish tree one) (listing.finish tree other) := by
  unfold finish
  -- Only a search that has begun is given back.
  cases listing.sid with
  | none => exact ⟨rfl, rfl, like⟩
  | some sid =>
    obtain ⟨answer, after, later, asked, askedToo, still⟩ :=
      likeness.returned like (.findClose sid) rfl .cleanup
    simp only [asked, askedToo]
    rcases answer with fault | response
    · exact ⟨rfl, rfl, likeness.note still _⟩
    · exact ⟨rfl, rfl, still⟩

end SearchListing

namespace DirectoryListing

include resemblance in
/-- The same directory is queried. -/
theorem query_eq (listing : DirectoryListing) (like : Like dir one other) (fileIndex : UInt32)
    (flags : UInt8) : listing.query other fileIndex flags = listing.query one fileIndex flags := by
  -- A query looks at its session for nothing but the directory it is about.
  have files : other.file? = one.file? := by
    funext file
    rw [file?, file?, resemblance.files like]
  rw [query, query, files]

include likeness in
/-- An open directory is given back the same in sessions that are alike. -/
theorem releaseDir_accord (listing : DirectoryListing) (like : Like listing.dir one other) :
    Accord Like DirectoryListing.dir (listing.releaseDir one) (listing.releaseDir other) := by
  unfold releaseDir
  cases held : listing.dir with
  | none =>
    rw [held] at like
    exact ⟨rfl, rfl, by rwa [held]⟩
  | some dir =>
    rw [held] at like
    -- The release may reach the server, which answers both the same.
    obtain ⟨same, still⟩ := likeness.release like
    exact ⟨same, rfl, still⟩

include resemblance in
/-- The first page of a directory is read the same in sessions that resemble each other. -/
theorem firstPage_accord (listing : DirectoryListing) (reply : Option (ChainedReply Response))
    (like : Like listing.dir one other) :
    Accord Like DirectoryListing.dir (listing.firstPage reply one)
      (listing.firstPage reply other) := by
  unfold firstPage
  cases reply with
  | none => exact ⟨rfl, rfl, like⟩
  | some reply =>
    simp only
    split
    · -- An end is logged.
      exact ⟨rfl, rfl, resemblance.note like _⟩
    · split
      · exact ⟨rfl, rfl, like⟩
      · split
        · split <;> exact ⟨rfl, rfl, like⟩
        · exact ⟨rfl, rfl, like⟩

include likeness in
/-- The first page is read, or the directory given back for it, the same in sessions that are
alike. -/
theorem firstOrRelease_accord (listing : DirectoryListing)
    (reply : Option (ChainedReply Response)) (like : Like listing.dir one other) :
    Accord Like DirectoryListing.dir (listing.firstOrRelease reply one)
      (listing.firstOrRelease reply other) := by
  have read := firstPage_accord likeness.toResemblance listing reply like
  unfold firstOrRelease
  obtain ⟨result, opened, after, later, first, second, still⟩ := read.both
  rw [first, second]
  cases result with
  | ok found => exact ⟨rfl, rfl, still⟩
  | error fault =>
    -- Both give the directory back, with the same result.
    obtain ⟨closing, closed, last, lastToo, back, backToo, gone⟩ :=
      (releaseDir_accord likeness opened still).both
    simp only [back, backToo]
    cases closing with
    | ok _ => exact ⟨rfl, rfl, gone⟩
    | error _ => exact ⟨rfl, rfl, likeness.note gone _⟩

/-- A first page that cannot be read is reported, whatever comes of giving the directory back. -/
theorem firstOrRelease_failed {listing opened : DirectoryListing}
    {reply : Option (ChainedReply Response)} {fault : Fault} {session after : Session}
    (failed : listing.firstPage reply session = (.error fault, opened, after)) :
    (listing.firstOrRelease reply session).1 = .error fault := by
  unfold firstOrRelease
  rw [failed]
  simp only
  -- The failure of the closing is logged, and that of the page is answered.
  split <;> rfl

include resemblance in
/-- The first page is read the same, or cannot be read, in sessions that resemble each other. -/
theorem firstOrRelease_concur (listing : DirectoryListing)
    (reply : Option (ChainedReply Response)) (like : Like listing.dir one other) :
    Concur Like DirectoryListing.dir (listing.firstOrRelease reply one)
      (listing.firstOrRelease reply other) := by
  obtain ⟨result, opened, after, later, first, second, still⟩ :=
    (firstPage_accord resemblance listing reply like).both
  cases result with
  | ok found =>
    unfold firstOrRelease
    rw [first, second]
    exact .inr ⟨rfl, rfl, still⟩
  | error fault =>
    -- Nothing is said of what comes of giving the directory back.
    exact .inl ⟨fault, firstOrRelease_failed first, firstOrRelease_failed second⟩

include resemblance in
/-- The directory is held in place of the same one. -/
theorem held_like (listing : DirectoryListing) (dir : FileRef) (like : Like (some dir) one other) :
    ∃ after later, listing.hold dir one = ({ listing with dir := some dir }, after) ∧
      listing.hold dir other = ({ listing with dir := some dir }, later) ∧
      Like (some dir) after later := by
  unfold hold
  -- A directory that was held before is forgotten in both.
  cases listing.dir with
  | none => exact ⟨one, other, rfl, rfl, like⟩
  | some old =>
    exact ⟨one.forgetFile old, other.forgetFile old, rfl, rfl, resemblance.forget like old⟩

include resemblance in
/-- Two starts come to the same, or both come to reading the first page of the directory that they
have opened. -/
theorem start_cases (listing : DirectoryListing) (like : Like listing.dir one other) :
    Accord Like DirectoryListing.dir (listing.start tree one) (listing.start tree other) ∨
      ∃ opened reply after later, Like (DirectoryListing.dir opened) after later ∧
        listing.start tree one = opened.firstOrRelease reply after ∧
        listing.start tree other = opened.firstOrRelease reply later := by
  unfold start
  simp only [query_eq resemblance listing like]
  obtain ⟨answer, after, later, asked, askedToo, still⟩ :=
    resemblance.asked like (.chain [_, _]) rfl .plain
  rw [asked, askedToo]
  rcases answer with fault | response
  · exact .inl ⟨rfl, rfl, still⟩
  · -- The answer shows that the tree is valid, so that a directory can be opened on it.
    have valid := (isTreeValid_of_answered asked).2
    cases response with
    | chain replies =>
      rcases replies with _ | ⟨opened, rest⟩
      · exact .inl ⟨rfl, rfl, still⟩
      · simp only
        split
        · exact .inl ⟨rfl, rfl, still⟩
        · split
          · -- The directory is open, and each session makes its handle on it.
            rename_i file _
            rcases resemblance.adopted (resemblance.loosen still) valid file.fid listing.path
                .directory
              with ⟨fault, refused, refusedToo⟩ | ⟨dir, held, heldToo, made, madeToo, own⟩
            · rw [refused, refusedToo]
              exact .inl ⟨rfl, rfl, still⟩
            · rw [made, madeToo]
              obtain ⟨mine, others, owned, ownedToo, still⟩ :=
                held_like resemblance listing dir own
              simp only [owned, ownedToo]
              exact .inr ⟨_, _, mine, others, still, rfl, rfl⟩
          · exact .inl ⟨rfl, rfl, still⟩
    | _ => exact .inl ⟨rfl, rfl, still⟩

include likeness in
/-- A directory is opened the same in sessions that are alike. -/
theorem start_accord (listing : DirectoryListing) (like : Like listing.dir one other) :
    Accord Like DirectoryListing.dir (listing.start tree one) (listing.start tree other) := by
  -- If it is opened, what is left to do is to read the first page.
  rcases start_cases likeness.toResemblance listing like with
    same | ⟨opened, reply, after, later, still, begun, begunToo⟩
  · exact same
  · rw [begun, begunToo]
    exact firstOrRelease_accord likeness opened reply still

include resemblance in
/-- A directory is opened the same, or cannot be listed, in sessions that resemble each other. -/
theorem start_concur (listing : DirectoryListing) (like : Like listing.dir one other) :
    Concur Like DirectoryListing.dir (listing.start tree one) (listing.start tree other) := by
  -- A directory that cannot be read is given back, of which a resemblance says nothing.
  rcases start_cases resemblance listing like with
    same | ⟨opened, reply, after, later, still, begun, begunToo⟩
  · exact .inr same
  · rw [begun, begunToo]
    exact firstOrRelease_concur resemblance opened reply still

include resemblance in
/-- A directory is read on the same in sessions that resemble each other. -/
theorem fetchMore_accord (listing : DirectoryListing) (like : Like listing.dir one other) :
    Accord Like DirectoryListing.dir (listing.fetchMore tree one)
      (listing.fetchMore tree other) := by
  unfold fetchMore
  split
  · -- The query names the open directory, which is the same on both sides.
    simp only [query_eq resemblance listing like]
    obtain ⟨answer, after, later, asked, askedToo, still⟩ :=
      resemblance.asked like (listing.query one _ _) rfl .plain
    rw [asked, askedToo]
    rcases answer with fault | response
    · exact ⟨rfl, rfl, still⟩
    · cases response with
      | queryDirectory page =>
        simp only
        split <;> exact ⟨rfl, rfl, still⟩
      | _ => exact ⟨rfl, rfl, still⟩
  · exact ⟨rfl, rfl, like⟩

end DirectoryListing

namespace NetworkListing

include resemblance

/-- A query for servers comes to the same in sessions that resemble each other. -/
theorem ask_accord (listing : NetworkListing) (like : Like none one other) :
    Accord Like (fun _ => none) (listing.ask tree one) (listing.ask tree other) := by
  unfold ask
  obtain ⟨answer, after, later, asked, askedToo, still⟩ :=
    resemblance.asked like (.serverEnum listing.query) rfl .plain
  rw [asked, askedToo]
  -- What is made of the answer depends on the answer alone.
  rcases answer with fault | response
  · exact ⟨rfl, rfl, still⟩
  · cases response with
    | serverList page =>
      simp only
      split
      · exact ⟨rfl, rfl, still⟩
      · split
        · exact ⟨rfl, rfl, resemblance.note still _⟩
        · exact ⟨rfl, rfl, still⟩
    | _ => exact ⟨rfl, rfl, still⟩

/-- Servers are listed from the start the same in sessions that resemble each other. -/
theorem start_accord (listing : NetworkListing) (like : Like none one other) :
    Accord Like (fun _ => none) (listing.start tree one) (listing.start tree other) := by
  -- It is one query.
  obtain ⟨answer, listed, after, later, asked, askedToo, still⟩ :=
    (ask_accord resemblance listing like).both
  unfold start
  rw [asked, askedToo]
  cases answer <;> exact ⟨rfl, rfl, still⟩

/-- Servers are listed on the same in sessions that resemble each other. -/
theorem fetchMore_accord (listing : NetworkListing) (like : Like none one other) :
    Accord Like (fun _ => none) (listing.fetchMore tree one) (listing.fetchMore tree other) := by
  unfold fetchMore
  split
  · exact ⟨rfl, rfl, like⟩
  · split
    · exact ⟨rfl, rfl, like⟩
    · simp only
      -- Which server the next query goes on from does not matter.
      generalize ({ listing with query := _ } : NetworkListing) = next
      obtain ⟨answer, listed, after, later, asked, askedToo, still⟩ :=
        (ask_accord resemblance next like).both
      rw [asked, askedToo]
      cases answer with
      | error fault => exact ⟨rfl, rfl, still⟩
      | ok _ =>
        simp only
        split <;> exact ⟨rfl, rfl, still⟩

end NetworkListing

include resemblance in
/-- The shares of a host are listed the same in sessions that resemble each other. -/
theorem HostListing.start_accord (listing : HostListing) (like : Like none one other) :
    Accord Like (fun _ => none) (listing.start tree one) (listing.start tree other) := by
  unfold start
  obtain ⟨answer, after, later, asked, askedToo, still⟩ :=
    resemblance.asked like .shareEnum rfl .plain
  rw [asked, askedToo]
  -- What is made of the answer depends on the answer alone.
  rcases answer with fault | response
  · exact ⟨rfl, rfl, still⟩
  · cases response with
    | shareList page =>
      simp only
      split
      · exact ⟨rfl, rfl, still⟩
      · split <;> exact ⟨rfl, rfl, still⟩
    | _ => exact ⟨rfl, rfl, still⟩

namespace Listing

/-- The directory that a listing holds open, if it holds one. -/
def dir? : Listing → Option FileRef
  | .directory listing => listing.dir
  | _ => none

/-- What calls of a listing of one sort come to is what they come to for a listing of any sort. -/
theorem lift_accord {Kind Result : Type} {wrap : Kind → Listing} {kindDir? : Kind → Option FileRef}
    {mine others : Except Fault Result × Kind × Session} (accord : Accord Like kindDir? mine others)
    (same : ∀ kind, dir? (wrap kind) = kindDir? kind) :
    Accord Like dir? (lift wrap mine) (lift wrap others) := by
  -- Wrapping a listing into the sum changes neither its answers nor its sessions.
  obtain ⟨answer, kind, after, later, rfl, rfl, like⟩ := accord.both
  exact ⟨rfl, rfl, by rwa [← same] at like⟩

/-- So it is with calls that only concur. -/
theorem lift_concur {Kind Result : Type} {wrap : Kind → Listing} {kindDir? : Kind → Option FileRef}
    {mine others : Except Fault Result × Kind × Session} (concur : Concur Like kindDir? mine others)
    (same : ∀ kind, dir? (wrap kind) = kindDir? kind) :
    Concur Like dir? (lift wrap mine) (lift wrap others) := by
  -- A failure is the same failure, and what accords is lifted.
  rcases concur with ⟨fault, failed, failedToo⟩ | accord
  · exact .inl ⟨fault, failed, failedToo⟩
  · exact .inr (lift_accord accord same)

include likeness in
/-- The first page is asked for alike. -/
theorem start_accord (listing : Listing) (like : Like listing.dir? one other) :
    Accord Like dir? (listing.start tree one) (listing.start tree other) := by
  have resemblance := likeness.toResemblance
  -- Only opening a directory can give something back; for the others a resemblance will do.
  cases listing with
  | search listing =>
    exact lift_accord (SearchListing.start_accord resemblance listing like) fun _ => rfl
  | directory listing =>
    exact lift_accord (DirectoryListing.start_accord likeness listing like) fun _ => rfl
  | network listing =>
    exact lift_accord (NetworkListing.start_accord resemblance listing like) fun _ => rfl
  | host listing =>
    exact lift_accord (HostListing.start_accord resemblance listing like) fun _ => rfl
  | rehearsed listing => exact ⟨rfl, rfl, like⟩

include resemblance in
/-- Where sessions only resemble each other, the first page still comes or fails to come alike. -/
theorem start_concur (listing : Listing) (like : Like listing.dir? one other) :
    Concur Like dir? (listing.start tree one) (listing.start tree other) := by
  cases listing with
  | search listing =>
    exact .inr (lift_accord (SearchListing.start_accord resemblance listing like) fun _ => rfl)
  | directory listing =>
    -- Only a directory gives something back in its start, when its first page fails.
    exact lift_concur (DirectoryListing.start_concur resemblance listing like) fun _ => rfl
  | network listing =>
    exact .inr (lift_accord (NetworkListing.start_accord resemblance listing like) fun _ => rfl)
  | host listing =>
    exact .inr (lift_accord (HostListing.start_accord resemblance listing like) fun _ => rfl)
  | rehearsed listing => exact .inr ⟨rfl, rfl, like⟩

include resemblance in
/-- A further page is asked for alike. -/
theorem fetchMore_accord (listing : Listing) (like : Like listing.dir? one other) :
    Accord Like dir? (listing.fetchMore tree one) (listing.fetchMore tree other) := by
  cases listing with
  | search listing =>
    exact lift_accord (SearchListing.fetchMore_accord resemblance listing like) fun _ => rfl
  | directory listing =>
    exact lift_accord (DirectoryListing.fetchMore_accord resemblance listing like) fun _ => rfl
  | network listing =>
    exact lift_accord (NetworkListing.fetchMore_accord resemblance listing like) fun _ => rfl
  | host listing => exact ⟨rfl, rfl, like⟩
  | rehearsed listing =>
    -- A rehearsed listing looks at no session.
    obtain ⟨opening, turns, closing, page, last⟩ := listing
    cases turns <;> exact ⟨rfl, rfl, like⟩

include likeness in
/-- What the server holds is given back alike. -/
theorem finish_accord (listing : Listing) (like : Like listing.dir? one other) :
    Accord Like dir? (listing.finish tree one) (listing.finish tree other) := by
  -- Searches and directories are given back, and the others leave nothing to be.
  cases listing with
  | search listing =>
    exact lift_accord (SearchListing.finish_accord likeness listing like) fun _ => rfl
  | directory listing =>
    exact lift_accord (DirectoryListing.releaseDir_accord likeness listing like) fun _ => rfl
  | network listing => exact ⟨rfl, rfl, like⟩
  | host listing => exact ⟨rfl, rfl, like⟩
  | rehearsed listing =>
    obtain ⟨opening, turns, closing, page, last⟩ := listing
    cases closing <;> exact ⟨rfl, rfl, like⟩

end Listing

end

end SmbBrowser
