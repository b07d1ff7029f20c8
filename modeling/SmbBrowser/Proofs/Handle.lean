import SmbBrowser.Proofs.Session.Tables

/-!
The life of a handle: whatever its resource is and whatever becomes of the connection, it counts its
references, closes the resource with the last of them, and never opens again.
-/

namespace SmbBrowser

/-- What surrounds a handle: how its resource is named and closed, and how its connection is doing. -/
structure Surroundings (Resource World : Type) where
  /-- Names the resource in the log. -/
  describe : Resource → World → String
  /-- Closes the resource, which may fail, and may change anything around the handle. -/
  close : Resource → World → Except Fault Unit × World
  /-- The connection as it is now, until it is dropped. -/
  link : World → Option Link

/-- A handle in its surroundings, and what came of it so far. -/
structure HandleLife (Resource World : Type) where
  /-- The handle as it is now. -/
  handle : Handle Resource
  /-- Everything around it. -/
  world : World
  /-- What came of closing the resource, each time that it was closed. -/
  closes : List (Except Fault Unit) := []
  /-- What was logged. -/
  log : List Event := []

/-- What can happen to a handle. -/
inductive HandleUse (World : Type) where
  /-- One more reference is taken. -/
  | acquire
  /-- One reference is given back. -/
  | release
  /-- Something around the handle changes, such as its connection. -/
  | change (change : World → World)

/-- A use of a handle, as it went. -/
structure HandleTurn (Resource World : Type) where
  /-- What was done. -/
  use : HandleUse World
  /-- The handle before. -/
  before : HandleLife Resource World
  /-- What came of it. -/
  answer : Except Fault Unit
  /-- The handle behind it. -/
  after : HandleLife Resource World

/-- The use asks for a reference. -/
def HandleUse.isAcquire {World : Type} : HandleUse World → Bool
  | .acquire => true
  | _ => false

/-- The use gives a reference back. -/
def HandleUse.isRelease {World : Type} : HandleUse World → Bool
  | .release => true
  | _ => false

variable {Resource World : Type}

namespace HandleTurn

/-- A reference was asked for and taken. -/
def takes (turn : HandleTurn Resource World) : Bool := turn.use.isAcquire && turn.answer.isOk

/-- A reference was given back, and there was one. -/
def gives (turn : HandleTurn Resource World) : Bool :=
  turn.use.isRelease && 0 < turn.before.handle.refs

/-- The last reference was given back. -/
def givesLast (turn : HandleTurn Resource World) : Bool :=
  turn.use.isRelease && turn.before.handle.refs = 1

/-- The ways in which a use of a handle may go. -/
inductive Fair (around : Surroundings Resource World) : HandleTurn Resource World → Prop where
  /-- An open handle is shared. -/
  | shared {life : HandleLife Resource World} (isOpen : life.handle.closed = false) :
      Fair around ⟨.acquire, life, .ok (), { life with handle := life.handle.shared }⟩
  /-- A closed one never opens again. -/
  | refused {life : HandleLife Resource World} (closed : life.handle.closed = true) :
      Fair around ⟨.acquire, life, .error .handleClosed, life⟩
  /-- A release of nobody's handle is reported once, and changes nothing. -/
  | overReleased {life : HandleLife Resource World} (unheld : life.handle.refs = 0) :
      Fair around ⟨.release, life, .ok (), { life with
        log := life.log ++ [.releaseUnderflow (around.describe life.handle.resource life.world)
          life.handle.closed] }⟩
  /-- The last release closes the resource, and tells what came of that. -/
  | closed {life : HandleLife Resource World} (last : life.handle.refs = 1)
      {result : Except Fault Unit} {world : World}
      (outcome : around.close life.handle.resource life.world = (result, world)) :
      Fair around ⟨.release, life, result, {
        handle := life.handle.released
        world
        closes := life.closes ++ [result]
        log := life.log ++ [.handleClosing (around.describe life.handle.resource life.world)] }⟩
  /-- Any other release only counts. -/
  | released {life : HandleLife Resource World} (more : 1 < life.handle.refs) :
      Fair around ⟨.release, life, .ok (), { life with handle := life.handle.released }⟩
  /-- What changes around the handle is no affair of the handle itself. -/
  | changed {life : HandleLife Resource World} (change : World → World) :
      Fair around ⟨.change change, life, .ok (), { life with world := change life.world }⟩

variable {around : Surroundings Resource World} {turn : HandleTurn Resource World}

/-- What was taken is one reference more, and what was given back is one less. -/
theorem Fair.refs (fair : turn.Fair around) :
    turn.after.handle.refs + (if turn.gives then 1 else 0) =
      turn.before.handle.refs + (if turn.takes then 1 else 0) := by
  cases fair with
  | shared isOpen => rfl
  | refused closed => rfl
  | overReleased unheld =>
    -- What nobody holds is not given back.
    simp [gives, takes, HandleUse.isAcquire, unheld]
  | closed last outcome =>
    -- The one reference is given back, and none is left.
    simp [gives, takes, HandleUse.isAcquire, HandleUse.isRelease, Handle.released, last]
  | @released life more =>
    -- The reference that is given back is one of several.
    have held : 0 < life.handle.refs := by omega
    simp only [gives, takes, HandleUse.isAcquire, HandleUse.isRelease, Handle.released, held]
    simp
    omega
  | changed change => rfl

/-- Only the release of the last reference closes the resource, and tells what came of that. -/
theorem Fair.closes (fair : turn.Fair around) :
    turn.after.closes = turn.before.closes ++ if turn.givesLast then [turn.answer] else [] := by
  cases fair with
  | shared isOpen => simp [givesLast, HandleUse.isRelease]
  | refused closed => simp [givesLast, HandleUse.isRelease]
  | overReleased unheld => simp [givesLast, unheld]
  | closed last outcome => simp [givesLast, HandleUse.isRelease, last]
  | @released life more =>
    -- Another reference remains, so that this was not the last.
    have others : life.handle.refs ≠ 1 := by omega
    simp [givesLast, others]
  | changed change => simp [givesLast, HandleUse.isRelease]

/-- An open handle is shared, and no other. -/
theorem Fair.acquires_iff (fair : turn.Fair around) (asks : turn.use.isAcquire = true) :
    turn.answer = .ok () ↔ turn.before.handle.closed = false := by
  -- Of the ways in which a use may go, two belong to the asking for a reference.
  cases fair with
  | shared isOpen => exact ⟨fun _ => isOpen, fun _ => rfl⟩
  | refused closed => simp [closed]
  | overReleased | closed | released | changed => cases asks

/-- A release of nobody's handle leaves all as it is, but for the one event that reports it. -/
theorem Fair.overReleases (fair : turn.Fair around) (gives : turn.use.isRelease = true)
    (unheld : turn.before.handle.refs = 0) :
    turn.answer = .ok () ∧ turn.after = { turn.before with
      log := turn.before.log ++ [.releaseUnderflow
        (around.describe turn.before.handle.resource turn.before.world)
        turn.before.handle.closed] } := by
  cases fair with
  | overReleased unheld => exact ⟨rfl, rfl⟩
  -- Other releases find a reference, and other uses release nothing.
  | closed last outcome => exact absurd unheld (by simp [last])
  | @released life more => exact absurd unheld (show life.handle.refs ≠ 0 by omega)
  | shared | refused | changed => cases gives

/-- The release of the last reference is answered by what came of closing the resource. -/
theorem Fair.answer_givesLast (fair : turn.Fair around) (last : turn.givesLast = true) :
    turn.answer = (around.close turn.before.handle.resource turn.before.world).1 := by
  -- With one reference left, the release neither comes too often nor leaves anybody behind.
  simp only [givesLast, Bool.and_eq_true, decide_eq_true_eq] at last
  cases fair with
  | overReleased unheld => exact absurd last.2 (by simp [unheld])
  | closed last outcome => simp [outcome]
  | @released life more => exact absurd last.2 (show life.handle.refs ≠ 1 by omega)
  | shared | refused | changed => cases last.1

end HandleTurn

namespace HandleLife

/-- What holds of a handle from its making on: it is closed when nobody holds it, and only then,
its resource was closed once if it is, and it belongs to the connection it was made on. -/
structure Sound (generation : Option Nat) (life : HandleLife Resource World) : Prop where
  /-- Closed means that nobody holds it. -/
  closed_iff : life.handle.closed = true ↔ life.handle.refs = 0
  /-- The resource was closed once or never. -/
  closedOnce : life.closes.length = if life.handle.closed then 1 else 0
  /-- What was captured of the connection stays. -/
  captured : life.handle.generation = generation

/-- A handle that was just made, on a connection if one is given. -/
def new (resource : Resource) (link : Option Link) (traced : Bool) (world : World) :
    HandleLife Resource World :=
  { handle := { resource, traced, generation := link.map (·.generation) }, world }

/-- Where the handle lives. -/
def home (around : Surroundings Resource World) :
    Handle.Home Resource (HandleLife Resource World) where
  put handle life := { life with handle }
  note event life := { life with log := life.log ++ [event] }
  describe resource life := around.describe resource life.world
  close resource life :=
    let (result, world) := around.close resource life.world
    (result, { life with world, closes := life.closes ++ [result] })

/-- Uses the handle once. -/
def step (around : Surroundings Resource World) (life : HandleLife Resource World) :
    HandleUse World → Except Fault Unit × HandleLife Resource World
  | .acquire =>
    match life.handle.acquire with
    | .error fault => (.error fault, life)
    | .ok handle => (.ok (), { life with handle })
  | .release => life.handle.release (home around) life
  | .change change => (.ok (), { life with world := change life.world })

/-- Uses the handle again and again. -/
def run (around : Surroundings Resource World) (uses : List (HandleUse World))
    (life : HandleLife Resource World) : HandleLife Resource World :=
  uses.foldl (fun life use => (life.step around use).2) life

/-- How a use of the handle goes. -/
def turn (around : Surroundings Resource World) (life : HandleLife Resource World)
    (use : HandleUse World) : HandleTurn Resource World :=
  { use, before := life, answer := (life.step around use).1, after := (life.step around use).2 }

/-- How the uses of the handle go, one after the other. -/
def turns (around : Surroundings Resource World) :
    List (HandleUse World) → HandleLife Resource World → List (HandleTurn Resource World)
  | [], _ => []
  | use :: uses, life => life.turn around use :: turns around uses (life.step around use).2

variable {around : Surroundings Resource World} {life : HandleLife Resource World}
  {generation : Option Nat}

/-- A use leaves a sound handle sound. -/
theorem Sound.after {turn : HandleTurn Resource World} (sound : turn.before.Sound generation)
    (fair : turn.Fair around) : turn.after.Sound generation := by
  obtain ⟨closed_iff, closedOnce, captured⟩ := sound
  cases fair with
  | shared isOpen =>
    -- Who shares a handle holds it.
    exact ⟨by simp [Handle.shared, isOpen], closedOnce, captured⟩
  | refused closed => exact ⟨closed_iff, closedOnce, captured⟩
  | overReleased unheld => exact ⟨closed_iff, closedOnce, captured⟩
  | @closed life last =>
    -- The handle was open until now, so that this is the first closing.
    have isOpen : life.handle.closed = false := by
      simpa [last] using closed_iff
    have never : life.closes.length = 0 := by simpa [isOpen] using closedOnce
    refine ⟨by simp [Handle.released, last], ?_, captured⟩
    simp [Handle.released, last, never]
  | @released life more =>
    -- The handle was open because it was held, and it is still held by somebody else.
    have isOpen : life.handle.closed = false := by
      simpa [show life.handle.refs ≠ 0 by omega] using closed_iff
    have stillOpen : life.handle.released.closed = false := by
      simp [Handle.released, isOpen, show life.handle.refs ≠ 1 by omega]
    have held : life.handle.released.refs ≠ 0 := show life.handle.refs - 1 ≠ 0 by omega
    refine ⟨by simp [stillOpen, held], ?_, captured⟩
    simpa [stillOpen, isOpen] using closedOnce
  | changed change => exact ⟨closed_iff, closedOnce, captured⟩

/-- Every use goes in one of the ways. -/
theorem turn_fair (around : Surroundings Resource World) (life : HandleLife Resource World)
    (use : HandleUse World) : (life.turn around use).Fair around := by
  cases use with
  | acquire =>
    unfold turn step
    by_cases closed : life.handle.closed = true
    · -- A closed handle is refused, and nothing is counted.
      have refused : life.handle.acquire = .error .handleClosed := by
        rw [Handle.acquire, if_pos closed]
      rw [refused]
      exact .refused closed
    · have shared : life.handle.acquire = .ok life.handle.shared := by
        rw [Handle.acquire, if_neg closed]
        rfl
      rw [shared]
      exact .shared (by simpa using closed)
  | release =>
    unfold turn step
    rcases Nat.lt_trichotomy life.handle.refs 1 with unheld | last | more
    · have unheld : life.handle.refs = 0 := by omega
      rw [Handle.release_unheld _ unheld]
      exact .overReleased unheld
    · rw [Handle.release_last _ last]
      exact .closed last rfl
    · rw [Handle.release_shared _ more]
      exact .released more
  | change change => exact .changed change

/-- So do all uses, in whatever order. -/
theorem turns_fair (uses : List (HandleUse World)) :
    ∀ turn ∈ life.turns around uses, turn.Fair around := by
  -- Each use begins where the one before it has left the handle.
  induction uses generalizing life with
  | nil => simp [turns]
  | cons use uses ih =>
    intro turn listed
    rcases List.mem_cons.mp listed with rfl | later
    · exact turn_fair around life use
    · exact ih turn later

/-- However it is used, a sound handle stays sound. -/
theorem Sound.run (sound : life.Sound generation) (uses : List (HandleUse World)) :
    (life.run around uses).Sound generation := by
  -- Each use hands on a sound handle to the next.
  induction uses generalizing life with
  | nil => exact sound
  | cons use uses ih => exact ih (sound.after (turn_fair around life use))

/-- The references are those at the beginning and those taken, less those given back. -/
theorem refs_run (uses : List (HandleUse World)) :
    (life.run around uses).handle.refs + (life.turns around uses).countP HandleTurn.gives =
      life.handle.refs + (life.turns around uses).countP HandleTurn.takes := by
  -- The induction is on the uses, with any references to begin with.
  induction uses generalizing life with
  | nil => rfl
  | cons use uses ih =>
    have further := @ih (life.step around use).2
    have now := (turn_fair around life use).refs
    simp only [turns, List.countP_cons]
    show (HandleLife.run around uses (life.step around use).2).handle.refs + _ = _
    change (life.step around use).2.handle.refs + _ = life.handle.refs + _ at now
    -- The sum of this use and the sum of the later ones come to the sum of all.
    omega

/-- The resource was closed by the releases of the last reference, each time with its answer. -/
theorem closes_run (uses : List (HandleUse World)) :
    (life.run around uses).closes =
      life.closes ++ ((life.turns around uses).filter HandleTurn.givesLast).map HandleTurn.answer := by
  induction uses generalizing life with
  | nil => simp [turns, HandleLife.run]
  | cons use uses ih =>
    have further := @ih (life.step around use).2
    have now := (turn_fair around life use).closes
    show (HandleLife.run around uses (life.step around use).2).closes = _
    change (life.step around use).2.closes = _ at now
    rw [further, now, turns, List.append_assoc, List.filter_cons]
    -- What this use adds comes before all that the later ones add.
    split <;> rfl

/-- A handle that was just made is sound. -/
theorem Sound.new (resource : Resource) (link : Option Link) (traced : Bool) (world : World) :
    (HandleLife.new resource link traced world).Sound (link.map (·.generation)) :=
  -- It has one reference and no close behind it, and took its generation from the link.
  ⟨by simp [HandleLife.new], rfl, rfl⟩

end HandleLife

/-- A handle is valid while nobody closed it and its connection, if it has one, is the same. -/
theorem Handle.isValid_iff_captured {handle : Handle Resource} {made : Option Link}
    (closed_iff : handle.closed = true ↔ handle.refs = 0)
    (captured : handle.generation = made.map (·.generation)) (link : Option Link) :
    handle.isValid link = true ↔ handle.closed = false ∧ ∀ first, made = some first →
      ∃ now, link = some now ∧ now.connected = true ∧ now.generation = first.generation := by
  -- An open handle is held, so that being open is all that is asked of the handle itself.
  have held : handle.closed = false ↔ (!handle.closed && decide (handle.refs ≠ 0)) = true := by
    cases closed : handle.closed <;> simp [closed] at closed_iff ⊢
    exact closed_iff
  unfold isValid
  rw [Bool.and_eq_true, ← held, captured]
  apply and_congr_right
  intro isOpen
  cases made with
  | none =>
    -- A handle that was made on no connection asks for none.
    simp
  | some first =>
    cases link with
    | none => simp
    | some now => simp [and_comm]

/-- A handle can be used while it is valid. -/
theorem Handle.ensureValid_ok_iff {handle : Handle Resource} {link : Option Link} :
    handle.ensureValid link = .ok () ↔ handle.isValid link = true := by
  -- An open handle answers by its validity, and a closed one is never valid.
  unfold ensureValid
  cases closed : handle.closed with
  | true => simp [isValid, closed]
  | false => cases handle.isValid link <;> simp

/-- A handle that was closed says so, and no other does. -/
theorem Handle.ensureValid_handleClosed_iff {handle : Handle Resource} {link : Option Link} :
    handle.ensureValid link = .error .handleClosed ↔ handle.closed = true := by
  have distinct : Fault.connectionReset ≠ .handleClosed := by decide
  -- An open handle that is invalid blames its connection instead.
  unfold ensureValid
  cases closed : handle.closed with
  | true => simp
  | false => cases handle.isValid link <;> simp [distinct]

/--
A handle counts its references, and closes its resource with the last of them.

Whatever the resource is, however often the handle is acquired and released, and whatever becomes of
its connection meanwhile: as many references are outstanding as it was made with and as were taken,
less those that were given back while there were any. The handle is closed when none is outstanding,
and only then. Its resource was closed once if it is and never otherwise, by the release of the last
reference, which was answered by what came of that. A release of nobody's handle is answered well,
logged once, and changes nothing; an open handle can be acquired and a closed one cannot. The handle
can be used while it is valid: open, and on the connection that it was made on, if any.
-/
theorem HandleLife.run_countsReferences (around : Surroundings Resource World) (resource : Resource)
    (made : Option Link) (traced : Bool) (world : World) (uses : List (HandleUse World)) :
    let start := HandleLife.new resource made traced world
    let turns := start.turns around uses
    let life := start.run around uses
    let link := around.link life.world
    life.handle.refs + turns.countP HandleTurn.gives = 1 + turns.countP HandleTurn.takes ∧
      (life.handle.closed = true ↔ life.handle.refs = 0) ∧
      life.closes = (turns.filter HandleTurn.givesLast).map HandleTurn.answer ∧
      life.closes.length = (if life.handle.closed then 1 else 0) ∧
      (∀ turn ∈ turns,
        turn.Fair around ∧
        (turn.use.isAcquire = true →
          (turn.answer = .ok () ↔ turn.before.handle.closed = false)) ∧
        (turn.givesLast = true →
          turn.answer = (around.close turn.before.handle.resource turn.before.world).1) ∧
        (turn.use.isRelease = true → turn.before.handle.refs = 0 →
          turn.answer = .ok () ∧ turn.after = { turn.before with
            log := turn.before.log ++ [.releaseUnderflow
              (around.describe turn.before.handle.resource turn.before.world)
              turn.before.handle.closed] })) ∧
      (life.handle.ensureValid link = .ok () ↔ life.handle.isValid link = true) ∧
      (life.handle.isValid link = true ↔ life.handle.closed = false ∧
        ∀ first, made = some first → ∃ now, link = some now ∧ now.connected = true ∧
          now.generation = first.generation) ∧
      (life.handle.ensureValid link = .error .handleClosed ↔ life.handle.closed = true) := by
  intro start turns life link
  -- What the handle is after the uses comes from its invariant, what each use did from its way.
  have sound : life.Sound (made.map (·.generation)) :=
    (HandleLife.Sound.new resource made traced world).run uses
  refine ⟨start.refs_run uses, sound.closed_iff, start.closes_run uses, sound.closedOnce, ?_,
    Handle.ensureValid_ok_iff, Handle.isValid_iff_captured sound.closed_iff sound.captured link,
    Handle.ensureValid_handleClosed_iff⟩
  -- Each of the turns goes in one of the fair ways, which say all about it.
  intro turn listed
  have fair : turn.Fair around := start.turns_fair uses turn listed
  exact ⟨fair, fair.acquires_iff, fair.answer_givesLast, fair.overReleases⟩

end SmbBrowser
