import Woodgate.App.Edits

/-!
# Branding images

A fetch carries the images of the session before it: the image of an object that has not
changed is not loaded again, and one that cannot be loaded is replaced by the last one. So the
image of the last object may stand under the id of the new one, and as the next fetch compares
the ids it stays there (`stale_background_stays`). In the runs in which no fetch replaces an
image it could not load by another object's (`Own`), a session has the images of its own
objects or none (`run_branding`).
-/

namespace Woodgate.App

open Library.Runs

/-- The two images of a location. -/
inductive BrandingSlot where
  | background
  | logo
  deriving DecidableEq, Repr

namespace BrandingSlot

def objectID (slot : BrandingSlot) (location : ActiveLocation) : Option Int :=
  match slot with
  | .background => location.backgroundObjectID
  | .logo => location.logoObjectID

def image (slot : BrandingSlot) (session : ActiveSession) : Option UIImage :=
  match slot with
  | .background => session.backgroundImage
  | .logo => session.logoImage

end BrandingSlot

instance {p : BrandingSlot → Prop} [DecidablePred p] : Decidable (∀ slot, p slot) :=
  decidable_of_iff (p .background ∧ p .logo) ⟨fun h slot => by cases slot; exacts [h.1, h.2], fun h => ⟨h _, h _⟩⟩

/-- The images of a session are those of its objects. -/
def Pictured (picture : Int → UIImage) (session : ActiveSession) : Prop :=
  ∀ slot : BrandingSlot, ∀ image ∈ slot.image session, ∃ id, slot.objectID session.location = some id ∧ image = picture id

/-- A fetch at its last answer. -/
structure Download where
  build : Build
  configuration : StationConfiguration
  background : Except AppError (List UInt8)
  logo : Except AppError (List UInt8)

namespace Download

def load (d : Download) : BrandingSlot → Except AppError (List UInt8)
  | .background => d.background
  | .logo => d.logo

/-- The object whose image the fetch looks for. -/
def objectID (d : Download) (slot : BrandingSlot) : Option Int := slot.objectID d.configuration.location

/-- The object of the session before, and its image. -/
def previousID (d : Download) (slot : BrandingSlot) : Option Int :=
  d.build.fallbackSession.bind fun session => slot.objectID session.location

def previousImage (d : Download) (slot : BrandingSlot) : Option UIImage := d.build.fallbackSession.bind slot.image

/-- The image that is loaded, when it is and can be decoded. -/
def decoded (foundation : Foundation) (d : Download) (slot : BrandingSlot) : Option UIImage :=
  match d.load slot with
  | .ok data => foundation.image data
  | .error _ => none

end Download

/-- The fetch that gets its images in this step. -/
def State.download (s : State) : Label → Option Download
  | .resume task (.images background logo) _ _ => do
    let routine ← s.tasks task
    let build ← routine.fetching
    match build.point with
    | .images configuration _ _ => some { build, configuration, background, logo }
    | _ => none
  | _ => none

/-- What is loaded is the image of the object. -/
def Genuine (foundation : Foundation) (picture : Int → UIImage) (s : State) (a : Attempt) : Prop :=
  ∀ d ∈ s.download a.label, ∀ slot, ∀ id ∈ d.objectID slot, ∀ image ∈ d.decoded foundation slot, image = picture id

/-- An image that had to be loaded for another object than before, and was not, takes the place of no other one. -/
def Own (foundation : Foundation) (picture : Int → UIImage) (s : State) (a : Attempt) : Prop :=
  ∀ d ∈ s.download a.label, ∀ slot, ∀ id ∈ d.objectID slot, d.previousID slot ≠ some id →
    d.decoded foundation slot = none → ∀ image ∈ d.previousImage slot, image = picture id

instance (foundation : Foundation) (picture : Int → UIImage) (s : State) (a : Attempt) :
    Decidable (Genuine foundation picture s a) := by
  unfold Genuine
  infer_instance

instance (foundation : Foundation) (picture : Int → UIImage) (s : State) (a : Attempt) :
    Decidable (Own foundation picture s a) := by
  unfold Own
  infer_instance

section Slots

variable {foundation : Foundation} {picture : Int → UIImage} {d : Download} {slot : BrandingSlot} {people : List PersonSummary}
  {lastSyncedAt : Int}

/-- The session the fetch returns. -/
def Download.session (foundation : Foundation) (d : Download) (people : List PersonSummary) (lastSyncedAt : Int) :
    ActiveSession :=
  makeSession foundation d.build.baseURLString d.configuration people lastSyncedAt d.build.fallbackSession d.background d.logo

theorem image_session : slot.image (d.session foundation people lastSyncedAt) =
    loadBrandingImage foundation (d.objectID slot) (d.previousID slot) (d.previousImage slot) (d.load slot) := by
  cases slot <;> rfl

/-- What `loadBrandingImage` does: no object has no image, an object of before keeps its image,
and another one gets what is loaded or, failing that, the last image. -/
theorem image_session_cases (d : Download) (slot : BrandingSlot) (people : List PersonSummary) (lastSyncedAt : Int) :
    (d.objectID slot = none ∧ slot.image (d.session foundation people lastSyncedAt) = none) ∨
    (∃ id, d.objectID slot = some id ∧ d.previousID slot = some id ∧ (d.previousImage slot).isSome ∧
      slot.image (d.session foundation people lastSyncedAt) = d.previousImage slot) ∨
    ∃ id, d.objectID slot = some id ∧ (d.previousID slot = some id → d.previousImage slot = none) ∧
      slot.image (d.session foundation people lastSyncedAt) = (d.decoded foundation slot).orElse fun _ => d.previousImage slot := by
  rw [image_session]
  unfold loadBrandingImage
  cases wanted : d.objectID slot with
  | none => exact .inl ⟨rfl, rfl⟩
  | some id =>
    refine .inr ?_
    dsimp only
    split
    · rename_i cached
      exact .inl ⟨id, rfl, cached.1.symm, cached.2, rfl⟩
    · rename_i uncached
      refine .inr ⟨id, rfl, fun same => ?_, ?_⟩
      · rw [← Option.not_isSome_iff_eq_none]
        exact fun present => uncached ⟨same.symm, present⟩
      · unfold Download.decoded
        cases d.load slot <;> rfl

/-- A fetch that meets the conditions returns a session with the images of its own objects. -/
theorem pictured_session (before : ∀ session ∈ d.build.fallbackSession, Pictured picture session)
    (genuine : ∀ slot, ∀ id ∈ d.objectID slot, ∀ image ∈ d.decoded foundation slot, image = picture id)
    (own : ∀ slot, ∀ id ∈ d.objectID slot, d.previousID slot ≠ some id → d.decoded foundation slot = none →
      ∀ image ∈ d.previousImage slot, image = picture id) : Pictured picture (d.session foundation people lastSyncedAt) := by
  have previous : ∀ slot, ∀ image ∈ d.previousImage slot, ∃ id, d.previousID slot = some id ∧ image = picture id := by
    intro slot image there
    obtain ⟨session, fallback, shows⟩ := Option.bind_eq_some_iff.1 there
    obtain ⟨id, object, same⟩ := before session fallback slot image shows
    exact ⟨id, by simp [Download.previousID, fallback, object], same⟩
  intro slot image there
  obtain ⟨_, absent⟩ | ⟨id, wanted, cached, _, carried⟩ | ⟨id, wanted, uncached, loaded⟩ :=
    @image_session_cases foundation d slot people lastSyncedAt
  · rw [absent] at there
    cases there
  · rw [carried] at there
    obtain ⟨id', object, same⟩ := previous slot image there
    cases cached.symm.trans object
    exact ⟨id, wanted, same⟩
  · refine ⟨id, wanted, ?_⟩
    rw [loaded] at there
    cases decodes : d.decoded foundation slot with
    | some decoded =>
      rw [decodes] at there
      cases there
      exact genuine slot id wanted _ decodes
    | none =>
      rw [decodes] at there
      refine own slot id wanted (fun same => ?_) decodes image there
      cases (uncached same).symm.trans there

/-- An image that can be loaded is shown, unless it is there already. -/
theorem image_of_decoded (pictured : Pictured picture (d.session foundation people lastSyncedAt))
    (decodes : d.objectID slot ≠ none → d.decoded foundation slot ≠ none) :
    slot.image (d.session foundation people lastSyncedAt) = (d.objectID slot).map picture := by
  have shows : ∀ id, d.objectID slot = some id → slot.image (d.session foundation people lastSyncedAt) ≠ none →
      slot.image (d.session foundation people lastSyncedAt) = (d.objectID slot).map picture := by
    intro id wanted present
    obtain ⟨image, there⟩ := Option.ne_none_iff_exists'.1 present
    obtain ⟨id', object, same⟩ := pictured slot image there
    have object : d.objectID slot = some id' := object
    rw [there, object, same]
    rfl
  obtain ⟨unwanted, absent⟩ | ⟨id, wanted, _, present, carried⟩ | ⟨id, wanted, _, loaded⟩ :=
    @image_session_cases foundation d slot people lastSyncedAt
  · rw [absent, unwanted]
    rfl
  · refine shows id wanted ?_
    rw [carried]
    exact Option.isSome_iff_ne_none.1 present
  · refine shows id wanted ?_
    obtain ⟨image, decoded⟩ := Option.ne_none_iff_exists'.1 (decodes (by simp [wanted]))
    rw [loaded, decoded]
    exact Option.some_ne_none _

end Slots

/-! ## The images of a run -/

section Run

variable {foundation : Foundation} {picture : Int → UIImage} {s s' : State} {a : Attempt}

/-- The current session and those of the tasks have the images of their own objects. -/
structure State.Faithful (picture : Int → UIImage) (s : State) : Prop where
  current : ∀ session ∈ s.currentSession, Pictured picture session
  tended : s.Tended (Pictured picture)

theorem pictured_bare (session : ActiveSession) (background : session.backgroundImage = none)
    (logo : session.logoImage = none) : Pictured picture session := by
  intro slot image there
  cases slot
  · cases background.symm.trans there
  · cases logo.symm.trans there

/-- The session that is persisted is what the fetch returns. -/
theorem download_of_persisting {task : TaskID} {routine : Routine} {session : ActiveSession}
    (h : s.persisting foundation a.label = some (task, routine, session)) :
    ∃ d people lastSyncedAt, s.download a.label = some d ∧ session = d.session foundation people lastSyncedAt ∧
      s.tasks task = some routine ∧ routine.fetching = some d.build := by
  obtain ⟨answer, now, cancelled, label, found, persists⟩ := persisting_eq_some h
  obtain ⟨build, configuration, people, lastSyncedAt, background, logo, rfl, fetching, point, rfl⟩ := persists_eq_some persists
  refine ⟨⟨build, configuration, background, logo⟩, people, lastSyncedAt, ?_, rfl, found, fetching⟩
  rw [label]
  simp [State.download, found, fetching, point]

theorem mem_sessions_of_fetching {routine : Routine} {build : Build} (fetching : routine.fetching = some build)
    {session : ActiveSession} (fallback : session ∈ build.fallbackSession) : session ∈ routine.sessions := by
  cases routine <;> simp_all [Routine.fetching, Routine.sessions]

/-- The session a fetch returns that meets the conditions. -/
theorem State.Faithful.pictured {task : TaskID} {routine : Routine} {session : ActiveSession} (faithful : s.Faithful picture)
    (genuine : Genuine foundation picture s a) (own : Own foundation picture s a)
    (h : s.persisting foundation a.label = some (task, routine, session)) : Pictured picture session := by
  obtain ⟨d, people, lastSyncedAt, download, rfl, found, fetching⟩ := download_of_persisting h
  exact pictured_session (fun session fallback => faithful.tended.carry task routine found session
    (mem_sessions_of_fetching fetching fallback)) (genuine d download) (own d download)

/-- A method that gives up leaves the session it had, the one it kept or the one of the settings. -/
theorem givesUp_session {screen : Option ActiveSession × Option UnavailableState} (h : s.givesUp foundation a = some screen)
    {session : ActiveSession} (shown : session ∈ screen.1) : session ∈ s.currentSession ∨
      (∃ task routine, s.tasks task = some routine ∧ session ∈ routine.sessions) ∨
      ∃ failure, s.loadStoredSession failure = .ok (some session) := by
  unfold State.givesUp at h
  split at h
  · rename_i failure label
    split at h
    · split at h <;> cases h
      rename_i loaded without
      cases shown
      exact .inr (.inr ⟨failure, loaded⟩)
    · cases h
  · rename_i task answer now cancelled label
    split at h
    · rename_i cachedSession build found
      obtain ⟨error, _, rfl⟩ := Option.map_eq_some_iff.1 h
      refine .inr (.inl ⟨task, _, found, ?_⟩)
      cases shown
      exact List.mem_append_left _ (List.mem_singleton.2 rfl)
    · obtain ⟨error, _, rfl⟩ := Option.map_eq_some_iff.1 h
      exact .inl shown
    · split at h <;> cases h
      exact .inl shown
    · cases h
  · cases h

theorem State.Faithful.attempt (faithful : s.Faithful picture) (genuine : Genuine foundation picture s a)
    (own : Own foundation picture s a) (taken : Woodgate.App.attempt foundation s a = some s') : s'.Faithful picture where
  tended := faithful.tended.attempt faithful.current pictured_bare taken
  current := by
    cases attempt_shows taken with
    | keeps screen =>
      rw [(Prod.mk.inj screen).1]
      exact faithful.current
    | reports state screen =>
      rw [(Prod.mk.inj screen).1]
      exact faithful.current
    | empties screen | forgets label screen =>
      rw [(Prod.mk.inj screen).1]
      exact nofun
    | stores task routine session persisting stored screen =>
      rw [(Prod.mk.inj screen).1]
      intro shown same
      cases same
      exact faithful.pictured genuine own persisting
    | givesUp given =>
      intro session shown
      rcases givesUp_session given shown with current | ⟨task, routine, found, mem⟩ | ⟨failure, loaded⟩
      · exact faithful.current session current
      · exact faithful.tended.carry task routine found session mem
      · obtain ⟨background, logo⟩ := loadStoredSession_bare loaded
        exact pictured_bare session background logo

/-- A fetch whose session can be stored shows it. -/
theorem persisting_shows {task : TaskID} {routine : Routine} {session : ActiveSession}
    (persisting : s.persisting foundation a.label = some (task, routine, session)) (saves : a.storage = none)
    (taken : Woodgate.App.attempt foundation s a = some s') : s'.currentSession = some session := by
  obtain ⟨label, storage⟩ := a
  cases saves
  rw [attempt_step] at taken
  obtain ⟨answer, now, cancelled, resumed, found, persists⟩ := persisting_eq_some persisting
  have resumed : label = .resume task answer now cancelled := resumed
  subst resumed
  simp only [step, State.resume, found] at taken
  have started : ∀ s : State, s.startControlConnection.currentSession = s.currentSession :=
    fun s => congrArg Prod.fst (screen_startControlConnection)
  cases routine with
  | bootstrap cachedSession build =>
    have returned : build.resume foundation now answer = some (.returns session) := Build.session_eq_some persists
    simp only [State.resumeBootstrap, returned, Option.map_some, Option.some.injEq] at taken
    rw [← taken]
    exact started _
  | performRefresh build =>
    have returned : build.resume foundation now answer = some (.returns session) := Build.session_eq_some persists
    simp only [State.resumeRefresh, returned, Option.map_some, Option.some.injEq] at taken
    rw [← taken]
    rfl
  | beginPairing stationKey link build =>
    have persists : (if cancelled then none else build.session foundation now answer) = some session := persists
    split at persists
    · cases persists
    · rename_i uncancelled
      have returned : build.resume foundation now answer = some (.returns session) := Build.session_eq_some persists
      simp only [State.resumePairing, returned, Option.map_some, Option.some.injEq, if_neg uncancelled] at taken
      rw [← taken]
      exact started _
  | _ => cases persists

end Run

/-- **The images are those of the configured branding**: in a run in which what is loaded is the image of the object, and
no image that could not be loaded is replaced by another object's, a session has the images of its own objects or
none, and a fetch whose images can be loaded shows them both. -/
theorem run_branding (foundation : Foundation) (picture : Int → UIImage) {s₀ s s' : State} {as : List Attempt} {a : Attempt}
    (idle : s₀.Idle) (start : ∀ session ∈ s₀.currentSession, Pictured picture session)
    (genuine : Guarded (attempt foundation) (Genuine foundation picture) s₀ (as ++ [a]))
    (own : Guarded (attempt foundation) (Own foundation picture) s₀ (as ++ [a]))
    (reached : run (attempt foundation) s₀ as = some s) (taken : attempt foundation s a = some s') :
    (∀ session ∈ s'.currentSession, Pictured picture session) ∧
    ∀ task routine session, s.persisting foundation a.label = some (task, routine, session) → a.storage = none →
      (∀ d ∈ s.download a.label, ∀ slot, d.objectID slot ≠ none → d.decoded foundation slot ≠ none) →
      s'.currentSession = some session ∧
        ∀ slot : BrandingSlot, slot.image session = (slot.objectID session.location).map picture := by
  have faithful₀ : s₀.Faithful picture :=
    ⟨start, .of_idle idle⟩
  have both : Guarded (attempt foundation) (fun s a => Genuine foundation picture s a ∧ Own foundation picture s a) s₀ (as ++ [a]) :=
    genuine.and own
  have faithful : s.Faithful picture := both.left.run_invariant (State.Faithful picture)
    (fun _ _ _ inv good taken => inv.attempt good.1 good.2 taken) faithful₀ reached
  obtain ⟨genuine, own⟩ := (both.right reached).1
  refine ⟨(faithful.attempt genuine own taken).current, fun task routine session persisting saves decodes => ?_⟩
  refine ⟨persisting_shows persisting saves taken, fun slot => ?_⟩
  have pictured := faithful.pictured genuine own persisting
  obtain ⟨d, people, lastSyncedAt, download, rfl, _, _⟩ := download_of_persisting persisting
  exact image_of_decoded pictured (decodes d download slot)

/-! ## A background that could not be loaded -/

/-- The image of an object. -/
def deskPicture (id : Int) : UIImage := [id.toNat.toUInt8]

def brandedConfiguration (id : Int) : StationConfiguration :=
  { deskConfiguration with location := { deskConfiguration.location with backgroundObjectID := some id } }

/-- The answers of a fetch up to its images, and its last answer. -/
def brandedAnswers (task : TaskID) (id : Int) : List Label :=
  [.resume task (.configuration (.ok (brandedConfiguration id))) 20 false, .resume task (.people (.ok [])) 20 false]

def brandedImages (task : TaskID) (background : Except AppError (List UInt8)) : Label :=
  .resume task (.images background (.error (.other "none"))) 20 false

/-- The first background cannot be loaded, and the refresh that loads it is at its last answer. -/
def brandedLate : List Attempt :=
  attempts ([.bootstrap none] ++ brandedAnswers 0 1 ++ [brandedImages 0 (.error (.other "timeout")), .refreshSession,
    .resume 2 .resumed 30 false] ++ brandedAnswers 2 1)

/-- The first background is loaded and the second one is not; the next refresh is at its last answer. -/
def brandedStale : List Attempt :=
  attempts ([.bootstrap none] ++ brandedAnswers 0 1 ++ [brandedImages 0 (.ok [1]), .refreshSession,
    .resume 2 .resumed 30 false] ++ brandedAnswers 2 2 ++ [brandedImages 2 (.error (.other "timeout")),
    .resume 3 .resumed 30 false, .refreshSession, .resume 4 .resumed 30 false] ++ brandedAnswers 4 2)

/-- The refresh shows the background that the start could not load. -/
theorem run_branding_desk : ∃ s s', run (attempt deskFoundation) deskState brandedLate = some s ∧
    attempt deskFoundation s { label := brandedImages 2 (.ok [1]) } = some s' ∧
    s.currentSession.bind (·.backgroundImage) = none ∧ s'.currentSession.bind (·.backgroundImage) = some (deskPicture 1) := by
  have ends : ((run (attempt deskFoundation) deskState brandedLate).any fun s =>
      (attempt deskFoundation s { label := brandedImages 2 (.ok [1]) }).any fun _ =>
        (s.persisting deskFoundation (brandedImages 2 (.ok [1]))).any fun p =>
          (s.download (brandedImages 2 (.ok [1]))).any fun d => decide (s.currentSession.bind (·.backgroundImage) = none ∧
            p.2.2.location.backgroundObjectID = some 1 ∧ d.objectID .logo = none ∧
            d.decoded deskFoundation .background = some [1])) = true := by decide +kernel
  simp only [Option.any_eq_true, decide_eq_true_eq] at ends
  obtain ⟨s, reached, s', taken, ⟨task, routine, session⟩, persisting, d, download, without, object, plain, decoded⟩ := ends
  obtain ⟨_, shows⟩ := run_branding deskFoundation deskPicture (fun _ => rfl) (fun _ absent => by cases absent)
    (by decide +kernel) (by decide +kernel) reached taken
  obtain ⟨shown, images⟩ := shows task routine session persisting rfl fun d' there slot wanted => by
    cases download.symm.trans there
    cases slot
    · simp [decoded]
    · exact absurd plain wanted
  refine ⟨s, s', reached, taken, without, ?_⟩
  rw [shown, Option.bind_some]
  exact (images .background).trans (congrArg (Option.map deskPicture) object)

/-- The refresh after the one that failed has nothing that fails, and still shows the first background under the id of the second one. -/
theorem stale_background_stays : ∃ s s', run (attempt deskFoundation) deskState brandedStale = some s ∧
    attempt deskFoundation s { label := brandedImages 4 (.ok (deskPicture 2)) } = some s' ∧
    Guarded (attempt deskFoundation) (Genuine deskFoundation deskPicture) deskState
      (brandedStale ++ [{ label := brandedImages 4 (.ok (deskPicture 2)) }]) ∧
    ∃ session, s'.currentSession = some session ∧ session.location.backgroundObjectID = some 2 ∧
      session.backgroundImage = some (deskPicture 1) ∧ session.backgroundImage ≠ some (deskPicture 2) := by
  have ends : ((run (attempt deskFoundation) deskState brandedStale).bind fun s =>
      (attempt deskFoundation s { label := brandedImages 4 (.ok (deskPicture 2)) }).map fun s' =>
        s'.currentSession.map fun session => (session.location.backgroundObjectID, session.backgroundImage)) =
      some (some (some 2, some (deskPicture 1))) := by decide +kernel
  obtain ⟨s, reached, rest⟩ := Option.bind_eq_some_iff.1 ends
  obtain ⟨s', taken, seen⟩ := Option.map_eq_some_iff.1 rest
  obtain ⟨session, shown, images⟩ := Option.map_eq_some_iff.1 seen
  obtain ⟨object, stale⟩ := Prod.mk.inj images
  have differ : some (deskPicture 1) ≠ some (deskPicture 2) := by decide
  exact ⟨s, s', reached, taken, by decide +kernel, session, shown, object, stale, by rw [stale]; exact differ⟩

end Woodgate.App
