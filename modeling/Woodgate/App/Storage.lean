import Woodgate.App.Pairing

/-!
# Storage that fails

`step` takes `persist` to succeed. An `Attempt` is a step together with what the model context
throws if the step gets to it: while it fetches, before anything is written, or while it saves,
when the settings have taken effect. `attempt_shows` says what a step can do to the screen.
-/

namespace Woodgate.App

open Library.Runs

/-- The error of the model context, as the methods see it. -/
def StorageFailure.error (failure : StorageFailure) : AppError := .other failure.localizedDescription

/-- The fetch a routine is in. -/
def Routine.fetching : Routine → Option Build
  | .bootstrap _ build | .performRefresh build | .beginPairing _ _ build => some build
  | _ => none

/-- The session `buildSession` returns with this answer. -/
def Build.session (foundation : Foundation) (build : Build) (now : Int) (answer : Answer) : Option ActiveSession :=
  match build.resume foundation now answer with
  | some (.returns session) => some session
  | _ => none

/-- The session the routine hands to `persist` when it gets this answer. -/
def Routine.persists (foundation : Foundation) (now : Int) (cancelled : Bool) (answer : Answer) :
    Routine → Option ActiveSession
  | .bootstrap _ build | .performRefresh build => build.session foundation now answer
  | .beginPairing _ _ build => if cancelled then none else build.session foundation now answer
  | _ => none

namespace State

/-- `persist` up to where it throws. -/
def write (s : State) (session : ActiveSession) (stationSecret : String) : StorageFailure → State
  | .fetch _ => s
  | .save _ => s.persist session stationSecret

/-- The rest of a routine whose `persist` throws. -/
def failPersist (s : State) (task : TaskID) (session : ActiveSession) (failure : StorageFailure) : Routine → State
  | .bootstrap cachedSession _ => { (s.set task none).write session s.settings.stationSecret failure with
      currentSession := cachedSession
      unavailableState := unavailableStateFor failure.error }.startControlConnection
  | .performRefresh _ => { (s.set task none).write session s.settings.stationSecret failure with
      unavailableState := unavailableStateFor failure.error }
  | .beginPairing stationKey link _ => (s.write session stationKey failure).failPairing task link false failure.error
  | _ => s

/-- The task that gets to `persist` in this step, its routine and the session. -/
def persisting (foundation : Foundation) (s : State) : Label → Option (TaskID × Routine × ActiveSession)
  | .resume task answer now cancelled => do
    let routine ← s.tasks task
    let session ← routine.persists foundation now cancelled answer
    some (task, routine, session)
  | _ => none

end State

/-- A step, and what the model context throws if the step persists a session. -/
structure Attempt where
  label : Label
  storage : Option StorageFailure := none

/-- Steps in which the model context works. -/
def attempts (labels : List Label) : List Attempt := labels.map fun label => { label }

def attempt (foundation : Foundation) (s : State) (a : Attempt) : Option State :=
  match s.persisting foundation a.label, a.storage with
  | some (task, routine, session), some failure => some (s.failPersist task session failure routine)
  | _, _ => step foundation s a.label

/-- With a model context that works an attempt is a step. -/
theorem attempt_step {foundation : Foundation} {s : State} {label : Label} :
    attempt foundation s { label } = step foundation s label := by
  unfold attempt
  split
  · rename_i failed
    cases failed
  · rfl

/-! ## The screen -/

/-- What `ContentView.rootView` shows. -/
inductive Screen where
  | unavailable (state : UnavailableState)
  | checkinHome (session : ActiveSession)
  /-- the saved configuration is unavailable -/
  | saved
  | welcome
  deriving DecidableEq, Repr

def State.rootView (s : State) : Screen :=
  match s.currentSession, s.unavailableState with
  | some _, some state => .unavailable state
  | some session, none => .checkinHome session
  | none, _ => if s.settings.hasPairing then .saved else .welcome

/-- The session and the unavailable state. -/
def State.screen (s : State) : Option ActiveSession × Option UnavailableState := (s.currentSession, s.unavailableState)

section Screens

variable {foundation : Foundation} {s : State} (task : TaskID) (loop : ControlLoop)

@[simp] theorem screen_set (routine : Option Routine) : (s.set task routine).screen = s.screen := rfl

@[simp] theorem screen_spawn (routine : Routine) : (s.spawn routine).screen = s.screen := rfl

@[simp] theorem screen_request : s.request.screen = s.screen := rfl

@[simp] theorem screen_answered (client : WoodGateAPIClient) (answer : Answer) : (s.answered client answer).screen = s.screen := by
  unfold State.answered
  split <;> rfl

@[simp] theorem screen_write (session : ActiveSession) (stationSecret : String) (failure : StorageFailure) :
    (s.write session stationSecret failure).screen = s.screen := by
  cases failure <;> rfl

@[simp] theorem screen_clearStoredSession (failure : Option StorageFailure) :
    (s.clearStoredSession failure).screen = s.screen := by
  unfold State.clearStoredSession
  split <;> rfl

@[simp] theorem screen_startControlConnection : s.startControlConnection.screen = s.screen := by
  unfold State.startControlConnection
  split <;> rfl

@[simp] theorem screen_cancel : (s.cancel task).screen = s.screen := by
  unfold State.cancel
  split <;> rfl

@[simp] theorem screen_stopControlConnection : s.stopControlConnection.screen = s.screen := by
  unfold State.stopControlConnection
  cases s.controlTask with
  | none => rfl
  | some task => exact screen_cancel task

@[simp] theorem screen_refreshSession : s.refreshSession.1.screen = s.screen := by
  unfold State.refreshSession
  split
  · rfl
  · split
    · split <;> rfl
    · rfl

@[simp] theorem screen_refreshed (wait : RefreshWait) : (s.refreshed wait).screen = s.screen := by
  unfold State.refreshed
  split <;> rfl

@[simp] theorem screen_callRefresh : s.callRefresh.screen = s.screen := by
  have refreshed := @screen_refreshSession s
  unfold State.callRefresh
  split
  · rename_i returned
    rw [returned] at refreshed
    exact refreshed
  · rename_i returned
    rw [returned] at refreshed
    exact refreshed

@[simp] theorem screen_failPairing (link cancelled : Bool) (error : AppError) :
    (s.failPairing task link cancelled error).screen = s.screen := by
  unfold State.failPairing
  dsimp only
  split <;> rfl

@[simp] theorem screen_pair (payload : PairingPayload) (link cancelled : Bool) :
    (s.pair foundation task payload link cancelled).screen = s.screen := by
  unfold State.pair
  dsimp only
  split
  · simp
  · split
    · simp
    · rfl

@[simp] theorem screen_beginPairing (payload : PairingPayload) (link cancelled : Bool) :
    (s.beginPairing foundation payload link cancelled).screen = s.screen := by
  unfold State.beginPairing
  split
  · split <;> rfl
  · dsimp only
    split
    · rfl
    · rw [screen_pair]
      rfl

@[simp] theorem screen_submitCheckin (session : ActiveSession) (person : PersonSummary) (direction : CheckinDirectionChoice)
    (notes : String) (selfie : Option (List UInt8)) :
    (s.submitCheckin foundation session person direction notes selfie).screen = s.screen := by
  unfold State.submitCheckin
  split <;> rfl

@[simp] theorem screen_endControl : (s.endControl task loop).screen = s.screen := rfl

@[simp] theorem screen_waitAt (point : ControlPoint) : (s.waitAt task loop point).screen = s.screen := rfl

@[simp] theorem screen_connectControl : (s.connectControl foundation task loop).screen = s.screen := by
  unfold State.connectControl
  split
  · split <;> rfl
  · rfl

@[simp] theorem screen_receiveControl : (s.receiveControl task loop).screen = s.screen := by
  unfold State.receiveControl
  split <;> rfl

@[simp] theorem screen_failControl : (s.failControl task loop).screen = s.screen := by
  unfold State.failControl
  split <;> rfl

@[simp] theorem screen_handleMessage (type : String) : (s.handleMessage task loop type).screen = s.screen := by
  have refreshed := @screen_refreshSession s
  unfold State.handleMessage
  split
  · rfl
  split
  · split
    · rename_i returned
      rw [returned] at refreshed
      exact refreshed
    · rename_i returned
      rw [returned] at refreshed
      simpa using refreshed
  · simp

theorem screen_resumeControl {s' : State} {answer : Answer} (h : s.resumeControl foundation task loop answer = some s') :
    s'.screen = s.screen := by
  unfold State.resumeControl at h
  cases answer with
  | resumed =>
    dsimp only at h
    split at h
    · cases h
      simp
    · split at h <;> cases h
      simp
    · cases h
  | sent result | message result | slept result =>
    dsimp only at h
    split at h <;> cases h <;> simp
  | _ => cases h

end Screens

/-- The error with which a method that awaits `buildSession` fails at this answer. -/
def Build.failure (foundation : Foundation) (build : Build) (now : Int) (answer : Answer) (storage : Option StorageFailure) :
    Option AppError :=
  match build.resume foundation now answer with
  | some (.throws error) => some error
  | some (.returns _) => storage.map StorageFailure.error
  | _ => none

/-- What `bootstrap` or a refresh leaves on the screen when this step makes it fail. -/
def State.givesUp (foundation : Foundation) (s : State) (a : Attempt) : Option (Option ActiveSession × Option UnavailableState) :=
  match a.label with
  | .bootstrap failure =>
    if s.settings.hasPairing then
      match s.loadStoredSession failure, s.settings.woodGateClient foundation with
      | .ok cachedSession, none => some (cachedSession, if cachedSession.isNone then some .connectivity else none)
      | _, _ => none
    else none
  | .resume task answer now _ =>
    match s.tasks task with
    | some (.bootstrap cachedSession build) =>
      (build.failure foundation now answer a.storage).map fun error => (cachedSession, unavailableStateFor error)
    | some (.performRefresh build) =>
      (build.failure foundation now answer a.storage).map fun error => (s.currentSession, unavailableStateFor error)
    | some (.refreshTask _) =>
      if (s.settings.woodGateClient foundation).isNone then
        some (s.currentSession, unavailableStateFor (.woodGateError "The saved Station pairing is invalid."))
      else none
    | _ => none
  | _ => none

/-- `persist` has stored the session. -/
def State.Stores (s : State) (session : ActiveSession) : Prop :=
  (∃ stationSecret, s.settings = AppSettings.store session stationSecret) ∧ s.people = State.records session.people

section Stored

variable {s : State} {session : ActiveSession}

@[simp] theorem stores_startControlConnection : s.startControlConnection.Stores session ↔ s.Stores session := by
  unfold State.startControlConnection
  split <;> rfl

@[simp] theorem stores_cancel {task : TaskID} : (s.cancel task).Stores session ↔ s.Stores session := by
  unfold State.cancel
  split <;> rfl

@[simp] theorem stores_stopControlConnection : s.stopControlConnection.Stores session ↔ s.Stores session := by
  unfold State.stopControlConnection
  cases s.controlTask with
  | none => rfl
  | some task => exact stores_cancel

end Stored

/-- What an attempt can do to the screen. -/
inductive Shows (foundation : Foundation) (s : State) (a : Attempt) (s' : State) : Prop
  | keeps (screen : s'.screen = s.screen)
  | reports (state : UnavailableState) (screen : s'.screen = (s.currentSession, some state))
  /-- a start without a pairing -/
  | empties (screen : s'.screen = (none, s.unavailableState))
  | forgets (label : a.label = .forgetPairing none) (screen : s'.screen = (none, none))
  | givesUp (given : s.givesUp foundation a = some s'.screen)
  | stores (task : TaskID) (routine : Routine) (session : ActiveSession)
      (persisting : s.persisting foundation a.label = some (task, routine, session)) (stored : s'.Stores session)
      (screen : s'.screen = (some session, if session.location.enabled then none else some .locationDisabled))

section Steps

variable {foundation : Foundation} {s s' : State} {task : TaskID} {build : Build} {now : Int} {answer : Answer} {label : Label}
  {storage : Option StorageFailure}

theorem Build.session_of_returns {session : ActiveSession} (h : build.resume foundation now answer = some (.returns session)) :
    build.session foundation now answer = some session := by
  unfold Build.session
  rw [h]

theorem shows_bootstrap {failure : Option StorageFailure} :
    Shows foundation s ⟨.bootstrap failure, storage⟩ (s.bootstrap foundation failure) := by
  unfold State.bootstrap
  split
  · rename_i held
    split
    · exact .keeps rfl
    · rename_i cachedSession loaded
      split
      · rename_i without
        refine .givesUp ?_
        simp [State.givesUp, held, loaded, without, State.screen]
      · exact .keeps rfl
  · split
    · rename_i failure
      exact .keeps (screen_clearStoredSession (some failure))
    · exact .empties (screen_stopControlConnection.trans rfl)

theorem shows_forgetPairing {failure : Option StorageFailure} :
    Shows foundation s ⟨.forgetPairing failure, storage⟩ (s.forgetPairing failure) := by
  unfold State.forgetPairing
  dsimp only
  split
  · rename_i failure
    refine .keeps ?_
    show (s.stopControlConnection.clearStoredSession (some failure)).screen = s.screen
    simp
  · exact .forgets rfl rfl

theorem shows_resumeBootstrap {cachedSession : Option ActiveSession} {cancelled : Bool}
    (found : s.tasks task = some (.bootstrap cachedSession build))
    (resumed : s.resumeBootstrap foundation task cachedSession build now answer = some s') :
    Shows foundation s ⟨.resume task answer now cancelled, storage⟩ s' := by
  obtain ⟨progress, advanced, rfl⟩ := Option.map_eq_some_iff.1 resumed
  cases progress with
  | waits next => exact .keeps (screen_answered _ _)
  | returns session =>
    refine .stores task (.bootstrap cachedSession build) session ?_ ?_ screen_startControlConnection
    · simp [State.persisting, found, Routine.persists, Build.session_of_returns advanced]
    · exact stores_startControlConnection.2 ⟨⟨s.settings.stationSecret, rfl⟩, rfl⟩
  | throws error =>
    refine .givesUp ?_
    simp only [State.givesUp, found, Build.failure, advanced, Option.map_some, screen_startControlConnection]
    rfl

theorem shows_resumeRefresh {cancelled : Bool} (found : s.tasks task = some (.performRefresh build))
    (resumed : s.resumeRefresh foundation task build now answer = some s') :
    Shows foundation s ⟨.resume task answer now cancelled, storage⟩ s' := by
  obtain ⟨progress, advanced, rfl⟩ := Option.map_eq_some_iff.1 resumed
  cases progress with
  | waits next => exact .keeps (screen_answered _ _)
  | returns session =>
    refine .stores task (.performRefresh build) session ?_ ⟨⟨s.settings.stationSecret, rfl⟩, rfl⟩ rfl
    simp [State.persisting, found, Routine.persists, Build.session_of_returns advanced]
  | throws error =>
    refine .givesUp ?_
    simp only [State.givesUp, found, Build.failure, advanced, Option.map_some]
    rfl

theorem shows_resumePairing {stationKey : String} {link cancelled : Bool}
    (found : s.tasks task = some (.beginPairing stationKey link build))
    (resumed : s.resumePairing foundation task stationKey link build now cancelled answer = some s') :
    Shows foundation s ⟨.resume task answer now cancelled, storage⟩ s' := by
  obtain ⟨progress, advanced, rfl⟩ := Option.map_eq_some_iff.1 resumed
  cases progress with
  | waits next => exact .keeps (screen_answered _ _)
  | throws error => exact .keeps (screen_failPairing task link cancelled error)
  | returns session =>
    dsimp only
    split
    · exact .keeps (screen_failPairing task link cancelled _)
    · rename_i uncancelled
      have persisting : s.persisting foundation (.resume task answer now cancelled) =
          some (task, .beginPairing stationKey link build, session) := by
        simp [State.persisting, found, Routine.persists, uncancelled, Build.session_of_returns advanced]
      have stored : (((s.set task none).persist session stationKey).paired
          ⟨build.baseURLString, stationKey, build.client⟩).stopControlConnection.Stores session :=
        stores_stopControlConnection.2 ⟨⟨stationKey, rfl⟩, rfl⟩
      have shown : (State.showSession _ session).Stores session := stored
      exact .stores task _ session persisting (stores_startControlConnection.2 shown) screen_startControlConnection

theorem shows_step (taken : step foundation s label = some s') : Shows foundation s ⟨label, storage⟩ s' := by
  cases label with
  | bootstrap failure =>
    cases taken
    exact shows_bootstrap
  | refreshSession =>
    cases taken
    exact .keeps screen_callRefresh
  | handleSceneActive =>
    cases taken
    exact .keeps (by simp [State.handleSceneActive])
  | beginPairing payload link cancelled =>
    cases taken
    exact .keeps (screen_beginPairing payload link cancelled)
  | forgetPairing failure =>
    cases taken
    exact shows_forgetPairing
  | submitCheckin session person direction notes selfie =>
    dsimp only [step] at taken
    split at taken <;> cases taken
    exact .keeps (screen_submitCheckin session person direction notes selfie)
  | handleSubmissionFailure error =>
    cases taken
    unfold State.handleSubmissionFailure
    split
    · exact .reports _ rfl
    · exact .keeps rfl
  | resume task answer now cancelled =>
    dsimp only [step, State.resume] at taken
    cases found : s.tasks task with
    | none =>
      rw [found] at taken
      cases taken
    | some routine =>
      rw [found] at taken
      dsimp only at taken
      cases routine with
      | bootstrap cachedSession build => exact shows_resumeBootstrap found taken
      | refreshSession wait =>
        cases answer <;> try cases taken
        dsimp only at taken
        split at taken <;> cases taken
        exact .keeps (by simp)
      | refreshTask session =>
        cases answer <;> cases taken
        unfold State.performRefresh
        split
        · rename_i without
          refine .givesUp ?_
          simp only [State.givesUp, found, without]
          rfl
        · exact .keeps rfl
      | performRefresh build => exact shows_resumeRefresh found taken
      | awaitRefresh payload link awaited =>
        cases answer <;> try cases taken
        dsimp only at taken
        split at taken <;> cases taken
        exact .keeps (screen_pair task payload link cancelled)
      | beginPairing stationKey link build => exact shows_resumePairing found taken
      | submitCheckin client request =>
        cases answer <;> cases taken
        exact .keeps rfl
      | runControlConnection loop => exact .keeps (screen_resumeControl task loop taken)

theorem Build.session_eq_some {session : ActiveSession} (h : build.session foundation now answer = some session) :
    build.resume foundation now answer = some (.returns session) := by
  unfold Build.session at h
  split at h <;> cases h
  assumption

/-- A session that is persisted is made of the configuration, the people and the images of its fetch. -/
theorem persists_eq_some {routine : Routine} {cancelled : Bool} {session : ActiveSession}
    (h : routine.persists foundation now cancelled answer = some session) :
    ∃ build configuration people lastSyncedAt background logo, answer = .images background logo ∧
      routine.fetching = some build ∧ build.point = .images configuration people lastSyncedAt ∧
      session = makeSession foundation build.baseURLString configuration people lastSyncedAt build.fallbackSession
        background logo := by
  have built : ∀ build : Build, build.session foundation now answer = some session →
      ∃ configuration people lastSyncedAt background logo, answer = .images background logo ∧
        build.point = .images configuration people lastSyncedAt ∧
        session = makeSession foundation build.baseURLString configuration people lastSyncedAt build.fallbackSession
          background logo := by
    intro build returned
    have returned := Build.session_eq_some returned
    unfold Build.resume at returned
    cases answer with
    | images background logo =>
      dsimp only at returned
      split at returned <;> cases returned
      rename_i configuration people lastSyncedAt point
      exact ⟨configuration, people, lastSyncedAt, background, logo, rfl, point, rfl⟩
    | configuration result =>
      dsimp only at returned
      split at returned
      · cases returned
      · split at returned <;> cases returned
      · cases returned
    | people result =>
      dsimp only at returned
      split at returned <;> cases returned
    | _ => cases returned
  cases routine with
  | bootstrap cachedSession build | performRefresh build => exact ⟨build, by simpa [Routine.fetching] using built build h⟩
  | beginPairing stationKey link build =>
    have h : (if cancelled then none else build.session foundation now answer) = some session := h
    split at h
    · cases h
    · exact ⟨build, by simpa [Routine.fetching] using built build h⟩
  | _ => cases h

/-- The step in which a task gets to `persist`. -/
theorem persisting_eq_some {routine : Routine} {session : ActiveSession}
    (h : s.persisting foundation label = some (task, routine, session)) : ∃ answer now cancelled,
      label = .resume task answer now cancelled ∧ s.tasks task = some routine ∧
      routine.persists foundation now cancelled answer = some session := by
  cases label with
  | resume other answer now cancelled =>
    simp only [State.persisting, Option.bind_eq_bind, Option.bind_eq_some_iff, Option.some.injEq, Prod.mk.injEq] at h
    obtain ⟨found, running, shown, persists, rfl, rfl, rfl⟩ := h
    exact ⟨answer, now, cancelled, rfl, running, persists⟩
  | _ => cases h

theorem shows_failPersist {routine : Routine} {session : ActiveSession} {failure : StorageFailure} {cancelled : Bool}
    (found : s.tasks task = some routine) (persists : routine.persists foundation now cancelled answer = some session) :
    Shows foundation s ⟨.resume task answer now cancelled, some failure⟩ (s.failPersist task session failure routine) := by
  cases routine with
  | bootstrap cachedSession build =>
    have returned : build.resume foundation now answer = some (.returns session) := Build.session_eq_some persists
    refine .givesUp ?_
    simp only [State.givesUp, found, Build.failure, returned, Option.map_some, State.failPersist, screen_startControlConnection]
    rfl
  | performRefresh build =>
    have returned : build.resume foundation now answer = some (.returns session) := Build.session_eq_some persists
    have kept : (State.write (s.set task none) session s.settings.stationSecret failure).currentSession = s.currentSession :=
      congrArg Prod.fst (screen_write session s.settings.stationSecret failure)
    refine .givesUp ?_
    simp only [State.givesUp, found, Build.failure, returned, Option.map_some, State.failPersist, State.screen, kept]
  | beginPairing stationKey link build => exact .keeps (by simp [State.failPersist])
  | _ => cases persists

/-- **What an attempt does to the screen.** -/
theorem attempt_shows {a : Attempt} (taken : attempt foundation s a = some s') : Shows foundation s a s' := by
  obtain ⟨label, storage⟩ := a
  unfold attempt at taken
  split at taken
  · rename_i task routine session failure persisting failed
    cases taken
    obtain ⟨answer, now, cancelled, resumed, found, persists⟩ := persisting_eq_some persisting
    have failed : storage = some failure := failed
    have resumed : label = .resume task answer now cancelled := resumed
    subst failed resumed
    exact shows_failPersist found persists
  · exact shows_step taken

end Steps

end Woodgate.App
