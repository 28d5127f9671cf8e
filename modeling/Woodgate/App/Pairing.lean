import Woodgate.App.ModelData
import Woodgate.Library.Runs

/-!
# Pairing coherence

`Coherent` is what the app promises between two steps: a session has a client, a stored
pairing is one pairing, and a forgotten pairing stays forgotten. `beginPairing` waits for
the refresh in flight and writes its own key; `bootstrap` and `performRefresh` write
whatever key `AppSettings` holds when their last answer arrives. A run is coherent when
the pairing they asked for is still the stored one then (`run_coherent`); when it is not,
a forgotten station comes back (`forgotten_station_comes_back`).
-/

namespace Woodgate.App

open Library.Runs

/-- What holds between any two steps. -/
structure Coherent (foundation : Foundation) (s : State) : Prop where
  /-- a session has a client, so the forced unwrap in `submitCheckin` finds one -/
  client : s.currentSession ≠ none → (s.settings.woodGateClient foundation).isSome
  unwraps : s.history.crashed = false
  /-- a stored pairing is one that succeeded, and the station is the one its server named for its key -/
  pairing : s.settings.hasPairing → ∃ p ∈ s.history.pairings,
    s.settings.baseURLString = p.baseURLString ∧ s.settings.stationSecret = p.stationKey ∧
    s.settings.woodGateClient foundation = some p.client ∧
    ∃ stationID, s.settings.stationID = some stationID ∧ (p.client, stationID) ∈ s.history.answers
  forgotten : s.history.forgotten → s.currentSession = none ∧ s.settings = {}

/-- The settings hold the pairing `build` asked with. -/
def State.Holds (foundation : Foundation) (s : State) (build : Build) : Prop :=
  s.settings.baseURLString = build.baseURLString ∧ s.settings.woodGateClient foundation = some build.client

instance (foundation : Foundation) (s : State) (build : Build) : Decidable (s.Holds foundation build) :=
  inferInstanceAs (Decidable (_ ∧ _))

namespace Routine

/-- The build whose session `bootstrap` or a refresh will store beside the key of the settings. -/
def storing : Routine → Option Build
  | .bootstrap _ build | .performRefresh build => some build
  | _ => none

/-- The session `bootstrap` falls back on. -/
def fallback : Routine → Option ActiveSession
  | .bootstrap cachedSession _ => cachedSession
  | _ => none

end Routine

/-- When `bootstrap` or a refresh gets its last answer, the settings still hold the pairing it asked with; when
`bootstrap` falls back on a cached session, they still hold a pairing. -/
def KeepsPairing (foundation : Foundation) (s : State) : Label → Prop
  | .resume task (.images _ _) _ _ => ∀ build ∈ (s.tasks task).bind Routine.storing, s.Holds foundation build
  | .resume task (.configuration (.error _)) _ _ | .resume task (.people (.error _)) _ _ =>
    ((s.tasks task).bind Routine.fallback).isSome → (s.settings.woodGateClient foundation).isSome
  | _ => True

instance (foundation : Foundation) (s : State) (label : Label) : Decidable (KeepsPairing foundation s label) := by
  unfold KeepsPairing
  split <;> infer_instance

/-- The configuration of a build is an answer its client got. -/
def Build.Answered (answers : List (WoodGateAPIClient × Int)) (build : Build) : Prop :=
  match build.point with
  | .configuration => True
  | .people configuration | .images configuration _ _ => (build.client, configuration.stationID) ∈ answers

/-- What a task knows about the client it asks with. -/
def Routine.Traced (foundation : Foundation) (answers : List (WoodGateAPIClient × Int)) : Routine → Prop
  | .bootstrap _ build | .performRefresh build => build.Answered answers
  | .beginPairing stationKey _ build =>
    AppSettings.client foundation build.baseURLString stationKey = some build.client ∧ build.Answered answers
  | _ => True

structure Sound (foundation : Foundation) (s : State) : Prop extends Coherent foundation s where
  traced : ∀ task routine, s.tasks task = some routine → routine.Traced foundation s.history.answers

section Builds

variable {foundation : Foundation} {build next : Build} {now : Int} {answer : Answer}

theorem Build.Answered.mono {answers more : List (WoodGateAPIClient × Int)} (grows : answers ⊆ more)
    (h : build.Answered answers) : build.Answered more := by
  unfold Build.Answered at h ⊢
  split <;> simp_all only <;> exact grows h

theorem Routine.Traced.mono {answers more : List (WoodGateAPIClient × Int)} {routine : Routine} (grows : answers ⊆ more)
    (h : routine.Traced foundation answers) : routine.Traced foundation more := by
  cases routine with
  | bootstrap cachedSession build => exact Build.Answered.mono grows h
  | performRefresh build => exact Build.Answered.mono grows h
  | beginPairing stationKey link build => exact ⟨h.1, Build.Answered.mono grows h.2⟩
  | _ => trivial

/-- A build that goes on asks the same server, and has its configuration from it. -/
theorem Build.resume_waits {s : State} (answered : build.Answered s.history.answers)
    (h : build.resume foundation now answer = some (.waits next)) :
    next.baseURLString = build.baseURLString ∧ next.client = build.client ∧
      next.Answered (s.answered build.client answer).history.answers := by
  unfold Build.resume at h
  cases answer with
  | configuration result =>
    dsimp only at h
    split at h
    · cases h
    · rename_i configuration point
      split at h <;> cases h <;> exact ⟨rfl, rfl, List.mem_cons_self⟩
    · cases h
  | people result =>
    dsimp only at h
    split at h
    · cases h
    · rename_i configuration people point
      cases h
      have known : (build.client, configuration.stationID) ∈ s.history.answers := by
        simpa only [Build.Answered, point] using answered
      exact ⟨rfl, rfl, known⟩
    · cases h
  | images background logo =>
    dsimp only at h
    split at h <;> cases h
  | _ => cases h

/-- A build returns a session of its base URL and of a station its client was named. -/
theorem Build.resume_returns {answers : List (WoodGateAPIClient × Int)} {session : ActiveSession}
    (answered : build.Answered answers) (h : build.resume foundation now answer = some (.returns session)) :
    (∃ background logo, answer = .images background logo) ∧ session.baseURLString = build.baseURLString ∧
      (build.client, session.stationID) ∈ answers := by
  unfold Build.resume at h
  cases answer with
  | images background logo =>
    dsimp only at h
    split at h
    · rename_i configuration people lastSyncedAt point
      cases h
      have known : (build.client, configuration.stationID) ∈ answers := by
        simpa only [Build.Answered, point] using answered
      exact ⟨⟨background, logo, rfl⟩, rfl, known⟩
    · cases h
  | configuration result =>
    dsimp only at h
    split at h
    · cases h
    · split at h <;> cases h
    · cases h
  | people result =>
    dsimp only at h
    split at h <;> cases h
  | _ => cases h

/-- A build throws what one of its requests threw. -/
theorem Build.resume_throws {error : AppError} (h : build.resume foundation now answer = some (.throws error)) :
    answer = .configuration (.error error) ∨ answer = .people (.error error) := by
  unfold Build.resume at h
  cases answer with
  | configuration result =>
    dsimp only at h
    split at h
    · cases h
      exact .inl rfl
    · split at h <;> cases h
    · cases h
  | people result =>
    dsimp only at h
    split at h <;> cases h
    exact .inr rfl
  | images background logo =>
    dsimp only at h
    split at h <;> cases h
  | _ => cases h

end Builds

/-- The settings, the session and the history are kept, and a new task is traced. -/
structure Kept (foundation : Foundation) (s s' : State) : Prop where
  settings : s'.settings = s.settings
  session : s'.currentSession = s.currentSession
  pairings : s'.history.pairings = s.history.pairings
  forgotten : s'.history.forgotten = s.history.forgotten
  crashed : s'.history.crashed = s.history.crashed
  answers : s.history.answers ⊆ s'.history.answers
  tasks : ∀ task routine, s'.tasks task = some routine →
    s.tasks task = some routine ∨ routine.Traced foundation s'.history.answers

namespace Kept

variable {foundation : Foundation} {s s' s'' : State}

theorem refl (s : State) : Kept foundation s s :=
  ⟨rfl, rfl, rfl, rfl, rfl, fun _ h => h, fun _ _ found => .inl found⟩

theorem trans (first : Kept foundation s s') (second : Kept foundation s' s'') : Kept foundation s s'' where
  settings := second.settings.trans first.settings
  session := second.session.trans first.session
  pairings := second.pairings.trans first.pairings
  forgotten := second.forgotten.trans first.forgotten
  crashed := second.crashed.trans first.crashed
  answers := fun _ h => second.answers (first.answers h)
  tasks task routine found := by
    rcases second.tasks task routine found with found | traced
    · exact (first.tasks task routine found).imp id (Routine.Traced.mono second.answers)
    · exact .inr traced

theorem sound (h : Kept foundation s s') (sound : Sound foundation s) : Sound foundation s' where
  client present := by
    rw [h.session] at present
    rw [h.settings]
    exact sound.client present
  unwraps := h.crashed.trans sound.unwraps
  pairing held := by
    rw [h.settings] at held ⊢
    rw [h.pairings]
    obtain ⟨p, known, base, key, client, stationID, station, answered⟩ := sound.pairing held
    exact ⟨p, known, base, key, client, stationID, station, h.answers answered⟩
  forgotten gone := by
    rw [h.session, h.settings]
    exact sound.forgotten (h.forgotten.symm.trans gone)
  traced task routine found :=
    (h.tasks task routine found).elim (fun found => (sound.traced task routine found).mono h.answers) id

/-- A state that differs from `s'` only in what `Kept` does not read. -/
theorem congr (h : Kept foundation s s') (settings : s''.settings = s'.settings)
    (session : s''.currentSession = s'.currentSession) (pairings : s''.history.pairings = s'.history.pairings)
    (forgotten : s''.history.forgotten = s'.history.forgotten) (crashed : s''.history.crashed = s'.history.crashed)
    (answers : s''.history.answers = s'.history.answers) (tasks : s''.tasks = s'.tasks) : Kept foundation s s'' where
  settings := settings.trans h.settings
  session := session.trans h.session
  pairings := pairings.trans h.pairings
  forgotten := forgotten.trans h.forgotten
  crashed := crashed.trans h.crashed
  answers := by
    rw [answers]
    exact h.answers
  tasks task routine found := by
    rw [tasks] at found
    rw [answers]
    exact h.tasks task routine found

end Kept

section Keeps

variable {foundation : Foundation} {s : State}

theorem kept_finish (task : TaskID) : Kept foundation s (s.set task none) where
  settings := rfl
  session := rfl
  pairings := rfl
  forgotten := rfl
  crashed := rfl
  answers := fun _ h => h
  tasks other routine found := by
    by_cases same : other = task
    · subst same
      rw [State.set_tasks_self] at found
      cases found
    · rw [State.set_tasks_ne same] at found
      exact .inl found

theorem kept_set {routine : Routine} (task : TaskID) (traced : routine.Traced foundation s.history.answers) :
    Kept foundation s (s.set task (some routine)) where
  settings := rfl
  session := rfl
  pairings := rfl
  forgotten := rfl
  crashed := rfl
  answers := fun _ h => h
  tasks other found' found := by
    by_cases same : other = task
    · subst same
      rw [State.set_tasks_self] at found
      cases found
      exact .inr traced
    · rw [State.set_tasks_ne same] at found
      exact .inl found

theorem kept_spawn {routine : Routine} (traced : routine.Traced foundation s.history.answers) :
    Kept foundation s (s.spawn routine) :=
  (kept_set s.nextTask traced).congr rfl rfl rfl rfl rfl rfl rfl

theorem kept_answered (client : WoodGateAPIClient) (answer : Answer) : Kept foundation s (s.answered client answer) := by
  unfold State.answered
  split
  · exact ⟨rfl, rfl, rfl, rfl, rfl, List.subset_cons_self _ _, fun _ _ found => .inl found⟩
  · exact .refl s

theorem kept_request : Kept foundation s s.request := (Kept.refl s).congr rfl rfl rfl rfl rfl rfl rfl

theorem kept_showAlert (title message : String) : Kept foundation s (s.showAlert title message) :=
  (Kept.refl s).congr rfl rfl rfl rfl rfl rfl rfl

theorem kept_startControlConnection : Kept foundation s s.startControlConnection := by
  unfold State.startControlConnection
  split
  · have spawned : Kept foundation s (s.spawn (.runControlConnection { generation := s.controlGeneration + 1 })) :=
      kept_spawn trivial
    exact spawned.congr rfl rfl rfl rfl rfl rfl rfl
  · exact .refl s

theorem kept_cancel (task : TaskID) : Kept foundation s (s.cancel task) := by
  unfold State.cancel
  split
  · exact kept_set task trivial
  · exact .refl s

theorem kept_stopControlConnection : Kept foundation s s.stopControlConnection := by
  unfold State.stopControlConnection
  cases s.controlTask with
  | none => exact (Kept.refl s).congr rfl rfl rfl rfl rfl rfl rfl
  | some task => exact (kept_cancel task).congr rfl rfl rfl rfl rfl rfl rfl

theorem kept_refreshSession : Kept foundation s s.refreshSession.1 := by
  unfold State.refreshSession
  split
  · exact .refl s
  · split
    · split
      · exact .refl s
      · rename_i currentSession _ _ _ _
        have spawned : Kept foundation s (s.spawn (.refreshTask currentSession)) := kept_spawn trivial
        exact spawned.congr rfl rfl rfl rfl rfl rfl rfl
    · exact .refl s

theorem kept_callRefresh : Kept foundation s s.callRefresh := by
  have refreshed : Kept foundation s s.refreshSession.1 := kept_refreshSession
  unfold State.callRefresh
  split
  · rename_i result s' wait returned
    rw [returned] at refreshed
    exact refreshed.trans (kept_spawn trivial)
  · rename_i result s' returned
    rw [returned] at refreshed
    exact refreshed

theorem kept_refreshed (wait : RefreshWait) : Kept foundation s (s.refreshed wait) := by
  unfold State.refreshed
  split
  · exact (Kept.refl s).congr rfl rfl rfl rfl rfl rfl rfl
  · exact .refl s

end Keeps

section Control

variable {foundation : Foundation} {s s' : State} (task : TaskID) (loop : ControlLoop)

theorem kept_endControl : Kept foundation s (s.endControl task loop) :=
  (kept_finish task).congr rfl rfl rfl rfl rfl rfl rfl

theorem kept_waitAt (point : ControlPoint) : Kept foundation s (s.waitAt task loop point) := kept_set task trivial

theorem kept_connectControl : Kept foundation s (s.connectControl foundation task loop) := by
  unfold State.connectControl
  split
  · split
    · exact kept_endControl task loop
    · exact kept_waitAt task loop _
  · exact kept_endControl task loop

theorem kept_receiveControl : Kept foundation s (s.receiveControl task loop) := by
  unfold State.receiveControl
  split
  · exact kept_endControl task loop
  · exact kept_waitAt task loop _

theorem kept_failControl : Kept foundation s (s.failControl task loop) := by
  unfold State.failControl
  split
  · exact kept_endControl task loop
  · exact kept_waitAt task loop _

theorem kept_handleMessage (type : String) : Kept foundation s (s.handleMessage task loop type) := by
  have refreshed : Kept foundation s s.refreshSession.1 := kept_refreshSession
  unfold State.handleMessage
  split
  · exact kept_waitAt task loop _
  split
  · split
    · rename_i result s' wait returned
      rw [returned] at refreshed
      exact refreshed.trans (kept_waitAt task loop _)
    · rename_i result s' returned
      rw [returned] at refreshed
      exact refreshed.trans (kept_receiveControl task loop)
  · exact kept_receiveControl task loop

variable {task} {loop}

/-- The control connection writes neither the settings nor the session. -/
theorem kept_resumeControl {answer : Answer} (h : s.resumeControl foundation task loop answer = some s') :
    Kept foundation s s' := by
  unfold State.resumeControl at h
  cases answer with
  | resumed =>
    dsimp only at h
    split at h
    · cases h
      exact kept_connectControl task loop
    · split at h <;> cases h
      exact (kept_refreshed _).trans (kept_receiveControl task loop)
    · cases h
  | sent result =>
    dsimp only at h
    split at h <;> cases h
    · exact kept_receiveControl task loop
    · exact kept_failControl task loop
  | message result =>
    dsimp only at h
    split at h <;> cases h
    · exact kept_handleMessage task loop _
    · exact kept_failControl task loop
  | slept result =>
    dsimp only at h
    split at h <;> cases h
    · exact kept_connectControl task loop
    · exact kept_endControl task loop
  | _ => cases h

end Control

section Sessions

variable {foundation : Foundation} {s s' : State} {task : TaskID} {build : Build} {now : Int} {answer : Answer}

theorem kept_failPairing {link cancelled : Bool} {error : AppError} :
    Kept foundation s (s.failPairing task link cancelled error) := by
  have ended : Kept foundation s { s.set task none with isBusy := false } :=
    (kept_finish task).congr rfl rfl rfl rfl rfl rfl rfl
  unfold State.failPairing
  split
  · exact ended.trans (kept_showAlert _ _)
  · exact ended

theorem kept_pair {payload : PairingPayload} {link cancelled : Bool} :
    Kept foundation s (s.pair foundation task payload link cancelled) := by
  unfold State.pair
  dsimp only
  split
  · exact kept_failPairing
  · split
    · exact kept_failPairing
    · rename_i client made
      exact kept_request.trans (kept_set task ⟨made, trivial⟩)

theorem kept_beginPairing {payload : PairingPayload} {link cancelled : Bool} :
    Kept foundation s (s.beginPairing foundation payload link cancelled) := by
  have started : Kept foundation s { s with isBusy := true, nextTask := s.nextTask + 1 } :=
    (Kept.refl s).congr rfl rfl rfl rfl rfl rfl rfl
  unfold State.beginPairing
  split
  · split
    · exact kept_showAlert _ _
    · exact .refl s
  · dsimp only
    split
    · exact started.trans (kept_set _ trivial)
    · exact started.trans kept_pair

theorem kept_performRefresh {session : ActiveSession} :
    Kept foundation s (s.performRefresh foundation task session) := by
  unfold State.performRefresh
  split
  · exact (kept_finish task).congr rfl rfl rfl rfl rfl rfl rfl
  · exact kept_request.trans (kept_set task trivial)

theorem kept_handleSubmissionFailure {error : AppError} : Kept foundation s (s.handleSubmissionFailure error) := by
  unfold State.handleSubmissionFailure
  split
  · exact (Kept.refl s).congr rfl rfl rfl rfl rfl rfl rfl
  · exact .refl s

/-- A build that goes on is kept by its task. -/
theorem kept_waits {next : Build} {routine : Build → Routine} (answered : build.Answered s.history.answers)
    (waits : build.resume foundation now answer = some (.waits next))
    (traced : ∀ answers, next.Answered answers → (routine next).Traced foundation answers) :
    Kept foundation s ((s.answered build.client answer).set task (some (routine next))) :=
  (kept_answered build.client answer).trans
    (kept_set task (traced _ (Build.resume_waits answered waits).2.2))

end Sessions

section Stores

variable {foundation : Foundation} {s s' : State} {build : Build} {session : ActiveSession}

/-- The pairing `p` is stored, with a station its server named for its key. -/
theorem Sound.persist (h : Sound foundation s) {p : SuccessfulPairing} (known : p ∈ s.history.pairings)
    (remembered : s.history.forgotten = false)
    (made : AppSettings.client foundation p.baseURLString p.stationKey = some p.client)
    (base : session.baseURLString = p.baseURLString) (answered : (p.client, session.stationID) ∈ s.history.answers) :
    Sound foundation (s.persist session p.stationKey) := by
  have client : (s.persist session p.stationKey).settings.woodGateClient foundation = some p.client := by
    show AppSettings.client foundation session.baseURLString p.stationKey = some p.client
    rw [base]
    exact made
  constructor
  case traced => exact h.traced
  constructor
  case client =>
    intro _
    exact Option.isSome_iff_exists.2 ⟨_, client⟩
  case unwraps => exact h.unwraps
  case pairing =>
    intro _
    exact ⟨p, known, base, rfl, client, session.stationID, rfl, answered⟩
  case forgotten =>
    intro gone
    rw [show s.history.forgotten = true from gone] at remembered
    cases remembered

/-- A session is shown while its pairing is stored. -/
theorem Sound.showSession (h : Sound foundation s) (client : (s.settings.woodGateClient foundation).isSome)
    (remembered : s.history.forgotten = false) : Sound foundation (s.showSession session) where
  client _ := client
  unwraps := h.unwraps
  pairing := h.pairing
  forgotten gone := by
    rw [show s.history.forgotten = true from gone] at remembered
    cases remembered
  traced := h.traced

/-- A successful pairing ends what a `forgetPairing` has done. -/
theorem Sound.paired (h : Sound foundation s) (p : SuccessfulPairing) : Sound foundation (s.paired p) where
  client := h.client
  unwraps := h.unwraps
  pairing held := by
    obtain ⟨q, known, rest⟩ := h.pairing held
    exact ⟨q, List.mem_cons_of_mem p known, rest⟩
  forgotten gone := by cases gone
  traced := h.traced

/-- A state whose settings have a client is not forgotten. -/
theorem Coherent.remembered (h : Coherent foundation s) (client : (s.settings.woodGateClient foundation).isSome) :
    s.history.forgotten = false := by
  by_contra gone
  have cleared : s.settings = {} := (h.forgotten (by simpa using gone)).2
  have secret : s.settings.stationSecret ≠ "" := AppSettings.woodGateClient_secret client
  rw [cleared] at secret
  exact secret rfl

/-- `bootstrap` and the refreshes store the session they fetched beside the key they find. -/
theorem Sound.store (h : Sound foundation s) (holds : s.Holds foundation build)
    (base : session.baseURLString = build.baseURLString) (answered : (build.client, session.stationID) ∈ s.history.answers) :
    Sound foundation ((s.persist session s.settings.stationSecret).showSession session) := by
  have remembered : s.history.forgotten = false :=
    h.remembered (Option.isSome_iff_exists.2 ⟨_, holds.2⟩)
  have same : session.baseURLString = s.settings.baseURLString := base.trans holds.1.symm
  have client : (s.persist session s.settings.stationSecret).settings.woodGateClient foundation = some build.client := by
    show AppSettings.client foundation session.baseURLString s.settings.stationSecret = some build.client
    rw [same]
    exact holds.2
  have stored : Sound foundation (s.persist session s.settings.stationSecret) := by
    constructor
    case traced => exact h.traced
    constructor
    case client =>
      intro _
      exact Option.isSome_iff_exists.2 ⟨_, client⟩
    case unwraps => exact h.unwraps
    case pairing =>
      intro held
      have before : s.settings.hasPairing := by
        simpa [AppSettings.hasPairing, State.persist, AppSettings.store, same] using held
      obtain ⟨p, known, baseURL, key, asks, _⟩ := h.pairing before
      have asked : build.client = p.client := Option.some.inj (holds.2.symm.trans asks)
      rw [asked] at answered client
      exact ⟨p, known, same.trans baseURL, key, client, session.stationID, rfl, answered⟩
    case forgotten =>
      intro gone
      rw [show s.history.forgotten = true from gone] at remembered
      cases remembered
  exact stored.showSession (Option.isSome_iff_exists.2 ⟨_, client⟩) remembered

/-- What `clearStoredSession` leaves when it fails. -/
theorem kept_clearStoredSession (failure : StorageFailure) : Kept foundation s (s.clearStoredSession (some failure)) := by
  cases failure with
  | fetch message => exact .refl s
  | save message => exact (Kept.refl s).congr rfl rfl rfl rfl rfl rfl rfl

/-- Settings and session are cleared together. -/
theorem Sound.clear (h : Sound foundation s) (settings : s'.settings = {}) (session : s'.currentSession = none)
    (crashed : s'.history.crashed = s.history.crashed) (answers : s'.history.answers = s.history.answers)
    (tasks : s'.tasks = s.tasks) : Sound foundation s' where
  client present := absurd session present
  unwraps := crashed.trans h.unwraps
  pairing held := by
    rw [settings] at held
    cases held
  forgotten _ := ⟨session, settings⟩
  traced task routine found := by
    rw [tasks] at found
    rw [answers]
    exact h.traced task routine found

end Stores

section Steps

variable {foundation : Foundation} {s s' : State} {task : TaskID} {build : Build} {now : Int} {answer : Answer}

theorem Sound.bootstrap (h : Sound foundation s) (failure : Option StorageFailure) :
    Sound foundation (s.bootstrap foundation failure) := by
  unfold State.bootstrap
  split
  · rename_i held
    split
    · exact (kept_showAlert _ _).sound h
    · split
      · rename_i without
        obtain ⟨p, _, _, _, client, _⟩ := h.pairing held
        rw [client] at without
        cases without
      · refine Kept.sound ?_ h
        exact kept_request.trans (kept_spawn (by trivial))
  · split
    · exact ((kept_clearStoredSession _).trans (kept_showAlert _ _)).sound h
    · refine kept_stopControlConnection.sound ?_
      exact h.clear rfl rfl rfl rfl rfl

theorem Sound.forgetPairing (h : Sound foundation s) (failure : Option StorageFailure) :
    Sound foundation (s.forgetPairing failure) := by
  have stopped : Sound foundation s.stopControlConnection := kept_stopControlConnection.sound h
  unfold State.forgetPairing
  dsimp only
  split
  · exact ((kept_clearStoredSession _).trans (kept_showAlert _ _)).sound stopped
  · exact stopped.clear rfl rfl rfl rfl rfl

theorem Sound.submitCheckin (h : Sound foundation s) {session : ActiveSession} {person : PersonSummary}
    {direction : CheckinDirectionChoice} {notes : String} {selfie : Option (List UInt8)}
    (shown : s.currentSession = some session) :
    Sound foundation (s.submitCheckin foundation session person direction notes selfie) := by
  have client : (s.settings.woodGateClient foundation).isSome := h.client (by simp [shown])
  have busy : Kept foundation s { s with isBusy := true } := (Kept.refl s).congr rfl rfl rfl rfl rfl rfl rfl
  unfold State.submitCheckin
  split
  · rename_i without
    rw [without] at client
    cases client
  · refine Kept.sound ?_ h
    exact busy.trans (kept_spawn (by trivial))

theorem Sound.resumeBootstrap {cachedSession : Option ActiveSession} (h : Sound foundation s)
    (found : s.tasks task = some (.bootstrap cachedSession build))
    (holds : (∃ background logo, answer = .images background logo) → s.Holds foundation build)
    (falls : ∀ error, answer = .configuration (.error error) ∨ answer = .people (.error error) →
      cachedSession ≠ none → (s.settings.woodGateClient foundation).isSome)
    (resumed : s.resumeBootstrap foundation task cachedSession build now answer = some s') : Sound foundation s' := by
  have answered : build.Answered s.history.answers := h.traced task _ found
  have ended : Sound foundation (s.set task none) := (kept_finish task).sound h
  obtain ⟨progress, advanced, rfl⟩ := Option.map_eq_some_iff.1 resumed
  cases progress with
  | waits next =>
    exact (@kept_waits _ _ _ _ _ _ _ (.bootstrap cachedSession) answered advanced fun _ traced => traced).sound h
  | returns session =>
    obtain ⟨images, base, station⟩ := Build.resume_returns answered advanced
    exact kept_startControlConnection.sound (ended.store (holds images) base station)
  | throws error =>
    have client := falls error (Build.resume_throws advanced)
    refine kept_startControlConnection.sound ?_
    exact {
      client := client
      unwraps := ended.unwraps
      pairing := ended.pairing
      forgotten := fun gone => by
        refine ⟨?_, (ended.forgotten gone).2⟩
        by_contra present
        have remembered : s.history.forgotten = false := h.remembered (client present)
        rw [show s.history.forgotten = true from gone] at remembered
        cases remembered
      traced := ended.traced }

theorem Sound.resumeRefresh (h : Sound foundation s) (found : s.tasks task = some (.performRefresh build))
    (holds : (∃ background logo, answer = .images background logo) → s.Holds foundation build)
    (resumed : s.resumeRefresh foundation task build now answer = some s') : Sound foundation s' := by
  have answered : build.Answered s.history.answers := h.traced task _ found
  have ended : Sound foundation (s.set task none) := (kept_finish task).sound h
  obtain ⟨progress, advanced, rfl⟩ := Option.map_eq_some_iff.1 resumed
  cases progress with
  | waits next =>
    exact (@kept_waits _ _ _ _ _ _ _ .performRefresh answered advanced fun _ traced => traced).sound h
  | returns session =>
    obtain ⟨images, base, station⟩ := Build.resume_returns answered advanced
    exact ended.store (holds images) base station
  | throws error =>
    refine Kept.sound ?_ h
    exact (kept_finish task).congr rfl rfl rfl rfl rfl rfl rfl

theorem Sound.resumePairing {stationKey : String} {link cancelled : Bool} (h : Sound foundation s)
    (found : s.tasks task = some (.beginPairing stationKey link build))
    (resumed : s.resumePairing foundation task stationKey link build now cancelled answer = some s') :
    Sound foundation s' := by
  obtain ⟨made, answered⟩ : AppSettings.client foundation build.baseURLString stationKey = some build.client ∧
    build.Answered s.history.answers := h.traced task _ found
  have ended : Sound foundation (s.set task none) := (kept_finish task).sound h
  obtain ⟨progress, advanced, rfl⟩ := Option.map_eq_some_iff.1 resumed
  cases progress with
  | waits next =>
    obtain ⟨base, client, _⟩ := Build.resume_waits answered advanced
    refine (@kept_waits _ _ _ _ _ _ _ (.beginPairing stationKey link) answered advanced fun _ traced => ⟨?_, traced⟩).sound h
    rw [base, client]
    exact made
  | throws error => exact kept_failPairing.sound h
  | returns session =>
    obtain ⟨_, base, station⟩ := Build.resume_returns answered advanced
    dsimp only
    split
    · exact kept_failPairing.sound h
    · have stored : Sound foundation (((s.set task none).persist session stationKey).paired
          ⟨build.baseURLString, stationKey, build.client⟩) :=
        (ended.paired ⟨build.baseURLString, stationKey, build.client⟩).persist List.mem_cons_self rfl made base station
      have client : ((((s.set task none).persist session stationKey).paired
          ⟨build.baseURLString, stationKey, build.client⟩).settings.woodGateClient foundation).isSome := by
        refine Option.isSome_iff_exists.2 ⟨build.client, ?_⟩
        show AppSettings.client foundation session.baseURLString stationKey = some build.client
        rw [base]
        exact made
      have stops := @kept_stopControlConnection foundation
        (((s.set task none).persist session stationKey).paired ⟨build.baseURLString, stationKey, build.client⟩)
      have shown : Sound foundation (State.showSession _ session) := (stops.sound stored).showSession
        (by rw [stops.settings]; exact client) (stops.forgotten.trans rfl)
      refine Kept.sound ?_ shown
      exact kept_startControlConnection.congr rfl rfl rfl rfl rfl rfl rfl

/-- A step that keeps the pairing keeps the coherence. -/
theorem Sound.step {label : Label} (h : Sound foundation s) (keeps : KeepsPairing foundation s label)
    (taken : Woodgate.App.step foundation s label = some s') : Sound foundation s' := by
  cases label with
  | bootstrap failure =>
    cases taken
    exact h.bootstrap failure
  | refreshSession =>
    cases taken
    exact kept_callRefresh.sound h
  | handleSceneActive =>
    cases taken
    exact (kept_startControlConnection.trans kept_callRefresh).sound h
  | beginPairing payload link cancelled =>
    cases taken
    exact kept_beginPairing.sound h
  | forgetPairing failure =>
    cases taken
    exact h.forgetPairing failure
  | submitCheckin session person direction notes selfie =>
    dsimp only [Woodgate.App.step] at taken
    split at taken <;> cases taken
    rename_i shown
    exact h.submitCheckin shown
  | handleSubmissionFailure error =>
    cases taken
    exact kept_handleSubmissionFailure.sound h
  | resume task answer now cancelled =>
    dsimp only [Woodgate.App.step, State.resume] at taken
    cases found : s.tasks task with
    | none =>
      rw [found] at taken
      cases taken
    | some routine =>
      rw [found] at taken
      dsimp only at taken
      cases routine with
      | bootstrap cachedSession build =>
        refine h.resumeBootstrap found ?_ ?_ taken
        · rintro ⟨background, logo, rfl⟩
          exact keeps build (by rw [found]; rfl)
        · intro error threw present
          have falls : ((s.tasks task).bind Routine.fallback).isSome := by
            rw [found]
            exact Option.isSome_iff_ne_none.2 present
          rcases threw with rfl | rfl <;> exact keeps falls
      | refreshSession wait =>
        cases answer <;> try cases taken
        dsimp only at taken
        split at taken <;> cases taken
        exact ((kept_finish task).trans (kept_refreshed wait)).sound h
      | refreshTask session =>
        cases answer <;> cases taken
        exact kept_performRefresh.sound h
      | performRefresh build =>
        refine h.resumeRefresh found ?_ taken
        rintro ⟨background, logo, rfl⟩
        exact keeps build (by rw [found]; rfl)
      | awaitRefresh payload link awaited =>
        cases answer <;> try cases taken
        dsimp only at taken
        split at taken <;> cases taken
        exact kept_pair.sound h
      | beginPairing stationKey link build => exact h.resumePairing found taken
      | submitCheckin client request =>
        cases answer <;> cases taken
        refine Kept.sound ?_ h
        exact (kept_finish task).congr rfl rfl rfl rfl rfl rfl rfl
      | runControlConnection loop => exact (kept_resumeControl taken).sound h

end Steps

/-- No method is under way. -/
def State.Idle (s : State) : Prop := ∀ task, s.tasks task = none

/-- **Pairing coherence**: from a coherent start, whatever the order of the calls and of the answers, the state stays
coherent as long as the pairing a fetch asked with is the stored one when its answer arrives. -/
theorem run_coherent (foundation : Foundation) {s t : State} {labels : List Label} (start : Coherent foundation s)
    (idle : s.Idle) (guarded : Guarded (step foundation) (KeepsPairing foundation) s labels)
    (h : run (step foundation) s labels = some t) : Coherent foundation t := by
  have sound : Sound foundation s := {
    toCoherent := start
    traced := fun task routine found => by
      rw [idle task] at found
      cases found }
  exact (guarded.run_invariant (Sound foundation) (fun _ _ _ inv keeps taken => inv.step keeps taken) sound h).toCoherent

/-! ## A station that is forgotten while it starts -/

def deskURL : URL where
  absoluteString := "https://desk.example"
  scheme := some "https"
  host := some "desk.example"

/-- A device on which one server URL can be written. -/
def deskFoundation : Foundation where
  url value := if value = "https://desk.example" then some deskURL else none
  lowercased value := value
  image data := some data
  debug := false

def deskClient : WoodGateAPIClient := { baseURL := deskURL, stationSecret := "key" }

def deskConfiguration : StationConfiguration where
  stationID := 7
  stationName := "Front desk"
  location := ⟨3, "Library", true, false, false, none, none⟩

def deskSession : ActiveSession :=
  ⟨"https://desk.example", 7, "Front desk", deskConfiguration.location, [], none, none, 10⟩

/-- A launch with a stored pairing. -/
def deskState : State where
  settings := AppSettings.store deskSession "key"
  history := {
    pairings := [⟨"https://desk.example", "key", deskClient⟩]
    answers := [(deskClient, 7)] }

theorem deskState_coherent : Coherent deskFoundation deskState where
  client present := absurd rfl present
  unwraps := rfl
  pairing _ := ⟨_, List.mem_cons_self, rfl, rfl, by decide, 7, rfl, List.mem_cons_self⟩
  forgotten gone := by cases gone

/-- The answers a fetch of `task` gets. -/
def deskAnswers (task : TaskID) : List Label :=
  [.resume task (.configuration (.ok deskConfiguration)) 20 false, .resume task (.people (.ok [])) 20 false,
    .resume task (.images (.error (.other "none")) (.error (.other "none"))) 20 false]

/-- A start, a refresh, a station forgotten and paired again. -/
theorem run_coherent_desk : ∃ t, run (step deskFoundation) deskState ([.bootstrap none] ++ deskAnswers 0 ++
      [.refreshSession, .resume 2 .resumed 30 false] ++ deskAnswers 2 ++ [.resume 3 .resumed 40 false,
      .forgetPairing none, .beginPairing ⟨" https://desk.example ", "key"⟩ false false] ++ deskAnswers 4) = some t ∧
    t.currentSession = some { deskSession with lastSyncedAt := 20 } ∧ Coherent deskFoundation t := by
  have ends : ((run (step deskFoundation) deskState ([.bootstrap none] ++ deskAnswers 0 ++
      [.refreshSession, .resume 2 .resumed 30 false] ++ deskAnswers 2 ++ [.resume 3 .resumed 40 false,
      .forgetPairing none, .beginPairing ⟨" https://desk.example ", "key"⟩ false false] ++ deskAnswers 4)).map
      (·.currentSession)) = some (some { deskSession with lastSyncedAt := 20 }) := by decide +kernel
  obtain ⟨t, ran, shown⟩ := Option.map_eq_some_iff.1 ends
  exact ⟨t, ran, shown, run_coherent deskFoundation deskState_coherent (fun _ => rfl) (by decide +kernel) ran⟩

/-- The station is forgotten while `bootstrap` waits for its configuration. -/
def forgottenWhileStarting : List Label := [.bootstrap none, .forgetPairing none] ++ deskAnswers 0

/-- The answer brings the session back without a key, and the next check-in unwraps `nil`. -/
theorem forgotten_station_comes_back : Coherent deskFoundation deskState ∧ deskState.Idle ∧
    (∃ t, run (step deskFoundation) deskState forgottenWhileStarting = some t ∧ ¬ Coherent deskFoundation t ∧
      t.history.forgotten = true ∧ t.currentSession ≠ none ∧ t.settings.woodGateClient deskFoundation = none) ∧
    ∃ t, run (step deskFoundation) deskState (forgottenWhileStarting ++ [.submitCheckin
      { deskSession with lastSyncedAt := 20 } ⟨1, "Ada", ""⟩ .checkIn "" none]) = some t ∧ t.history.crashed = true := by
  refine ⟨deskState_coherent, fun _ => rfl, ?_, ?_⟩
  · have ends : (run (step deskFoundation) deskState forgottenWhileStarting).map (fun t =>
        (t.history.forgotten, t.currentSession.isSome, t.settings.woodGateClient deskFoundation)) =
        some (true, true, none) := by decide +kernel
    obtain ⟨t, ran, seen⟩ := Option.map_eq_some_iff.1 ends
    simp only [Prod.mk.injEq] at seen
    obtain ⟨gone, present, without⟩ := seen
    have session : t.currentSession ≠ none := Option.isSome_iff_ne_none.1 present
    refine ⟨t, ran, fun coherent => ?_, gone, session, without⟩
    exact session (coherent.forgotten gone).1
  · have ends : (run (step deskFoundation) deskState (forgottenWhileStarting ++ [.submitCheckin
        { deskSession with lastSyncedAt := 20 } ⟨1, "Ada", ""⟩ .checkIn "" none])).map (·.history.crashed) = some true := by
      decide +kernel
    exact Option.map_eq_some_iff.1 ends

end Woodgate.App
