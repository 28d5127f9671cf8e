import Mathlib.Logic.Relation
import Woodgate.App.Control
import Woodgate.App.Storage

/-!
# Edits of the tasks

Whatever a method does to the tasks it does in edits: it goes on or ends, it makes a task, it
starts or stops the control connection. `edits_attempt` takes an attempt apart, but for those of
the control connections themselves, so that what every edit keeps every attempt keeps.
-/

namespace Woodgate.App

open Relation

namespace Routine

/-- The sessions a routine keeps for later. -/
def sessions : Routine → List ActiveSession
  | .bootstrap cachedSession build => cachedSession.toList ++ build.fallbackSession.toList
  | .performRefresh build | .beginPairing _ _ build => build.fallbackSession.toList
  | .refreshTask currentSession => [currentSession]
  | _ => []

/-- The state of the control connection, if the routine is one. -/
def loop : Routine → Option ControlLoop
  | .runControlConnection loop => some loop
  | _ => none

/-- The routine is not a control connection, and the sessions it keeps meet `Q`. -/
structure Meets (Q : ActiveSession → Prop) (routine : Routine) : Prop where
  plain : routine.loop = none
  sessions : ∀ session ∈ routine.sessions, Q session

/-- A routine that keeps no session meets every `Q`. -/
theorem meets_of_empty {Q : ActiveSession → Prop} {routine : Routine} (plain : routine.loop = none)
    (empty : routine.sessions = []) : routine.Meets Q := by
  refine ⟨plain, fun session mem => ?_⟩
  rw [empty] at mem
  cases mem

end Routine

/-- The control connection `task` runs. -/
def State.loop (s : State) (task : TaskID) : Option ControlLoop := (s.tasks task).bind Routine.loop

/-- The task is numbered and no control connection. -/
def State.Plain (s : State) (task : TaskID) : Prop := s.Allocated → task < s.nextTask ∧ s.loop task = none

/-- An edit; those of `Edit Q false` do not stop the control connection. -/
inductive Edit (Q : ActiveSession → Prop) (stops : Bool) (s : State) : State → Prop
  | quiet {s' : State} (tasks : s'.tasks = s.tasks) (next : s.nextTask ≤ s'.nextTask) (control : s'.controlTask = s.controlTask)
      (generation : s'.controlGeneration = s.controlGeneration) : Edit Q stops s s'
  | set (task : TaskID) (routine : Option Routine) (plain : s.Plain task) (meets : ∀ r ∈ routine, r.Meets Q) :
      Edit Q stops s (s.set task routine)
  | spawn (routine : Routine) (meets : routine.Meets Q) : Edit Q stops s (s.spawn routine)
  | start : Edit Q stops s s.startControlConnection
  | stop (allowed : stops = true) : Edit Q stops s s.stopControlConnection

/-- Some edits, one after the other. -/
abbrev Edits (Q : ActiveSession → Prop) (stops : Bool) : State → State → Prop := ReflTransGen (Edit Q stops)

section Edits

variable {Q : ActiveSession → Prop} {stops : Bool} {foundation : Foundation} {s s' s'' : State} {task : TaskID}

/-- The fields the edits are about are the same. -/
theorem edits_quiet (tasks : s'.tasks = s.tasks) (next : s.nextTask ≤ s'.nextTask) (control : s'.controlTask = s.controlTask)
    (generation : s'.controlGeneration = s.controlGeneration) : Edits Q stops s s' :=
  .single (.quiet tasks next control generation)

/-- An edit, up to fields the edits are not about. -/
theorem edits_up_to (edits : Edits Q stops s s') (tasks : s''.tasks = s'.tasks) (next : s'.nextTask ≤ s''.nextTask)
    (control : s''.controlTask = s'.controlTask) (generation : s''.controlGeneration = s'.controlGeneration) :
    Edits Q stops s s'' := edits.tail (.quiet tasks next control generation)

/-- A task ends. -/
theorem edits_finish (plain : s.Plain task) : Edits Q stops s (s.set task none) :=
  .single (.set task none plain fun _ absent => by cases absent)

/-- A task goes on with another routine. -/
theorem edits_set {routine : Routine} (plain : s.Plain task) (meets : routine.Meets Q) :
    Edits Q stops s (s.set task (some routine)) := by
  refine .single (.set task (some routine) plain fun r same => ?_)
  cases same
  exact meets

/-- A task is made. -/
theorem edits_spawn {routine : Routine} (meets : routine.Meets Q) : Edits Q stops s (s.spawn routine) := .single (.spawn routine meets)

theorem edits_start : Edits Q stops s s.startControlConnection := .single .start

/-- A task whose routine is no control connection. -/
theorem plain_of_found {routine : Routine} (found : s.tasks task = some routine) (plain : routine.loop = none) : s.Plain task :=
  fun allocated => ⟨allocated task (by simp [found]), by simp [State.loop, found, plain]⟩

theorem edits_request : Edits Q stops s s.request := edits_quiet rfl (Nat.le_refl _) rfl rfl

theorem edits_answered (client : WoodGateAPIClient) (answer : Answer) : Edits Q stops s (s.answered client answer) := by
  unfold State.answered
  split <;> exact edits_quiet rfl (Nat.le_refl _) rfl rfl

theorem edits_write (session : ActiveSession) (stationSecret : String) (failure : StorageFailure) :
    Edits Q stops s (s.write session stationSecret failure) := by
  cases failure <;> exact edits_quiet rfl (Nat.le_refl _) rfl rfl

theorem edits_clearStoredSession (failure : Option StorageFailure) : Edits Q stops s (s.clearStoredSession failure) := by
  unfold State.clearStoredSession
  split <;> exact edits_quiet rfl (Nat.le_refl _) rfl rfl

/-- `refreshSession` makes a task for the current session, unless one is under way. -/
theorem edits_refreshSession (current : ∀ session ∈ s.currentSession, Q session) : Edits Q stops s s.refreshSession.1 := by
  unfold State.refreshSession
  split
  · exact .refl
  · rename_i currentSession shown
    split
    · split
      · exact .refl
      · have meets : (Routine.refreshTask currentSession).Meets Q := by
          refine ⟨rfl, fun session mem => ?_⟩
          cases List.mem_singleton.1 mem
          exact current _ shown
        exact edits_up_to (edits_spawn meets) rfl (Nat.le_refl _) rfl rfl
    · exact .refl

theorem edits_refreshed (wait : RefreshWait) : Edits Q stops s (s.refreshed wait) := by
  unfold State.refreshed
  split
  · exact edits_quiet rfl (Nat.le_refl _) rfl rfl
  · exact .refl

/-- A caller waits in a task of its own, if there is a refresh to wait for. -/
theorem edits_callRefresh (current : ∀ session ∈ s.currentSession, Q session) : Edits Q stops s s.callRefresh := by
  have refreshed : Edits Q stops s s.refreshSession.1 := edits_refreshSession current
  unfold State.callRefresh
  split
  · rename_i returned
    rw [returned] at refreshed
    exact refreshed.trans (edits_spawn (Routine.meets_of_empty rfl rfl))
  · rename_i returned
    rw [returned] at refreshed
    exact refreshed

/-- A pairing that fails ends its task and shows why. -/
theorem edits_failPairing (plain : s.Plain task) (link cancelled : Bool) (error : AppError) :
    Edits Q stops s (s.failPairing task link cancelled error) := by
  have ended : Edits Q stops s (s.set task none) := edits_finish plain
  unfold State.failPairing
  dsimp only
  split <;> exact edits_up_to ended rfl (Nat.le_refl _) rfl rfl

/-- A pairing ends on a payload it cannot use, and else asks for the configuration. -/
theorem edits_pair (plain : s.Plain task) (payload : PairingPayload) (link cancelled : Bool) :
    Edits Q stops s (s.pair foundation task payload link cancelled) := by
  unfold State.pair
  dsimp only
  split
  · exact edits_failPairing plain _ _ _
  · split
    · exact edits_failPairing plain _ _ _
    · have requested : s.request.Plain task := plain
      exact edits_request.trans (edits_set requested (Routine.meets_of_empty rfl rfl))

/-- `beginPairing` waits for a refresh in a task of its own, or goes on in the one it is called in. -/
theorem edits_beginPairing (allocated : s.Allocated) (payload : PairingPayload) (link cancelled : Bool) :
    Edits Q stops s (s.beginPairing foundation payload link cancelled) := by
  unfold State.beginPairing
  split
  · split
    · exact edits_quiet rfl (Nat.le_refl _) rfl rfl
    · exact .refl
  · dsimp only
    split
    · exact edits_up_to (edits_spawn (Routine.meets_of_empty rfl rfl)) rfl (Nat.le_refl _) rfl rfl
    · have started : Edits Q stops s { s with isBusy := true, nextTask := s.nextTask + 1 } :=
        edits_quiet rfl (Nat.le_succ _) rfl rfl
      have plain : State.Plain { s with isBusy := true, nextTask := s.nextTask + 1 } s.nextTask := by
        refine fun _ => ⟨Nat.lt_succ_self _, ?_⟩
        have free : s.tasks s.nextTask = none := by_contra fun present => Nat.lt_irrefl _ (allocated _ present)
        simp [State.loop, free]
      exact started.trans (edits_pair plain _ _ _)

/-- The refresh keeps its session as a fallback. -/
theorem edits_performRefresh (plain : s.Plain task) {session : ActiveSession} (meets : Q session) :
    Edits Q stops s (s.performRefresh foundation task session) := by
  have requested : s.request.Plain task := plain
  unfold State.performRefresh
  split
  · exact edits_up_to (edits_finish plain) rfl (Nat.le_refl _) rfl rfl
  · refine edits_request.trans (edits_set requested ⟨rfl, fun other mem => ?_⟩)
    cases List.mem_singleton.1 mem
    exact meets

theorem edits_submitCheckin {session : ActiveSession} {person : PersonSummary} {direction : CheckinDirectionChoice}
    {notes : String} {selfie : Option (List UInt8)} :
    Edits Q stops s (s.submitCheckin foundation session person direction notes selfie) := by
  have busy : Edits Q stops s { s with isBusy := true } := edits_quiet rfl (Nat.le_refl _) rfl rfl
  unfold State.submitCheckin
  split
  · exact edits_quiet rfl (Nat.le_refl _) rfl rfl
  · exact busy.trans (edits_spawn (Routine.meets_of_empty rfl rfl))

/-- The session of the settings has no images. -/
theorem loadStoredSession_bare {failure : Option StorageFailure} {session : ActiveSession}
    (h : s.loadStoredSession failure = .ok (some session)) : session.backgroundImage = none ∧ session.logoImage = none := by
  unfold State.loadStoredSession at h
  split at h
  · split at h <;> cases h
    exact ⟨rfl, rfl⟩
  · cases h

/-- A start stops the control connection only when there is no pairing. -/
theorem edits_bootstrap {failure : Option StorageFailure}
    (bare : ∀ session : ActiveSession, session.backgroundImage = none → session.logoImage = none → Q session)
    (stays : stops = false → s.settings.hasPairing = true ∨ failure ≠ none) :
    Edits Q stops s (s.bootstrap foundation failure) := by
  unfold State.bootstrap
  split
  · split
    · exact edits_quiet rfl (Nat.le_refl _) rfl rfl
    · rename_i cachedSession loaded
      split
      · exact edits_quiet rfl (Nat.le_refl _) rfl rfl
      · refine edits_request.trans (edits_spawn ⟨rfl, fun session mem => ?_⟩)
        have cached : cachedSession = some session := by simpa [Routine.sessions] using mem
        subst cached
        obtain ⟨background, logo⟩ := loadStoredSession_bare loaded
        exact bare session background logo
  · rename_i unpaired
    split
    · exact edits_up_to (edits_clearStoredSession _) rfl (Nat.le_refl _) rfl rfl
    · have cleared : Edits Q stops s { s.clearStoredSession none with currentSession := none } :=
        edits_up_to (edits_clearStoredSession none) rfl (Nat.le_refl _) rfl rfl
      have allowed : stops = true := by
        by_contra not
        rcases stays (Bool.eq_false_iff.2 not) with paired | failed
        · exact unpaired paired
        · exact failed rfl
      exact cleared.tail (.stop allowed)

/-- `forgetPairing` stops the control connection, whether or not the session can be cleared. -/
theorem edits_forgetPairing (allowed : stops = true) (failure : Option StorageFailure) :
    Edits Q stops s (s.forgetPairing failure) := by
  have stopped : Edits Q stops s s.stopControlConnection := .single (.stop allowed)
  unfold State.forgetPairing
  dsimp only
  split
  · exact edits_up_to (stopped.trans (edits_clearStoredSession _)) rfl (Nat.le_refl _) rfl rfl
  · exact edits_up_to (stopped.trans (edits_clearStoredSession none)) rfl (Nat.le_refl _) rfl rfl

end Edits

section Fetches

variable {Q : ActiveSession → Prop} {stops : Bool} {foundation : Foundation} {s s' : State} {task : TaskID} {build : Build}
  {now : Int} {answer : Answer}

/-- A fetch that goes on keeps the session before it. -/
theorem Build.resume_fallback {next : Build} (h : build.resume foundation now answer = some (.waits next)) :
    next.fallbackSession = build.fallbackSession := by
  unfold Build.resume at h
  cases answer with
  | configuration result =>
    dsimp only at h
    split at h
    · cases h
    · split at h <;> cases h <;> rfl
    · cases h
  | people result =>
    dsimp only at h
    split at h <;> cases h
    rfl
  | images background logo =>
    dsimp only at h
    split at h <;> cases h
  | _ => cases h

/-- A task that fetches, up to its next `await`. -/
theorem edits_waits (routine : Build → Routine) (plain : ∀ build, (routine build).loop = none)
    (kept : ∀ next : Build, next.fallbackSession = build.fallbackSession → (routine next).sessions = (routine build).sessions)
    (found : s.tasks task = some (routine build)) (meets : ∀ session ∈ (routine build).sessions, Q session) {next : Build}
    (advanced : build.resume foundation now answer = some (.waits next)) :
    Edits Q stops s ((s.answered build.client answer).set task (some (routine next))) := by
  have own : (s.answered build.client answer).Plain task := by
    have before : s.Plain task := plain_of_found found (plain build)
    unfold State.answered
    split <;> exact before
  refine (edits_answered build.client answer).trans (edits_set own ⟨plain next, ?_⟩)
  rw [kept next (Build.resume_fallback advanced)]
  exact meets

/-- A start ends with a session or an error, and starts the control connection either way. -/
theorem edits_resumeBootstrap {cachedSession : Option ActiveSession}
    (found : s.tasks task = some (.bootstrap cachedSession build))
    (meets : ∀ session ∈ (Routine.bootstrap cachedSession build).sessions, Q session)
    (resumed : s.resumeBootstrap foundation task cachedSession build now answer = some s') : Edits Q stops s s' := by
  have ended : Edits Q stops s (s.set task none) := edits_finish (plain_of_found found rfl)
  obtain ⟨progress, advanced, rfl⟩ := Option.map_eq_some_iff.1 resumed
  cases progress with
  | waits next =>
    exact edits_waits (.bootstrap cachedSession) (fun _ => rfl) (fun next same => by simp [Routine.sessions, same]) found meets
      advanced
  | returns session | throws error =>
    refine ReflTransGen.trans ?_ edits_start
    exact edits_up_to ended rfl (Nat.le_refl _) rfl rfl

/-- A refresh ends with a session or an error, and leaves the control connection alone. -/
theorem edits_resumeRefresh (found : s.tasks task = some (.performRefresh build))
    (meets : ∀ session ∈ (Routine.performRefresh build).sessions, Q session)
    (resumed : s.resumeRefresh foundation task build now answer = some s') : Edits Q stops s s' := by
  have ended : Edits Q stops s (s.set task none) := edits_finish (plain_of_found found rfl)
  obtain ⟨progress, advanced, rfl⟩ := Option.map_eq_some_iff.1 resumed
  cases progress with
  | waits next =>
    exact edits_waits .performRefresh (fun _ => rfl) (fun next same => by simp [Routine.sessions, same]) found meets advanced
  | returns session => exact edits_up_to ended rfl (Nat.le_refl _) rfl rfl
  | throws error => exact edits_up_to ended rfl (Nat.le_refl _) rfl rfl

/-- A pairing stops the control connection only when it has its session. -/
theorem edits_resumePairing {stationKey : String} {link cancelled : Bool}
    (found : s.tasks task = some (.beginPairing stationKey link build))
    (meets : ∀ session ∈ (Routine.beginPairing stationKey link build).sessions, Q session)
    (stays : stops = false → (Routine.beginPairing stationKey link build).persists foundation now cancelled answer = none)
    (resumed : s.resumePairing foundation task stationKey link build now cancelled answer = some s') :
    Edits Q stops s s' := by
  have plain : s.Plain task := plain_of_found found rfl
  have ended : Edits Q stops s (s.set task none) := edits_finish plain
  obtain ⟨progress, advanced, rfl⟩ := Option.map_eq_some_iff.1 resumed
  cases progress with
  | waits next =>
    exact edits_waits (.beginPairing stationKey link) (fun _ => rfl) (fun next same => by simp [Routine.sessions, same]) found
      meets advanced
  | throws error => exact edits_failPairing plain _ _ _
  | returns session =>
    dsimp only
    split
    · exact edits_failPairing plain _ _ _
    · rename_i uncancelled
      have allowed : stops = true := by
        by_contra not
        have persists := stays (Bool.eq_false_iff.2 not)
        simp [Routine.persists, uncancelled, Build.session_of_returns advanced] at persists
      have stored : Edits Q stops s (((s.set task none).persist session stationKey).paired
          ⟨build.baseURLString, stationKey, build.client⟩) := edits_up_to ended rfl (Nat.le_refl _) rfl rfl
      have shown : Edits Q stops s ((((s.set task none).persist session stationKey).paired
          ⟨build.baseURLString, stationKey, build.client⟩).stopControlConnection.showSession session) :=
        edits_up_to (stored.tail (.stop allowed)) rfl (Nat.le_refl _) rfl rfl
      exact edits_up_to (shown.trans edits_start) rfl (Nat.le_refl _) rfl rfl

/-- A session that cannot be written ends the routine that fetched it. -/
theorem edits_failPersist {routine : Routine} {session : ActiveSession} {failure : StorageFailure} {cancelled : Bool}
    (found : s.tasks task = some routine) (persists : routine.persists foundation now cancelled answer = some session) :
    Edits Q stops s (s.failPersist task session failure routine) := by
  cases routine with
  | bootstrap cachedSession build =>
    have ended : Edits Q stops s (s.set task none) := edits_finish (plain_of_found found rfl)
    refine ReflTransGen.trans ?_ edits_start
    exact edits_up_to (ended.trans (edits_write _ _ failure)) rfl (Nat.le_refl _) rfl rfl
  | performRefresh build =>
    have ended : Edits Q stops s (s.set task none) := edits_finish (plain_of_found found rfl)
    exact edits_up_to (ended.trans (edits_write _ _ failure)) rfl (Nat.le_refl _) rfl rfl
  | beginPairing stationKey link build =>
    have plain : (s.write session stationKey failure).Plain task := by
      have before : s.Plain task := plain_of_found found rfl
      cases failure <;> exact before
    exact (edits_write _ _ failure).trans (edits_failPairing plain _ _ _)
  | _ => cases persists

end Fetches

/-- The step calls `stopControlConnection`. -/
def State.stops (foundation : Foundation) (s : State) : Label → Bool
  | .bootstrap failure => !s.settings.hasPairing && failure.isNone
  | .forgetPairing _ => true
  | .resume task answer now cancelled => (s.tasks task).any fun
    | .beginPairing stationKey link build =>
      ((Routine.beginPairing stationKey link build).persists foundation now cancelled answer).isSome
    | _ => false
  | _ => false

/-- The control connection that the step resumes. -/
def State.resumes (s : State) : Label → Option (TaskID × ControlLoop)
  | .resume task _ _ _ => (s.loop task).map (Prod.mk task)
  | _ => none

/-- Every session of a task meets `Q`. -/
def State.Carry (Q : ActiveSession → Prop) (s : State) : Prop :=
  ∀ task routine, s.tasks task = some routine → ∀ session ∈ routine.sessions, Q session

section Attempts

variable {Q : ActiveSession → Prop} {stops : Bool} {foundation : Foundation} {s s' : State} {label : Label} {a : Attempt}

theorem loop_eq_some {task : TaskID} {loop : ControlLoop} :
    s.loop task = some loop ↔ s.tasks task = some (.runControlConnection loop) := by
  rw [State.loop, Option.bind_eq_some_iff]
  constructor
  · rintro ⟨routine, found, runs⟩
    cases routine <;> cases runs
    exact found
  · intro found
    exact ⟨_, found, rfl⟩

/-- A control connection goes on when its task is resumed. -/
theorem resumes_eq_some {resumed : TaskID × ControlLoop} (h : s.resumes label = some resumed) :
    ∃ answer now cancelled, label = .resume resumed.1 answer now cancelled ∧
      s.tasks resumed.1 = some (.runControlConnection resumed.2) := by
  cases label with
  | resume task answer now cancelled =>
    obtain ⟨loop, found, rfl⟩ := Option.map_eq_some_iff.1 h
    exact ⟨answer, now, cancelled, rfl, loop_eq_some.1 found⟩
  | _ => cases h

/-- An attempt that resumes a control connection does not persist. -/
theorem attempt_resumes {task : TaskID} {loop : ControlLoop} {answer : Answer} {now : Int} {cancelled : Bool}
    (resumed : a.label = .resume task answer now cancelled) (found : s.tasks task = some (.runControlConnection loop)) :
    attempt foundation s a = s.resumeControl foundation task loop answer := by
  have idle : s.persisting foundation a.label = none := by
    rw [resumed]
    simp [State.persisting, found, Routine.persists]
  unfold attempt
  rw [idle, resumed]
  simp only [step, State.resume, found]

/-- **Every step is made of edits**, but for those of a control connection; and a step that does not call
`stopControlConnection` has none that stops it. -/
theorem edits_step (allocated : s.Allocated) (carry : s.Carry Q) (current : ∀ session ∈ s.currentSession, Q session)
    (bare : ∀ session : ActiveSession, session.backgroundImage = none → session.logoImage = none → Q session)
    (apart : s.resumes label = none) (stays : stops = false → s.stops foundation label = false)
    (taken : step foundation s label = some s') : Edits Q stops s s' := by
  cases label with
  | bootstrap failure =>
    cases taken
    refine edits_bootstrap bare fun off => ?_
    have stays := stays off
    simp only [State.stops, Bool.and_eq_false_iff, Bool.not_eq_false', Option.isNone_eq_false_iff] at stays
    exact stays.imp_right Option.isSome_iff_ne_none.1
  | refreshSession =>
    cases taken
    exact edits_callRefresh current
  | handleSceneActive =>
    cases taken
    have same : s.startControlConnection.currentSession = s.currentSession := congrArg Prod.fst screen_startControlConnection
    exact edits_start.trans (edits_callRefresh (by rw [same]; exact current))
  | beginPairing payload link cancelled =>
    cases taken
    exact edits_beginPairing allocated payload link cancelled
  | forgetPairing failure =>
    cases taken
    refine edits_forgetPairing ?_ failure
    by_contra not
    cases stays (Bool.eq_false_iff.2 not)
  | submitCheckin session person direction notes selfie =>
    dsimp only [step] at taken
    split at taken <;> cases taken
    exact edits_submitCheckin
  | handleSubmissionFailure error =>
    cases taken
    unfold State.handleSubmissionFailure
    split
    · exact edits_quiet rfl (Nat.le_refl _) rfl rfl
    · exact .refl
  | resume task answer now cancelled =>
    dsimp only [step, State.resume] at taken
    cases found : s.tasks task with
    | none =>
      rw [found] at taken
      cases taken
    | some routine =>
      rw [found] at taken
      dsimp only at taken
      have meets := carry task routine found
      cases routine with
      | bootstrap cachedSession build => exact edits_resumeBootstrap found meets taken
      | refreshSession wait =>
        cases answer <;> try cases taken
        dsimp only at taken
        split at taken <;> cases taken
        exact (edits_finish (plain_of_found found rfl)).trans (edits_refreshed wait)
      | refreshTask session =>
        cases answer <;> cases taken
        exact edits_performRefresh (plain_of_found found rfl) (meets session List.mem_cons_self)
      | performRefresh build => exact edits_resumeRefresh found meets taken
      | awaitRefresh payload link awaited =>
        cases answer <;> try cases taken
        dsimp only at taken
        split at taken <;> cases taken
        exact edits_pair (plain_of_found found rfl) payload link cancelled
      | beginPairing stationKey link build =>
        refine edits_resumePairing found meets (fun off => ?_) taken
        have stays := stays off
        simpa [State.stops, found] using stays
      | submitCheckin client request =>
        cases answer <;> cases taken
        exact edits_up_to (edits_finish (plain_of_found found rfl)) rfl (Nat.le_refl _) rfl rfl
      | runControlConnection loop => simp [State.resumes, State.loop, found, Routine.loop] at apart

/-- **An attempt is edits**, unless it resumes a control connection. -/
theorem edits_attempt (allocated : s.Allocated) (carry : s.Carry Q) (current : ∀ session ∈ s.currentSession, Q session)
    (bare : ∀ session : ActiveSession, session.backgroundImage = none → session.logoImage = none → Q session)
    (apart : s.resumes a.label = none)
    (stays : stops = false → s.stops foundation a.label = false ∨
      (s.persisting foundation a.label).isSome ∧ a.storage.isSome)
    (taken : attempt foundation s a = some s') : Edits Q stops s s' := by
  unfold attempt at taken
  split at taken
  · rename_i task routine session failure persisting failed
    cases taken
    obtain ⟨answer, now, cancelled, _, found, persists⟩ := persisting_eq_some persisting
    exact edits_failPersist found persists
  · rename_i works
    refine edits_step allocated carry current bare apart (fun off => (stays off).resolve_right ?_) taken
    rintro ⟨persists, fails⟩
    obtain ⟨⟨task, routine, session⟩, persisting⟩ := Option.isSome_iff_exists.1 persists
    obtain ⟨failure, failed⟩ := Option.isSome_iff_exists.1 fails
    exact works task routine session failure persisting failed

end Attempts

/-! ## What edits keep -/

section Keeps

variable {Q : ActiveSession → Prop} {stops : Bool} {foundation : Foundation} {s s' : State} {task : TaskID}

theorem State.Allocated.set (allocated : s.Allocated) {routine : Option Routine} (old : task < s.nextTask) :
    (s.set task routine).Allocated := by
  intro other present
  by_cases same : other = task
  · subst same
    exact old
  · rw [State.set_tasks_ne same] at present
    exact allocated other present

theorem State.Allocated.spawn (allocated : s.Allocated) (routine : Routine) : (s.spawn routine).Allocated := by
  intro other present
  by_cases same : other = s.nextTask
  · subst same
    exact Nat.lt_succ_self _
  · rw [State.spawn_tasks_ne same] at present
    exact Nat.lt_succ_of_lt (allocated other present)

theorem State.Carry.set (carry : s.Carry Q) {routine : Option Routine}
    (meets : ∀ r, routine = some r → ∀ session ∈ r.sessions, Q session) : (s.set task routine).Carry Q := by
  intro other found there session mem
  by_cases same : other = task
  · subst same
    rw [State.set_tasks_self] at there
    exact meets found there session mem
  · rw [State.set_tasks_ne same] at there
    exact carry other found there session mem

/-- The tasks are numbered, and their sessions meet `Q`. -/
structure State.Tended (Q : ActiveSession → Prop) (s : State) : Prop where
  allocated : s.Allocated
  carry : s.Carry Q

/-- `Tended` is about the tasks alone. -/
theorem State.Tended.congr (tended : s.Tended Q) (tasks : s'.tasks = s.tasks) (next : s.nextTask ≤ s'.nextTask) :
    s'.Tended Q where
  allocated task present := by
    rw [tasks] at present
    exact Nat.lt_of_lt_of_le (tended.allocated task present) next
  carry := by
    unfold State.Carry
    rw [tasks]
    exact tended.carry

/-- A routine that meets `Q` keeps it. -/
theorem State.Tended.set (tended : s.Tended Q) {routine : Option Routine} (old : task < s.nextTask)
    (meets : ∀ r, routine = some r → ∀ session ∈ r.sessions, Q session) : (s.set task routine).Tended Q :=
  ⟨tended.allocated.set old, tended.carry.set meets⟩

theorem State.Tended.spawn (tended : s.Tended Q) {routine : Routine} (meets : ∀ session ∈ routine.sessions, Q session) :
    (s.spawn routine).Tended Q := by
  refine ⟨tended.allocated.spawn routine, ?_⟩
  have carry : (s.set s.nextTask (some routine)).Carry Q := tended.carry.set fun r same => by
    cases same
    exact meets
  exact carry

theorem State.Tended.stop (tended : s.Tended Q) : s.stopControlConnection.Tended Q := by
  have cancelled : ∀ task, (s.cancel task).Tended Q := by
    intro task
    unfold State.cancel
    split
    · rename_i loop running
      refine tended.set (tended.allocated task (by simp [running])) fun r same => ?_
      cases same
      exact nofun
    · exact tended
  unfold State.stopControlConnection
  cases s.controlTask with
  | none => exact tended.congr rfl (Nat.le_refl _)
  | some task => exact (cancelled task).congr rfl (Nat.le_refl _)

theorem State.Tended.start (tended : s.Tended Q) : s.startControlConnection.Tended Q := by
  unfold State.startControlConnection
  split
  · have spawned : (s.spawn (.runControlConnection { generation := s.controlGeneration + 1 })).Tended Q := tended.spawn nofun
    exact spawned.congr rfl (Nat.le_refl _)
  · exact tended

/-- One edit keeps it, by its kind. -/
theorem State.Tended.edit (tended : s.Tended Q) (edit : Edit Q stops s s') : s'.Tended Q := by
  cases edit with
  | quiet tasks next control generation => exact tended.congr tasks next
  | set task routine plain meets => exact tended.set (plain tended.allocated).1 fun r same => (meets r same).sessions
  | spawn routine meets => exact tended.spawn meets.sessions
  | start => exact tended.start
  | stop allowed => exact tended.stop

/-- Edits keep it, by induction on their number. -/
theorem State.Tended.edits (tended : s.Tended Q) (edits : Edits Q stops s s') : s'.Tended Q := by
  induction edits with
  | refl => exact tended
  | tail _ edit ih => exact ih.edit edit

/-- Nothing runs at a launch. -/
theorem State.Tended.of_idle (idle : s.Idle) : s.Tended Q where
  allocated task present := absurd (idle task) present
  carry task routine found := by cases (idle task).symm.trans found

end Keeps

section Control

variable {Q : ActiveSession → Prop} {foundation : Foundation} {s s' : State} {task : TaskID} (loop : ControlLoop)

/-- A control connection keeps no session, so each of its moves keeps `Tended`. -/
theorem State.Tended.waitAt (tended : s.Tended Q) (live : task < s.nextTask) (point : ControlPoint) :
    (s.waitAt task loop point).Tended Q := by
  refine tended.set live fun r same => ?_
  cases same
  exact nofun

theorem State.Tended.endControl (tended : s.Tended Q) (live : task < s.nextTask) : (s.endControl task loop).Tended Q := by
  have ended : (s.set task none).Tended Q := tended.set live fun _ absent => by cases absent
  exact ended.congr rfl (Nat.le_refl _)

theorem State.Tended.receiveControl (tended : s.Tended Q) (live : task < s.nextTask) :
    (s.receiveControl task loop).Tended Q := by
  unfold State.receiveControl
  split
  · exact tended.endControl loop live
  · exact tended.waitAt loop live _

theorem State.Tended.failControl (tended : s.Tended Q) (live : task < s.nextTask) : (s.failControl task loop).Tended Q := by
  unfold State.failControl
  split
  · exact tended.endControl loop live
  · exact tended.waitAt loop live _

theorem State.Tended.connectControl (tended : s.Tended Q) (live : task < s.nextTask) :
    (s.connectControl foundation task loop).Tended Q := by
  unfold State.connectControl
  split
  · split
    · exact tended.endControl loop live
    · exact tended.waitAt loop live _
  · exact tended.endControl loop live

/-- Tasks are numbered upwards. -/
theorem nextTask_edits {stops : Bool} (edits : Edits Q stops s s') : s.nextTask ≤ s'.nextTask := by
  induction edits with
  | refl => exact Nat.le_refl _
  | @tail mid last _ edit ih =>
    refine Nat.le_trans ih ?_
    cases edit with
    | quiet tasks next control generation => exact next
    | set task routine plain meets => exact Nat.le_refl _
    | spawn routine meets => exact Nat.le_succ _
    | start =>
      unfold State.startControlConnection
      split
      · exact Nat.le_succ _
      · exact Nat.le_refl _
    | stop allowed =>
      unfold State.stopControlConnection
      cases mid.controlTask with
      | none => exact Nat.le_refl _
      | some task =>
        show mid.nextTask ≤ (mid.cancel task).nextTask
        unfold State.cancel
        split <;> exact Nat.le_refl _

/-- A message may start a refresh, of the current session. -/
theorem State.Tended.handleMessage (tended : s.Tended Q) (current : ∀ session ∈ s.currentSession, Q session)
    (live : task < s.nextTask) (type : String) : (s.handleMessage task loop type).Tended Q := by
  have edits : Edits Q false s s.refreshSession.1 := edits_refreshSession current
  have refreshed := tended.edits edits
  have still : task < s.refreshSession.1.nextTask := Nat.lt_of_lt_of_le live (nextTask_edits edits)
  unfold State.handleMessage
  split
  · exact tended.waitAt loop live _
  split
  · split
    · rename_i returned
      rw [returned] at refreshed still
      exact refreshed.waitAt loop still _
    · rename_i returned
      rw [returned] at refreshed still
      exact refreshed.receiveControl loop still
  · exact tended.receiveControl loop live

theorem State.Tended.resumeControl (tended : s.Tended Q) (current : ∀ session ∈ s.currentSession, Q session)
    (live : task < s.nextTask) {answer : Answer} (h : s.resumeControl foundation task loop answer = some s') :
    s'.Tended Q := by
  unfold State.resumeControl at h
  cases answer with
  | resumed =>
    dsimp only at h
    split at h
    · cases h
      exact tended.connectControl loop live
    · rename_i wait _
      split at h <;> cases h
      have edits : Edits Q false s (s.refreshed wait) := edits_refreshed wait
      exact (tended.edits edits).receiveControl loop (Nat.lt_of_lt_of_le live (nextTask_edits edits))
    · cases h
  | sent result =>
    dsimp only at h
    split at h <;> cases h
    · exact tended.receiveControl loop live
    · exact tended.failControl loop live
  | message result =>
    dsimp only at h
    split at h <;> cases h
    · exact tended.handleMessage loop current live _
    · exact tended.failControl loop live
  | slept result =>
    dsimp only at h
    split at h <;> cases h
    · exact tended.connectControl loop live
    · exact tended.endControl loop live
  | _ => cases h

/-- What the tasks keep in an attempt. -/
theorem State.Tended.attempt {a : Attempt} (tended : s.Tended Q) (current : ∀ session ∈ s.currentSession, Q session)
    (bare : ∀ session : ActiveSession, session.backgroundImage = none → session.logoImage = none → Q session)
    (taken : Woodgate.App.attempt foundation s a = some s') : s'.Tended Q := by
  cases resumes : s.resumes a.label with
  | none =>
    have edits : Edits Q true s s' := edits_attempt tended.allocated tended.carry current bare resumes (fun off => by cases off) taken
    exact tended.edits edits
  | some resumed =>
    obtain ⟨answer, now, cancelled, label, found⟩ := resumes_eq_some resumes
    rw [attempt_resumes label found] at taken
    exact tended.resumeControl resumed.2 current (tended.allocated resumed.1 (by simp [found])) taken

end Control

end Woodgate.App
