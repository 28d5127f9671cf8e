import Woodgate.App.Pairing

/-!
# Configuration changes

A `configuration_changed` message makes the control connection refresh the session. The
refresh is a request of its own only when nothing else holds `isBusy` and the refresh in
flight, if any, has not sent its request (`State.Attends`); then a configuration request
goes out before the connection waits for its next message
(`configuration_change_refreshes`). Otherwise the message is lost
(`configuration_change_swallowed`).
-/

namespace Woodgate.App

open Library.Runs

namespace Routine

/-- A refresh that has not sent its request. -/
def isUnstarted : Routine → Bool
  | .refreshTask _ => true
  | _ => false

/-- Where a control connection waits. -/
def controlPoint : Routine → Option ControlPoint
  | .runControlConnection loop => some loop.point
  | _ => none

end Routine

namespace State

/-- The station is paired and has a session. -/
def Paired (foundation : Foundation) (s : State) : Prop :=
  s.currentSession.isSome ∧ s.settings.hasPairing ∧ (s.settings.woodGateClient foundation).isSome

instance (foundation : Foundation) (s : State) : Decidable (s.Paired foundation) :=
  inferInstanceAs (Decidable (_ ∧ _ ∧ _))

/-- No method is busy, and the refresh in flight has not started. -/
def Attends (s : State) : Prop :=
  s.isBusy = false ∧ ∀ refresh ∈ s.refreshInFlightTask, (s.tasks refresh).any Routine.isUnstarted

instance (s : State) : Decidable s.Attends := inferInstanceAs (Decidable (_ ∧ _))

/-- The control connection `task` waits for its next message. -/
def Receiving (s : State) (task : TaskID) : Prop := (s.tasks task).bind Routine.controlPoint = some .receiving

instance (s : State) (task : TaskID) : Decidable (s.Receiving task) := inferInstanceAs (Decidable (_ = _))

/-- Tasks have been numbered. -/
def Allocated (s : State) : Prop := ∀ task, s.tasks task ≠ none → task < s.nextTask

/-- The numbered tasks, with `own` among them. -/
def Ready (own : Option TaskID) (s : State) : Prop := s.Allocated ∧ ∀ task, own = some task → task < s.nextTask

end State

/-- The same routine, for a control connection up to its cancellation. -/
def Routine.Same : Routine → Routine → Prop
  | .runControlConnection loop, .runControlConnection loop' => loop'.point = loop.point
  | routine, routine' => routine' = routine

theorem Routine.Same.refl (routine : Routine) : routine.Same routine := by
  cases routine <;> rfl

theorem Routine.Same.trans {a b c : Routine} (first : a.Same b) (second : b.Same c) : a.Same c := by
  cases a <;> cases b <;> cases c <;> simp_all [Routine.Same]

/-- A step of the task `own`, or of none: the other tasks wait where they waited. -/
structure Leaves (own : Option TaskID) (s s' : State) : Prop where
  requests : s.history.requests ≤ s'.history.requests
  ready : s.Ready own → s'.Ready own
  others : s.Ready own → ∀ task routine, own ≠ some task → s.tasks task = some routine →
    ∃ routine', s'.tasks task = some routine' ∧ routine.Same routine'

namespace Leaves

variable {own : Option TaskID} {s s' s'' : State}

theorem refl (s : State) : Leaves own s s :=
  ⟨Nat.le_refl _, id, fun _ _ routine _ found => ⟨routine, found, .refl routine⟩⟩

theorem trans (first : Leaves own s s') (second : Leaves own s' s'') : Leaves own s s'' where
  requests := Nat.le_trans first.requests second.requests
  ready ready := second.ready (first.ready ready)
  others ready task routine other found := by
    obtain ⟨routine', found', same⟩ := first.others ready task routine other found
    obtain ⟨routine'', found'', same'⟩ := second.others (first.ready ready) task routine' other found'
    exact ⟨routine'', found'', same.trans same'⟩

/-- A state that differs from `s'` only in what `Leaves` does not read. -/
theorem congr (h : Leaves own s s') (tasks : s''.tasks = s'.tasks) (next : s''.nextTask = s'.nextTask)
    (requests : s'.history.requests ≤ s''.history.requests) : Leaves own s s'' where
  requests := Nat.le_trans h.requests requests
  ready ready := by
    unfold State.Ready State.Allocated
    rw [tasks, next]
    exact h.ready ready
  others := by
    rw [tasks]
    exact h.others

end Leaves

section Operations

variable {own : Option TaskID} {s : State}

theorem leaves_set (task : TaskID) (routine : Option Routine) : Leaves (some task) s (s.set task routine) where
  requests := Nat.le_refl _
  ready ready := by
    refine ⟨fun other present => ?_, ready.2⟩
    by_cases same : other = task
    · subst same
      exact ready.2 other rfl
    · rw [State.set_tasks_ne same] at present
      exact ready.1 other present
  others _ other routine' different found := by
    have ne : other ≠ task := fun same => different (congrArg some same.symm)
    refine ⟨routine', ?_, .refl routine'⟩
    rw [State.set_tasks_ne ne]
    exact found

theorem leaves_spawn (routine : Routine) : Leaves own s (s.spawn routine) where
  requests := Nat.le_refl _
  ready ready := by
    refine ⟨fun other present => ?_, fun task same => Nat.lt_succ_of_lt (ready.2 task same)⟩
    by_cases same : other = s.nextTask
    · subst same
      exact Nat.lt_succ_self _
    · have found : s.tasks other ≠ none := by
        rwa [State.spawn_tasks_ne same] at present
      exact Nat.lt_succ_of_lt (ready.1 other found)
  others ready other routine' _ found := by
    have live : other < s.nextTask := ready.1 other (by simp [found])
    refine ⟨routine', ?_, .refl routine'⟩
    rw [State.spawn_tasks_ne (Nat.ne_of_lt live)]
    exact found

theorem leaves_cancel (task : TaskID) : Leaves own s (s.cancel task) := by
  unfold State.cancel
  split
  case h_2 => exact .refl s
  rename_i loop running
  refine ⟨Nat.le_refl _, fun ready => ⟨fun other present => ?_, ready.2⟩, fun _ other routine _ found => ?_⟩
  · by_cases same : other = task
    · subst same
      exact ready.1 other (by simp [running])
    · rw [State.set_tasks_ne same] at present
      exact ready.1 other present
  · by_cases same : other = task
    · subst same
      rw [running] at found
      cases found
      exact ⟨.runControlConnection { loop with cancelled := true }, State.set_tasks_self _, rfl⟩
    · refine ⟨routine, ?_, .refl routine⟩
      rw [State.set_tasks_ne same]
      exact found

theorem leaves_startControlConnection : Leaves own s s.startControlConnection := by
  unfold State.startControlConnection
  split
  · have spawned : Leaves own s (s.spawn (.runControlConnection { generation := s.controlGeneration + 1 })) :=
      leaves_spawn _
    exact spawned.congr rfl rfl (Nat.le_refl _)
  · exact .refl s

theorem leaves_stopControlConnection : Leaves own s s.stopControlConnection := by
  unfold State.stopControlConnection
  cases s.controlTask with
  | none => exact (Leaves.refl s).congr rfl rfl (Nat.le_refl _)
  | some task => exact (leaves_cancel task).congr rfl rfl (Nat.le_refl _)

theorem leaves_refreshSession : Leaves own s s.refreshSession.1 := by
  unfold State.refreshSession
  split
  · exact .refl s
  · split
    · split
      · exact .refl s
      · rename_i currentSession _ _ _ _
        have spawned : Leaves own s (s.spawn (.refreshTask currentSession)) := leaves_spawn _
        exact spawned.congr rfl rfl (Nat.le_refl _)
    · exact .refl s

theorem leaves_callRefresh : Leaves own s s.callRefresh := by
  have refreshed : Leaves own s s.refreshSession.1 := leaves_refreshSession
  unfold State.callRefresh
  split
  · rename_i result s' wait returned
    rw [returned] at refreshed
    exact refreshed.trans (leaves_spawn _)
  · rename_i result s' returned
    rw [returned] at refreshed
    exact refreshed

theorem leaves_refreshed (wait : RefreshWait) : Leaves own s (s.refreshed wait) := by
  unfold State.refreshed
  split
  · exact (Leaves.refl s).congr rfl rfl (Nat.le_refl _)
  · exact .refl s

theorem leaves_clearStoredSession (failure : Option StorageFailure) : Leaves own s (s.clearStoredSession failure) := by
  unfold State.clearStoredSession
  split <;> exact (Leaves.refl s).congr rfl rfl (Nat.le_refl _)

theorem leaves_answered (client : WoodGateAPIClient) (answer : Answer) : Leaves own s (s.answered client answer) := by
  unfold State.answered
  split <;> exact (Leaves.refl s).congr rfl rfl (Nat.le_refl _)

theorem leaves_request : Leaves own s s.request := (Leaves.refl s).congr rfl rfl (Nat.le_succ _)

end Operations

section Control

variable {foundation : Foundation} {s s' : State} (task : TaskID) (loop : ControlLoop)

theorem leaves_endControl : Leaves (some task) s (s.endControl task loop) :=
  (leaves_set task none).congr rfl rfl (Nat.le_refl _)

theorem leaves_connectControl : Leaves (some task) s (s.connectControl foundation task loop) := by
  unfold State.connectControl
  split
  · split
    · exact leaves_endControl task loop
    · exact leaves_set task _
  · exact leaves_endControl task loop

theorem leaves_receiveControl : Leaves (some task) s (s.receiveControl task loop) := by
  unfold State.receiveControl
  split
  · exact leaves_endControl task loop
  · exact leaves_set task _

theorem leaves_failControl : Leaves (some task) s (s.failControl task loop) := by
  unfold State.failControl
  split
  · exact leaves_endControl task loop
  · exact leaves_set task _

theorem leaves_handleMessage (type : String) : Leaves (some task) s (s.handleMessage task loop type) := by
  have refreshed : Leaves (some task) s s.refreshSession.1 := leaves_refreshSession
  unfold State.handleMessage
  split
  · exact leaves_set task _
  split
  · split
    · rename_i result s' wait returned
      rw [returned] at refreshed
      exact refreshed.trans (leaves_set task _)
    · rename_i result s' returned
      rw [returned] at refreshed
      exact refreshed.trans (leaves_receiveControl task loop)
  · exact leaves_receiveControl task loop

variable {task} {loop}

theorem leaves_resumeControl {answer : Answer} (h : s.resumeControl foundation task loop answer = some s') :
    Leaves (some task) s s' := by
  unfold State.resumeControl at h
  cases answer with
  | resumed =>
    dsimp only at h
    split at h
    · cases h
      exact leaves_connectControl task loop
    · split at h <;> cases h
      exact (leaves_refreshed _).trans (leaves_receiveControl task loop)
    · cases h
  | sent result =>
    dsimp only at h
    split at h <;> cases h
    · exact leaves_receiveControl task loop
    · exact leaves_failControl task loop
  | message result =>
    dsimp only at h
    split at h <;> cases h
    · exact leaves_handleMessage task loop _
    · exact leaves_failControl task loop
  | slept result =>
    dsimp only at h
    split at h <;> cases h
    · exact leaves_connectControl task loop
    · exact leaves_endControl task loop
  | _ => cases h

end Control

section Sessions

variable {foundation : Foundation} {s s' : State} {task : TaskID} {build : Build} {now : Int} {answer : Answer}

theorem leaves_bootstrap {own : Option TaskID} (failure : Option StorageFailure) :
    Leaves own s (s.bootstrap foundation failure) := by
  unfold State.bootstrap
  split
  · split
    · exact (Leaves.refl s).congr rfl rfl (Nat.le_refl _)
    · split
      · exact (Leaves.refl s).congr rfl rfl (Nat.le_refl _)
      · exact leaves_request.trans (leaves_spawn _)
  · split
    · exact (leaves_clearStoredSession _).congr rfl rfl (Nat.le_refl _)
    · refine Leaves.trans ?_ leaves_stopControlConnection
      exact (Leaves.refl s).congr rfl rfl (Nat.le_refl _)

theorem leaves_resumeBootstrap {cachedSession : Option ActiveSession}
    (h : s.resumeBootstrap foundation task cachedSession build now answer = some s') : Leaves (some task) s s' := by
  obtain ⟨progress, _, rfl⟩ := Option.map_eq_some_iff.1 h
  have ended : Leaves (some task) s (s.set task none) := leaves_set task none
  cases progress with
  | waits next => exact (leaves_answered _ _).trans (leaves_set task _)
  | returns session =>
    refine Leaves.trans ?_ leaves_startControlConnection
    exact ended.congr rfl rfl (Nat.le_refl _)
  | throws error =>
    refine Leaves.trans ?_ leaves_startControlConnection
    exact ended.congr rfl rfl (Nat.le_refl _)

theorem leaves_performRefresh {session : ActiveSession} :
    Leaves (some task) s (s.performRefresh foundation task session) := by
  unfold State.performRefresh
  split
  · exact (leaves_set task none).congr rfl rfl (Nat.le_refl _)
  · exact leaves_request.trans (leaves_set task _)

theorem leaves_resumeRefresh (h : s.resumeRefresh foundation task build now answer = some s') :
    Leaves (some task) s s' := by
  obtain ⟨progress, _, rfl⟩ := Option.map_eq_some_iff.1 h
  have ended : Leaves (some task) s (s.set task none) := leaves_set task none
  cases progress with
  | waits next => exact (leaves_answered _ _).trans (leaves_set task _)
  | returns session => exact ended.congr rfl rfl (Nat.le_refl _)
  | throws error => exact ended.congr rfl rfl (Nat.le_refl _)

theorem leaves_failPairing {link cancelled : Bool} {error : AppError} :
    Leaves (some task) s (s.failPairing task link cancelled error) := by
  have ended : Leaves (some task) s (s.set task none) := leaves_set task none
  unfold State.failPairing
  split <;> exact ended.congr rfl rfl (Nat.le_refl _)

theorem leaves_pair {payload : PairingPayload} {link cancelled : Bool} :
    Leaves (some task) s (s.pair foundation task payload link cancelled) := by
  unfold State.pair
  dsimp only
  split
  · exact leaves_failPairing
  · split
    · exact leaves_failPairing
    · exact leaves_request.trans (leaves_set task _)

theorem leaves_beginPairing {payload : PairingPayload} {link cancelled : Bool} :
    Leaves none s (s.beginPairing foundation payload link cancelled) := by
  unfold State.beginPairing
  split
  · split <;> exact (Leaves.refl s).congr rfl rfl (Nat.le_refl _)
  · dsimp only
    -- the pairing gets the next number, which no other task has
    have numbered : ∀ s', Leaves (some s.nextTask) { s with isBusy := true, nextTask := s.nextTask + 1 } s' →
        Leaves none s s' := by
      intro s' leaves
      have ready : s.Ready none → State.Ready (some s.nextTask) { s with isBusy := true, nextTask := s.nextTask + 1 } := by
        intro ready
        refine ⟨fun task present => Nat.lt_succ_of_lt (ready.1 task present), fun task same => ?_⟩
        cases same
        exact Nat.lt_succ_self _
      refine ⟨leaves.requests, fun before => ⟨(leaves.ready (ready before)).1, fun _ same => by cases same⟩, ?_⟩
      intro before task routine _ found
      have live : task < s.nextTask := before.1 task (by simp [found])
      refine leaves.others (ready before) task routine (fun same => ?_) found
      cases same
      exact Nat.lt_irrefl _ live
    split
    · exact numbered _ (leaves_set _ _)
    · exact numbered _ leaves_pair

theorem leaves_resumePairing {stationKey : String} {link cancelled : Bool}
    (h : s.resumePairing foundation task stationKey link build now cancelled answer = some s') :
    Leaves (some task) s s' := by
  obtain ⟨progress, _, rfl⟩ := Option.map_eq_some_iff.1 h
  cases progress with
  | waits next => exact (leaves_answered _ _).trans (leaves_set task _)
  | throws error => exact leaves_failPairing
  | returns session =>
    dsimp only
    split
    · exact leaves_failPairing
    · have ended : Leaves (some task) s (((s.set task none).persist session stationKey).paired
          ⟨build.baseURLString, stationKey, build.client⟩) :=
        (leaves_set task none).congr rfl rfl (Nat.le_refl _)
      have stopped := ended.trans leaves_stopControlConnection
      have shown : Leaves (some task) s ((((s.set task none).persist session stationKey).paired
          ⟨build.baseURLString, stationKey, build.client⟩).stopControlConnection.showSession session) :=
        stopped.congr rfl rfl (Nat.le_refl _)
      exact (shown.trans leaves_startControlConnection).congr rfl rfl (Nat.le_refl _)

theorem leaves_forgetPairing {own : Option TaskID} (failure : Option StorageFailure) :
    Leaves own s (s.forgetPairing failure) := by
  unfold State.forgetPairing
  dsimp only
  split
  · exact (leaves_stopControlConnection.trans (leaves_clearStoredSession _)).congr rfl rfl (Nat.le_refl _)
  · exact (leaves_stopControlConnection.trans (leaves_clearStoredSession none)).congr rfl rfl (Nat.le_refl _)

theorem leaves_submitCheckin {own : Option TaskID} {session : ActiveSession} {person : PersonSummary}
    {direction : CheckinDirectionChoice} {notes : String} {selfie : Option (List UInt8)} :
    Leaves own s (s.submitCheckin foundation session person direction notes selfie) := by
  have busy : Leaves own s { s with isBusy := true } := (Leaves.refl s).congr rfl rfl (Nat.le_refl _)
  unfold State.submitCheckin
  split
  · exact busy.congr rfl rfl (Nat.le_refl _)
  · exact busy.trans (leaves_spawn _)

/-- The task a step resumes. -/
def Label.own : Label → Option TaskID
  | .resume task _ _ _ => some task
  | _ => none

/-- What a step does to the tasks it does not resume. -/
theorem step_leaves {label : Label} (h : step foundation s label = some s') : Leaves label.own s s' := by
  cases label with
  | bootstrap failure =>
    cases h
    exact leaves_bootstrap failure
  | refreshSession =>
    cases h
    exact leaves_callRefresh
  | handleSceneActive =>
    cases h
    exact leaves_startControlConnection.trans leaves_callRefresh
  | beginPairing payload link cancelled =>
    cases h
    exact leaves_beginPairing
  | forgetPairing failure =>
    cases h
    exact leaves_forgetPairing failure
  | submitCheckin session person direction notes selfie =>
    dsimp only [step] at h
    split at h <;> cases h
    exact leaves_submitCheckin
  | handleSubmissionFailure error =>
    cases h
    unfold State.handleSubmissionFailure
    split <;> exact (Leaves.refl s).congr rfl rfl (Nat.le_refl _)
  | resume task answer now cancelled =>
    dsimp only [step, State.resume] at h
    have ended : Leaves (some task) s (s.set task none) := leaves_set task none
    cases found : s.tasks task with
    | none =>
      rw [found] at h
      cases h
    | some routine =>
      rw [found] at h
      dsimp only at h
      cases routine with
      | bootstrap cachedSession build => exact leaves_resumeBootstrap h
      | refreshSession wait =>
        cases answer <;> try cases h
        dsimp only at h
        split at h <;> cases h
        exact ended.trans (leaves_refreshed wait)
      | refreshTask session =>
        cases answer <;> cases h
        exact leaves_performRefresh
      | performRefresh build => exact leaves_resumeRefresh h
      | awaitRefresh payload link awaited =>
        cases answer <;> try cases h
        dsimp only at h
        split at h <;> cases h
        exact leaves_pair
      | beginPairing stationKey link build => exact leaves_resumePairing h
      | submitCheckin client request =>
        cases answer <;> cases h
        exact ended.congr rfl rfl (Nat.le_refl _)
      | runControlConnection loop => exact leaves_resumeControl h

end Sessions

section Promise

variable {foundation : Foundation} {s s' : State} {task : TaskID}

/-- A task that a step resumes is numbered. -/
theorem State.Allocated.ready {label : Label} (allocated : s.Allocated) (taken : step foundation s label = some s') :
    s.Ready label.own := by
  refine ⟨allocated, fun task same => ?_⟩
  cases label <;> cases same
  refine allocated task fun absent => ?_
  simp [step, State.resume, absent] at taken

theorem State.Allocated.step {label : Label} (allocated : s.Allocated)
    (taken : Woodgate.App.step foundation s label = some s') : s'.Allocated :=
  ((step_leaves taken).ready (allocated.ready taken)).1

/-- The control connection `task` awaits a refresh that has not sent its request, or one has gone out since there
were `before`. -/
def State.Promised (s : State) (task : TaskID) (before : Nat) : Prop :=
  before < s.history.requests ∨ before ≤ s.history.requests ∧ ∃ loop wait session,
    s.tasks task = some (.runControlConnection loop) ∧ loop.point = .refreshing wait ∧
    s.tasks wait.task = some (.refreshTask session)

/-- A refresh that starts while the station is paired sends its request. -/
theorem performRefresh_requests {refresh : TaskID} {session : ActiveSession} (paired : s.Paired foundation) :
    (s.performRefresh foundation refresh session).history.requests = s.history.requests + 1 := by
  obtain ⟨client, found⟩ := Option.isSome_iff_exists.1 paired.2.2
  rw [State.performRefresh, found]
  rfl

/-- Every step keeps the promise while the station is paired. -/
theorem State.Promised.step {label : Label} {before : Nat} (promised : s.Promised task before) (allocated : s.Allocated)
    (paired : s.Paired foundation) (h : Woodgate.App.step foundation s label = some s') : s'.Promised task before := by
  have leaves : Leaves label.own s s' := step_leaves h
  have ready : s.Ready label.own := allocated.ready h
  rcases promised with sent | ⟨least, loop, wait, session, running, refreshing, unstarted⟩
  · exact .inl (Nat.lt_of_lt_of_le sent leaves.requests)
  -- only a task itself moves on, and the connection has to wait for the refresh
  cases own : label.own with
  | none =>
    obtain ⟨routine, running', same⟩ := leaves.others ready task _ (by simp [own]) running
    obtain ⟨routine', unstarted', same'⟩ := leaves.others ready wait.task _ (by simp [own]) unstarted
    cases routine <;> try cases same
    cases same'
    rename_i loop'
    have point : loop'.point = loop.point := same
    exact .inr ⟨Nat.le_trans least leaves.requests, loop', wait, session, running', point.trans refreshing, unstarted'⟩
  | some resumed =>
    cases label <;> cases own
    rename_i answer now cancelled
    by_cases started : resumed = wait.task
    · subst started
      simp only [Woodgate.App.step, State.resume, unstarted] at h
      cases answer <;> cases h
      refine .inl ?_
      rw [performRefresh_requests paired]
      exact Nat.lt_succ_of_le least
    by_cases itself : resumed = task
    · subst itself
      simp only [Woodgate.App.step, State.resume, running] at h
      unfold State.resumeControl at h
      cases answer <;> simp [refreshing, unstarted] at h
    · obtain ⟨routine, running', same⟩ := leaves.others ready task _ (fun eq => itself (Option.some.inj eq)) running
      obtain ⟨routine', unstarted', same'⟩ :=
        leaves.others ready wait.task _ (fun eq => started (Option.some.inj eq)) unstarted
      cases routine <;> try cases same
      cases same'
      rename_i loop'
      have point : loop'.point = loop.point := same
      exact .inr ⟨Nat.le_trans least leaves.requests, loop', wait, session, running', point.trans refreshing, unstarted'⟩

/-- A kept promise: a connection that waits for a message again has seen a request go out. -/
theorem State.Promised.kept {before : Nat} (promised : s.Promised task before) (waits : s.Receiving task) :
    before < s.history.requests := by
  rcases promised with sent | ⟨_, loop, wait, session, running, refreshing, _⟩
  · exact sent
  · rw [State.Receiving, running] at waits
    have point : loop.point = .receiving := Option.some.inj waits
    rw [refreshing] at point
    cases point

/-- A message the connection attends to is a promise. -/
theorem handleMessage_promises {loop : ControlLoop} (running : s.tasks task = some (.runControlConnection loop))
    (allocated : s.Allocated) (paired : s.Paired foundation) (attends : s.Attends) :
    (s.handleMessage task loop "configuration_changed").Promised task s.history.requests := by
  obtain ⟨session, shown⟩ := Option.isSome_iff_exists.1 paired.1
  have live : task < s.nextTask := allocated task (by simp [running])
  unfold State.handleMessage State.refreshSession
  simp only [shown, paired.2.1, attends.1, String.reduceEq, if_false, if_true, Bool.not_false, Bool.and_self]
  cases flight : s.refreshInFlightTask with
  | some refresh =>
    obtain ⟨captured, unstarted⟩ : ∃ captured, s.tasks refresh = some (.refreshTask captured) := by
      have first : (s.tasks refresh).any Routine.isUnstarted := attends.2 refresh flight
      cases found : s.tasks refresh with
      | none =>
        rw [found] at first
        cases first
      | some routine =>
        rw [found] at first
        cases routine <;> first | exact ⟨_, rfl⟩ | cases first
    have other : refresh ≠ task := by
      rintro rfl
      rw [running] at unstarted
      cases unstarted
    refine .inr ⟨Nat.le_refl _, { loop with point := .refreshing ⟨refresh, false⟩ }, ⟨refresh, false⟩, captured, ?_, rfl, ?_⟩
    · exact State.set_tasks_self _
    · show ((s.set task _).tasks refresh) = _
      rw [State.set_tasks_ne other]
      exact unstarted
  | none =>
    refine .inr ⟨Nat.le_refl _, { loop with point := .refreshing ⟨s.nextTask, true⟩ }, ⟨s.nextTask, true⟩, session, ?_, rfl, ?_⟩
    · exact State.set_tasks_self _
    · have other : s.nextTask ≠ task := (Nat.ne_of_lt live).symm
      refine (State.set_tasks_ne other _).trans ?_
      exact State.spawn_tasks_self _

end Promise

/-- Every reachable state has its tasks numbered. -/
theorem run_allocated {foundation : Foundation} {s t : State} {labels : List Label} (idle : s.Idle)
    (h : run (step foundation) s labels = some t) : t.Allocated := by
  have start : s.Allocated := fun task present => absurd (idle task) present
  exact run_invariant State.Allocated (fun _ _ _ allocated taken => allocated.step taken) start h

/-- **No configuration change is swallowed that the app attends to**: in a run from an idle state, a
`configuration_changed` message that the control connection `task` takes while nothing is busy and no refresh is under
way, and while the station is and stays paired, is followed by a configuration request before `task` waits for its
next message. -/
theorem configuration_change_refreshes (foundation : Foundation) {s₀ s s₁ s₂ : State} {ks ls : List Label} {task : TaskID}
    {now : Int} {cancelled : Bool} (idle : s₀.Idle) (reached : run (step foundation) s₀ ks = some s)
    (attends : s.Attends) (paired : s.Paired foundation)
    (message : step foundation s (.resume task (.message (.ok "configuration_changed")) now cancelled) = some s₁)
    (stays : Guarded (step foundation) (fun s _ => s.Paired foundation) s₁ ls)
    (h : run (step foundation) s₁ ls = some s₂) (waits : s₂.Receiving task) :
    s.history.requests < s₂.history.requests := by
  have allocated : s.Allocated := run_allocated idle reached
  have allocated₁ : s₁.Allocated := run_allocated idle (run_snoc_iff.2 ⟨s, reached, message⟩)
  have promised : s₁.Promised task s.history.requests := by
    cases running : s.tasks task with
    | none => simp [step, State.resume, running] at message
    | some routine =>
      cases routine <;> simp only [step, State.resume, running] at message
      case runControlConnection loop =>
        simp only [State.resumeControl] at message
        cases at_point : loop.point <;> simp only [at_point] at message <;> cases message
        exact handleMessage_promises running allocated paired attends
      all_goals simp [State.resumeBootstrap, State.resumeRefresh, State.resumePairing, Build.resume] at message
  have ends : s₂.Allocated ∧ s₂.Promised task s.history.requests :=
    stays.run_invariant (fun u => u.Allocated ∧ u.Promised task s.history.requests)
      (fun _ _ _ inv paired taken => ⟨inv.1.step taken, inv.2.step inv.1 paired taken⟩) ⟨allocated₁, promised⟩ h
  exact ends.2.kept waits

/-! ## Messages at an awkward moment -/

/-- A start, and a control connection that waits for its first message. -/
def deskConnected : List Label :=
  [.bootstrap none] ++ deskAnswers 0 ++ [.resume 1 .resumed 30 false, .resume 1 (.sent (.ok ())) 30 false]

def deskMessage : Label := .resume 1 (.message (.ok "configuration_changed")) 40 false

/-- A run of the messages around `deskMessage`, with what the theorem asks of its states. -/
def deskRun (before after : List Label) (good : State → State → Prop) : Prop :=
  ∃ s s₁ t, run (step deskFoundation) deskState before = some s ∧ step deskFoundation s deskMessage = some s₁ ∧
    run (step deskFoundation) s₁ after = some t ∧ s.Paired deskFoundation ∧
    Guarded (step deskFoundation) (fun s _ => s.Paired deskFoundation) s₁ after ∧ t.Receiving 1 ∧ good s t

theorem deskRun_of {before after : List Label} {good : State → State → Prop} [∀ s t, Decidable (good s t)]
    (checks : ((run (step deskFoundation) deskState before).any fun s => (step deskFoundation s deskMessage).any fun s₁ =>
      (run (step deskFoundation) s₁ after).any fun t => decide (s.Paired deskFoundation ∧
        Guarded (step deskFoundation) (fun s _ => s.Paired deskFoundation) s₁ after ∧ t.Receiving 1 ∧ good s t)) = true) :
    deskRun before after good := by
  simp only [Option.any_eq_true, decide_eq_true_eq] at checks
  obtain ⟨s, reached, s₁, message, t, ran, holds⟩ := checks
  exact ⟨s, s₁, t, reached, message, ran, holds⟩

/-- The connection makes a refresh of its own. -/
theorem configuration_change_refreshes_desk :
    deskRun deskConnected ([.resume 2 .resumed 50 false] ++ deskAnswers 2 ++ [.resume 1 .resumed 60 false]) fun s t =>
      s.Attends ∧ s.history.requests < t.history.requests := by
  have runs : deskRun deskConnected ([.resume 2 .resumed 50 false] ++ deskAnswers 2 ++ [.resume 1 .resumed 60 false])
      fun s _ => s.Attends := deskRun_of (by decide +kernel)
  obtain ⟨s, s₁, t, reached, message, ran, paired, stays, waits, attends⟩ := runs
  refine ⟨s, s₁, t, reached, message, ran, paired, stays, waits, attends, ?_⟩
  exact configuration_change_refreshes deskFoundation (fun _ => rfl) reached attends paired message stays ran waits

/-- A message while the request of a periodic refresh is on its way waits for that refresh, and one while a check-in is
sent for nothing. -/
theorem configuration_change_swallowed :
    deskRun (deskConnected ++ [.refreshSession, .resume 2 .resumed 30 false]) (deskAnswers 2 ++ [.resume 1 .resumed 60 false])
      (fun s t => t.history.requests = s.history.requests) ∧
    deskRun (deskConnected ++ [.submitCheckin { deskSession with lastSyncedAt := 20 } ⟨1, "Ada", ""⟩ .checkIn "" none]) []
      fun s t => t.history.requests = s.history.requests :=
  ⟨deskRun_of (by decide +kernel), deskRun_of (by decide +kernel)⟩

end Woodgate.App
