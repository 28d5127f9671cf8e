import Woodgate.App.Connections

/-!
# Pairings that fail

A pairing that throws should leave the device as it was. `pairing_undone_iff` says that it does
unless saving the model context fails: by then `persist` has written the settings and the key and
replaced the people, and nothing takes that back.
-/

namespace Woodgate.App

open Library.Runs

namespace Routine

/-- The routine is a pairing. -/
def pairs : Routine → Bool
  | .awaitRefresh _ _ _ | .beginPairing _ _ _ => true
  | _ => false

end Routine

/-- The step resumes `task`, and that is a pairing. -/
def State.pairs (s : State) (task : TaskID) : Label → Bool
  | .resume other _ _ _ => decide (other = task) && (s.tasks task).any Routine.pairs
  | _ => false

/-- Saving the model context does not fail in this step of a pairing, or it has written what was there. -/
def State.harmless (foundation : Foundation) (s : State) (a : Attempt) : Bool :=
  match s.persisting foundation a.label, a.storage with
  | some (_, .beginPairing stationKey _ _, session), some (.save _) =>
    decide (s.settings = AppSettings.store session stationKey ∧ s.people = State.records session.people)
  | _, _ => true

/-- What a pairing that throws is to leave as it was, in the app. -/
structure Standing where
  settings : AppSettings
  people : List PersonSummary
  currentSession : Option ActiveSession
  unavailableState : Option UnavailableState
  controlTask : Option TaskID
  controlGeneration : Nat

def State.standing (s : State) : Standing where
  settings := s.settings
  people := s.people
  currentSession := s.currentSession
  unavailableState := s.unavailableState
  controlTask := s.controlTask
  controlGeneration := s.controlGeneration

/-- What a pairing that throws is to leave as it was, on the device. -/
structure Held extends Standing where
  saved : List PersonSummary
  controlSocket : Option SocketID
  activeSocket : TaskID → Option SocketID
  sockets : SocketID → Option Socket

def Device.held (d : Device) : Held where
  toStanding := d.app.standing
  saved := d.saved
  controlSocket := d.controlSocket
  activeSocket := d.activeSocket
  sockets := d.sockets

section States

variable {foundation : Foundation} {s : State} {task other : TaskID} {link cancelled : Bool} {payload : PairingPayload}

theorem standing_failPairing (error : AppError) :
    (s.failPairing task link cancelled error).standing = s.standing ∧
      (s.failPairing task link cancelled error).tasks = (s.set task none).tasks ∧
      (s.failPairing task link cancelled error).history = s.history := by
  unfold State.failPairing
  dsimp only
  split <;> exact ⟨rfl, rfl, rfl⟩

/-- `pair` sends the first request or throws, and writes neither the settings nor the people. -/
theorem standing_pair :
    (s.pair foundation task payload link cancelled).standing = s.standing ∧
      (∃ routine, (s.pair foundation task payload link cancelled).tasks = (s.set task routine).tasks ∧
        ∀ r ∈ routine, r.loop = none) ∧
      (s.pair foundation task payload link cancelled).history.pairings = s.history.pairings := by
  have thrown : ∀ error, (s.failPairing task link cancelled error).standing = s.standing ∧
      (∃ routine, (s.failPairing task link cancelled error).tasks = (s.set task routine).tasks ∧
        ∀ r ∈ routine, r.loop = none) ∧
      (s.failPairing task link cancelled error).history.pairings = s.history.pairings := by
    intro error
    obtain ⟨standing, tasks, history⟩ := @standing_failPairing s task link cancelled error
    exact ⟨standing, ⟨none, tasks, by simp⟩, congrArg History.pairings history⟩
  unfold State.pair
  dsimp only
  split
  · exact thrown _
  · split
    · exact thrown _
    · exact ⟨rfl, ⟨some _, rfl, by simp [Routine.loop]⟩, rfl⟩

theorem standing_beginPairing :
    (s.beginPairing foundation payload link cancelled).standing = s.standing ∧
      ∀ other ≠ s.nextTask, (s.beginPairing foundation payload link cancelled).tasks other = s.tasks other := by
  unfold State.beginPairing
  split
  · split <;> exact ⟨rfl, fun _ _ => rfl⟩
  · dsimp only
    split
    · exact ⟨rfl, fun _ different => State.set_tasks_ne different _⟩
    · obtain ⟨standing, ⟨routine, tasks, _⟩, _⟩ :=
        @standing_pair foundation { s with isBusy := true, nextTask := s.nextTask + 1 } s.nextTask link cancelled payload
      refine ⟨standing, fun other different => ?_⟩
      rw [tasks]
      exact State.set_tasks_ne different _

theorem standing_answered (client : WoodGateAPIClient) (answer : Answer) :
    (s.answered client answer).standing = s.standing ∧ (s.answered client answer).tasks = s.tasks ∧
      (s.answered client answer).history.pairings = s.history.pairings := by
  unfold State.answered
  split <;> exact ⟨rfl, rfl, rfl⟩

end States

/-- What a step of the pairing `task` can come to. -/
inductive PairingStep (foundation : Foundation) (task : TaskID) (d : Device) (a : Attempt) (d' : Device) : Prop
  | keeps (held : d'.held = d.held) (harmless : d.app.harmless foundation a = true)
      (pairings : d'.app.history.pairings = d.app.history.pairings)
      (loops : ∀ other ≠ task, d'.app.loop other = d.app.loop other)
  /-- saving the model context fails -/
  | spills (ended : d'.app.tasks task = none) (held : d'.held = d.held ↔ d.app.harmless foundation a = true)
      (pairings : d'.app.history.pairings = d.app.history.pairings)
      (loops : ∀ other ≠ task, d'.app.loop other = d.app.loop other)
  | pairs (pairing : SuccessfulPairing) (pairings : d'.app.history.pairings = pairing :: d.app.history.pairings)

section Steps

variable {foundation : Foundation} {d d' : Device} {l : DeviceLabel} {task : TaskID} {answer : Answer} {now : Int}
  {cancelled link : Bool} {stationKey : String} {build : Build} {s s' : State}

theorem loop_of_tasks {other : TaskID} (tasks : s'.tasks other = s.tasks other) : s'.loop other = s.loop other := by
  unfold State.loop
  rw [tasks]

/-- The pairing goes on or throws before it gets to `persist`. -/
theorem standing_resumePairing (pending : (Routine.beginPairing stationKey link build).persists foundation now cancelled answer = none)
    (taken : s.resumePairing foundation task stationKey link build now cancelled answer = some s') :
    s'.standing = s.standing ∧ s'.history.pairings = s.history.pairings ∧ ∀ other ≠ task, s'.tasks other = s.tasks other := by
  have thrown : ∀ error, (s.failPairing task link cancelled error).standing = s.standing ∧
      (s.failPairing task link cancelled error).history.pairings = s.history.pairings ∧
      ∀ other ≠ task, (s.failPairing task link cancelled error).tasks other = s.tasks other := by
    intro error
    obtain ⟨standing, tasks, history⟩ := @standing_failPairing s task link cancelled error
    refine ⟨standing, congrArg History.pairings history, fun other different => ?_⟩
    rw [tasks]
    exact State.set_tasks_ne different _
  obtain ⟨progress, resumed, rfl⟩ := Option.map_eq_some_iff.1 taken
  cases progress with
  | waits next =>
    obtain ⟨standing, tasks, pairings⟩ := @standing_answered s build.client answer
    refine ⟨standing, pairings, fun other different => ?_⟩
    rw [← tasks]
    exact State.set_tasks_ne different _
  | throws error => exact thrown error
  | returns session =>
    have made := Build.session_of_returns resumed
    cases cancelled with
    | true => exact thrown _
    | false => cases made.symm.trans pending

/-- A pairing whose session is stored. -/
theorem pairings_resumePairing {session : ActiveSession}
    (persists : (Routine.beginPairing stationKey link build).persists foundation now cancelled answer = some session)
    (taken : s.resumePairing foundation task stationKey link build now cancelled answer = some s') :
    ∃ pairing, s'.history.pairings = pairing :: s.history.pairings := by
  cases cancelled with
  | true => cases persists
  | false =>
    have returned : build.resume foundation now answer = some (.returns session) := Build.session_eq_some persists
    unfold State.resumePairing at taken
    rw [returned] at taken
    cases taken
    refine ⟨⟨build.baseURLString, stationKey, build.client⟩, ?_⟩
    have started : ∀ s : State, s.startControlConnection.history.pairings = s.history.pairings := fun s =>
      (kept_startControlConnection : Kept foundation s _).pairings
    have stopped : ∀ s : State, s.stopControlConnection.history.pairings = s.history.pairings := fun s =>
      (kept_stopControlConnection : Kept foundation s _).pairings
    show (State.startControlConnection _).history.pairings = _
    rw [started]
    show (State.stopControlConnection _).history.pairings = _
    rw [stopped]
    rfl

theorem resume_awaitRefresh {payload : PairingPayload} {awaited : TaskID}
    (found : s.tasks task = some (.awaitRefresh payload link awaited))
    (taken : s.resume foundation task answer now cancelled = some s') : s' = s.pair foundation task payload link cancelled := by
  unfold State.resume at taken
  rw [found] at taken
  cases answer with
  | resumed =>
    dsimp only at taken
    split at taken <;> cases taken
    rfl
  | _ => cases taken

/-- A method that saves nothing and keeps the control connection. -/
theorem method_quiet {a : Attempt} (taken : d.method foundation a = some d') (saves : d.app.saves foundation a = none)
    (stops : d.app.stops foundation a.label = false ∨
      (d.app.persisting foundation a.label).isSome = true ∧ a.storage.isSome = true) :
    ∃ app, attempt foundation d.app a = some app ∧ d' = { d with app } := by
  obtain ⟨app, attempted, rfl⟩ := Option.map_eq_some_iff.1 taken
  refine ⟨app, attempted, ?_⟩
  have quiet : (d.app.stops foundation a.label && ((d.app.persisting foundation a.label).isNone || a.storage.isNone)) = false := by
    rcases stops with never | ⟨persists, fails⟩
    · rw [never, Bool.false_and]
    · simp [persists, fails]
  simp only [quiet, saves, Option.getD_none]
  rfl

theorem harmless_of_idle {a : Attempt} (idle : s.persisting foundation a.label = none) : s.harmless foundation a = true := by
  unfold State.harmless
  rw [idle]

theorem held_app {app : State} : { d with app : Device }.held = d.held ↔ app.standing = d.app.standing := by
  simp [Device.held]

/-- `persist` changes nothing only where it writes what is there. -/
theorem standing_persist {session : ActiveSession} :
    (s.persist session stationKey).standing = s.standing ↔
      s.settings = AppSettings.store session stationKey ∧ s.people = State.records session.people := by
  simp only [State.standing, State.persist, Standing.mk.injEq, and_true]
  exact and_congr eq_comm eq_comm

/-- **A step of a pairing.** -/
theorem pairing_step (pairs : d.app.pairs task l.label = true) (taken : d.step foundation l = some d') :
    PairingStep foundation task d l.toAttempt d' := by
  obtain ⟨⟨label, storage⟩, opens⟩ := l
  cases label with
  | resume other answer now cancelled =>
    simp only [State.pairs, Bool.and_eq_true, decide_eq_true_eq, Option.any_eq_true] at pairs
    obtain ⟨rfl, routine, found, pairs⟩ := pairs
    have apart : d.app.resumes (.resume other answer now cancelled) = none := by
      have plain : routine.loop = none := by cases routine <;> first | rfl | cases pairs
      simp [State.resumes, State.loop, found, plain]
    have taken : d.method foundation ⟨.resume other answer now cancelled, storage⟩ = some d' := by
      simpa [Device.step, apart] using taken
    cases routine with
    | awaitRefresh payload link awaited =>
      have idle : d.app.persisting foundation (.resume other answer now cancelled) = none := by
        simp [State.persisting, found, Routine.persists]
      obtain ⟨app, attempted, rfl⟩ := method_quiet taken (by simp [State.saves, idle]) (.inl (by simp [State.stops, found]))
      have resumed : d.app.resume foundation other answer now cancelled = some app := by
        simpa [attempt, idle, step] using attempted
      obtain ⟨standing, ⟨routine, tasks, _⟩, pairings⟩ :=
        @standing_pair foundation d.app other link cancelled payload
      rw [← resume_awaitRefresh found resumed] at standing tasks pairings
      refine .keeps (held_app.2 standing) (harmless_of_idle idle) pairings fun another different => loop_of_tasks ?_
      show app.tasks another = d.app.tasks another
      rw [tasks]
      exact State.set_tasks_ne different _
    | beginPairing stationKey link build =>
      cases persists : (Routine.beginPairing stationKey link build).persists foundation now cancelled answer with
      | none =>
        have idle : d.app.persisting foundation (.resume other answer now cancelled) = none := by
          simp [State.persisting, found, persists]
        obtain ⟨app, attempted, rfl⟩ := method_quiet taken (by simp [State.saves, idle])
          (.inl (by simp [State.stops, found, persists]))
        have resumed : d.app.resumePairing foundation other stationKey link build now cancelled answer = some app := by
          simpa [attempt, idle, step, State.resume, found] using attempted
        obtain ⟨standing, pairings, tasks⟩ := standing_resumePairing persists resumed
        exact .keeps (held_app.2 standing) (harmless_of_idle idle) pairings
          fun another different => loop_of_tasks (tasks another different)
      | some session =>
        have persisting : d.app.persisting foundation (.resume other answer now cancelled) =
            some (other, .beginPairing stationKey link build, session) := by simp [State.persisting, found, persists]
        cases storage with
        | none =>
          obtain ⟨app, attempted, rfl⟩ := Option.map_eq_some_iff.1 taken
          have resumed : d.app.resumePairing foundation other stationKey link build now cancelled answer = some app := by
            simpa [attempt, persisting, step, State.resume, found] using attempted
          obtain ⟨pairing, grown⟩ := pairings_resumePairing persists resumed
          exact .pairs pairing grown
        | some failure =>
          obtain ⟨app, attempted, rfl⟩ := method_quiet taken (by simp [State.saves, persisting]) (.inr (by simp [persisting]))
          have written : app =
              (d.app.write session stationKey failure).failPairing other link false failure.error := by
            simpa [attempt, persisting, State.failPersist] using attempted.symm
          obtain ⟨standing, tasks, history⟩ :=
            @standing_failPairing (d.app.write session stationKey failure) other link false failure.error
          rw [← written] at standing tasks history
          have loops : ∀ another ≠ other, app.loop another = d.app.loop another := by
            refine fun another different => loop_of_tasks ?_
            rw [tasks, State.set_tasks_ne different]
            cases failure <;> rfl
          have pairings : app.history.pairings = d.app.history.pairings := by
            rw [history]
            cases failure <;> rfl
          cases failure with
          | fetch message => exact .keeps (held_app.2 standing) (by simp [State.harmless, persisting]) pairings loops
          | save message =>
            refine .spills ?_ ?_ pairings loops
            · show app.tasks other = none
              rw [tasks, State.set_tasks_self]
            · rw [held_app, standing]
              simp only [State.harmless, persisting, decide_eq_true_eq]
              exact standing_persist
    | _ => cases pairs
  | _ => cases pairs

end Steps

section Runs

variable {foundation : Foundation} {d d' : Device} {rest : List DeviceLabel} {task : TaskID}

theorem not_pairs_of_ended {label : Label} (ended : d.app.tasks task = none) : d.app.pairs task label = false := by
  cases label with
  | resume other answer now cancelled => simp [State.pairs, ended]
  | _ => rfl

theorem pairings_run (alone : Guarded (Device.step foundation) (fun d l => d.app.pairs task l.label = true) d rest)
    (h : run (Device.step foundation) d rest = some d') : d.app.history.pairings.length ≤ d'.app.history.pairings.length := by
  refine alone.run_invariant (fun e => d.app.history.pairings.length ≤ e.app.history.pairings.length)
    (fun e l e' grown pairs taken => ?_) (Nat.le_refl _) h
  cases pairing_step pairs taken with
  | keeps _ _ pairings _ => exact pairings ▸ grown
  | spills _ _ pairings _ => exact pairings ▸ grown
  | pairs pairing pairings =>
    rw [pairings]
    exact Nat.le_succ_of_le grown

/-- The steps of a pairing that has not succeeded. -/
theorem pairing_run (alone : Guarded (Device.step foundation) (fun d l => d.app.pairs task l.label = true) d rest)
    (h : run (Device.step foundation) d rest = some d')
    (unpaired : d'.app.history.pairings = d.app.history.pairings) :
    (d'.held = d.held ↔ Guarded (Device.step foundation) (fun d l => d.app.harmless foundation l.toAttempt = true) d rest) ∧
      ∀ other ≠ task, d'.app.loop other = d.app.loop other := by
  induction rest generalizing d with
  | nil =>
    cases h
    exact ⟨⟨fun _ => trivial, fun _ => rfl⟩, fun _ _ => rfl⟩
  | cons l rest ih =>
    obtain ⟨e, taken, h⟩ := run_cons_iff.1 h
    have left := alone.2 e taken
    rw [Guarded.cons_iff taken]
    cases pairing_step alone.1 taken with
    | keeps held harmless pairings loops =>
      obtain ⟨kept, others⟩ := ih left h (unpaired.trans pairings.symm)
      rw [held] at kept
      refine ⟨kept.trans ⟨fun after => ⟨harmless, after⟩, fun both => both.2⟩, fun other different => ?_⟩
      exact (others other different).trans (loops other different)
    | spills ended held pairings loops =>
      -- the task is done, so nothing comes after
      cases rest with
      | nil =>
        cases h
        exact ⟨held.trans ⟨fun harmless => ⟨harmless, trivial⟩, fun both => both.1⟩, loops⟩
      | cons l' rest =>
        have more : e.app.pairs task l'.label = true := left.1
        rw [not_pairs_of_ended ended] at more
        cases more
    | pairs pairing pairings =>
      have grown := pairings_run left h
      rw [pairings, unpaired, List.length_cons] at grown
      exact absurd grown (Nat.not_succ_le_self _)

end Runs

/-- **A pairing that throws leaves the device as it was unless saving the model context fails** and what `persist` had written
by then was not there before. `others` are the steps taken while the pairing waits for a refresh in flight, `rest` are its own
after that, at any point of which it may have thrown. -/
theorem pairing_undone_iff (foundation : Foundation) {d d₁ d₂ d₃ : Device} {call : DeviceLabel} {payload : PairingPayload}
    {link cancelled : Bool} {others rest : List DeviceLabel} (called : call.label = .beginPairing payload link cancelled)
    (begun : d.step foundation call = some d₁) (waited : run (Device.step foundation) d₁ others = some d₂)
    (alone : Guarded (Device.step foundation) (fun e l => e.app.pairs d.app.nextTask l.label = true) d₂ rest)
    (ended : run (Device.step foundation) d₂ rest = some d₃)
    (unpaired : d₃.app.history.pairings = d₂.app.history.pairings) :
    d₁.held = d.held ∧
      (d₃.held = d₂.held ↔
        Guarded (Device.step foundation) (fun e l => e.app.harmless foundation l.toAttempt = true) d₂ rest) ∧
      ∀ task ≠ d.app.nextTask, d₁.app.loop task = d.app.loop task ∧ d₃.app.loop task = d₂.app.loop task := by
  obtain ⟨kept, loops⟩ := pairing_run alone ended unpaired
  obtain ⟨⟨label, storage⟩, opens⟩ := call
  have called : label = .beginPairing payload link cancelled := called
  subst called
  have taken : d.method foundation ⟨.beginPairing payload link cancelled, storage⟩ = some d₁ := begun
  obtain ⟨app, attempted, rfl⟩ := method_quiet taken rfl (.inl rfl)
  have written : app = d.app.beginPairing foundation payload link cancelled := (Option.some.inj attempted).symm
  obtain ⟨standing, tasks⟩ := @standing_beginPairing foundation d.app link cancelled payload
  rw [← written] at standing tasks
  exact ⟨held_app.2 standing, kept, fun task different => ⟨loop_of_tasks (tasks task different), loops task different⟩⟩

/-- The desk is paired again with another key. -/
def repairing : DeviceLabel := { label := .beginPairing ⟨"https://desk.example", "other"⟩ false false }

def configured : DeviceLabel := { label := .resume 0 (.configuration (.ok deskConfiguration)) 20 false }

/-- The people cannot be fetched. -/
def withoutPeople : List DeviceLabel :=
  [configured, { label := .resume 0 (.people (.error (.other "timed out"))) 20 false }]

/-- The people are fetched, and saving them fails. -/
def withoutSave : List DeviceLabel :=
  [configured, { label := .resume 0 (.people (.ok [])) 20 false },
    { label := .resume 0 (.images (.error (.other "none")) (.error (.other "none"))) 20 false, storage := some (.save "disk full") }]

/-- The request for the people fails, and the old pairing stays. -/
theorem pairing_undone_iff_desk : ∃ d₁ d₃, deskDevice.step deskFoundation repairing = some d₁ ∧
    run (Device.step deskFoundation) d₁ withoutPeople = some d₃ ∧ d₃.app.tasks 0 = none ∧ d₁.held = deskDevice.held ∧
    d₃.held = d₁.held := by
  have ends : ((deskDevice.step deskFoundation repairing).any fun d₁ =>
      (run (Device.step deskFoundation) d₁ withoutPeople).any fun d₃ => decide (d₃.app.tasks 0 = none ∧
        d₃.app.history.pairings = d₁.app.history.pairings ∧
        Guarded (Device.step deskFoundation) (fun e l => e.app.pairs 0 l.label = true) d₁ withoutPeople ∧
        Guarded (Device.step deskFoundation) (fun e l => e.app.harmless deskFoundation l.toAttempt = true) d₁
          withoutPeople)) = true := by decide +kernel
  simp only [Option.any_eq_true, decide_eq_true_eq] at ends
  obtain ⟨d₁, begun, d₃, ended, done, unpaired, alone, harmless⟩ := ends
  obtain ⟨called, kept, _⟩ := pairing_undone_iff deskFoundation (d := deskDevice) rfl begun (run_nil d₁) alone ended unpaired
  exact ⟨d₁, d₃, begun, ended, done, called, kept.2 harmless⟩

/-- The failing save leaves the new key in the place of the old one, under the old session. -/
theorem failed_pairing_replaces : ∃ d₁ d₃, deskDevice.step deskFoundation repairing = some d₁ ∧
    run (Device.step deskFoundation) d₁ withoutSave = some d₃ ∧
    Guarded (Device.step deskFoundation) (fun e l => e.app.pairs 0 l.label = true) d₁ withoutSave ∧
    d₃.app.tasks 0 = none ∧ d₃.app.history.pairings = d₁.app.history.pairings ∧
    deskDevice.app.settings.stationSecret = "key" ∧ d₃.app.settings.stationSecret = "other" ∧
    d₃.held ≠ deskDevice.held := by
  have ends : ((deskDevice.step deskFoundation repairing).any fun d₁ =>
      (run (Device.step deskFoundation) d₁ withoutSave).any fun d₃ => decide (
        Guarded (Device.step deskFoundation) (fun e l => e.app.pairs 0 l.label = true) d₁ withoutSave ∧
        d₃.app.tasks 0 = none ∧ d₃.app.history.pairings = d₁.app.history.pairings ∧
        d₃.app.settings.stationSecret = "other")) = true := by decide +kernel
  simp only [Option.any_eq_true, decide_eq_true_eq] at ends
  obtain ⟨d₁, begun, d₃, ended, alone, done, unpaired, replaced⟩ := ends
  refine ⟨d₁, d₃, begun, ended, alone, done, unpaired, rfl, replaced, fun same => ?_⟩
  have key : d₃.app.settings.stationSecret = "key" :=
    congrArg (fun held => held.toStanding.settings.stationSecret) same
  rw [replaced] at key
  exact absurd key (by decide)

end Woodgate.App
