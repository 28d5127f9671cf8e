import Woodgate.App.Edits

/-!
# The device

The state of the app together with what lies outside it: the people the model context has
saved, and the sockets of the control connections. A socket is named by the task that opened
it; `controlSocket` is the one the app would close, and `activeSocket` what each
`runControlConnection` holds. `step_app` says that the app's part of a step is an `attempt`, and
`control_connections` that there is at most one control connection, and no socket without one.
-/

namespace Woodgate.App

open Relation Library.Runs

abbrev SocketID := Nat

/-- A `URLSessionWebSocketTask`. -/
structure Socket where
  task : TaskID
  generation : Nat
  cancelled : Bool := false
  deriving DecidableEq, Repr

structure Device where
  app : State := {}
  saved : List PersonSummary := []
  controlSocket : Option SocketID := none
  activeSocket : TaskID → Option SocketID := fun _ => none
  sockets : SocketID → Option Socket := fun _ => none
  nextSocket : SocketID := 0

/-- An attempt, and whether `makeControlTask` gives a socket in it. -/
structure DeviceLabel extends Attempt where
  opens : Bool := true

/-- The people the model context saves in this step. -/
def State.saves (foundation : Foundation) (s : State) (a : Attempt) : Option (List PersonSummary) :=
  match a.label with
  | .bootstrap none => if s.settings.hasPairing then none else some []
  | .forgetPairing none => some []
  | label =>
    match s.persisting foundation label, a.storage with
    | some (_, _, session), none => some (State.records session.people)
    | _, _ => none

namespace Device

variable (foundation : Foundation) (d : Device)

section Control

variable (opens : Bool) (task : TaskID) (loop : ControlLoop)

/-- `cancel(with:)`, if there is a socket. -/
def cancelSocket : Option SocketID → Device
  | none => d
  | some id =>
    { d with sockets := Function.update d.sockets id ((d.sockets id).map fun socket => { socket with cancelled := true }) }

/-- What `stopControlConnection` does to the sockets. -/
def closeControl : Device := { d.cancelSocket d.controlSocket with controlSocket := none }

/-- What the `defer` of `runControlConnection` does to the sockets, and the `catch` of its loop. -/
def closeActive : Device :=
  { d.cancelSocket (d.activeSocket task) with
    activeSocket := Function.update d.activeSocket task none
    controlSocket := if d.app.controlGeneration = loop.generation then none else d.controlSocket }

/-- `makeControlTask`, and the assignments that follow. -/
def openSocket : Device :=
  { d with
    sockets := Function.update d.sockets d.nextSocket (some { task, generation := loop.generation })
    nextSocket := d.nextSocket + 1
    activeSocket := Function.update d.activeSocket task (some d.nextSocket)
    controlSocket := some d.nextSocket }

def waitAt (point : ControlPoint) : Device := { d with app := d.app.waitAt task loop point }

/-- `runControlConnection` returns. -/
def endControl : Device := { d.closeActive task loop with app := d.app.endControl task loop }

/-- The `catch` of the outer loop. -/
def failControl : Device :=
  if loop.cancelled then (d.closeActive task loop).endControl task loop else (d.closeActive task loop).waitAt task loop .sleeping

/-- The head of the outer loop. -/
def connectControl : Device :=
  if !loop.cancelled && d.app.controlGeneration = loop.generation && d.app.settings.hasPairing then
    match d.app.settings.woodGateClient foundation with
    | none => d.endControl task loop
    | some _ => if opens then (d.openSocket task loop).waitAt task loop .presence else d.failControl task loop
  else d.endControl task loop

/-- The head of the inner loop. -/
def receiveControl : Device := if loop.cancelled then d.endControl task loop else d.waitAt task loop .receiving

def handleMessage (type : String) : Device :=
  if type = "hello" then d.waitAt task loop .presence
  else if type = "configuration_changed" then
    match d.app.refreshSession with
    | (app, some wait) => { d with app }.waitAt task loop (.refreshing wait)
    | (app, none) => { d with app }.receiveControl task loop
  else d.receiveControl task loop

/-- `runControlConnection` up to its next `await`. -/
def resumeControl : Answer → Option Device
  | .resumed =>
    match loop.point with
    | .unstarted => some (d.connectControl foundation opens task loop)
    | .refreshing wait =>
      if (d.app.tasks wait.task).isNone then some ({ d with app := d.app.refreshed wait }.receiveControl task loop) else none
    | _ => none
  | .sent result =>
    match loop.point, result with
    | .presence, .ok () => some (d.receiveControl task loop)
    | .presence, .error _ => some (d.failControl task loop)
    | _, _ => none
  | .message result =>
    match loop.point, result with
    | .receiving, .ok type => some (d.handleMessage task loop type)
    | .receiving, .error _ => some (d.failControl task loop)
    | _, _ => none
  | .slept result =>
    match loop.point, result with
    | .sleeping, .ok () => some (d.connectControl foundation opens task loop)
    | .sleeping, .error _ => some (d.endControl task loop)
    | _, _ => none
  | _ => none

end Control

/-- A method other than `runControlConnection`. When `persist` throws in it, it has not stopped the control connection. -/
def method (a : Attempt) : Option Device :=
  (attempt foundation d.app a).map fun app =>
    let stops := d.app.stops foundation a.label && ((d.app.persisting foundation a.label).isNone || a.storage.isNone)
    { (if stops then d.closeControl else d) with
      app
      saved := (d.app.saves foundation a).getD d.saved }

/-- One step. -/
def step (l : DeviceLabel) : Option Device :=
  match l.label, d.app.resumes l.label with
  | .resume _ answer _ _, some (task, loop) => d.resumeControl foundation l.opens task loop answer
  | _, _ => d.method foundation l.toAttempt

end Device

section Projection

variable {foundation : Foundation} {d : Device} {task : TaskID} {loop : ControlLoop}

@[simp] theorem app_cancelSocket (id : Option SocketID) : (d.cancelSocket id).app = d.app := by
  cases id <;> rfl

@[simp] theorem app_closeControl : d.closeControl.app = d.app := app_cancelSocket _

@[simp] theorem app_closeActive : (d.closeActive task loop).app = d.app := app_cancelSocket _

@[simp] theorem app_waitAt (point : ControlPoint) : (d.waitAt task loop point).app = d.app.waitAt task loop point := rfl

@[simp] theorem app_endControl : (d.endControl task loop).app = d.app.endControl task loop := rfl

@[simp] theorem app_failControl : (d.failControl task loop).app = d.app.failControl task loop := by
  unfold Device.failControl State.failControl
  split <;> simp

@[simp] theorem app_receiveControl : (d.receiveControl task loop).app = d.app.receiveControl task loop := by
  unfold Device.receiveControl State.receiveControl
  split <;> rfl

@[simp] theorem app_connectControl :
    (d.connectControl foundation true task loop).app = d.app.connectControl foundation task loop := by
  unfold Device.connectControl State.connectControl
  split
  · cases d.app.settings.woodGateClient foundation <;> rfl
  · rfl

@[simp] theorem app_handleMessage (type : String) : (d.handleMessage task loop type).app = d.app.handleMessage task loop type := by
  unfold Device.handleMessage State.handleMessage
  split
  · rfl
  split
  · rcases d.app.refreshSession with ⟨app, _ | wait⟩
    · exact app_receiveControl
    · rfl
  · exact app_receiveControl

theorem resumeControl_app {answer : Answer} :
    (d.resumeControl foundation true task loop answer).map Device.app = d.app.resumeControl foundation task loop answer := by
  unfold Device.resumeControl State.resumeControl
  cases answer with
  | resumed =>
    cases loop.point with
    | unstarted => simp
    | refreshing wait =>
      dsimp only
      split <;> simp
    | _ => rfl
  | sent result | message result | slept result =>
    cases loop.point <;> cases result <;> simp
  | _ => rfl

/-- The app's part of a step is an attempt, unless a socket cannot be opened in it. -/
theorem step_app {a : Attempt} : (d.step foundation { toAttempt := a }).map Device.app = attempt foundation d.app a := by
  have methods : (d.method foundation a).map Device.app = attempt foundation d.app a := by
    unfold Device.method
    rw [Option.map_map]
    exact Option.map_id_apply
  cases resumes : d.app.resumes a.label with
  | none =>
    unfold Device.step
    simp only [resumes]
    split <;> first | exact methods | rename_i absent; cases absent
  | some resumed =>
    obtain ⟨answer, now, cancelled, label, found⟩ := resumes_eq_some resumes
    rw [attempt_resumes label found]
    unfold Device.step
    simp only [label] at resumes ⊢
    simp only [resumes]
    exact resumeControl_app

end Projection

end Woodgate.App
