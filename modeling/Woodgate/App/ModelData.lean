import Mathlib.Logic.Function.Basic
import Woodgate.App.Settings

/-!
# The companion app's state

`ModelData` runs on the main actor: its methods share one state and are suspended only at
an `await`. A task is what is left of a method after the `await` it waits at, and a label
is a call of a method or the answer that resumes a task.
-/

namespace Woodgate.App

abbrev TaskID := Nat

/-- The answer an `await` gets. -/
inductive Answer where
  | configuration (result : Except AppError StationConfiguration)
  | people (result : Except AppError (List PersonSummary))
  | images (background logo : Except AppError (List UInt8))
  | checkin (result : Except AppError Unit)
  | sent (result : Except AppError Unit)
  /-- the type of a control message -/
  | message (type : Except AppError String)
  | slept (result : Except AppError Unit)
  /-- a task starts, or the task awaited is done -/
  | resumed
  deriving DecidableEq, Repr

def loadBrandingImage (foundation : Foundation) (objectID previousObjectID : Option Int) (previousImage : Option UIImage)
    (load : Except AppError (List UInt8)) : Option UIImage :=
  match objectID with
  | none => none
  | some objectID =>
    if some objectID = previousObjectID ∧ previousImage.isSome then previousImage
    else match load with
      | .ok data => (foundation.image data).orElse fun _ => previousImage
      | .error _ => previousImage

def makeSession (foundation : Foundation) (baseURLString : String) (configuration : StationConfiguration)
    (people : List PersonSummary) (lastSyncedAt : Int) (previousSession : Option ActiveSession)
    (background logo : Except AppError (List UInt8)) : ActiveSession where
  baseURLString := baseURLString
  stationID := configuration.stationID
  stationName := configuration.stationName
  location := configuration.location
  people := people
  backgroundImage := loadBrandingImage foundation configuration.location.backgroundObjectID
    (previousSession.bind (·.location.backgroundObjectID)) (previousSession.bind (·.backgroundImage)) background
  logoImage := loadBrandingImage foundation configuration.location.logoObjectID
    (previousSession.bind (·.location.logoObjectID)) (previousSession.bind (·.logoImage)) logo
  lastSyncedAt := lastSyncedAt

/-- Where `buildSession` waits. -/
inductive BuildPoint where
  | configuration
  | people (configuration : StationConfiguration)
  | images (configuration : StationConfiguration) (people : List PersonSummary) (lastSyncedAt : Int)
  deriving DecidableEq, Repr

/-- A suspended `buildSession(baseURLString:client:fallbackSession:)`. -/
structure Build where
  baseURLString : String
  client : WoodGateAPIClient
  fallbackSession : Option ActiveSession
  point : BuildPoint := .configuration
  deriving DecidableEq, Repr

inductive Progress where
  | waits (build : Build)
  | returns (session : ActiveSession)
  | throws (error : AppError)

/-- `buildSession` up to its next `await`; `none` when it is not waiting for this answer. -/
def Build.resume (foundation : Foundation) (build : Build) (now : Int) : Answer → Option Progress
  | .configuration result =>
    match build.point, result with
    | .configuration, .error error => some (.throws error)
    | .configuration, .ok configuration =>
      if configuration.location.enabled then some (.waits { build with point := .people configuration })
      else some (.waits { build with
        point := .images configuration ((build.fallbackSession.map (·.people)).getD []) now })
    | _, _ => none
  | .people result =>
    match build.point, result with
    | .people _, .error error => some (.throws error)
    | .people configuration, .ok people => some (.waits { build with point := .images configuration people now })
    | _, _ => none
  | .images background logo =>
    match build.point with
    | .images configuration people lastSyncedAt =>
      some (.returns (makeSession foundation build.baseURLString configuration people lastSyncedAt
        build.fallbackSession background logo))
    | _ => none
  | _ => none

inductive CheckinDirectionChoice where
  | checkIn
  | checkOut
  deriving DecidableEq, Repr

/-- The arguments of `createCheckin`. -/
structure CheckinRequest where
  personID : Int
  direction : CheckinDirectionChoice
  notes : Option String
  photoJPEGData : Option (List UInt8)
  deriving DecidableEq, Repr

/-- A `refreshSession` that awaits `task`; the owner made the task. -/
structure RefreshWait where
  task : TaskID
  owner : Bool
  deriving DecidableEq, Repr

/-- Where `runControlConnection` waits. -/
inductive ControlPoint where
  | unstarted
  | presence
  | receiving
  | refreshing (wait : RefreshWait)
  | sleeping
  deriving DecidableEq, Repr

/-- A `runControlConnection(generation:)` and whether its task is cancelled. -/
structure ControlLoop where
  generation : Nat
  cancelled : Bool := false
  point : ControlPoint := .unstarted
  deriving DecidableEq, Repr

/-- What is left of a method. -/
inductive Routine where
  | bootstrap (cachedSession : Option ActiveSession) (build : Build)
  | refreshSession (wait : RefreshWait)
  /-- the task `refreshSession` makes, before it runs -/
  | refreshTask (currentSession : ActiveSession)
  | performRefresh (build : Build)
  /-- `link` for a pairing that came with a URL, which shows its error as an alert -/
  | awaitRefresh (payload : PairingPayload) (link : Bool) (task : TaskID)
  | beginPairing (stationKey : String) (link : Bool) (build : Build)
  | submitCheckin (client : WoodGateAPIClient) (request : CheckinRequest)
  | runControlConnection (loop : ControlLoop)
  deriving DecidableEq, Repr

/-- A pairing that succeeded. -/
structure SuccessfulPairing where
  baseURLString : String
  stationKey : String
  client : WoodGateAPIClient
  deriving DecidableEq, Repr

/-- What has happened so far; no method reads it. -/
structure History where
  pairings : List SuccessfulPairing := []
  /-- the station each configuration answer named, beside the client that asked -/
  answers : List (WoodGateAPIClient × Int) := []
  /-- a `forgetPairing` did not fail and no pairing has succeeded since -/
  forgotten : Bool := false
  /-- `getConfiguration` requests started -/
  requests : Nat := 0
  /-- the forced unwrap in `submitCheckin` met `nil` -/
  crashed : Bool := false
  deriving DecidableEq, Repr

/-- The state of `ModelData`, `AppSettings.shared` and the people of the model context. -/
structure State where
  settings : AppSettings := {}
  people : List PersonSummary := []
  currentSession : Option ActiveSession := none
  alert : Option AlertItem := none
  unavailableState : Option UnavailableState := none
  isBusy : Bool := false
  refreshInFlightTask : Option TaskID := none
  controlTask : Option TaskID := none
  controlGeneration : Nat := 0
  tasks : TaskID → Option Routine := fun _ => none
  nextTask : TaskID := 0
  history : History := {}

/-- What the model context answers when it fails: while it fetches, or while it saves the deletion. -/
inductive StorageFailure where
  | fetch (message : String)
  | save (message : String)
  deriving DecidableEq, Repr

namespace StorageFailure

def localizedDescription : StorageFailure → String
  | .fetch message | .save message => message

end StorageFailure

namespace State

def set (s : State) (task : TaskID) (routine : Option Routine) : State :=
  { s with tasks := Function.update s.tasks task routine }

/-- A task for `routine`. -/
def spawn (s : State) (routine : Routine) : State :=
  { s.set s.nextTask (some routine) with nextTask := s.nextTask + 1 }

section Tasks

variable {s : State} {task other : TaskID}

@[simp] theorem set_tasks_self (routine : Option Routine) : (s.set task routine).tasks task = routine :=
  Function.update_self ..

theorem set_tasks_ne (different : other ≠ task) (routine : Option Routine) :
    (s.set task routine).tasks other = s.tasks other := Function.update_of_ne different ..

@[simp] theorem spawn_tasks_self (routine : Routine) : (s.spawn routine).tasks s.nextTask = some routine :=
  set_tasks_self _

theorem spawn_tasks_ne (different : other ≠ s.nextTask) (routine : Routine) :
    (s.spawn routine).tasks other = s.tasks other := set_tasks_ne different _

end Tasks

/-- `getConfiguration` sends its request. -/
def request (s : State) : State := { s with history := { s.history with requests := s.history.requests + 1 } }

/-- The answer of a configuration request, into the history. -/
def answered (s : State) (client : WoodGateAPIClient) : Answer → State
  | .configuration (.ok configuration) =>
    { s with history := { s.history with answers := (client, configuration.stationID) :: s.history.answers } }
  | _ => s

/-- Records are unique by `userID`, so a second insertion replaces the first. -/
def records (people : List PersonSummary) : List PersonSummary :=
  people.foldl (fun records person => records.filter (fun record => record.id ≠ person.id) ++ [person]) []

def persist (s : State) (session : ActiveSession) (stationSecret : String) : State :=
  { s with settings := AppSettings.store session stationSecret, people := records session.people }

/-- `Date.distantPast`, in seconds since 1970. -/
def distantPast : Int := -62135769600

def loadStoredSession (s : State) (failure : Option StorageFailure) : Except StorageFailure (Option ActiveSession) :=
  match s.settings.stationID, s.settings.locationID with
  | some stationID, some locationID =>
    match failure with
    | some failure => .error failure
    | none => .ok (some {
        baseURLString := s.settings.baseURLString
        stationID
        stationName := s.settings.stationName
        location := {
          id := locationID
          name := s.settings.locationName
          enabled := s.settings.locationEnabled
          notes := s.settings.notes
          photo := s.settings.photo
          backgroundObjectID := s.settings.backgroundObjectID
          logoObjectID := s.settings.logoObjectID }
        people := s.people
        backgroundImage := none
        logoImage := none
        lastSyncedAt := s.settings.lastSyncedAt.getD distantPast })
  | _, _ => .ok none

/-- The state `clearStoredSession(removeStationSecret: true)` leaves, and what it throws. -/
def clearStoredSession (s : State) : Option StorageFailure → State
  | none => { s with people := [], settings := s.settings.clear true }
  | some (.fetch _) => s
  | some (.save _) => { s with people := [] }

def showAlert (s : State) (title message : String) : State := { s with alert := some ⟨title, message⟩ }

/-- The session a build returned is the current one. -/
def showSession (s : State) (session : ActiveSession) : State :=
  { s with
    currentSession := some session
    unavailableState := if session.location.enabled then none else some .locationDisabled }

/-! ## The control connection -/

def startControlConnection (s : State) : State :=
  if s.controlTask.isNone && s.currentSession.isSome && s.settings.hasPairing then
    { s.spawn (.runControlConnection { generation := s.controlGeneration + 1 }) with
      controlGeneration := s.controlGeneration + 1
      controlTask := some s.nextTask }
  else s

/-- `Task.cancel()` on a control task. -/
def cancel (s : State) (task : TaskID) : State :=
  match s.tasks task with
  | some (.runControlConnection loop) => s.set task (some (.runControlConnection { loop with cancelled := true }))
  | _ => s

def stopControlConnection (s : State) : State :=
  { (s.controlTask.elim s s.cancel) with controlGeneration := s.controlGeneration + 1, controlTask := none }

/-- `refreshSession` up to its `await`; no wait when it returns at once. -/
def refreshSession (s : State) : State × Option RefreshWait :=
  match s.currentSession with
  | none => (s, none)
  | some currentSession =>
    if s.settings.hasPairing && !s.isBusy then
      match s.refreshInFlightTask with
      | some task => (s, some { task, owner := false })
      | none => ({ s.spawn (.refreshTask currentSession) with refreshInFlightTask := some s.nextTask },
          some { task := s.nextTask, owner := true })
    else (s, none)

/-- `refreshSession` after its `await`. -/
def refreshed (s : State) (wait : RefreshWait) : State :=
  if wait.owner then { s with refreshInFlightTask := none } else s

/-- `runControlConnection` returns. -/
def endControl (s : State) (task : TaskID) (loop : ControlLoop) : State :=
  { s.set task none with
    controlTask := if s.controlGeneration = loop.generation then none else s.controlTask }

def waitAt (s : State) (task : TaskID) (loop : ControlLoop) (point : ControlPoint) : State :=
  s.set task (some (.runControlConnection { loop with point }))

/-- The head of the outer loop. -/
def connectControl (foundation : Foundation) (s : State) (task : TaskID) (loop : ControlLoop) : State :=
  if !loop.cancelled && s.controlGeneration = loop.generation && s.settings.hasPairing then
    match s.settings.woodGateClient foundation with
    | none => s.endControl task loop
    | some _ => s.waitAt task loop .presence
  else s.endControl task loop

/-- The head of the inner loop; a cancelled task leaves the outer loop as well. -/
def receiveControl (s : State) (task : TaskID) (loop : ControlLoop) : State :=
  if loop.cancelled then s.endControl task loop else s.waitAt task loop .receiving

/-- The `catch` of the outer loop. -/
def failControl (s : State) (task : TaskID) (loop : ControlLoop) : State :=
  if loop.cancelled then s.endControl task loop else s.waitAt task loop .sleeping

/-- The `switch` over a message's type. -/
def handleMessage (s : State) (task : TaskID) (loop : ControlLoop) (type : String) : State :=
  if type = "hello" then s.waitAt task loop .presence
  else if type = "configuration_changed" then
    match s.refreshSession with
    | (s, some wait) => s.waitAt task loop (.refreshing wait)
    | (s, none) => s.receiveControl task loop
  else s.receiveControl task loop

/-- `runControlConnection` up to its next `await`. -/
def resumeControl (foundation : Foundation) (s : State) (task : TaskID) (loop : ControlLoop) : Answer → Option State
  | .resumed =>
    match loop.point with
    | .unstarted => some (s.connectControl foundation task loop)
    | .refreshing wait =>
      if (s.tasks wait.task).isNone then some ((s.refreshed wait).receiveControl task loop) else none
    | _ => none
  | .sent result =>
    match loop.point, result with
    | .presence, .ok () => some (s.receiveControl task loop)
    | .presence, .error _ => some (s.failControl task loop)
    | _, _ => none
  | .message result =>
    match loop.point, result with
    | .receiving, .ok type => some (s.handleMessage task loop type)
    | .receiving, .error _ => some (s.failControl task loop)
    | _, _ => none
  | .slept result =>
    match loop.point, result with
    | .sleeping, .ok () => some (s.connectControl foundation task loop)
    | .sleeping, .error _ => some (s.endControl task loop)
    | _, _ => none
  | _ => none

/-! ## The sessions -/

/-- `bootstrap` up to its first `await`. -/
def bootstrap (foundation : Foundation) (s : State) (failure : Option StorageFailure) : State :=
  if s.settings.hasPairing then
    match s.loadStoredSession failure with
    | .error failure => s.showAlert "Could Not Start" failure.localizedDescription
    | .ok cachedSession =>
      match s.settings.woodGateClient foundation with
      | none => { s with
          currentSession := cachedSession
          unavailableState := if cachedSession.isNone then some .connectivity else none }
      | some client => s.request.spawn (.bootstrap cachedSession
          { baseURLString := s.settings.baseURLString, client, fallbackSession := cachedSession })
  else
    match failure with
    | some failure => (s.clearStoredSession (some failure)).showAlert "Could Not Start" failure.localizedDescription
    | none => { s.clearStoredSession none with currentSession := none }.stopControlConnection

def resumeBootstrap (foundation : Foundation) (s : State) (task : TaskID) (cachedSession : Option ActiveSession)
    (build : Build) (now : Int) (answer : Answer) : Option State :=
  (build.resume foundation now answer).map fun
    | .waits next => (s.answered build.client answer).set task (some (.bootstrap cachedSession next))
    | .returns session => (((s.set task none).persist session s.settings.stationSecret).showSession session).startControlConnection
    | .throws error => { s.set task none with
        currentSession := cachedSession
        unavailableState := unavailableStateFor error }.startControlConnection

/-- `performRefresh(using:)` up to its first `await`. -/
def performRefresh (foundation : Foundation) (s : State) (task : TaskID) (session : ActiveSession) : State :=
  match s.settings.woodGateClient foundation with
  | none => { s.set task none with
      unavailableState := unavailableStateFor (.woodGateError "The saved Station pairing is invalid.") }
  | some client => s.request.set task (some (.performRefresh
      { baseURLString := session.baseURLString, client, fallbackSession := some session }))

def resumeRefresh (foundation : Foundation) (s : State) (task : TaskID) (build : Build) (now : Int) (answer : Answer) :
    Option State :=
  (build.resume foundation now answer).map fun
    | .waits next => (s.answered build.client answer).set task (some (.performRefresh next))
    | .returns session => ((s.set task none).persist session s.settings.stationSecret).showSession session
    | .throws error => { s.set task none with unavailableState := unavailableStateFor error }

/-- `beginPairing` throws; `link` shows it unless the task was cancelled. -/
def failPairing (s : State) (task : TaskID) (link cancelled : Bool) (error : AppError) : State :=
  let s := { s.set task none with isBusy := false }
  if link && !cancelled then s.showAlert "Could Not Pair" error.localizedDescription else s

/-- `beginPairing` from its first `checkCancellation` to its next `await`. -/
def pair (foundation : Foundation) (s : State) (task : TaskID) (payload : PairingPayload) (link cancelled : Bool) : State :=
  if cancelled then s.failPairing task link cancelled (.other "cancelled")
  else
    let baseURL := trimmed payload.baseURL
    let stationKey := trimmed payload.stationKey
    match AppSettings.client foundation baseURL stationKey with
    | none => s.failPairing task link cancelled (.woodGateError "Enter a valid server URL and Station key.")
    | some client => s.request.set task (some (.beginPairing stationKey link
        { baseURLString := baseURL, client, fallbackSession := none }))

/-- `beginPairing` up to its first `await`. -/
def beginPairing (foundation : Foundation) (s : State) (payload : PairingPayload) (link cancelled : Bool) : State :=
  if s.isBusy then
    if link && !cancelled then s.showAlert "Could Not Pair" "The station is busy. Please try again." else s
  else
    let started := { s with isBusy := true, nextTask := s.nextTask + 1 }
    match s.refreshInFlightTask with
    | some task => started.set s.nextTask (some (.awaitRefresh payload link task))
    | none => started.pair foundation s.nextTask payload link cancelled

/-- The successful pairing, into the history. -/
def paired (s : State) (pairing : SuccessfulPairing) : State :=
  { s with history := { s.history with pairings := pairing :: s.history.pairings, forgotten := false } }

def resumePairing (foundation : Foundation) (s : State) (task : TaskID) (stationKey : String) (link : Bool) (build : Build)
    (now : Int) (cancelled : Bool) (answer : Answer) : Option State :=
  (build.resume foundation now answer).map fun
    | .waits next => (s.answered build.client answer).set task (some (.beginPairing stationKey link next))
    | .throws error => s.failPairing task link cancelled error
    | .returns session =>
      if cancelled then s.failPairing task link cancelled (.other "cancelled")
      else
        let s := (((s.set task none).persist session stationKey).paired
          ⟨build.baseURLString, stationKey, build.client⟩).stopControlConnection
        { (s.showSession session).startControlConnection with isBusy := false }

def forgetPairing (s : State) (failure : Option StorageFailure) : State :=
  let s := s.stopControlConnection
  match failure with
  | some failure =>
    (s.clearStoredSession (some failure)).showAlert "Could Not Disconnect" failure.localizedDescription
  | none => { s.clearStoredSession none with
      currentSession := none
      unavailableState := none
      history := { s.history with forgotten := true } }

/-- `submitCheckin` up to its `await`. -/
def submitCheckin (foundation : Foundation) (s : State) (session : ActiveSession) (person : PersonSummary)
    (direction : CheckinDirectionChoice) (notes : String) (selfie : Option (List UInt8)) : State :=
  match s.settings.woodGateClient foundation with
  | none => { s with isBusy := true, history := { s.history with crashed := true } }
  | some client => { s with isBusy := true }.spawn (.submitCheckin client {
      personID := person.id
      direction
      notes := if session.location.notes then some notes else none
      photoJPEGData := if session.location.photo then selfie else none })

def handleSubmissionFailure (s : State) (error : AppError) : State :=
  match unavailableStateFor error with
  | some state => { s with unavailableState := some state }
  | none => s

/-- A caller of `refreshSession` beside the control connection: the periodic refresh, or a scene that got active. -/
def callRefresh (s : State) : State :=
  match s.refreshSession with
  | (s, some wait) => s.spawn (.refreshSession wait)
  | (s, none) => s

def handleSceneActive (s : State) : State := s.startControlConnection.callRefresh

/-- A task up to its next `await`. -/
def resume (foundation : Foundation) (s : State) (task : TaskID) (answer : Answer) (now : Int) (cancelled : Bool) :
    Option State :=
  match s.tasks task with
  | none => none
  | some routine =>
    match routine, answer with
    | .bootstrap cachedSession build, answer => s.resumeBootstrap foundation task cachedSession build now answer
    | .refreshSession wait, .resumed =>
      if (s.tasks wait.task).isNone then some ((s.set task none).refreshed wait) else none
    | .refreshTask session, .resumed => some (s.performRefresh foundation task session)
    | .performRefresh build, answer => s.resumeRefresh foundation task build now answer
    | .awaitRefresh payload link awaited, .resumed =>
      if (s.tasks awaited).isNone then some (s.pair foundation task payload link cancelled) else none
    | .beginPairing stationKey link build, answer =>
      s.resumePairing foundation task stationKey link build now cancelled answer
    | .submitCheckin _ _, .checkin _ => some { s.set task none with isBusy := false }
    | .runControlConnection loop, answer => s.resumeControl foundation task loop answer
    | _, _ => none

end State

/-- A call of a method, or the answer that resumes a task; `cancelled` is `Task.isCancelled` of its task. -/
inductive Label where
  | bootstrap (failure : Option StorageFailure)
  | refreshSession
  | handleSceneActive
  | beginPairing (payload : PairingPayload) (link cancelled : Bool)
  | forgetPairing (failure : Option StorageFailure)
  | submitCheckin (session : ActiveSession) (person : PersonSummary) (direction : CheckinDirectionChoice) (notes : String)
      (selfie : Option (List UInt8))
  | handleSubmissionFailure (error : AppError)
  | resume (task : TaskID) (answer : Answer) (now : Int) (cancelled : Bool)

/-- One step on the main actor. A check-in is submitted from the view of the current session. -/
def step (foundation : Foundation) (s : State) : Label → Option State
  | .bootstrap failure => some (s.bootstrap foundation failure)
  | .refreshSession => some s.callRefresh
  | .handleSceneActive => some s.handleSceneActive
  | .beginPairing payload link cancelled => some (s.beginPairing foundation payload link cancelled)
  | .forgetPairing failure => some (s.forgetPairing failure)
  | .submitCheckin session person direction notes selfie =>
    if s.currentSession = some session then
      some (s.submitCheckin foundation session person direction notes selfie)
    else none
  | .handleSubmissionFailure error => some (s.handleSubmissionFailure error)
  | .resume task answer now cancelled => s.resume foundation task answer now cancelled

end Woodgate.App
