import Woodgate.App.Device

/-!
# Control connections

A control connection is current until `stopControlConnection` cancels its task and moves to the
next generation. `Governed` says that the task that is not cancelled is `controlTask`, and
`Owned` that a socket that is not cancelled is in the hands of the task that opened it, and
`controlSocket` in those of the current one. Every step keeps both (`run_owned`), which is
`control_connections`.
-/

namespace Woodgate.App

open Relation Library.Runs

/-- The task holds a socket while it waits there. -/
def ControlPoint.connected : ControlPoint → Bool
  | .unstarted | .sleeping => false
  | _ => true

/-- A control connection is cancelled exactly when it is of an older generation. -/
structure State.Governed (s : State) : Prop where
  allocated : s.Allocated
  stale : ∀ task loop, s.loop task = some loop → loop.cancelled = true → loop.generation < s.controlGeneration
  current : ∀ task loop, s.loop task = some loop → loop.cancelled = false →
    loop.generation = s.controlGeneration ∧ s.controlTask = some task

/-- A socket that is not cancelled is in the hands of a control connection. -/
structure Owned (d : Device) : Prop where
  governed : d.app.Governed
  active : ∀ task, d.activeSocket task ≠ none → ∃ loop, d.app.loop task = some loop ∧ loop.point.connected = true
  fresh : ∀ id, d.sockets id ≠ none → id < d.nextSocket
  held : ∀ id socket, d.sockets id = some socket → socket.cancelled = false → d.activeSocket socket.task = some id
  control : ∀ id, d.controlSocket = some id → ∃ socket loop, d.sockets id = some socket ∧
    socket.generation = d.app.controlGeneration ∧ d.app.loop socket.task = some loop ∧
    loop.generation = d.app.controlGeneration

section Loops

variable {s : State} {task other : TaskID} {routine : Option Routine}

@[simp] theorem loop_set_self : (s.set task routine).loop task = routine.bind Routine.loop := by
  simp [State.loop]

/-- The other control connections stay. -/
theorem loop_set_ne (different : other ≠ task) : (s.set task routine).loop other = s.loop other := by
  simp [State.loop, State.set_tasks_ne different]

/-- Tasks that are no control connections come and go. -/
theorem loop_set_plain (before : s.loop task = none) (after : routine.bind Routine.loop = none) :
    (s.set task routine).loop = s.loop := by
  funext other
  by_cases same : other = task
  · subst same
    rw [loop_set_self, after, before]
  · exact loop_set_ne same

/-- A control connection has a number that has been given out. -/
theorem loop_lt (allocated : s.Allocated) {loop : ControlLoop} (running : s.loop task = some loop) : task < s.nextTask :=
  allocated task (by simp [loop_eq_some.1 running])

theorem loop_free (allocated : s.Allocated) : s.loop s.nextTask = none := by
  by_contra present
  obtain ⟨loop, running⟩ := Option.ne_none_iff_exists'.1 present
  exact Nat.lt_irrefl _ (loop_lt allocated running)

/-- A cancelled connection goes on as such. -/
theorem loop_cancel : (s.cancel task).loop other =
    if other = task then (s.loop task).map fun loop => { loop with cancelled := true } else s.loop other := by
  unfold State.cancel
  split
  · rename_i loop running
    have known : s.loop task = some loop := loop_eq_some.2 running
    by_cases same : other = task
    · subst same
      simp [known, Routine.loop]
    · rw [loop_set_ne same, if_neg same]
  · rename_i idle
    by_cases same : other = task
    · subst same
      have absent : s.loop other = none := by
        by_contra present
        obtain ⟨loop, running⟩ := Option.ne_none_iff_exists'.1 present
        exact idle loop (loop_eq_some.1 running)
      simp [absent]
    · rw [if_neg same]

end Loops

/-! ## The methods -/

section Governed

variable {Q : ActiveSession → Prop} {stops : Bool} {s s' : State} {task : TaskID}

/-- `Governed` is about the tasks and the generation. -/
theorem State.Governed.congr (governed : s.Governed) (tasks : s'.tasks = s.tasks) (next : s.nextTask ≤ s'.nextTask)
    (control : s'.controlTask = s.controlTask) (generation : s'.controlGeneration = s.controlGeneration) : s'.Governed := by
  have loops : s'.loop = s.loop := by
    unfold State.loop
    rw [tasks]
  refine ⟨fun other present => ?_, ?_, ?_⟩
  · rw [tasks] at present
    exact Nat.lt_of_lt_of_le (governed.allocated other present) next
  · rw [loops, generation]
    exact governed.stale
  · rw [loops, generation, control]
    exact governed.current

/-- A task that is no control connection goes on or ends. -/
theorem State.Governed.set_plain (governed : s.Governed) {routine : Option Routine} (old : task < s.nextTask)
    (before : s.loop task = none) (after : routine.bind Routine.loop = none) : (s.set task routine).Governed := by
  have loops := loop_set_plain before after
  refine ⟨governed.allocated.set old, ?_, ?_⟩
  · rw [loops]
    exact governed.stale
  · rw [loops]
    exact governed.current

theorem State.Governed.spawn (governed : s.Governed) {routine : Routine} (plain : routine.loop = none) :
    (s.spawn routine).Governed := by
  have loops : (s.spawn routine).loop = s.loop := loop_set_plain (loop_free governed.allocated) plain
  refine ⟨governed.allocated.spawn routine, ?_, ?_⟩
  · rw [loops]
    exact governed.stale
  · rw [loops]
    exact governed.current

/-- Without a control task every control connection is of an older generation. -/
theorem State.Governed.lt_of_none (governed : s.Governed) (none : s.controlTask = none) {loop : ControlLoop}
    (running : s.loop task = some loop) : loop.generation < s.controlGeneration := by
  cases cancelled : loop.cancelled with
  | true => exact governed.stale task loop running cancelled
  | false =>
    have held := (governed.current task loop running cancelled).2
    rw [none] at held
    cases held

/-- No connection is of a generation to come. -/
theorem State.Governed.le (governed : s.Governed) {loop : ControlLoop} (running : s.loop task = some loop) :
    loop.generation ≤ s.controlGeneration := by
  cases cancelled : loop.cancelled with
  | true => exact Nat.le_of_lt (governed.stale task loop running cancelled)
  | false => exact Nat.le_of_eq (governed.current task loop running cancelled).1

/-- A start makes a connection of the next generation, and only where none is kept. -/
theorem State.Governed.start (governed : s.Governed) : s.startControlConnection.Governed := by
  unfold State.startControlConnection
  split
  case isFalse => exact governed
  rename_i starts
  have idle : s.controlTask = none := by
    simp only [Bool.and_eq_true, Option.isNone_iff_eq_none] at starts
    exact starts.1.1
  have spawned := governed.allocated.spawn (.runControlConnection { generation := s.controlGeneration + 1 })
  refine ⟨spawned, fun other loop running cancelled => ?_, fun other loop running live => ?_⟩
  · by_cases same : other = s.nextTask
    · subst same
      have made : loop = { generation := s.controlGeneration + 1 } := by
        have found := loop_eq_some.1 running
        rw [State.spawn_tasks_self] at found
        cases found
        rfl
      rw [made] at cancelled
      cases cancelled
    · have older : s.loop other = some loop := by
        rw [← running]
        exact (loop_set_ne same).symm
      have less := governed.lt_of_none idle older
      exact Nat.lt_succ_of_lt less
  · by_cases same : other = s.nextTask
    · subst same
      have found := loop_eq_some.1 running
      rw [State.spawn_tasks_self] at found
      cases found
      exact ⟨rfl, rfl⟩
    · have older : s.loop other = some loop := by
        rw [← running]
        exact (loop_set_ne same).symm
      have held := (governed.current other loop older live).2
      rw [idle] at held
      cases held

theorem loop_stop : s.stopControlConnection.loop task =
    if s.controlTask = some task then (s.loop task).map fun loop => { loop with cancelled := true } else s.loop task := by
  unfold State.stopControlConnection
  cases s.controlTask with
  | none => simp [State.loop]
  | some control =>
    show (s.cancel control).loop task = _
    rw [loop_cancel]
    by_cases same : task = control
    · simp [same]
    · simp [same, Ne.symm same]

/-- A stop cancels the connection it counts out. -/
theorem State.Governed.stop (governed : s.Governed) : s.stopControlConnection.Governed := by
  have tended : s.Tended fun _ => True := ⟨governed.allocated, fun _ _ _ _ _ => trivial⟩
  refine ⟨tended.stop.allocated, fun task loop running _ => ?_, fun task loop running live => ?_⟩
  · rw [loop_stop] at running
    split at running
    · obtain ⟨before, known, rfl⟩ := Option.map_eq_some_iff.1 running
      have less := governed.le known
      exact Nat.lt_succ_of_le less
    · exact Nat.lt_succ_of_le (governed.le running)
  · rw [loop_stop] at running
    split at running
    · obtain ⟨before, _, rfl⟩ := Option.map_eq_some_iff.1 running
      cases live
    · rename_i other
      exact absurd (governed.current task loop running live).2 other

/-- Every edit keeps it, by its kind. -/
theorem State.Governed.edit (governed : s.Governed) (edit : Edit Q stops s s') : s'.Governed := by
  cases edit with
  | quiet tasks next control generation => exact governed.congr tasks next control generation
  | set task routine plain meets =>
    obtain ⟨old, before⟩ := plain governed.allocated
    refine governed.set_plain old before ?_
    cases routine with
    | none => rfl
    | some routine => exact (meets routine rfl).plain
  | spawn routine meets => exact governed.spawn meets.plain
  | start => exact governed.start
  | stop allowed => exact governed.stop

/-- An edit leaves every control connection where it waits. -/
theorem loop_edit (governed : s.Governed) (edit : Edit Q stops s s') {loop : ControlLoop} (running : s.loop task = some loop) :
    ∃ loop', s'.loop task = some loop' ∧ loop'.generation = loop.generation ∧ loop'.point = loop.point ∧
      (stops = false → loop' = loop) := by
  cases edit with
  | quiet tasks next control generation =>
    refine ⟨loop, ?_, rfl, rfl, fun _ => rfl⟩
    unfold State.loop at running ⊢
    rwa [tasks]
  | set other routine plain meets =>
    have before := (plain governed.allocated).2
    have different : task ≠ other := by
      rintro rfl
      cases before.symm.trans running
    exact ⟨loop, (loop_set_ne different).trans running, rfl, rfl, fun _ => rfl⟩
  | spawn routine meets =>
    have different : task ≠ s.nextTask := Nat.ne_of_lt (loop_lt governed.allocated running)
    exact ⟨loop, (loop_set_ne different).trans running, rfl, rfl, fun _ => rfl⟩
  | start =>
    refine ⟨loop, ?_, rfl, rfl, fun _ => rfl⟩
    unfold State.startControlConnection
    split
    · have different : task ≠ s.nextTask := Nat.ne_of_lt (loop_lt governed.allocated running)
      exact (loop_set_ne different).trans running
    · exact running
  | stop allowed =>
    rw [loop_stop, running]
    split
    · exact ⟨_, rfl, rfl, rfl, fun off => by rw [off] at allowed; cases allowed⟩
    · exact ⟨_, rfl, rfl, rfl, fun _ => rfl⟩

/-- The generation moves on only when the control connection stops or there is none. -/
theorem generation_edit (edit : Edit Q stops s s') :
    stops = true ∨ s'.controlGeneration = s.controlGeneration ∨ s.controlTask = none := by
  cases edit with
  | quiet tasks next control generation => exact .inr (.inl generation)
  | set task routine plain meets => exact .inr (.inl rfl)
  | spawn routine meets => exact .inr (.inl rfl)
  | start =>
    unfold State.startControlConnection
    split
    · rename_i starts
      simp only [Bool.and_eq_true, Option.isNone_iff_eq_none] at starts
      exact .inr (.inr starts.1.1)
    · exact .inr (.inl rfl)
  | stop allowed => exact .inl allowed

end Governed

section Owned

variable {Q : ActiveSession → Prop} {stops : Bool} {foundation : Foundation} {d : Device} {app : State} {task : TaskID}
  {loop : ControlLoop}

/-- An edit keeps it that leaves the sockets alone, if the socket is closed before the connection is stopped. -/
theorem Owned.edit (owned : Owned d) (closed : stops = true → d.controlSocket = none) (edit : Edit Q stops d.app app) :
    Owned { d with app } where
  governed := owned.governed.edit edit
  active task holds := by
    obtain ⟨loop, running, connected⟩ := owned.active task holds
    obtain ⟨loop', still, _, point, _⟩ := loop_edit owned.governed edit running
    refine ⟨loop', still, ?_⟩
    rw [point]
    exact connected
  fresh := owned.fresh
  held := owned.held
  control id open' := by
    obtain ⟨socket, loop, known, generation, running, current⟩ := owned.control id open'
    obtain ⟨loop', still, same, _⟩ := loop_edit owned.governed edit running
    have stays : app.controlGeneration = d.app.controlGeneration := by
      rcases generation_edit edit with allowed | stays | idle
      · cases (closed allowed).symm.trans open'
      · exact stays
      · have older := owned.governed.lt_of_none idle running
        exact absurd current (Nat.ne_of_lt older)
    refine ⟨socket, loop', known, ?_, still, ?_⟩
    · rw [stays]
      exact generation
    · rw [stays, same]
      exact current

theorem Owned.edits (owned : Owned d) (closed : stops = true → d.controlSocket = none) (edits : Edits Q stops d.app app) :
    Owned { d with app } := by
  induction edits with
  | refl => exact owned
  | tail _ edit ih =>
    have kept := ih.edit closed edit
    exact kept

/-- Edits that do not stop the control connection leave it as it is. -/
theorem loop_edits {s s' : State} (governed : s.Governed) (edits : Edits Q false s s') (running : s.loop task = some loop) :
    s'.Governed ∧ s'.loop task = some loop := by
  induction edits with
  | refl => exact ⟨governed, running⟩
  | tail _ edit ih =>
    obtain ⟨governed, running⟩ := ih
    obtain ⟨loop', still, _, _, same⟩ := loop_edit governed edit running
    rw [same rfl] at still
    exact ⟨governed.edit edit, still⟩

/-! ## The control connection -/

theorem cancelSocket_sockets {id : Option SocketID} {other : SocketID} :
    (d.cancelSocket id).sockets other =
      if id = some other then (d.sockets other).map fun socket => { socket with cancelled := true } else d.sockets other := by
  cases id with
  | none => rfl
  | some id =>
    by_cases same : other = id
    · subst same
      simp [Device.cancelSocket]
    · simp [Device.cancelSocket, same, Ne.symm same]

theorem cancelSocket_activeSocket {id : Option SocketID} : (d.cancelSocket id).activeSocket = d.activeSocket := by
  cases id <;> rfl

theorem cancelSocket_nextSocket {id : Option SocketID} : (d.cancelSocket id).nextSocket = d.nextSocket := by
  cases id <;> rfl

/-- A socket after a cancellation is the socket before it, or cancelled. -/
theorem socket_of_cancelSocket {id : Option SocketID} {other : SocketID} {socket : Socket}
    (known : (d.cancelSocket id).sockets other = some socket) :
    ∃ before, d.sockets other = some before ∧ before.task = socket.task ∧ before.generation = socket.generation ∧
      (socket.cancelled = false → before = socket ∧ id ≠ some other) := by
  rw [cancelSocket_sockets] at known
  split at known
  · obtain ⟨before, found, rfl⟩ := Option.map_eq_some_iff.1 known
    exact ⟨before, found, rfl, rfl, fun live => by cases live⟩
  · rename_i other
    exact ⟨socket, known, rfl, rfl, fun _ => ⟨rfl, other⟩⟩

/-- A socket stays known after a cancellation. -/
theorem cancelSocket_of_socket {id : Option SocketID} {other : SocketID} {socket : Socket}
    (known : d.sockets other = some socket) :
    ∃ after, (d.cancelSocket id).sockets other = some after ∧ after.task = socket.task ∧
      after.generation = socket.generation := by
  rw [cancelSocket_sockets, known]
  split
  · exact ⟨_, rfl, rfl, rfl⟩
  · exact ⟨_, rfl, rfl, rfl⟩

/-- So does the cancellation of the socket that is shown. -/
theorem Owned.closeControl (owned : Owned d) : Owned d.closeControl where
  governed := by
    rw [app_closeControl]
    exact owned.governed
  active task holds := by
    rw [app_closeControl]
    rw [show d.closeControl.activeSocket = d.activeSocket from cancelSocket_activeSocket] at holds
    exact owned.active task holds
  fresh id present := by
    obtain ⟨socket, known⟩ := Option.ne_none_iff_exists'.1 present
    obtain ⟨before, found, _⟩ := socket_of_cancelSocket known
    rw [show d.closeControl.nextSocket = d.nextSocket from cancelSocket_nextSocket]
    exact owned.fresh id (by simp [found])
  held id socket known live := by
    obtain ⟨before, found, _, _, same⟩ := socket_of_cancelSocket known
    obtain ⟨rfl, _⟩ := same live
    rw [show d.closeControl.activeSocket = d.activeSocket from cancelSocket_activeSocket]
    exact owned.held id before found live
  control id open' := by cases open'

/-- The task lets its socket go; it is its only one. -/
theorem Owned.closeActive (owned : Owned d) (running : d.app.loop task = some loop) : Owned (d.closeActive task loop) where
  governed := by
    rw [app_closeActive]
    exact owned.governed
  active other holds := by
    rw [app_closeActive]
    by_cases same : other = task
    · subst same
      simp [Device.closeActive] at holds
    · simp only [Device.closeActive, Function.update_of_ne same] at holds
      exact owned.active other holds
  fresh id present := by
    obtain ⟨socket, known⟩ := Option.ne_none_iff_exists'.1 present
    obtain ⟨before, found, _⟩ := socket_of_cancelSocket known
    rw [show (d.closeActive task loop).nextSocket = d.nextSocket from cancelSocket_nextSocket]
    exact owned.fresh id (by simp [found])
  held id socket known live := by
    obtain ⟨before, found, _, _, same⟩ := socket_of_cancelSocket known
    obtain ⟨rfl, other⟩ := same live
    have held := owned.held id before found live
    have different : before.task ≠ task := by
      rintro rfl
      exact other held
    simp only [Device.closeActive, Function.update_of_ne different]
    exact held
  control id open' := by
    rw [app_closeActive]
    simp only [Device.closeActive] at open'
    split at open'
    · cases open'
    obtain ⟨socket, loop, known, generation, rest⟩ := owned.control id open'
    obtain ⟨after, found, task, opened⟩ := cancelSocket_of_socket known
    refine ⟨after, loop, found, opened.trans generation, ?_⟩
    rw [task]
    exact rest

theorem closeActive_activeSocket : (d.closeActive task loop).activeSocket task = none := by
  simp [Device.closeActive]

/-- Only the connection that moves is somewhere else. -/
theorem loop_waitAt {s : State} {other : TaskID} {point : ControlPoint} :
    (s.waitAt task loop point).loop other = if other = task then some { loop with point } else s.loop other := by
  by_cases same : other = task
  · subst same
    simp [State.waitAt, Routine.loop]
  · rw [if_neg same]
    exact loop_set_ne same

/-- A connection that waits stays of its generation. -/
theorem State.Governed.waitAt {s : State} (governed : s.Governed) (running : s.loop task = some loop) {point : ControlPoint} :
    (s.waitAt task loop point).Governed := by
  refine ⟨governed.allocated.set (loop_lt governed.allocated running), fun other after known cancelled => ?_,
    fun other after known live => ?_⟩
  · rw [loop_waitAt] at known
    split at known
    · cases known
      exact governed.stale task loop running cancelled
    · exact governed.stale other after known cancelled
  · rw [loop_waitAt] at known
    split at known
    · rename_i same
      cases known
      rw [same]
      exact governed.current task loop running live
    · exact governed.current other after known live

theorem State.Governed.endControl {s : State} (governed : s.Governed) (running : s.loop task = some loop) :
    (s.endControl task loop).Governed := by
  have elsewhere : ∀ other after, (s.endControl task loop).loop other = some after → other ≠ task ∧ s.loop other = some after := by
    intro other after known
    have different : other ≠ task := by
      rintro rfl
      rw [show (s.endControl other loop).loop other = (s.set other none).loop other from rfl, loop_set_self] at known
      cases known
    exact ⟨different, (loop_set_ne different).symm.trans known⟩
  refine ⟨governed.allocated.set (loop_lt governed.allocated running), fun other after known cancelled => ?_,
    fun other after known live => ?_⟩
  · exact governed.stale other after (elsewhere other after known).2 cancelled
  · obtain ⟨different, before⟩ := elsewhere other after known
    obtain ⟨generation, control⟩ := governed.current other after before live
    refine ⟨generation, ?_⟩
    -- a current connection that ends is `controlTask`
    have older : s.controlGeneration ≠ loop.generation := by
      intro same
      cases cancelled : loop.cancelled with
      | true => exact Nat.lt_irrefl _ (same ▸ governed.stale task loop running cancelled)
      | false =>
        have own := (governed.current task loop running cancelled).2
        exact different (Option.some.inj (control.symm.trans own))
    show (if s.controlGeneration = loop.generation then none else s.controlTask) = some other
    rw [if_neg older]
    exact control

/-- A connection keeps its socket only where it is connected. -/
theorem Owned.waitAt (owned : Owned d) (running : d.app.loop task = some loop) {point : ControlPoint}
    (holds : d.activeSocket task = none ∨ point.connected = true) : Owned (d.waitAt task loop point) where
  governed := owned.governed.waitAt running
  active other present := by
    show ∃ after, (d.app.waitAt task loop point).loop other = some after ∧ _
    rw [loop_waitAt]
    split
    · rename_i same
      subst same
      exact ⟨_, rfl, holds.resolve_left present⟩
    · exact owned.active other present
  fresh := owned.fresh
  held := owned.held
  control id open' := by
    obtain ⟨socket, before, known, generation, waits, current⟩ := owned.control id open'
    show ∃ (socket : Socket) (after : ControlLoop), _ ∧ _ ∧ (d.app.waitAt task loop point).loop socket.task = some after ∧ _
    by_cases same : socket.task = task
    · rw [same, running] at waits
      cases waits
      exact ⟨socket, { loop with point }, known, generation, by rw [loop_waitAt, if_pos same], current⟩
    · exact ⟨socket, before, known, generation, by rw [loop_waitAt, if_neg same]; exact waits, current⟩

/-- A task that holds no socket ends. -/
theorem Owned.finish (owned : Owned d) (running : d.app.loop task = some loop) (idle : d.activeSocket task = none)
    (closed : d.app.controlGeneration = loop.generation → d.controlSocket = none) :
    Owned { d with app := d.app.endControl task loop } where
  governed := owned.governed.endControl running
  active other present := by
    have different : other ≠ task := by
      rintro rfl
      exact present idle
    obtain ⟨after, known, connected⟩ := owned.active other present
    exact ⟨after, (loop_set_ne different).trans known, connected⟩
  fresh := owned.fresh
  held := owned.held
  control id open' := by
    obtain ⟨socket, after, known, generation, waits, current⟩ := owned.control id open'
    have different : socket.task ≠ task := by
      intro same
      rw [same, running] at waits
      cases waits
      cases (closed current.symm).symm.trans open'
    exact ⟨socket, after, known, generation, (loop_set_ne different).trans waits, current⟩

/-- A connection closes its socket as it ends. -/
theorem Owned.endControl (owned : Owned d) (running : d.app.loop task = some loop) : Owned (d.endControl task loop) := by
  have still : (d.closeActive task loop).app.loop task = some loop := by rwa [app_closeActive]
  have closed : (d.closeActive task loop).app.controlGeneration = loop.generation → (d.closeActive task loop).controlSocket = none := by
    intro same
    rw [app_closeActive] at same
    simp [Device.closeActive, same]
  have finished := (owned.closeActive running).finish still closeActive_activeSocket closed
  rw [app_closeActive] at finished
  exact finished

theorem Owned.failControl (owned : Owned d) (running : d.app.loop task = some loop) : Owned (d.failControl task loop) := by
  have closed := owned.closeActive running
  have still : (d.closeActive task loop).app.loop task = some loop := by rwa [app_closeActive]
  unfold Device.failControl
  split
  · exact closed.endControl still
  · exact closed.waitAt still (.inl closeActive_activeSocket)

theorem Owned.receiveControl (owned : Owned d) (running : d.app.loop task = some loop) : Owned (d.receiveControl task loop) := by
  unfold Device.receiveControl
  split
  · exact owned.endControl running
  · exact owned.waitAt running (.inr rfl)

/-- A new socket is that of the current connection, which had none. -/
theorem Owned.openSocket (owned : Owned d) (running : d.app.loop task = some loop) (connected : loop.point.connected = true)
    (idle : d.activeSocket task = none) (current : d.app.controlGeneration = loop.generation) :
    Owned (d.openSocket task loop) where
  governed := owned.governed
  active other present := by
    by_cases same : other = task
    · subst same
      exact ⟨loop, running, connected⟩
    · simp only [Device.openSocket, Function.update_of_ne same] at present
      exact owned.active other present
  fresh id present := by
    by_cases same : id = d.nextSocket
    · subst same
      exact Nat.lt_succ_self _
    · simp only [Device.openSocket, Function.update_of_ne same] at present
      exact Nat.lt_succ_of_lt (owned.fresh id present)
  held id socket known live := by
    by_cases same : id = d.nextSocket
    · subst same
      simp only [Device.openSocket, Function.update_self] at known ⊢
      cases known
      exact Function.update_self ..
    · simp only [Device.openSocket, Function.update_of_ne same] at known ⊢
      have held := owned.held id socket known live
      have different : socket.task ≠ task := by
        intro same
        rw [same, idle] at held
        cases held
      rw [Function.update_of_ne different]
      exact held
  control id open' := by
    cases open'
    exact ⟨{ task, generation := loop.generation }, loop, by simp [Device.openSocket], current.symm, running, current.symm⟩

/-- A connection opens its socket only while it is the current one. -/
theorem Owned.connectControl (owned : Owned d) (running : d.app.loop task = some loop) (idle : d.activeSocket task = none)
    (opens : Bool) : Owned (d.connectControl foundation opens task loop) := by
  unfold Device.connectControl
  split
  · rename_i goes
    simp only [Bool.and_eq_true, decide_eq_true_eq] at goes
    split
    · exact owned.endControl running
    · split
      · have waits : Owned (d.waitAt task loop .presence) := owned.waitAt running (.inr rfl)
        have there : (d.waitAt task loop .presence).app.loop task = some { loop with point := .presence } :=
          loop_waitAt.trans (if_pos rfl)
        have opened := waits.openSocket there rfl idle goes.1.2
        exact opened
      · exact owned.failControl running
  · exact owned.endControl running

/-- A message is handled with the socket open, and a refresh it starts leaves the socket alone. -/
theorem Owned.handleMessage (owned : Owned d) (running : d.app.loop task = some loop) (type : String) :
    Owned (d.handleMessage task loop type) := by
  have edits : Edits (fun _ => True) false d.app d.app.refreshSession.1 := edits_refreshSession fun _ _ => trivial
  have refreshed : Owned { d with app := d.app.refreshSession.1 } := owned.edits (fun off => by cases off) edits
  have still := (loop_edits owned.governed edits running).2
  unfold Device.handleMessage
  split
  · exact owned.waitAt running (.inr rfl)
  split
  · split
    · rename_i returned
      rw [returned] at refreshed still
      exact refreshed.waitAt still (.inr rfl)
    · rename_i returned
      rw [returned] at refreshed still
      exact refreshed.receiveControl still
  · exact owned.receiveControl running

/-- A control connection holds no socket before it connects. -/
theorem Owned.idle (owned : Owned d) (running : d.app.loop task = some loop) (waits : loop.point.connected = false) :
    d.activeSocket task = none := by
  by_contra present
  obtain ⟨other, known, connected⟩ := owned.active task present
  cases running.symm.trans known
  cases waits.symm.trans connected

/-- Whatever a connection goes on with keeps it. -/
theorem Owned.resumeControl (owned : Owned d) (running : d.app.loop task = some loop) {opens : Bool} {answer : Answer}
    {d' : Device} (h : d.resumeControl foundation opens task loop answer = some d') : Owned d' := by
  unfold Device.resumeControl at h
  cases answer with
  | resumed =>
    dsimp only at h
    split at h
    · rename_i point
      cases h
      exact owned.connectControl running (owned.idle running (by rw [point]; rfl)) opens
    · rename_i wait _
      split at h <;> cases h
      have edits : Edits (fun _ => True) false d.app (d.app.refreshed wait) := edits_refreshed wait
      have refreshed : Owned { d with app := d.app.refreshed wait } := owned.edits (fun off => by cases off) edits
      exact refreshed.receiveControl (loop_edits owned.governed edits running).2
    · cases h
  | sent result =>
    dsimp only at h
    split at h <;> cases h
    · exact owned.receiveControl running
    · exact owned.failControl running
  | message result =>
    dsimp only at h
    split at h <;> cases h
    · exact owned.handleMessage running _
    · exact owned.failControl running
  | slept result =>
    dsimp only at h
    split at h
    · rename_i point
      cases h
      exact owned.connectControl running (owned.idle running (by rw [point]; rfl)) opens
    · cases h
      exact owned.endControl running
    · cases h
  | _ => cases h

/-- A method closes the socket before it stops the connection. -/
theorem Owned.method {a : Attempt} {d' : Device} (owned : Owned d) (apart : d.app.resumes a.label = none)
    (h : d.method foundation a = some d') : Owned d' := by
  obtain ⟨app, taken, rfl⟩ := Option.map_eq_some_iff.1 h
  have any : ∀ session : ActiveSession, (fun _ => True) session := fun _ => trivial
  dsimp only
  cases stops : d.app.stops foundation a.label && ((d.app.persisting foundation a.label).isNone || a.storage.isNone) with
  | true =>
    have closed : d.closeControl.app = d.app := app_closeControl
    have edits : Edits (fun _ => True) true d.closeControl.app app := by
      rw [closed]
      exact edits_attempt owned.governed.allocated (fun _ _ _ _ _ => trivial) (fun _ _ => trivial) (fun _ _ _ => trivial)
        apart (fun off => by cases off) taken
    have kept : Owned { d.closeControl with app } := owned.closeControl.edits (fun _ => rfl) edits
    exact ⟨kept.governed, kept.active, kept.fresh, kept.held, kept.control⟩
  | false =>
    have edits : Edits (fun _ => True) false d.app app := by
      refine edits_attempt owned.governed.allocated (fun _ _ _ _ _ => trivial) (fun _ _ => trivial) (fun _ _ _ => trivial)
        apart (fun _ => ?_) taken
      simp only [Bool.and_eq_false_iff, Bool.or_eq_false_iff, Option.isNone_eq_false_iff] at stops
      exact stops
    have kept : Owned { d with app } := owned.edits (fun off => by cases off) edits
    exact ⟨kept.governed, kept.active, kept.fresh, kept.held, kept.control⟩

/-- **One step keeps it**: a method by its edits, a connection by its moves. -/
theorem Owned.step {l : DeviceLabel} {d' : Device} (owned : Owned d) (h : d.step foundation l = some d') : Owned d' := by
  cases resumes : d.app.resumes l.label with
  | none =>
    unfold Device.step at h
    rw [resumes] at h
    split at h
    · rename_i absent
      cases absent
    · exact owned.method resumes h
  | some resumed =>
    obtain ⟨answer, now, cancelled, label, found⟩ := resumes_eq_some resumes
    unfold Device.step at h
    rw [resumes, label] at h
    exact owned.resumeControl (loop_eq_some.2 found) h

/-- A launch: no task and no socket. -/
structure Device.Launched (d : Device) : Prop where
  idle : d.app.Idle
  sockets : d.sockets = fun _ => none
  activeSocket : d.activeSocket = fun _ => none
  controlSocket : d.controlSocket = none

/-- No socket is open at a launch. -/
theorem Owned.of_launched (launched : d.Launched) : Owned d := by
  have none_runs : ∀ task, d.app.loop task = none := fun task => by simp [State.loop, launched.idle task]
  refine ⟨⟨fun task present => absurd (launched.idle task) present, fun task loop running => ?_, fun task loop running => ?_⟩,
    fun task holds => absurd (congrFun launched.activeSocket task) holds,
    fun id present => absurd (congrFun launched.sockets id) present, fun id socket known => ?_, fun id opened => ?_⟩
  · cases (none_runs task).symm.trans running
  · cases (none_runs task).symm.trans running
  · cases (congrFun launched.sockets id).symm.trans known
  · cases launched.controlSocket.symm.trans opened

/-- It holds in every run from a launch. -/
theorem run_owned {d' : Device} {ls : List DeviceLabel} (launched : d.Launched)
    (h : run (Device.step foundation) d ls = some d') : Owned d' :=
  run_invariant Owned (fun _ _ _ owned taken => owned.step taken) (.of_launched launched) h

end Owned

/-! ## A connection of an older generation -/

/-- What a control connection may assign. -/
def Device.steering (d : Device) : Option SocketID × Option TaskID × Nat :=
  (d.controlSocket, d.app.controlTask, d.app.controlGeneration)

section Stale

variable {foundation : Foundation} {d d' : Device} {app : State} {task : TaskID} {loop : ControlLoop}

/-- A connection of an older generation closes its own socket, and not the one that is shown. None of its later moves
assigns either. -/
theorem steering_closeActive (older : d.app.controlGeneration ≠ loop.generation) :
    (d.closeActive task loop).steering = d.steering := by
  unfold Device.steering
  rw [app_closeActive]
  simp [Device.closeActive, older]

theorem steering_endControl (older : d.app.controlGeneration ≠ loop.generation) :
    (d.endControl task loop).steering = d.steering := by
  have closed : (d.closeActive task loop).steering = d.steering := steering_closeActive older
  have control : (d.app.endControl task loop).controlTask = d.app.controlTask := if_neg older
  simp only [Device.steering, app_endControl, Prod.mk.injEq] at closed ⊢
  exact ⟨closed.1, control, rfl⟩

theorem steering_failControl (older : d.app.controlGeneration ≠ loop.generation) :
    (d.failControl task loop).steering = d.steering := by
  have closed : (d.closeActive task loop).steering = d.steering := steering_closeActive older
  unfold Device.failControl
  split
  · rw [steering_endControl (by rwa [app_closeActive])]
    exact closed
  · exact closed

theorem steering_receiveControl (older : d.app.controlGeneration ≠ loop.generation) :
    (d.receiveControl task loop).steering = d.steering := by
  unfold Device.receiveControl
  split
  · exact steering_endControl older
  · rfl

theorem steering_connectControl (older : d.app.controlGeneration ≠ loop.generation) (opens : Bool) :
    (d.connectControl foundation opens task loop).steering = d.steering := by
  unfold Device.connectControl
  rw [if_neg (by simp [older])]
  exact steering_endControl older

/-- A refresh does not steer the control connection. -/
theorem steering_refreshSession :
    d.app.refreshSession.1.controlTask = d.app.controlTask ∧
      d.app.refreshSession.1.controlGeneration = d.app.controlGeneration := by
  unfold State.refreshSession
  split
  · exact ⟨rfl, rfl⟩
  · split
    · split <;> exact ⟨rfl, rfl⟩
    · exact ⟨rfl, rfl⟩

theorem steering_handleMessage (older : d.app.controlGeneration ≠ loop.generation) (type : String) :
    (d.handleMessage task loop type).steering = d.steering := by
  obtain ⟨control, generation⟩ := @steering_refreshSession d
  have refreshed : Device.steering { d with app := d.app.refreshSession.1 } = d.steering := by
    simp only [Device.steering, control, generation]
  unfold Device.handleMessage
  split
  · rfl
  split
  · split
    · rename_i returned
      rw [returned] at refreshed
      exact refreshed
    · rename_i returned
      rw [returned] at refreshed generation
      rw [steering_receiveControl (by rwa [generation])]
      exact refreshed
  · exact steering_receiveControl older

theorem steering_resumeControl (older : d.app.controlGeneration ≠ loop.generation) {opens : Bool} {answer : Answer}
    (h : d.resumeControl foundation opens task loop answer = some d') : d'.steering = d.steering := by
  unfold Device.resumeControl at h
  cases answer with
  | resumed =>
    dsimp only at h
    split at h
    · cases h
      exact steering_connectControl older opens
    · rename_i wait _
      split at h <;> cases h
      have refreshed : Device.steering { d with app := d.app.refreshed wait } = d.steering ∧
          (d.app.refreshed wait).controlGeneration = d.app.controlGeneration := by
        unfold State.refreshed
        split <;> exact ⟨rfl, rfl⟩
      rw [steering_receiveControl (by rw [refreshed.2]; exact older)]
      exact refreshed.1
    · cases h
  | sent result =>
    dsimp only at h
    split at h <;> cases h
    · exact steering_receiveControl older
    · exact steering_failControl older
  | message result =>
    dsimp only at h
    split at h <;> cases h
    · exact steering_handleMessage older _
    · exact steering_failControl older
  | slept result =>
    dsimp only at h
    split at h <;> cases h
    · exact steering_connectControl older opens
    · exact steering_endControl older
  | _ => cases h

/-- **An older connection assigns nothing** of what steers the current one. -/
theorem steering_step {l : DeviceLabel} {answer : Answer} {now : Int} {cancelled : Bool}
    (running : d.app.loop task = some loop) (older : loop.generation < d.app.controlGeneration)
    (label : l.label = .resume task answer now cancelled) (h : d.step foundation l = some d') :
    d'.steering = d.steering := by
  have resumes : d.app.resumes l.label = some (task, loop) := by
    rw [label]
    simp [State.resumes, running]
  unfold Device.step at h
  rw [resumes, label] at h
  exact steering_resumeControl (Nat.ne_of_gt older) h

end Stale

/-- **At most one control connection.** In every state that a run from a launch reaches, whatever the order of the calls,
the answers, the messages and the errors of the sockets, the control task that is not cancelled is `controlTask`;
`controlSocket` was opened by it in the current generation; a control connection of an older generation assigns neither; and
the sockets of a task are cancelled but for one, and all of them once the task has ended. -/
theorem control_connections (foundation : Foundation) {d₀ d : Device} {ls : List DeviceLabel} (launched : d₀.Launched)
    (h : run (Device.step foundation) d₀ ls = some d) :
    (∀ task loop, d.app.loop task = some loop → loop.cancelled = false → d.app.controlTask = some task) ∧
    (∀ id, d.controlSocket = some id → ∃ socket, d.sockets id = some socket ∧
      socket.generation = d.app.controlGeneration ∧ d.app.controlTask = some socket.task) ∧
    (∀ task loop l answer now cancelled d', d.app.loop task = some loop → loop.generation < d.app.controlGeneration →
      l.label = .resume task answer now cancelled → d.step foundation l = some d' →
      d'.controlSocket = d.controlSocket ∧ d'.app.controlTask = d.app.controlTask) ∧
    (∀ id socket, d.sockets id = some socket → d.app.loop socket.task = none → socket.cancelled = true) ∧
    ∀ id id' socket socket', d.sockets id = some socket → d.sockets id' = some socket' → socket.cancelled = false →
      socket'.cancelled = false → socket.task = socket'.task → id = id' := by
  have owned : Owned d := run_owned launched h
  refine ⟨fun task loop running live => (owned.governed.current task loop running live).2, fun id opened => ?_,
    fun task loop l answer now cancelled d' running older label taken => ?_, fun id socket known ended => ?_,
    fun id id' socket socket' known known' live live' same => ?_⟩
  · obtain ⟨socket, loop, known, generation, running, current⟩ := owned.control id opened
    refine ⟨socket, known, generation, ?_⟩
    cases cancelled : loop.cancelled with
    | true =>
      have older := owned.governed.stale socket.task loop running cancelled
      exact absurd current (Nat.ne_of_lt older)
    | false => exact (owned.governed.current socket.task loop running cancelled).2
  · have kept := steering_step running older label taken
    simp only [Device.steering, Prod.mk.injEq] at kept
    exact ⟨kept.1, kept.2.1⟩
  · by_contra live
    have held := owned.held id socket known (by simpa using live)
    obtain ⟨loop, running, _⟩ := owned.active socket.task (by simp [held])
    cases ended.symm.trans running
  · have held := owned.held id socket known live
    have held' := owned.held id' socket' known' live'
    rw [same] at held
    exact Option.some.inj (held.symm.trans held')

def deskDevice : Device := { app := deskState }

/-- A pairing is forgotten while its connection waits for a message. -/
def deskForgotten : List DeviceLabel := (deskConnected ++ [Label.forgetPairing none]).map fun label => { label }

/-- The socket that the forgetting cancelled wakes the connection up. -/
def deskCancelled : DeviceLabel := { label := .resume 1 (.message (.error (.other "cancelled"))) 40 true }

/-- The old connection leaves the device as it is. -/
theorem control_connections_desk : ∃ d d', run (Device.step deskFoundation) deskDevice deskForgotten = some d ∧
    d.step deskFoundation deskCancelled = some d' ∧ d.app.loop 1 = some ⟨1, true, .receiving⟩ ∧
    d'.controlSocket = d.controlSocket ∧ d'.app.controlTask = d.app.controlTask := by
  have ends : ((run (Device.step deskFoundation) deskDevice deskForgotten).any fun d =>
      (d.step deskFoundation deskCancelled).any fun _ => decide (d.app.loop 1 = some ⟨1, true, .receiving⟩ ∧
        d.app.controlGeneration = 2)) = true := by decide +kernel
  simp only [Option.any_eq_true, decide_eq_true_eq] at ends
  obtain ⟨d, reached, d', taken, running, generation⟩ := ends
  have launched : deskDevice.Launched := ⟨fun _ => rfl, rfl, rfl, rfl⟩
  obtain ⟨_, _, stale, _, _⟩ := control_connections deskFoundation launched reached
  exact ⟨d, d', reached, taken, running,
    stale 1 ⟨1, true, .receiving⟩ deskCancelled _ _ _ d' running (by rw [generation]; decide) rfl taken⟩

end Woodgate.App
