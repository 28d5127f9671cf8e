import Woodgate.Stations.Store

/-!
# The hub's sockets

`Hub` is one process's view of its control connections. Go keeps `conns`, a map from
stations to pointers; here the pointer is the connection's id, and `connections` is
what it points to. Each definition is one critical section of the mutex with what the
function does to the sockets it found there.
-/

namespace Woodgate.Stations

/-- `ProtocolVersion` -/
def protocolVersion : Int := 1

/-- `controlBuffer` -/
def controlBuffer : Nat := 4

/-- A `serverMessage`. -/
inductive ServerMessage where
  | hello (stationID : ID) (name : String) (locationID : ID) (protocolVersion : Int) (serverBuild : String)
  | configurationChanged
  deriving DecidableEq, Repr

/-- `send` is the buffered channel, oldest message first; `closes` are the reasons of the
`ws.Close` calls on the socket, oldest first. -/
structure ControlConnection where
  id : String
  stationID : ID
  locationID : ID
  send : List ServerMessage := []
  closes : List String := []
  deriving DecidableEq, Repr

namespace ControlConnection

/-- `ws.Close` -/
def close (reason : String) (c : ControlConnection) : ControlConnection :=
  { c with closes := c.closes ++ [reason] }

/-- `Hub.enqueue` -/
def enqueue (message : ServerMessage) (c : ControlConnection) : ControlConnection :=
  if c.send.length < controlBuffer then { c with send := c.send ++ [message] }
  else c.close "station fell behind"

@[simp] theorem close_stationID (reason : String) (c : ControlConnection) :
    (c.close reason).stationID = c.stationID := rfl

@[simp] theorem close_locationID (reason : String) (c : ControlConnection) :
    (c.close reason).locationID = c.locationID := rfl

@[simp] theorem enqueue_stationID (message : ServerMessage) (c : ControlConnection) :
    (c.enqueue message).stationID = c.stationID := by
  unfold enqueue
  split <;> rfl

@[simp] theorem enqueue_locationID (message : ServerMessage) (c : ControlConnection) :
    (c.enqueue message).locationID = c.locationID := by
  unfold enqueue
  split <;> rfl

@[simp] theorem enqueue_id (message : ServerMessage) (c : ControlConnection) : (c.enqueue message).id = c.id := by
  unfold enqueue
  split <;> rfl

/-- Queueing a message closes a socket for one reason only. -/
theorem mem_closes_of_enqueue {message : ServerMessage} {c : ControlConnection} {reason : String}
    (ne : reason ≠ "station fell behind") (h : reason ∈ (c.enqueue message).closes) : reason ∈ c.closes := by
  unfold enqueue at h
  split at h
  · exact h
  · rcases List.mem_append.1 h with h | h
    · exact h
    · exact absurd (List.mem_singleton.1 h) ne

/-- A message reaches the channel of a connection that has kept up. -/
theorem enqueue_of_room {c : ControlConnection} (message : ServerMessage) (room : c.send.length < controlBuffer) :
    (c.enqueue message).send = c.send ++ [message] := by
  simp [enqueue, room]

end ControlConnection

structure Hub where
  connections : String → Option ControlConnection
  conns : ID → Option String
  closed : Bool

namespace Hub

/-- `newHub` -/
def new : Hub := ⟨fun _ => none, fun _ => none, false⟩

/-- A method call on the connection behind a pointer. -/
def modify (h : Hub) (p : String) (f : ControlConnection → ControlConnection) : Hub :=
  { h with connections := Function.update h.connections p ((h.connections p).map f) }

/-- `Hub.register` -/
def register (h : Hub) (connection : ControlConnection) : Hub × Bool :=
  if h.closed then (h, false)
  else
    let previous := h.conns connection.stationID
    let swapped := { h with
      connections := Function.update h.connections connection.id (some connection)
      conns := Function.update h.conns connection.stationID (some connection.id) }
    match previous with
    | some p => (swapped.modify p (.close "replaced by a new connection"), true)
    | none => (swapped, true)

/-- `Hub.unregister`, up to the release of the session. -/
def unregister (h : Hub) (connection : ControlConnection) : Hub :=
  if h.conns connection.stationID = some connection.id then
    { h with conns := Function.update h.conns connection.stationID none }
  else h

/-- `Hub.configurationChanged` -/
def configurationChanged (h : Hub) (stationID locationID : ID) : Hub :=
  match h.conns stationID with
  | some p => h.modify p fun c => { c with locationID }.enqueue .configurationChanged
  | none => h

/-- `Hub.configurationChangedForLocation` -/
def configurationChangedForLocation (h : Hub) (locationID : ID) : Hub :=
  { h with connections := fun p => (h.connections p).map fun c =>
      if h.conns c.stationID = some p ∧ c.locationID = locationID then c.enqueue .configurationChanged else c }

/-- `Hub.disconnect` -/
def disconnect (h : Hub) (stationID : ID) (reason : String) : Hub :=
  match h.conns stationID with
  | some p => { h with conns := Function.update h.conns stationID none }.modify p (.close reason)
  | none => h

/-- `Hub.Close` -/
def close (h : Hub) : Hub :=
  if h.closed then h
  else {
    connections := fun p => (h.connections p).map fun c =>
      if h.conns c.stationID = some p then c.close "server shutting down" else c
    conns := fun _ => none
    closed := true }

/-- `connection` is what the entry of station `k` points to. -/
def Registered (h : Hub) (k : ID) (connection : ControlConnection) : Prop :=
  ∃ p, h.conns k = some p ∧ h.connections p = some connection

section Lemmas

variable {h : Hub} {connection : ControlConnection} {f : ControlConnection → ControlConnection} {k j : ID}
  {p q : String}

@[simp] theorem modify_conns : (h.modify p f).conns = h.conns := rfl

@[simp] theorem modify_closed : (h.modify p f).closed = h.closed := rfl

@[simp] theorem modify_connections_self : (h.modify p f).connections p = (h.connections p).map f := by
  simp [modify]

theorem modify_connections_ne (ne : q ≠ p) : (h.modify p f).connections q = h.connections q := by
  simp [modify, ne]

/-- Registering takes the station's entry. -/
theorem register_conns (running : h.closed = false) :
    (h.register connection).1.conns = Function.update h.conns connection.stationID (some connection.id) := by
  rw [register, running]
  simp only [Bool.false_eq_true, if_false]
  split <;> rfl

theorem register_closed (running : h.closed = false) : (h.register connection).1.closed = false := by
  rw [register, running]
  simp only [Bool.false_eq_true, if_false]
  split <;> rfl

theorem register_ok (connection : ControlConnection) (running : h.closed = false) : (h.register connection).2 = true := by
  rw [register, running]
  simp only [Bool.false_eq_true, if_false]
  split <;> rfl

/-- A hub that is closed refuses. -/
theorem running_of_register {hub : Hub} (registered : h.register connection = (hub, true)) : h.closed = false := by
  cases closed : h.closed with
  | false => rfl
  | true =>
    rw [register, closed] at registered
    cases registered

/-- The new connection is stored as it is, unless it replaces itself. -/
theorem register_connections_self (running : h.closed = false)
    (fresh : h.conns connection.stationID ≠ some connection.id) :
    (h.register connection).1.connections connection.id = some connection := by
  rw [register, running]
  simp only [Bool.false_eq_true, if_false]
  split
  · rename_i p previous
    have other : connection.id ≠ p := fun same => fresh (same ▸ previous)
    rw [modify_connections_ne other]
    exact Function.update_self ..
  · exact Function.update_self ..

/-- Registering closes at most the connection it replaces. -/
theorem register_connections_ne (other : q ≠ connection.id) (kept : h.conns connection.stationID ≠ some q) :
    (h.register connection).1.connections q = h.connections q := by
  unfold register
  split
  · rfl
  · dsimp only
    split
    · rename_i p previous
      have ne : q ≠ p := fun same => kept (same ▸ previous)
      rw [modify_connections_ne ne]
      exact Function.update_of_ne other ..
    · exact Function.update_of_ne other ..

/-- What registering does to the connections there were. -/
theorem register_connections_cases (connection : ControlConnection) (running : h.closed = false) (other : q ≠ connection.id) :
    (h.register connection).1.connections q = h.connections q ∨
      (h.register connection).1.connections q = (h.connections q).map (.close "replaced by a new connection") := by
  by_cases previous : h.conns connection.stationID = some q
  · refine .inr ?_
    rw [register, running]
    simp only [Bool.false_eq_true, if_false, previous, modify_connections_self]
    rw [Function.update_of_ne other]
  · exact .inl (register_connections_ne other previous)

theorem unregister_connections : (h.unregister connection).connections = h.connections := by
  unfold unregister
  split <;> rfl

theorem unregister_closed : (h.unregister connection).closed = h.closed := by
  unfold unregister
  split <;> rfl

/-- An entry that remains after a connection unregisters is not that connection's. -/
theorem unregister_conns_eq_some :
    (h.unregister connection).conns k = some p ↔
      h.conns k = some p ∧ ¬ (k = connection.stationID ∧ p = connection.id) := by
  unfold unregister
  by_cases own : h.conns connection.stationID = some connection.id
  · rw [if_pos own]
    by_cases same : k = connection.stationID
    · subst same
      simp only [Function.update_self, reduceCtorEq, true_and, false_iff, not_and, not_not]
      intro found
      exact (Option.some.inj (own.symm.trans found)).symm
    · simp [same]
  · rw [if_neg own]
    constructor
    · intro found
      exact ⟨found, fun ⟨station, id⟩ => own (station ▸ id ▸ found)⟩
    · exact And.left

theorem configurationChanged_conns (locationID : ID) : (h.configurationChanged k locationID).conns = h.conns := by
  unfold configurationChanged
  split <;> rfl

theorem disconnect_conns_ne (reason : String) (ne : j ≠ k) : (h.disconnect k reason).conns j = h.conns j := by
  unfold disconnect
  split
  · rw [modify_conns]
    exact Function.update_of_ne ne ..
  · rfl

theorem disconnect_conns_self (reason : String) : (h.disconnect k reason).conns k = none := by
  unfold disconnect
  split
  · rw [modify_conns]
    exact Function.update_self ..
  · assumption

end Lemmas

end Hub

end Woodgate.Stations
