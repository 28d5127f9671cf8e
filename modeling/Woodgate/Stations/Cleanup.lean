import Woodgate.Library.Runs
import Woodgate.Stations.Server

/-!
# The clean-up of the hub

`Hub.serve` statement by statement, with its `writeLoop` beside it and every way out, while
`disconnect`, `configurationChanged`, `configurationChangedForLocation` and `Close` run. A
function of the hub changes the map under the mutex and calls the sockets after it has left
it; those calls are `State.calls`, and they are made in any order. The database may lose a
call, or its answer.

`Mapped` ties the map to the serves and `Kept` the session rows. Both hold in every state
any number of serves can reach (`hub_cleanup`).
-/

namespace Woodgate.Stations.Cleanup

open Library Library.ReadCommitted Library.Runs

/-- How far a call of the database gets. -/
inductive Reach where
  | lost
  | unanswered
  | answered
  deriving DecidableEq, Repr

/-- What the caller is told, success or not, and the rows after the call. -/
def Reach.ask (reach : Reach) (result : Except Err Db) (d : Db) : Bool × Db :=
  match reach, result with
  | .answered, .ok db => (true, db)
  | .unanswered, .ok db => (false, db)
  | _, _ => (false, d)

/-- What `readLoop` gets from the socket. -/
inductive Incoming where
  | presence
  /-- no message, but an error -/
  | failure
  /-- a message that is no presence -/
  | unexpected (reason : String)
  deriving DecidableEq, Repr

/-- The statement of `Hub.serve` that is next. -/
inductive Phase where
  | absent
  | claiming (station : Station) (secret version : String)
  | registering (station : Station)
  /-- `register` has left the mutex -/
  | replacing (station : Station) (previous : Option String)
  /-- the hello message -/
  | greeting (station : Station)
  | reading (station : Station)
  /-- a presence has come in -/
  | renewing (station : Station)
  /-- cancelled, waits for `writeLoop` -/
  | joining (station : Station)
  | unregistering (station : Station)
  | releasing (station : Station)
  | returned
  deriving DecidableEq, Repr

/-- The station, from `register` to `unregister`. -/
def Phase.registered : Phase → Option Station
  | .replacing station _ | .greeting station | .reading station | .renewing station | .joining station
  | .unregistering station => some station
  | _ => none

/-- The station, from the claim to the release. -/
def Phase.owner : Phase → Option Station
  | .registering station | .releasing station => some station
  | phase => phase.registered

/-- A run of `Hub.serve`. The last two fields are its history: whether its claim succeeded,
and how far its call to release the session got. -/
structure Serve where
  phase : Phase := .absent
  /-- `writeLoop` runs -/
  writing : Bool := false
  claimed : Bool := false
  released : Option Reach := none
  deriving DecidableEq, Repr

/-- What a function that has left the mutex still has to do. -/
inductive SocketCall where
  | close (c reason : String)
  | enqueue (c : String) (message : ServerMessage)
  deriving DecidableEq, Repr

/-- A connection is named by its id, in the map as well. -/
structure State where
  db : Db
  clock : Time
  conns : Table ID String := .empty
  sockets : String → Option ControlConnection := fun _ => none
  closed : Bool := false
  calls : List SocketCall := []
  serves : String → Serve := fun _ => {}
  build : String

/-- `c` is the connection whose serve takes the step. -/
inductive Label where
  | serve (c : String) (station : Station) (secret version : String)
  | claim (c : String) (reach : Reach)
  /-- the critical section of `register` -/
  | register (c : String)
  /-- the rest of it -/
  | replace (c : String)
  | hello (c : String) (marshals : Bool)
  | read (c : String) (incoming : Incoming)
  | renew (c : String) (reach : Reach)
  | join (c : String)
  /-- the critical section of `unregister` -/
  | unregister (c : String)
  | release (c : String) (reach : Reach)
  /-- `writeLoop` writes a message, renews the presence, or ends -/
  | write (c : String)
  | ping (c : String) (reach : Reach)
  | stop (c : String)
  | configurationChanged (stationID locationID : ID)
  | configurationChangedForLocation (locationID : ID)
  | disconnect (stationID : ID) (reason : String)
  | close
  /-- the i-th of the socket calls that are due -/
  | call (i : Nat)
  /-- another transaction commits -/
  | others (db : Db)
  | tick (elapsed : Nat)

namespace State

/-- No serve has begun. -/
def init (d : Db) (clock : Time) (build : String) : State := { db := d, clock, build }

def put (s : State) (c : String) (v : Serve) : State := { s with serves := Function.update s.serves c v }

/-- The serve of `c` is now at `phase`. -/
def move (s : State) (c : String) (phase : Phase) : State := s.put c { s.serves c with phase }

/-- A method call on a connection. -/
def modify (s : State) (c : String) (f : ControlConnection → ControlConnection) : State :=
  { s with sockets := Function.update s.sockets c ((s.sockets c).map f) }

def perform (s : State) : SocketCall → State
  | .close c reason => s.modify c (.close reason)
  | .enqueue c message => s.modify c (.enqueue message)

/-- Some session row is of this connection. -/
def hasSession (d : Db) (c : String) : Bool := d.sessions.exists? fun _ row => decide (row.connectionID = c)

/-- The rows another transaction leaves are of no connection that has begun here, unless the
row was its own before. -/
def allows (s : State) (db : Db) : Bool :=
  !db.sessions.exists? fun k row => decide ((s.serves row.connectionID).phase ≠ .absent) &&
    !(s.db.sessions.row k).any fun old => decide (old.connectionID = row.connectionID)

variable (sha256Hex : String → String)

def step (s : State) : Label → Option State
  -- `randtoken` draws no id twice
  | .serve c station secret version =>
    if (s.serves c).phase = .absent ∧ hasSession s.db c = false then some (s.move c (.claiming station secret version))
    else none
  | .claim c reach =>
    match (s.serves c).phase with
    | .claiming station secret version =>
      let claim := transact (claimClientSession sha256Hex s.clock station.id secret c protocolVersion version) s.db
      match reach.ask claim s.db with
      | (true, db) => some ({ s with db }.put c { s.serves c with phase := .registering station, claimed := true })
      | (false, db) => some ({ s with db }.move c .returned)
    | _ => none
  | .register c =>
    match (s.serves c).phase with
    | .registering station =>
      if s.closed then some (s.move c (.releasing station))
      else some ({ s with
        conns := s.conns.set station.id c
        sockets := Function.update s.sockets c (some (Server.newConnection c station)) }.move c
          (.replacing station (s.conns.row station.id)))
    | _ => none
  | .replace c =>
    match (s.serves c).phase with
    | .replacing station previous =>
      let closed := match previous with
        | some p => s.modify p (.close "replaced by a new connection")
        | none => s
      some (closed.put c { s.serves c with phase := .greeting station, writing := true })
    | _ => none
  | .hello c marshals =>
    match (s.serves c).phase with
    | .greeting station =>
      -- this way out does not wait for `writeLoop`
      if marshals then
        let hello := .hello station.id station.name station.locationID protocolVersion s.build
        some ((s.modify c (.enqueue hello)).move c (.reading station))
      else some (s.move c (.unregistering station))
    | _ => none
  | .read c incoming =>
    match (s.serves c).phase, incoming with
    | .reading station, .presence => some (s.move c (.renewing station))
    | .reading station, .failure => some (s.move c (.joining station))
    | .reading station, .unexpected reason => some ((s.modify c (.close reason)).move c (.joining station))
    | _, _ => none
  | .renew c reach =>
    match (s.serves c).phase with
    | .renewing station =>
      match reach.ask (runStatements [renewSession s.clock station.id c] s.db) s.db with
      | (true, db) => some ({ s with db }.move c (.reading station))
      | (false, db) => some (({ s with db }.modify c (.close "station session changed")).move c (.joining station))
    | _ => none
  | .join c =>
    match (s.serves c).phase, (s.serves c).writing with
    | .joining station, false => some (s.move c (.unregistering station))
    | _, _ => none
  | .unregister c =>
    match (s.serves c).phase with
    | .unregistering station =>
      let conns := if s.conns.row station.id = some c then s.conns.erase station.id else s.conns
      some ({ s with conns }.move c (.releasing station))
    | _ => none
  | .release c reach =>
    match (s.serves c).phase with
    | .releasing station =>
      let (_, db) := reach.ask (runStatements [releaseSession station.id c] s.db) s.db
      some ({ s with db }.put c { s.serves c with phase := .returned, released := some reach })
    | _ => none
  | .write c =>
    if (s.serves c).writing then some (s.modify c fun connection => { connection with send := connection.send.tail })
    else none
  | .ping c reach =>
    match s.sockets c, (s.serves c).writing with
    | some connection, true =>
      match reach.ask (runStatements [renewSession s.clock connection.stationID connection.id] s.db) s.db with
      | (true, db) => some { s with db }
      | (false, db) => some ({ s with db }.put c { s.serves c with writing := false })
    | _, _ => none
  | .stop c => if (s.serves c).writing then some (s.put c { s.serves c with writing := false }) else none
  | .configurationChanged stationID locationID =>
    match s.conns.row stationID with
    | some p => some { s.modify p fun connection => { connection with locationID } with
        calls := s.calls ++ [.enqueue p .configurationChanged] }
    | none => some s
  | .configurationChangedForLocation locationID =>
    let bound := s.conns.toList.filter fun entry =>
      (s.sockets entry.2).any fun connection => decide (connection.locationID = locationID)
    some { s with calls := s.calls ++ bound.map fun entry => .enqueue entry.2 .configurationChanged }
  | .disconnect stationID reason =>
    match s.conns.row stationID with
    | some p => some { s with conns := s.conns.erase stationID, calls := s.calls ++ [.close p reason] }
    | none => some s
  | .close =>
    if s.closed then some s
    else some { s with
      closed := true, conns := .empty
      calls := s.calls ++ s.conns.toList.map fun entry => .close entry.2 "server shutting down" }
  | .call i => s.calls[i]?.map fun call => { s.perform call with calls := s.calls.eraseIdx i }
  | .others db => if s.allows db then some { s with db } else none
  | .tick elapsed => some { s with clock := s.clock + elapsed }

end State

section Map

variable {sha256Hex : String → String} {s s' : State} {c : String} {v : Serve} {station : Station}

@[simp] theorem serves_put_self : (s.put c v).serves c = v := Function.update_self ..

theorem serves_put_ne {p : String} (ne : p ≠ c) : (s.put c v).serves p = s.serves p := Function.update_of_ne ne ..

/-- The map and the serves: an entry is of a registered serve of its station, a registered
serve has its connection, and a closed hub has no entries. -/
structure Mapped (s : State) : Prop where
  entry : ∀ k c, s.conns.row k = some c → ∃ station, (s.serves c).phase.registered = some station ∧ station.id = k
  stored : ∀ c station, (s.serves c).phase.registered = some station →
    ∃ connection, s.sockets c = some connection ∧ connection.id = c ∧ connection.stationID = station.id
  empty : s.closed = true → ∀ k, s.conns.row k = none

/-- The connections of `s` are connections of `s'`, whatever has become of their sockets. -/
def KeepsSockets (s s' : State) : Prop := ∀ c connection, s.sockets c = some connection →
  ∃ connection', s'.sockets c = some connection' ∧ connection'.id = connection.id ∧
    connection'.stationID = connection.stationID

theorem KeepsSockets.refl (s : State) : KeepsSockets s s := fun _ connection found => ⟨connection, found, rfl, rfl⟩

theorem keepsSockets_modify {f : ControlConnection → ControlConnection}
    (keeps : ∀ connection, (f connection).id = connection.id ∧ (f connection).stationID = connection.stationID) :
    KeepsSockets s (s.modify c f) := by
  intro p connection found
  by_cases same : p = c
  · subst same
    refine ⟨f connection, ?_, keeps connection⟩
    show Function.update s.sockets p ((s.sockets p).map f) p = _
    rw [Function.update_self, found, Option.map_some]
  · exact ⟨connection, (Function.update_of_ne same ..).trans found, rfl, rfl⟩

theorem keepsSockets_perform (call : SocketCall) : KeepsSockets s (s.perform call) := by
  cases call with
  | close p reason => exact keepsSockets_modify fun _ => ⟨rfl, rfl⟩
  | enqueue p message =>
    exact keepsSockets_modify fun _ => ⟨ControlConnection.enqueue_id _ _, ControlConnection.enqueue_stationID _ _⟩

/-- A step that registers nobody and takes nobody out. -/
theorem Mapped.of_same (h : Mapped s) (conns : ∀ k c, s'.conns.row k = some c → s.conns.row k = some c)
    (serves : ∀ c, (s'.serves c).phase.registered = (s.serves c).phase.registered) (sockets : KeepsSockets s s')
    (empty : s'.closed = true → ∀ k, s'.conns.row k = none) : Mapped s' where
  entry k c found := by
    rw [serves]
    exact h.entry k c (conns k c found)
  stored c station registered := by
    rw [serves] at registered
    obtain ⟨connection, found, id, own⟩ := h.stored c station registered
    obtain ⟨connection', found', id', own'⟩ := sockets c connection found
    exact ⟨connection', found', id'.trans id, own'.trans own⟩
  empty := empty

/-- The same for a serve that moves on. -/
theorem registered_put (same : v.phase.registered = (s.serves c).phase.registered) (p : String) :
    ((s.put c v).serves p).phase.registered = (s.serves p).phase.registered := by
  by_cases own : p = c
  · rw [own, serves_put_self, same]
  · rw [serves_put_ne own]

theorem Mapped.put (h : Mapped s) (same : v.phase.registered = (s.serves c).phase.registered) : Mapped (s.put c v) :=
  h.of_same (fun _ _ found => found) (registered_put same) (KeepsSockets.refl s) h.empty

theorem Mapped.modify {f : ControlConnection → ControlConnection} (h : Mapped s)
    (keeps : ∀ connection, (f connection).id = connection.id ∧ (f connection).stationID = connection.stationID) :
    Mapped (s.modify c f) :=
  h.of_same (fun _ _ found => found) (fun _ => rfl) (keepsSockets_modify keeps) h.empty

/-- Neither the rows nor the calls that are due matter. -/
theorem Mapped.congr (h : Mapped s) (conns : s'.conns = s.conns) (serves : s'.serves = s.serves)
    (sockets : s'.sockets = s.sockets) (closed : s'.closed = s.closed) : Mapped s' := by
  obtain ⟨entry, stored, empty⟩ := h
  constructor
  · rwa [conns, serves]
  · rwa [sockets, serves]
  · rwa [conns, closed]

theorem Mapped.register (h : Mapped s) (was : (s.serves c).phase = .registering station) (running : s.closed = false) :
    Mapped ({ s with
      conns := s.conns.set station.id c
      sockets := Function.update s.sockets c (some (Server.newConnection c station)) }.move c
        (.replacing station (s.conns.row station.id))) := by
  constructor
  · intro k p found
    change (s.conns.set station.id c).row k = some p at found
    rw [Table.row_set] at found
    split at found
    · rename_i same
      cases found
      exact ⟨station, congrArg (fun v : Serve => v.phase.registered) serves_put_self, same.symm⟩
    · obtain ⟨owner, registered, own⟩ := h.entry k p found
      have ne : p ≠ c := by
        rintro rfl
        rw [was] at registered
        cases registered
      refine ⟨owner, ?_, own⟩
      rwa [State.move, serves_put_ne ne]
  · intro p owner registered
    by_cases same : p = c
    · subst same
      rw [State.move, serves_put_self] at registered
      cases registered
      exact ⟨Server.newConnection p station, Function.update_self .., rfl, rfl⟩
    · rw [State.move, serves_put_ne same] at registered
      obtain ⟨connection, found, id, own⟩ := h.stored p owner registered
      exact ⟨connection, (Function.update_of_ne same ..).trans found, id, own⟩
  · intro closed
    exact absurd (running.symm.trans closed) nofun

theorem Mapped.unregister (h : Mapped s) (was : (s.serves c).phase = .unregistering station) :
    Mapped ({ s with conns := if s.conns.row station.id = some c then s.conns.erase station.id else s.conns }.move c
      (.releasing station)) := by
  have fewer : ∀ k p, (if s.conns.row station.id = some c then s.conns.erase station.id else s.conns).row k = some p →
      s.conns.row k = some p ∧ p ≠ c := by
    intro k p found
    split at found
    · rename_i own
      rw [Table.row_erase] at found
      split at found
      · cases found
      · rename_i other
        refine ⟨found, ?_⟩
        rintro rfl
        obtain ⟨owner, registered, same⟩ := h.entry k p found
        rw [was] at registered
        cases registered
        exact other same.symm
    · rename_i foreign
      refine ⟨found, ?_⟩
      rintro rfl
      obtain ⟨owner, registered, same⟩ := h.entry k p found
      rw [was] at registered
      cases registered
      rw [← same] at found
      exact foreign found
  constructor
  · intro k p found
    obtain ⟨before, ne⟩ := fewer k p found
    obtain ⟨owner, registered, own⟩ := h.entry k p before
    refine ⟨owner, ?_, own⟩
    rwa [State.move, serves_put_ne ne]
  · intro p owner registered
    have ne : p ≠ c := by
      rintro rfl
      rw [State.move, serves_put_self] at registered
      cases registered
    rw [State.move, serves_put_ne ne] at registered
    exact h.stored p owner registered
  · intro closed k
    cases found : (if s.conns.row station.id = some c then s.conns.erase station.id else s.conns).row k with
    | none => exact found
    | some p => exact absurd ((h.empty closed k).symm.trans (fewer k p found).1) nofun

/-- Every step keeps map and serves tied. -/
theorem Mapped.step {l : Label} (h : Mapped s) (stepped : s.step sha256Hex l = some s') : Mapped s' := by
  cases l with
  | serve c station secret version =>
    simp only [State.step] at stepped
    split at stepped
    · rename_i fresh
      cases stepped
      exact h.put (by rw [fresh.1]; rfl)
    · cases stepped
  | claim c reach =>
    simp only [State.step] at stepped
    split at stepped
    · rename_i was
      have rows : ∀ db, Mapped { s with db } := fun db => h.congr rfl rfl rfl rfl
      split at stepped <;> cases stepped
      · exact (rows _).put (c := c) (by rw [was]; rfl)
      · exact (rows _).put (c := c) (by rw [was]; rfl)
    · cases stepped
  | register c =>
    simp only [State.step] at stepped
    split at stepped
    · rename_i was
      split at stepped
      · cases stepped
        exact h.put (by rw [was]; rfl)
      · rename_i running
        cases stepped
        exact h.register was (Bool.not_eq_true _ ▸ running)
    · cases stepped
  | replace c =>
    simp only [State.step] at stepped
    split at stepped
    · rename_i station previous was
      cases stepped
      cases previous with
      | none => exact h.put (by rw [was]; rfl)
      | some p =>
        have closed : Mapped (s.modify p (.close "replaced by a new connection")) := h.modify fun _ => ⟨rfl, rfl⟩
        exact closed.put (c := c) (by rw [State.modify, was]; rfl)
    · cases stepped
  | hello c marshals =>
    simp only [State.step] at stepped
    split at stepped
    · rename_i station was
      split at stepped <;> cases stepped
      · have sent : Mapped (s.modify c
            (.enqueue (.hello station.id station.name station.locationID protocolVersion s.build))) :=
          h.modify fun _ => ⟨ControlConnection.enqueue_id _ _, ControlConnection.enqueue_stationID _ _⟩
        exact sent.put (c := c) (by rw [State.modify, was]; rfl)
      · exact h.put (by rw [was]; rfl)
    · cases stepped
  | read c incoming =>
    simp only [State.step] at stepped
    split at stepped
    · rename_i was
      cases stepped
      exact h.put (by rw [was]; rfl)
    · rename_i was
      cases stepped
      exact h.put (by rw [was]; rfl)
    · rename_i station reason was
      cases stepped
      have closed : Mapped (s.modify c (.close reason)) := h.modify fun _ => ⟨rfl, rfl⟩
      exact closed.put (c := c) (by rw [State.modify, was]; rfl)
    · cases stepped
  | renew c reach =>
    simp only [State.step] at stepped
    split at stepped
    · rename_i station was
      have rows : ∀ db, Mapped { s with db } := fun db => h.congr rfl rfl rfl rfl
      split at stepped <;> cases stepped
      · exact (rows _).put (c := c) (by rw [was]; rfl)
      · have closed : ∀ db, Mapped (State.modify { s with db } c (.close "station session changed")) :=
          fun db => (rows db).modify fun _ => ⟨rfl, rfl⟩
        exact (closed _).put (c := c) (by rw [State.modify, was]; rfl)
    · cases stepped
  | join c =>
    simp only [State.step] at stepped
    split at stepped
    · rename_i was _
      cases stepped
      exact h.put (by rw [was]; rfl)
    · cases stepped
  | unregister c =>
    simp only [State.step] at stepped
    split at stepped
    · rename_i was
      cases stepped
      exact h.unregister was
    · cases stepped
  | release c reach =>
    simp only [State.step] at stepped
    split at stepped
    · rename_i was
      cases stepped
      have rows : ∀ db, Mapped { s with db } := fun db => h.congr rfl rfl rfl rfl
      exact (rows _).put (c := c) (by rw [was]; rfl)
    · cases stepped
  | write c =>
    simp only [State.step] at stepped
    split at stepped
    · cases stepped
      exact h.modify fun _ => ⟨rfl, rfl⟩
    · cases stepped
  | ping c reach =>
    simp only [State.step] at stepped
    split at stepped
    · have rows : ∀ db, Mapped { s with db } := fun db => h.congr rfl rfl rfl rfl
      split at stepped <;> cases stepped
      · exact rows _
      · exact (rows _).put (c := c) rfl
    · cases stepped
  | stop c =>
    simp only [State.step] at stepped
    split at stepped
    · cases stepped
      exact h.put rfl
    · cases stepped
  | configurationChanged stationID locationID =>
    simp only [State.step] at stepped
    split at stepped
    · rename_i p _
      cases stepped
      have moved : Mapped (s.modify p fun connection => { connection with locationID }) := h.modify fun _ => ⟨rfl, rfl⟩
      exact moved.congr rfl rfl rfl rfl
    · cases stepped
      exact h
  | configurationChangedForLocation locationID =>
    cases stepped
    exact h.congr rfl rfl rfl rfl
  | disconnect stationID reason =>
    simp only [State.step] at stepped
    split at stepped
    · cases stepped
      have fewer : ∀ k c, (s.conns.erase stationID).row k = some c → s.conns.row k = some c := by
        intro k c found
        rw [Table.row_erase] at found
        split at found
        · cases found
        · exact found
      refine h.of_same fewer (fun _ => rfl) (KeepsSockets.refl s) fun closed k => ?_
      show (s.conns.erase stationID).row k = none
      rw [Table.row_erase, h.empty closed k, ite_self]
    · cases stepped
      exact h
  | close =>
    simp only [State.step] at stepped
    split at stepped
    · cases stepped
      exact h
    · cases stepped
      exact h.of_same (fun _ _ => nofun) (fun _ => rfl) (KeepsSockets.refl s) fun _ _ => rfl
  | call i =>
    obtain ⟨call, _, rfl⟩ := Option.map_eq_some_iff.1 stepped
    refine h.of_same (fun k c found => ?_) (fun c => ?_) (keepsSockets_perform call) fun closed k => ?_
    · cases call <;> exact found
    · cases call <;> rfl
    · cases call <;> exact h.empty closed k
  | others db =>
    simp only [State.step] at stepped
    split at stepped
    · cases stepped
      exact h.congr rfl rfl rfl rfl
    · cases stepped
  | tick elapsed =>
    cases stepped
    exact h.congr rfl rfl rfl rfl

end Map

section Sessions

variable {sha256Hex : String → String} {s s' : State} {c : String} {v : Serve} {station : Station} {d db : Db} {k : ID}

/-- A session row of station `k` may be of this serve. A serve that has returned owns one only
if its claim did not succeed, or its release was lost. -/
def Serve.MayOwn (v : Serve) (k : ID) : Prop :=
  v.phase = .absent ∨ (∃ station, v.phase.owner = some station ∧ station.id = k) ∨
    (v.phase = .returned ∧ (v.claimed = true → v.released = some .lost))

/-- A serve that has not claimed says so, and one that has returned has called for a release. -/
structure Serve.Recorded (v : Serve) : Prop where
  claiming : ∀ station secret version, v.phase = .claiming station secret version → v.claimed = false
  absent : v.phase = .absent → v.claimed = false
  returned : v.phase = .returned → v.claimed = true → v.released ≠ none

/-- The session rows and the serves. -/
structure Kept (s : State) : Prop where
  row : ∀ k session, s.db.sessions.row k = some session → (s.serves session.connectionID).MayOwn k
  recorded : ∀ c, (s.serves c).Recorded

/-- Every session row of `db` is a row of `d` of the same connection. -/
def SameHolders (d db : Db) : Prop :=
  ∀ k session, db.sessions.row k = some session → ∃ old, d.sessions.row k = some old ∧ old.connectionID = session.connectionID

theorem SameHolders.refl (d : Db) : SameHolders d d := fun _ session found => ⟨session, found, rfl⟩

/-- A call that does not reach the database leaves it, and any other leaves what it made. -/
theorem ask_cases {reach : Reach} {result : Except Err Db} {told : Bool} (h : reach.ask result d = (told, db)) :
    (told = false ∧ db = d) ∨ (reach ≠ .lost ∧ result = .ok db) := by
  unfold Reach.ask at h
  split at h
  · cases h
    exact .inr ⟨nofun, rfl⟩
  · cases h
    exact .inr ⟨nofun, rfl⟩
  · cases h
    exact .inl ⟨rfl, rfl⟩

/-- A renewal leaves every row its holder. -/
theorem sameHolders_renew {now : Time} (h : runStatements [renewSession now k c] d = .ok db) : SameHolders d db := by
  obtain ⟨asked, after, renewed, rest⟩ := runStatements_cons_ok.1 h
  cases rest
  unfold renewSession at renewed
  split at renewed
  · rename_i session station found _
    split at renewed
    · cases renewed
      intro j row stored
      change (d.sessions.set k { session with expiresAt := now + stationSessionTTL }).row j = some row at stored
      rw [Table.row_set] at stored
      split at stored
      · rename_i same
        cases stored
        exact ⟨session, same ▸ found, rfl⟩
      · exact ⟨row, stored, rfl⟩
    · cases renewed
  · cases renewed

theorem sameHolders_ask_renew {reach : Reach} {now : Time} {told : Bool}
    (h : reach.ask (runStatements [renewSession now k c] d) d = (told, db)) : SameHolders d db := by
  rcases ask_cases h with ⟨_, rfl⟩ | ⟨_, ran⟩
  · exact SameHolders.refl _
  · exact sameHolders_renew ran

/-- A release that reaches the database deletes the row of its connection, and no other. -/
theorem release_rows (h : runStatements [releaseSession k c] d = .ok db) (j : ID) (session : SessionRow) :
    db.sessions.row j = some session ↔ d.sessions.row j = some session ∧ ¬ (j = k ∧ session.connectionID = c) := by
  obtain ⟨asked, after, released, rest⟩ := runStatements_cons_ok.1 h
  cases rest
  rw [(releaseSession_ok released).2 j]
  split
  · rename_i same
    simp [same, Option.filter_eq_some_iff]
  · rename_i other
    simp [other]

theorem release_total (k : ID) (c : String) (d : Db) : ∃ db, runStatements [releaseSession k c] d = .ok db := by
  have sent : ∃ asked after, releaseSession k c d = .ok (asked, after) := by
    unfold releaseSession
    split
    · split
      · exact ⟨_, _, rfl⟩
      · exact ⟨_, _, rfl⟩
    · exact ⟨_, _, rfl⟩
  obtain ⟨asked, after, sent⟩ := sent
  exact ⟨after, runStatements_cons_ok.2 ⟨asked, after, sent, rfl⟩⟩

/-- A claim takes the row of its station, and no other. -/
theorem claim_rows {now : Time} {secret version : String} {protocolVersion : Int}
    (h : transact (claimClientSession sha256Hex now k secret c protocolVersion version) d = .ok db) (j : ID)
    (session : SessionRow) (found : db.sessions.row j = some session) :
    (j = k ∧ session.connectionID = c) ∨ (j ≠ k ∧ d.sessions.row j = some session) := by
  obtain ⟨statements, accepted, ran⟩ := transact_ok.1 h
  obtain ⟨_, sessions, _, _⟩ := claimClientSession_ok accepted ran
  rw [sessions, Table.row_set] at found
  split at found
  · rename_i same
    cases found
    exact .inl ⟨same, rfl⟩
  · rename_i other
    exact .inr ⟨other, found⟩

/-- One serve moves on, with what it may own and its record. -/
theorem Kept.of_put (h : Kept s) (serves : s'.serves = Function.update s.serves c v)
    (rows : ∀ k session, s'.db.sessions.row k = some session → session.connectionID ≠ c →
      ∃ old, s.db.sessions.row k = some old ∧ old.connectionID = session.connectionID)
    (own : ∀ k session, s'.db.sessions.row k = some session → session.connectionID = c → v.MayOwn k)
    (recorded : v.Recorded) : Kept s' where
  row k session found := by
    rw [serves]
    by_cases same : session.connectionID = c
    · rw [same, Function.update_self]
      exact own k session found same
    · rw [Function.update_of_ne same]
      obtain ⟨old, before, holder⟩ := rows k session found same
      rw [← holder]
      exact h.row k old before
  recorded p := by
    rw [serves]
    by_cases same : p = c
    · rw [same, Function.update_self]
      exact recorded
    · rw [Function.update_of_ne same]
      exact h.recorded p

/-- The same for a step that gives nobody a row. -/
theorem Kept.moves (h : Kept s) (serves : s'.serves = Function.update s.serves c v) (rows : SameHolders s.db s'.db)
    (own : ∀ k, (s.serves c).MayOwn k → v.MayOwn k) (recorded : v.Recorded) : Kept s' := by
  refine h.of_put serves (fun k session found _ => rows k session found) (fun k session found same => ?_) recorded
  obtain ⟨old, before, holder⟩ := rows k session found
  have owned := h.row k old before
  rw [holder, same] at owned
  exact own k owned

theorem Serve.mayOwn_iff (owns : v.phase.owner = some station) : v.MayOwn k ↔ station.id = k := by
  constructor
  · rintro (absent | ⟨owner, own, same⟩ | ⟨returned, _⟩)
    · rw [absent] at owns
      cases owns
    · cases owns.symm.trans own
      exact same
    · rw [returned] at owns
      cases owns
  · intro same
    exact .inr (.inl ⟨station, owns, same⟩)

theorem Serve.recorded_of_owner (owns : v.phase.owner = some station) : v.Recorded := by
  constructor
  · intro _ _ _ was
    rw [was] at owns
    cases owns
  · intro was
    rw [was] at owns
    cases owns
  · intro was
    rw [was] at owns
    cases owns

theorem Serve.recorded_of_returned (returned : v.phase = .returned) (released : v.claimed = true → v.released ≠ none) :
    v.Recorded := by
  constructor
  · intro _ _ _ other
    exact absurd (returned.symm.trans other) nofun
  · intro other
    exact absurd (returned.symm.trans other) nofun
  · exact fun _ => released

/-- A serve that goes on between its claim and its release. -/
theorem Kept.goes_on (h : Kept s) (serves : s'.serves = Function.update s.serves c v) (rows : SameHolders s.db s'.db)
    (was : (s.serves c).phase.owner = some station) (now : v.phase.owner = some station) : Kept s' := by
  refine h.moves serves rows (fun k owned => ?_) (Serve.recorded_of_owner now)
  exact (Serve.mayOwn_iff now).2 ((Serve.mayOwn_iff was).1 owned)

/-- A step that moves no serve and gives nobody a row. -/
theorem Kept.congr (h : Kept s) (serves : s'.serves = s.serves) (rows : SameHolders s.db s'.db) : Kept s' where
  row k session found := by
    obtain ⟨old, before, holder⟩ := rows k session found
    rw [serves, ← holder]
    exact h.row k old before
  recorded c := by
    rw [serves]
    exact h.recorded c

/-- `writeLoop` is no part of the record. -/
theorem Kept.writing (h : Kept s) {writing : Bool} (rows : SameHolders s.db s'.db)
    (serves : s'.serves = Function.update s.serves c { s.serves c with writing }) : Kept s' :=
  h.moves serves rows (fun _ owned => owned) ⟨(h.recorded c).claiming, (h.recorded c).absent, (h.recorded c).returned⟩

/-- The serve of `c` begins: no row is its. -/
theorem Kept.serve {secret version : String} (h : Kept s) (absent : (s.serves c).phase = .absent)
    (fresh : State.hasSession s.db c = false) : Kept (s.move c (.claiming station secret version)) := by
  have unclaimed := (h.recorded c).absent absent
  refine h.of_put rfl (fun k session found _ => ⟨session, found, rfl⟩) (fun k session found same => ?_) ?_
  · have free := Table.exists?_eq_false_iff.1 fresh k session found
    exact absurd same (of_decide_eq_false free)
  · exact ⟨fun _ _ _ _ => unclaimed, nofun, nofun⟩

/-- The claim, with what its caller is told. -/
theorem Kept.claim {secret version : String} {reach : Reach} {told : Bool} (h : Kept s)
    (was : (s.serves c).phase = .claiming station secret version)
    (asked : reach.ask (transact (claimClientSession sha256Hex s.clock station.id secret c protocolVersion version) s.db)
      s.db = (told, db)) (own : v.MayOwn station.id) (recorded : v.Recorded) : Kept ({ s with db }.put c v) := by
  have unowned : ∀ k session, s.db.sessions.row k = some session → session.connectionID ≠ c := by
    rintro k session found rfl
    rcases h.row k session found with absent | ⟨owner, owns, _⟩ | ⟨returned, _⟩
    · exact absurd (was.symm.trans absent) nofun
    · rw [was] at owns
      cases owns
    · exact absurd (was.symm.trans returned) nofun
  rcases ask_cases asked with ⟨_, rfl⟩ | ⟨_, committed⟩
  · exact h.of_put rfl (fun k session found _ => ⟨session, found, rfl⟩)
      (fun k session found same => absurd same (unowned k session found)) recorded
  · refine h.of_put rfl (fun k session found other => ?_) (fun k session found same => ?_) recorded
    · rcases claim_rows committed k session found with ⟨_, mine⟩ | ⟨_, kept⟩
      · exact absurd mine other
      · exact ⟨session, kept, rfl⟩
    · rcases claim_rows committed k session found with ⟨rfl, _⟩ | ⟨_, kept⟩
      · exact own
      · exact absurd same (unowned k session kept)

/-- The release: if it reaches the database, no row is left. -/
theorem Kept.release {reach : Reach} {told : Bool} (h : Kept s) (was : (s.serves c).phase = .releasing station)
    (asked : reach.ask (runStatements [releaseSession station.id c] s.db) s.db = (told, db))
    (returned : v.phase = .returned) (released : v.released = some reach) : Kept ({ s with db }.put c v) := by
  have recorded : v.Recorded := Serve.recorded_of_returned returned fun _ none => absurd (released.symm.trans none) nofun
  have at_station : ∀ k session, s.db.sessions.row k = some session → session.connectionID = c → k = station.id := by
    rintro k session found rfl
    have owns : (s.serves session.connectionID).phase.owner = some station := by rw [was]; rfl
    exact ((Serve.mayOwn_iff owns).1 (h.row k session found)).symm
  obtain ⟨after, deleted⟩ := release_total station.id c s.db
  by_cases lost : reach = .lost
  · have same : db = s.db := by
      rcases ask_cases asked with ⟨_, same⟩ | ⟨reached, _⟩
      · exact same
      · exact absurd lost reached
    subst same
    exact h.of_put rfl (fun k session found _ => ⟨session, found, rfl⟩)
      (fun k session _ _ => .inr (.inr ⟨returned, fun _ => released.trans (congrArg some lost)⟩)) recorded
  · have stored : db = after := by
      rw [deleted] at asked
      cases reach with
      | lost => exact absurd rfl lost
      | unanswered => exact (Prod.mk.inj asked).2.symm
      | answered => exact (Prod.mk.inj asked).2.symm
    subst stored
    refine h.of_put rfl (fun k session found _ => ?_) (fun k session found same => ?_) recorded
    · exact ⟨session, ((release_rows deleted k session).1 found).1, rfl⟩
    · obtain ⟨before, kept⟩ := (release_rows deleted k session).1 found
      exact absurd ⟨at_station k session before same, same⟩ kept

/-- Every step keeps rows and serves tied. -/
theorem Kept.step {l : Label} (h : Kept s) (stepped : s.step sha256Hex l = some s') : Kept s' := by
  cases l with
  | serve c station secret version =>
    simp only [State.step] at stepped
    split at stepped
    · rename_i fresh
      cases stepped
      exact h.serve fresh.1 fresh.2
    · cases stepped
  | claim c reach =>
    simp only [State.step] at stepped
    split at stepped
    · rename_i station secret version was
      have unclaimed := (h.recorded c).claiming station secret version was
      split at stepped
      · rename_i db asked
        cases stepped
        exact h.claim was asked (.inr (.inl ⟨station, rfl, rfl⟩)) (Serve.recorded_of_owner rfl)
      · rename_i db asked
        cases stepped
        have never : ∀ {p : Prop}, (s.serves c).claimed = true → p := fun claimed =>
          absurd (unclaimed.symm.trans claimed) nofun
        exact h.claim was asked (.inr (.inr ⟨rfl, never⟩)) (Serve.recorded_of_returned rfl never)
    · cases stepped
  | register c =>
    simp only [State.step] at stepped
    split at stepped
    · rename_i was
      split at stepped <;> cases stepped
      · exact h.goes_on rfl (SameHolders.refl _) (by rw [was]; rfl) rfl
      · exact h.goes_on rfl (SameHolders.refl _) (by rw [was]; rfl) rfl
    · cases stepped
  | replace c =>
    simp only [State.step] at stepped
    split at stepped
    · rename_i station previous was
      cases stepped
      cases previous with
      | none => exact h.goes_on rfl (SameHolders.refl _) (by rw [was]; rfl) rfl
      | some p => exact h.goes_on rfl (SameHolders.refl _) (by rw [was]; rfl) rfl
    · cases stepped
  | hello c marshals =>
    simp only [State.step] at stepped
    split at stepped
    · rename_i was
      split at stepped <;> cases stepped
      · exact h.goes_on rfl (SameHolders.refl _) (by rw [was]; rfl) rfl
      · exact h.goes_on rfl (SameHolders.refl _) (by rw [was]; rfl) rfl
    · cases stepped
  | read c incoming =>
    simp only [State.step] at stepped
    split at stepped
    · rename_i was
      cases stepped
      exact h.goes_on rfl (SameHolders.refl _) (by rw [was]; rfl) rfl
    · rename_i was
      cases stepped
      exact h.goes_on rfl (SameHolders.refl _) (by rw [was]; rfl) rfl
    · rename_i was
      cases stepped
      exact h.goes_on rfl (SameHolders.refl _) (by rw [was]; rfl) rfl
    · cases stepped
  | renew c reach =>
    simp only [State.step] at stepped
    split at stepped
    · rename_i was
      split at stepped
      · rename_i db asked
        cases stepped
        exact h.goes_on rfl (sameHolders_ask_renew asked) (by rw [was]; rfl) rfl
      · rename_i db asked
        cases stepped
        exact h.goes_on rfl (sameHolders_ask_renew asked) (by rw [was]; rfl) rfl
    · cases stepped
  | join c =>
    simp only [State.step] at stepped
    split at stepped
    · rename_i was _
      cases stepped
      exact h.goes_on rfl (SameHolders.refl _) (by rw [was]; rfl) rfl
    · cases stepped
  | unregister c =>
    simp only [State.step] at stepped
    split at stepped
    · rename_i was
      cases stepped
      exact h.goes_on rfl (SameHolders.refl _) (by rw [was]; rfl) rfl
    · cases stepped
  | release c reach =>
    simp only [State.step] at stepped
    split at stepped
    · rename_i station was
      cases stepped
      exact h.release was rfl rfl rfl
    · cases stepped
  | write c =>
    simp only [State.step] at stepped
    split at stepped
    · cases stepped
      exact h.congr rfl (SameHolders.refl _)
    · cases stepped
  | ping c reach =>
    simp only [State.step] at stepped
    split at stepped
    · split at stepped
      · rename_i db asked
        cases stepped
        exact h.congr rfl (sameHolders_ask_renew asked)
      · rename_i db asked
        cases stepped
        exact h.writing (sameHolders_ask_renew asked) rfl
    · cases stepped
  | stop c =>
    simp only [State.step] at stepped
    split at stepped
    · cases stepped
      exact h.writing (SameHolders.refl _) rfl
    · cases stepped
  | configurationChanged stationID locationID =>
    simp only [State.step] at stepped
    split at stepped
    · cases stepped
      exact h.congr rfl (SameHolders.refl _)
    · cases stepped
      exact h
  | configurationChangedForLocation locationID =>
    cases stepped
    exact h.congr rfl (SameHolders.refl _)
  | disconnect stationID reason =>
    simp only [State.step] at stepped
    split at stepped
    · cases stepped
      exact h.congr rfl (SameHolders.refl _)
    · cases stepped
      exact h
  | close =>
    simp only [State.step] at stepped
    split at stepped
    · cases stepped
      exact h
    · cases stepped
      exact h.congr rfl (SameHolders.refl _)
  | call i =>
    obtain ⟨call, _, rfl⟩ := Option.map_eq_some_iff.1 stepped
    cases call with
    | close => exact h.congr rfl (SameHolders.refl _)
    | enqueue => exact h.congr rfl (SameHolders.refl _)
  | others db =>
    simp only [State.step] at stepped
    split at stepped
    · rename_i allowed
      cases stepped
      refine ⟨fun k session found => ?_, h.recorded⟩
      rw [State.allows, Bool.not_eq_true'] at allowed
      have free := Table.exists?_eq_false_iff.1 allowed k session found
      rw [Bool.and_eq_false_iff, decide_eq_false_iff_not, not_not, Bool.not_eq_false'] at free
      rcases free with absent | kept
      · exact .inl absent
      · obtain ⟨old, before, same⟩ := (Option.any_eq_true _ _).1 kept
        rw [← of_decide_eq_true same]
        exact h.row k old before
    · cases stepped
  | tick elapsed =>
    cases stepped
    exact h.congr rfl (SameHolders.refl _)

end Sessions

section Returned

variable {sha256Hex : String → String} {s s' : State} {c : String}

/-- What a serve that has returned has done does not change any more. -/
structure Ended (v v' : Serve) : Prop where
  phase : v'.phase = .returned
  claimed : v'.claimed = v.claimed
  released : v'.released = v.released

theorem ended_put {p : String} {v : Serve} (returned : (s.serves c).phase = .returned)
    (serves : s'.serves = Function.update s.serves p v)
    (moves : (s.serves p).phase ≠ .returned ∨ ∃ writing, v = { s.serves p with writing }) : Ended (s.serves c) (s'.serves c) := by
  rw [serves]
  by_cases same : c = p
  · subst same
    rw [Function.update_self]
    rcases moves with other | ⟨writing, rfl⟩
    · exact absurd returned other
    · exact ⟨returned, rfl, rfl⟩
  · rw [Function.update_of_ne same]
    exact ⟨returned, rfl, rfl⟩

/-- A serve that moves on was at some statement. -/
theorem ended_move {p : String} {v : Serve} {phase : Phase} (returned : (s.serves c).phase = .returned)
    (serves : s'.serves = Function.update s.serves p v) (was : (s.serves p).phase = phase) (ne : phase ≠ .returned) :
    Ended (s.serves c) (s'.serves c) :=
  ended_put returned serves (.inl (was ▸ ne))

theorem ended_same (returned : (s.serves c).phase = .returned) (serves : s'.serves = s.serves) :
    Ended (s.serves c) (s'.serves c) := by
  rw [serves]
  exact ⟨returned, rfl, rfl⟩

theorem ended_step {l : Label} (returned : (s.serves c).phase = .returned) (stepped : s.step sha256Hex l = some s') :
    Ended (s.serves c) (s'.serves c) := by
  cases l <;> simp only [State.step] at stepped
  case serve =>
    split at stepped
    · rename_i fresh
      cases stepped
      exact ended_move returned rfl fresh.1 nofun
    · cases stepped
  case claim | register | replace | hello | read | renew | join | unregister | release =>
    repeat' split at stepped
    all_goals first
      | cases stepped; exact ended_move returned rfl (by assumption) (by simp)
      | cases stepped
  case write | configurationChanged | disconnect | close | others =>
    split at stepped <;> cases stepped <;> exact ended_same returned rfl
  case ping =>
    split at stepped
    · split at stepped <;> cases stepped
      · exact ended_same returned rfl
      · exact ended_put returned rfl (.inr ⟨false, rfl⟩)
    · cases stepped
  case stop =>
    split at stepped <;> cases stepped
    exact ended_put returned rfl (.inr ⟨false, rfl⟩)
  case call =>
    obtain ⟨call, _, rfl⟩ := Option.map_eq_some_iff.1 stepped
    cases call <;> exact ended_same returned rfl
  case configurationChangedForLocation | tick =>
    cases stepped
    exact ended_same returned rfl

end Returned

section Closed

variable {sha256Hex : String → String} {s s' t : State} {c : String} {labels : List Label}

/-- A closed hub stays closed. -/
theorem closed_step {l : Label} (closed : s.closed = true ∨ l = .close) (stepped : s.step sha256Hex l = some s') :
    s'.closed = true := by
  rcases closed with closed | rfl
  · cases l <;> simp only [State.step] at stepped
    case call =>
      obtain ⟨call, _, rfl⟩ := Option.map_eq_some_iff.1 stepped
      cases call <;> exact closed
    case replace =>
      split at stepped <;> cases stepped
      rename_i previous _
      cases previous <;> exact closed
    all_goals
      repeat' split at stepped
      all_goals first
        | cases stepped; exact closed
        | cases stepped
  · simp only [State.step] at stepped
    split at stepped <;> cases stepped
    · assumption
    · rfl

theorem closed_run (closed : s.closed = true ∨ Label.close ∈ labels) (h : run (State.step sha256Hex) s labels = some t) :
    t.closed = true := by
  induction labels generalizing s with
  | nil =>
    cases h
    exact closed.resolve_right nofun
  | cons l labels ih =>
    obtain ⟨s', first, rest⟩ := run_cons_iff.1 h
    apply ih _ rest
    rcases closed with closed | mem
    · exact .inl (closed_step (.inl closed) first)
    · rcases List.mem_cons.1 mem with same | later
      · exact .inl (closed_step (.inr same.symm) first)
      · exact .inr later

/-- The entry of another connection outlives an unregistration. -/
theorem unregister_conns (stepped : s.step sha256Hex (.unregister c) = some s') (k : ID) (p : String)
    (found : s.conns.row k = some p) : s'.conns.row k = some p ∨ (p = c ∧ s'.conns.row k = none) := by
  simp only [State.step] at stepped
  split at stepped <;> cases stepped
  rename_i station _
  show (if s.conns.row station.id = some c then s.conns.erase station.id else s.conns).row k = some p ∨
    p = c ∧ (if s.conns.row station.id = some c then s.conns.erase station.id else s.conns).row k = none
  split
  · rename_i own
    rw [Table.row_erase]
    by_cases same : k = station.id
    · subst same
      rw [if_pos rfl]
      exact .inr ⟨Option.some.inj (found.symm.trans own), rfl⟩
    · rw [if_neg same]
      exact .inl found
  · exact .inl found

/-- The session of another connection outlives a release. -/
theorem release_sessions {reach : Reach} (stepped : s.step sha256Hex (.release c reach) = some s') (k : ID)
    (session : SessionRow) (found : s.db.sessions.row k = some session) (other : session.connectionID ≠ c) :
    s'.db.sessions.row k = some session := by
  simp only [State.step] at stepped
  split at stepped <;> cases stepped
  rename_i station _
  show (reach.ask (runStatements [releaseSession station.id c] s.db) s.db).2.sessions.row k = some session
  cases asked : reach.ask (runStatements [releaseSession station.id c] s.db) s.db with
  | mk told db =>
    rcases ask_cases asked with ⟨_, rfl⟩ | ⟨_, deleted⟩
    · exact found
    · exact (release_rows deleted k session).2 ⟨found, fun own => other own.2⟩

end Closed

section Methods

variable {sha256Hex : String → String} {s s₁ s₂ : State} {c : String} {station : Station}

/-- The hub as `Hub` has it. -/
def State.hub (s : State) : Hub := ⟨s.sockets, s.conns.row, s.closed⟩

/-- `Hub.register` is its two steps with nobody in between. -/
theorem hub_register (was : (s.serves c).phase = .registering station) (first : s.step sha256Hex (.register c) = some s₁)
    (second : s₁.step sha256Hex (.replace c) = some s₂) : s₂.hub = (s.hub.register (Server.newConnection c station)).1 := by
  simp only [State.step, was] at first
  unfold Hub.register
  cases running : s.closed with
  | true =>
    rw [running] at first
    cases first
    simp [State.step, State.move] at second
  | false =>
    rw [running] at first
    cases first
    simp only [State.step, State.move, serves_put_self, Option.some.injEq] at second
    subst second
    cases previous : s.conns.row station.id with
    | none => simp [State.hub, State.put, running, previous, Table.row_set_eq, Server.newConnection]
    | some p =>
      simp [State.hub, State.put, State.modify, Hub.modify, running, previous, Table.row_set_eq, Server.newConnection]

/-- `Hub.unregister` acts on the map alone. -/
theorem hub_unregister (was : (s.serves c).phase = .unregistering station)
    (stepped : s.step sha256Hex (.unregister c) = some s₁) :
    s₁.hub = s.hub.unregister (Server.newConnection c station) := by
  simp only [State.step, was, Option.some.injEq] at stepped
  subst stepped
  by_cases own : s.conns.row station.id = some c
  · simp [State.hub, State.move, State.put, Hub.unregister, Server.newConnection, own, Table.row_erase_eq]
  · simp [State.hub, State.move, State.put, Hub.unregister, Server.newConnection, own]

/-- `Hub.disconnect` closes the socket after it has left the mutex. -/
theorem hub_disconnect {k : ID} {reason p : String} (entry : s.conns.row k = some p)
    (first : s.step sha256Hex (.disconnect k reason) = some s₁)
    (second : s₁.step sha256Hex (.call s.calls.length) = some s₂) : s₂.hub = s.hub.disconnect k reason := by
  simp only [State.step, entry, Option.some.injEq] at first
  subst first
  simp only [State.step, List.getElem?_concat_length, Option.map_some, Option.some.injEq] at second
  subst second
  simp [State.hub, State.perform, State.modify, Hub.disconnect, Hub.modify, entry, Table.row_erase_eq]

end Methods

/-- Nobody is registered, and no id is drawn. -/
theorem mapped_init (d : Db) (clock : Time) (build : String) : Mapped (State.init d clock build) where
  entry _ _ := nofun
  stored _ _ := nofun
  empty _ _ := rfl

theorem kept_init (d : Db) (clock : Time) (build : String) : Kept (State.init d clock build) where
  row _ _ _ := .inl rfl
  recorded _ := ⟨fun _ _ _ => nofun, fun _ => rfl, nofun⟩

/-- **Hub map and session clean-up.** In every state any number of serves, disconnects,
configuration changes and a `Close` can reach: every map entry is a connection of its
station; `unregister` takes out no other connection; a closed hub has no entries; and a serve
whose claim succeeded does not return without calling for its release. If the call reaches
the database, no session row is the connection's from then on, and no other connection lost
its row by it. -/
theorem hub_cleanup (sha256Hex : String → String) (d : Db) (clock : Time) (build : String) (labels : List Label) (s : State)
    (reached : run (State.step sha256Hex) (State.init d clock build) labels = some s) :
    (∀ k c, s.conns.row k = some c →
      ∃ connection, s.sockets c = some connection ∧ connection.id = c ∧ connection.stationID = k) ∧
    (∀ c s', s.step sha256Hex (.unregister c) = some s' → ∀ k p, s.conns.row k = some p →
      s'.conns.row k = some p ∨ (p = c ∧ s'.conns.row k = none)) ∧
    (Label.close ∈ labels → ∀ k, s.conns.row k = none) ∧
    (∀ c, (s.serves c).phase = .returned → (s.serves c).claimed = true →
      ∃ reach, (s.serves c).released = some reach ∧ (reach ≠ .lost →
        ∀ later t, run (State.step sha256Hex) s later = some t → ∀ k session, t.db.sessions.row k = some session →
          session.connectionID ≠ c)) ∧
    (∀ c reach s', s.step sha256Hex (.release c reach) = some s' → ∀ k session, s.db.sessions.row k = some session →
      session.connectionID ≠ c → s'.db.sessions.row k = some session) := by
  have mapped : Mapped s := run_invariant Mapped (fun _ _ _ h stepped => h.step stepped) (mapped_init d clock build) reached
  have kept : Kept s := run_invariant Kept (fun _ _ _ h stepped => h.step stepped) (kept_init d clock build) reached
  refine ⟨?_, fun c s' => unregister_conns, ?_, ?_, fun c reach s' => release_sessions⟩
  · intro k c found
    obtain ⟨station, registered, rfl⟩ := mapped.entry k c found
    exact mapped.stored c station registered
  · intro closes
    exact mapped.empty (closed_run (.inr closes) reached)
  · intro c returned claimed
    obtain ⟨reach, released⟩ := Option.ne_none_iff_exists'.1 ((kept.recorded c).returned returned claimed)
    refine ⟨reach, released, ?_⟩
    rintro arrived later t ran k session found rfl
    obtain ⟨kept', ended⟩ : Kept t ∧ Ended (s.serves session.connectionID) (t.serves session.connectionID) := by
      refine run_invariant (fun t => Kept t ∧ Ended (s.serves session.connectionID) (t.serves session.connectionID)) ?_
        ⟨kept, returned, rfl, rfl⟩ ran
      intro a l b ⟨before, ended⟩ stepped
      have next := ended_step ended.phase stepped
      exact ⟨before.step stepped, next.phase, next.claimed.trans ended.claimed, next.released.trans ended.released⟩
    rcases kept'.row k session found with absent | ⟨owner, owns, _⟩ | ⟨_, lost⟩
    · exact absurd (ended.phase.symm.trans absent) nofun
    · rw [ended.phase] at owns
      cases owns
    · have same := (ended.released.trans released).symm.trans (lost (ended.claimed.trans claimed))
      exact arrived (Option.some.inj same)

def desk : Station := ⟨1, "Front desk", 1, ⟨1, "Office"⟩, true, .offline, "", none, 0, 0⟩

/-- A second device takes the station over, and the first cleans up after it. -/
def takenOver : List Label := [
  .serve "a" desk "wgst_a" "1.0", .claim "a" .answered, .register "a", .replace "a", .hello "a" true,
  .serve "b" desk "wgst_a" "1.0", .claim "b" .answered, .register "b", .replace "b", .ping "a" .answered,
  .read "a" .failure, .join "a", .unregister "a", .release "a" .answered, .close, .call 0]

/-- The second device still has its session, and the first never again. -/
theorem hub_cleanup_taken_over :
    ∃ s, run (State.step sampleHash) (State.init sampleDb 0 "1.0") takenOver = some s ∧
      (∃ session, s.db.sessions.row 1 = some session ∧ session.connectionID = "b") ∧ (∀ k, s.conns.row k = none) ∧
      ∀ later t, run (State.step sampleHash) s later = some t → ∀ k session, t.db.sessions.row k = some session →
        session.connectionID ≠ "a" := by
  have ends : ((run (State.step sampleHash) (State.init sampleDb 0 "1.0") takenOver).map fun s =>
      (s.serves "a", (s.db.sessions.row 1).map SessionRow.connectionID)) =
      some (⟨.returned, false, true, some .answered⟩, some "b") := by decide +kernel
  obtain ⟨s, reached, ends⟩ := Option.map_eq_some_iff.1 ends
  obtain ⟨serve, row⟩ := Prod.mk.inj ends
  obtain ⟨session, found, holder⟩ := Option.map_eq_some_iff.1 row
  obtain ⟨_, _, closed, released, _⟩ := hub_cleanup sampleHash sampleDb 0 "1.0" takenOver s reached
  refine ⟨s, reached, ⟨session, found, holder⟩, closed (by simp [takenOver]), fun later t ran => ?_⟩
  obtain ⟨reach, called, gone⟩ := released "a" (by rw [serve]) (by rw [serve])
  rw [serve] at called
  cases called
  exact gone nofun later t ran

end Woodgate.Stations.Cleanup
