import Mathlib.Data.Option.Basic
import Woodgate.Library.Runs
import Woodgate.Stations.Hub

/-!
# One process serving devices

`Server.connect` and `Hub.serve` as steps of any number of connections: the station row
is read, the session is claimed, the hub entry is swapped, messages are queued and
written, the entry is removed, the session is released. The steps of different
connections come in any order. A connection is named by its id, which `randtoken` never
draws twice: a finished connection does not come back. Each database call is a
transaction of its own and takes its `now()` from the clock.
-/

namespace Woodgate.Stations

open Library Library.ReadCommitted

/-- How far the connection with a given id has got. -/
inductive Connect where
  | idle
  | authenticated (station : Station) (secret : String)
  | claimed (station : Station)
  | registered (station : Station)
  /-- its map entry is gone, its session not yet released -/
  | removed (station : Station)
  | finished
  deriving DecidableEq, Repr

/-- The station a connection is for. -/
def Connect.stationID : Connect → Option ID
  | .authenticated station _ | .claimed station | .registered station | .removed station => some station.id
  | .idle | .finished => none

def Connect.isRegistered : Connect → Bool
  | .registered _ => true
  | _ => false

structure Server where
  db : Db
  clock : Time
  hub : Hub
  connects : String → Connect
  build : String

/-- `c` is the connection's id. -/
inductive ServeLabel where
  | authenticate (c secret : String)
  | claim (c version : String)
  | register (c : String)
  /-- the hello message is queued -/
  | hello (c : String)
  /-- `writeLoop` takes a message off the channel -/
  | write (c : String)
  | renew (c : String)
  /-- the serve ends and `unregister` takes its entry out of the map -/
  | unregister (c : String)
  | release (c : String)
  | tick (elapsed : Nat)
  deriving DecidableEq, Repr

/-- The connection whose step it is. -/
def ServeLabel.connection : ServeLabel → Option String
  | .authenticate c _ | .claim c _ | .register c | .hello c | .write c | .renew c | .unregister c | .release c => some c
  | .tick _ => none

namespace Server

/-- A process that has just started. -/
def init (d : Db) (clock : Time) (build : String) : Server := ⟨d, clock, .new, fun _ => .idle, build⟩

/-- `c` moves on. -/
def set (s : Server) (c : String) (phase : Connect) : Server :=
  { s with connects := Function.update s.connects c phase }

@[simp] theorem set_db (s : Server) (c : String) (phase : Connect) : (s.set c phase).db = s.db := rfl

@[simp] theorem set_hub (s : Server) (c : String) (phase : Connect) : (s.set c phase).hub = s.hub := rfl

@[simp] theorem set_connects (s : Server) (c : String) (phase : Connect) :
    (s.set c phase).connects = Function.update s.connects c phase := rfl

/-- The connection that `serve` hands to the hub. -/
def newConnection (c : String) (station : Station) : ControlConnection :=
  { id := c, stationID := station.id, locationID := station.locationID }

variable (sha256Hex : String → String)

def step (s : Server) : ServeLabel → Option Server
  | .authenticate c secret =>
    match s.connects c, authenticate sha256Hex s.clock secret s.db with
    | .idle, .ok station => some (s.set c (.authenticated station secret))
    | _, _ => none
  | .claim c version =>
    match s.connects c with
    | .authenticated station secret =>
      match transact (claimClientSession sha256Hex s.clock station.id secret c protocolVersion version) s.db with
      | .ok db => some ({ s with db }.set c (.claimed station))
      | .error _ => some (s.set c .finished)
    | _ => none
  | .register c =>
    match s.connects c with
    | .claimed station =>
      match s.hub.register (newConnection c station) with
      | (hub, true) => some ({ s with hub }.set c (.registered station))
      | (_, false) => some (s.set c (.removed station))
    | _ => none
  | .hello c =>
    match s.connects c with
    | .registered station =>
      let hello := .hello station.id station.name station.locationID protocolVersion s.build
      some { s with hub := s.hub.modify c (.enqueue hello) }
    | _ => none
  | .write c =>
    match s.connects c with
    | .registered _ => some { s with hub := s.hub.modify c fun connection => { connection with send := connection.send.tail } }
    | _ => none
  | .renew c =>
    match s.connects c with
    | .registered station =>
      match renewSession s.clock station.id c s.db with
      | .ok (_, db) => some { s with db }
      | .error _ => some { s with hub := s.hub.modify c (.close "station session changed") }
    | _ => none
  | .unregister c =>
    match s.connects c, s.hub.connections c with
    | .registered station, some connection =>
      some ({ s with hub := s.hub.unregister connection }.set c (.removed station))
    | _, _ => none
  | .release c =>
    match s.connects c with
    | .removed station =>
      match releaseSession station.id c s.db with
      | .ok (_, db) => some ({ s with db }.set c .finished)
      | .error _ => none
    | _ => none
  | .tick elapsed => some { s with clock := s.clock + elapsed }

/-- A connection moves by its own steps only. -/
theorem step_connects {sha256Hex : String → String} {s s' : Server} {l : ServeLabel} {c : String}
    (other : l.connection ≠ some c) (stepped : step sha256Hex s l = some s') : s'.connects c = s.connects c := by
  cases l <;> simp only [step] at stepped <;> simp only [ServeLabel.connection, ne_eq, Option.some.injEq] at other
  all_goals
    repeat' split at stepped
    all_goals first
      | cases stepped; rfl
      | cases stepped; exact Function.update_of_ne (Ne.symm other) ..
      | cases stepped

theorem run_connects {sha256Hex : String → String} {s s' : Server} {labels : List ServeLabel} {c : String}
    (others : ∀ l ∈ labels, l.connection ≠ some c) (reached : Runs.run (step sha256Hex) s labels = some s') :
    s'.connects c = s.connects c := by
  induction labels generalizing s with
  | nil =>
    cases reached
    rfl
  | cons l labels ih =>
    obtain ⟨s₁, first, rest⟩ := Runs.run_cons_iff.1 reached
    have moved := step_connects (others l List.mem_cons_self) first
    exact (ih (fun l mem => others l (List.mem_cons_of_mem _ mem)) rest).trans moved

/-- No serve of station `k` is between its claim and its register, or between its map
removal and its release. -/
def Settled (s : Server) (k : ID) : Prop :=
  ∀ c station, station.id = k → s.connects c ≠ .claimed station ∧ s.connects c ≠ .removed station

/-- `register` closed the socket of `c`. -/
def Replaced (s : Server) (c : String) : Prop :=
  ∃ connection, s.hub.connections c = some connection ∧ "replaced by a new connection" ∈ connection.closes

/-- The hub agrees with the session table on who owns station `k`. -/
def Agrees (s : Server) (k : ID) : Prop :=
  ∀ session, s.db.sessions.row k = some session →
    s.hub.conns k = some session.connectionID ∧ ¬ s.Replaced session.connectionID

end Server

end Woodgate.Stations
