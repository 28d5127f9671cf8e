import Woodgate.Stations.Server

/-!
# Configuration changes

`Service.Update` and the location notifier next to the serving of devices. An update
commits, reads the station again and then tells the hub; a location commits and then
tells the hub. The hub routes by `controlConnection.locationID`, a copy of the station's
location that is taken from the row the device authenticated with and overwritten by the
update notifications, in whatever order these come.
-/

namespace Woodgate.Stations

open Library Library.ReadCommitted

/-- A `Service.Update` after its commit. -/
inductive Updating where
  | committed (id : ID)
  | read (updated : Station)
  deriving DecidableEq, Repr

def Updating.id : Updating → ID
  | .committed id => id
  | .read updated => updated.id

structure Process where
  server : Server
  updates : Nat → Option Updating
  /-- locations whose change is committed and not yet announced -/
  locationChanges : Nat → Option ID

inductive ProcessLabel where
  | serve (l : ServeLabel)
  /-- the transaction of `Store.update` commits -/
  | updateCommit (u : Nat) (id : ID) (mutation : StationMutation)
  /-- `Store.update` reads the station again -/
  | updateRead (u : Nat)
  /-- `ConfigurationChanged` or `Disconnect` -/
  | updateNotify (u : Nat)
  /-- a new configuration of a location commits -/
  | locationCommit (u : Nat) (id : ID) (row : LocationRow)
  /-- `Service.LocationChanged` -/
  | locationNotify (u : Nat)
  deriving DecidableEq, Repr

/-- The connection whose step it is. -/
def ProcessLabel.connection : ProcessLabel → Option String
  | .serve l => l.connection
  | _ => none

namespace Process

def init (d : Db) (clock : Time) (build : String) : Process :=
  ⟨.init d clock build, fun _ => none, fun _ => none⟩

abbrev db (s : Process) : Db := s.server.db

abbrev hub (s : Process) : Hub := s.server.hub

/-- The end of `Service.Update`: what it does to the hub with the station it read. -/
def notify (h : Hub) (updated : Station) : Hub :=
  if updated.enabled then h.configurationChanged updated.id updated.locationID
  else h.disconnect updated.id "station disabled"

variable (sha256Hex : String → String)

def step (s : Process) : ProcessLabel → Option Process
  | .serve l => (s.server.step sha256Hex l).map fun server => { s with server }
  | .updateCommit u id mutation =>
    match s.updates u, transact (.ok (update s.server.clock id mutation)) s.db with
    | none, .ok db => some { s with
        server := { s.server with db }, updates := Function.update s.updates u (some (.committed id)) }
    | _, _ => none
  | .updateRead u =>
    match s.updates u with
    | some (.committed id) =>
      match get s.server.clock id s.db with
      | .ok updated => some { s with updates := Function.update s.updates u (some (.read updated)) }
      | .error _ => none
    | _ => none
  | .updateNotify u =>
    match s.updates u with
    | some (.read updated) => some { s with
        server := { s.server with hub := notify s.hub updated }, updates := Function.update s.updates u none }
    | _ => none
  | .locationCommit u id row =>
    match s.locationChanges u, s.db.locations.row id with
    | none, some _ => some { s with
        server := { s.server with db := { s.db with locations := s.db.locations.set id row } }
        locationChanges := Function.update s.locationChanges u (some id) }
    | _, _ => none
  | .locationNotify u =>
    match s.locationChanges u with
    | some id => some { s with
        server := { s.server with hub := s.hub.configurationChangedForLocation id }
        locationChanges := Function.update s.locationChanges u none }
    | none => none

/-- A connection moves by its own steps only. -/
theorem step_connects {sha256Hex : String → String} {s s' : Process} {l : ProcessLabel} {c : String}
    (other : l.connection ≠ some c) (stepped : step sha256Hex s l = some s') :
    s'.server.connects c = s.server.connects c := by
  cases l with
  | serve l =>
    obtain ⟨server, served, rfl⟩ := Option.map_eq_some_iff.1 stepped
    exact Server.step_connects other served
  | updateRead u =>
    simp only [step] at stepped
    split at stepped
    · split at stepped
      · cases stepped
        rfl
      · cases stepped
    · cases stepped
  | updateCommit | updateNotify | locationCommit | locationNotify =>
    simp only [step] at stepped
    split at stepped
    · cases stepped
      rfl
    · cases stepped

theorem run_connects {sha256Hex : String → String} {s s' : Process} {labels : List ProcessLabel} {c : String}
    (others : ∀ l ∈ labels, l.connection ≠ some c) (reached : Runs.run (step sha256Hex) s labels = some s') :
    s'.server.connects c = s.server.connects c := by
  induction labels generalizing s with
  | nil =>
    cases reached
    rfl
  | cons l labels ih =>
    obtain ⟨s₁, first, rest⟩ := Runs.run_cons_iff.1 reached
    have moved := step_connects (others l List.mem_cons_self) first
    exact (ih (fun l mem => others l (List.mem_cons_of_mem _ mem)) rest).trans moved

/-- An update of station `k` is between its commit and its notification. -/
def Pending (s : Process) (k : ID) : Prop := ∃ u update, s.updates u = some update ∧ update.id = k

/-- No connect is between authenticate and register, no update between commit and
notification. -/
def Quiescent (s : Process) : Prop :=
  (∀ c station, (∀ secret, s.server.connects c ≠ .authenticated station secret) ∧
    s.server.connects c ≠ .claimed station) ∧
  ∀ u, s.updates u = none

/-- Every registered connection is routed by its station's location. -/
def InSync (s : Process) : Prop :=
  ∀ k connection row, s.hub.Registered k connection → s.db.stations.row k = some row →
    connection.locationID = row.locationID

/-- A configuration change that concerns station `k` is committed and not yet notified: of
the station itself, or of the location it has now. -/
def Due (s : Process) (k : ID) : Prop :=
  s.Pending k ∨ ∃ u row, s.db.stations.row k = some row ∧ s.locationChanges u = some row.locationID

/-- Connection `c` is the registered one of station `k`, and a notification finds room in
its buffer. -/
def Reachable (k : ID) (c : String) (s : Process) (l : ProcessLabel) : Prop :=
  s.hub.conns k = some c ∧ match l with
    | .updateNotify _ | .locationNotify _ =>
      ∀ connection, s.hub.connections c = some connection → connection.send.length < controlBuffer
    | _ => True

/-- The step announces a change of station `k`, or one of the location it has while no update
of the station is between commit and notification. -/
def Announces (s : Process) (k : ID) : ProcessLabel → Prop
  | .updateNotify u => ∃ updated, s.updates u = some (.read updated) ∧ updated.id = k
  | .locationNotify u =>
    ∃ row, s.db.stations.row k = some row ∧ s.locationChanges u = some row.locationID ∧ ¬ s.Pending k
  | _ => False

/-- The step from `s` to `s'` sends a configuration message to connection `c`. -/
def Sends (s s' : Process) (c : String) : Prop :=
  ∃ connection connection', s.hub.connections c = some connection ∧ s'.hub.connections c = some connection' ∧
    connection'.send = connection.send ++ [.configurationChanged]

end Process

end Woodgate.Stations
