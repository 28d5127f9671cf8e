import Woodgate.Directory.Identity
import Woodgate.Stations.Service

/-!
# The attribution of check-ins

A run is any sequence of the directory's operations, of check-ins and of the operations on
stations and locations. A check-in refers to six rows with different delete rules; `Kept`
says what can become of one, `step_recorded` that no event does anything else, and
`attribution_permanent` carries it over a run.
-/

namespace Woodgate.Checkin

open Library Library.ReadCommitted Library.Runs Library.Results
open Library.Program hiding send run
open Postgres Woodgate.Service

/-- A call, with what the environment does to it. A call of the directory that fails is its `failed`. -/
inductive Event (libs : Libraries) where
  | directory (event : Directory.Event libs)
  | createStation (env : Environment (calls libs)) (mutation : Stations.StationMutation) (token : Except Err String)
  | updateStation (env : Environment (calls libs)) (id : ID) (mutation : Stations.StationMutation)
  | rotateKey (env : Environment (calls libs)) (id : ID) (token : Except Err String)
  | deleteStation (env : Environment (calls libs)) (id : ID)
  | createLocation (env : Environment (calls libs)) (mutation : LocationMutation)
  | updateLocation (env : Environment (calls libs)) (id : ID) (mutation : LocationMutation)
  | deleteLocation (env : Environment (calls libs)) (id : ID)

section Step

variable (libs : Libraries) (sha256Hex : String → String) (serverURL : String)

/-- The rows after the event; `none` when one of the directory would not commit. -/
def step (d : Db) : Event libs → Option Db
  | .directory event => Directory.step libs d event
  | .createStation env mutation token =>
    some (Program.run env (Stations.Service.create sha256Hex serverURL mutation token) { db := d }).2.db
  | .updateStation env id mutation => some (Program.run env (Stations.Service.update id mutation) { db := d }).2.db
  | .rotateKey env id token =>
    some (Program.run env (Stations.Service.rotateKey sha256Hex serverURL id token) { db := d }).2.db
  | .deleteStation env id => some (Program.run env (Stations.Service.delete id) { db := d }).2.db
  | .createLocation env mutation => some (Program.run env (Service.createLocation mutation) { db := d }).2.db
  | .updateLocation env id mutation => some (Program.run env (Service.updateLocation id mutation) { db := d }).2.db
  | .deleteLocation env id => some (Program.run env (Service.deleteLocation id) { db := d }).2.db

variable {libs}

namespace Event

/-- The event deletes the station `k`. -/
def DeletesStation (k : ID) (d : Db) (event : Event libs) : Prop :=
  (∃ env, event = .deleteStation env k) ∧ (d.stations.row k).isSome ∧
    ∃ d', step libs sha256Hex serverURL d event = some d' ∧ d'.stations.row k = none

/-- The event deletes the row of the local user `u`. -/
def HardDeletes (u : ID) (d : Db) (event : Event libs) : Prop :=
  (∃ now, event = .directory (.deleteUser now u)) ∧ Directory.IsLocal d u ∧
    ∃ d', step libs sha256Hex serverURL d event = some d' ∧ d'.users.row u = none

/-- The event is an `UpdateCheckin` of the check-in. -/
def Updates (id : ID) (_ : Db) (event : Event libs) : Prop :=
  ∃ env mutation, event = .directory (.updateCheckin env id mutation)

end Event

end Step

/-- What may become of a check-in: `station` and `user` are the deletions that can clear a column, `updated` allows the
columns of an `UpdateCheckin` to change. -/
structure Kept (station user : ID → Prop) (updated : Prop) (c c' : CheckinRow) : Prop where
  appID : c'.appID = c.appID
  actorKind : c'.actorKind = c.actorKind
  actorAppID : c'.actorAppID = c.actorAppID
  photoObjectID : c'.photoObjectID = c.photoObjectID
  createdAt : c'.createdAt = c.createdAt
  stationID : c'.stationID = c.stationID ∨ ∃ k, c.stationID = some k ∧ c'.stationID = none ∧ station k
  createdByUserID : c'.createdByUserID = c.createdByUserID ∨
    ∃ u, c.createdByUserID = some u ∧ c'.createdByUserID = none ∧ user u
  visit : updated ∨ c'.userID = c.userID ∧ c'.locationID = c.locationID ∧ c'.direction = c.direction ∧
    c'.notes = c.notes ∧ c'.occurredAt = c.occurredAt

namespace Kept

variable {station user station' user' : ID → Prop} {updated updated' : Prop} {a b c : CheckinRow}

theorem refl (c : CheckinRow) : Kept station user updated c c :=
  ⟨rfl, rfl, rfl, rfl, rfl, .inl rfl, .inl rfl, .inr ⟨rfl, rfl, rfl, rfl, rfl⟩⟩

theorem mono (stations : ∀ k, station k → station' k) (users : ∀ u, user u → user' u) (updates : updated → updated')
    (h : Kept station user updated a b) : Kept station' user' updated' a b where
  appID := h.appID
  actorKind := h.actorKind
  actorAppID := h.actorAppID
  photoObjectID := h.photoObjectID
  createdAt := h.createdAt
  stationID := h.stationID.imp id fun ⟨k, was, gone, deleted⟩ => ⟨k, was, gone, stations k deleted⟩
  createdByUserID := h.createdByUserID.imp id fun ⟨u, was, gone, deleted⟩ => ⟨u, was, gone, users u deleted⟩
  visit := h.visit.imp updates id

theorem trans (first : Kept station user updated a b) (second : Kept station user updated b c) :
    Kept station user updated a c where
  appID := second.appID.trans first.appID
  actorKind := second.actorKind.trans first.actorKind
  actorAppID := second.actorAppID.trans first.actorAppID
  photoObjectID := second.photoObjectID.trans first.photoObjectID
  createdAt := second.createdAt.trans first.createdAt
  stationID := by
    rcases first.stationID with same | ⟨k, was, gone, deleted⟩
    · rw [← same]
      exact second.stationID
    · rcases second.stationID with same | ⟨k', was', _⟩
      · exact .inr ⟨k, was, same.trans gone, deleted⟩
      · rw [gone] at was'
        cases was'
  createdByUserID := by
    rcases first.createdByUserID with same | ⟨u, was, gone, deleted⟩
    · rw [← same]
      exact second.createdByUserID
    · rcases second.createdByUserID with same | ⟨u', was', _⟩
      · exact .inr ⟨u, was, same.trans gone, deleted⟩
      · rw [gone] at was'
        cases was'
  visit := by
    rcases first.visit with updated | ⟨userID, locationID, direction, notes, occurredAt⟩
    · exact .inl updated
    · rcases second.visit with updated | ⟨userID', locationID', direction', notes', occurredAt'⟩
      · exact .inl updated
      · exact .inr ⟨userID'.trans userID, locationID'.trans locationID, direction'.trans direction, notes'.trans notes,
          occurredAt'.trans occurredAt⟩

end Kept

/-- Every check-in is still there, and kept. -/
def Recorded (station user updated : ID → Prop) (d d' : Db) : Prop :=
  ∀ id c, d.checkins.row id = some c → ∃ c', d'.checkins.row id = some c' ∧ Kept station user (updated id) c c'

section Recorded

variable {station user updated : ID → Prop} {a b c d d' : Db}

theorem Recorded.trans (first : Recorded station user updated a b) (second : Recorded station user updated b c) :
    Recorded station user updated a c := by
  intro id row found
  obtain ⟨row', found', kept⟩ := first id row found
  obtain ⟨row'', found'', kept'⟩ := second id row' found'
  exact ⟨row'', found'', kept.trans kept'⟩

theorem recorded_of_checkins (same : d'.checkins = d.checkins) : Recorded station user updated d d' := by
  intro id row found
  rw [← same] at found
  exact ⟨row, found, .refl row⟩

/-- A new check-in leaves those that are there. -/
theorem recorded_insertCheckin {now : Time} {create : CheckinCreate} {actor : Actor} {photoObjectID : Option ID}
    {asked : List (RowKey × LockMode)} (h : insertCheckin now create actor photoObjectID d = .ok (asked, d')) :
    Recorded station user updated d d' := by
  obtain ⟨direction, _, vacant, _, rfl⟩ := insertCheckin_ok h
  intro id row found
  have other : id ≠ d.seq.checkins := by
    rintro rfl
    rw [vacant] at found
    cases found
  exact ⟨row, (Table.row_set_ne _ _ other).trans found, .refl row⟩

/-- An `UPDATE` of a check-in writes the columns of a visit. -/
theorem recorded_updateCheckin {now : Time} {id : ID} {mutation : CheckinMutation} {asked : List (RowKey × LockMode)}
    (h : updateCheckin now id mutation d = .ok (asked, d')) : Recorded station user (· = id) d d' := by
  obtain ⟨direction, old, _, present, _, _, rfl⟩ := updateCheckin_ok h
  intro id' row found
  by_cases same : id' = id
  · subst same
    rw [present] at found
    cases found
    exact ⟨mutation.apply now direction old, Table.row_set_self .., rfl, rfl, rfl, rfl, rfl, .inl rfl, .inl rfl, .inl rfl⟩
  · exact ⟨row, (Table.row_set_ne _ _ same).trans found, .refl row⟩

/-- A deleted station leaves its check-ins, without it. -/
theorem recorded_deleteStation {k : ID} {asked : List (RowKey × LockMode)}
    (h : Stations.deleteStation k d = .ok (asked, d')) : Recorded (· = k) user updated d d' := by
  unfold Stations.deleteStation at h
  split at h
  · cases h
  cases h
  intro id row found
  refine ⟨if row.stationID = some k then { row with stationID := none } else row, ?_, ?_⟩
  · show (d.checkins.map _).row id = _
    rw [Table.row_map, found]
    rfl
  · split
    · rename_i own
      exact ⟨rfl, rfl, rfl, rfl, rfl, .inr ⟨k, own, rfl, rfl⟩, .inl rfl, .inr ⟨rfl, rfl, rfl, rfl, rfl⟩⟩
    · exact .refl row

/-- A deleted user leaves the check-ins it made for others, without it. -/
theorem recorded_removeUser {now : Time} {source : Source} {u : ID} {asked : List (RowKey × LockMode)}
    (h : Directory.removeUser now source u d = .ok (asked, d')) :
    Recorded station (fun v => v = u ∧ source = .sourceLocal ∧ d'.users.row u = none) updated d d' := by
  unfold Directory.removeUser at h
  split at h
  · rename_i hard
    split at h
    · cases h
    split at h
    · cases h
    cases h
    intro id row found
    refine ⟨if row.createdByUserID = some u then { row with createdByUserID := none } else row, ?_, ?_⟩
    · show (d.checkins.map _).row id = _
      rw [Table.row_map, found]
      rfl
    · split
      · rename_i own
        exact ⟨rfl, rfl, rfl, rfl, rfl, .inl rfl, .inr ⟨u, own, rfl, rfl, hard, Table.row_erase_self ..⟩,
          .inr ⟨rfl, rfl, rfl, rfl, rfl⟩⟩
      · exact .refl row
  · obtain ⟨old, _, _, _, stored⟩ := Directory.writeUser_ok h
    exact recorded_of_checkins (by rw [stored])

theorem Recorded.mono {station' user' updated' : ID → Prop} (stations : ∀ k, station k → station' k)
    (users : ∀ u, user u → user' u) (updates : ∀ id, updated id → updated' id) (h : Recorded station user updated d d') :
    Recorded station' user' updated' d d' := by
  intro id row found
  obtain ⟨row', found', kept⟩ := h id row found
  exact ⟨row', found', kept.mono stations users (updates id)⟩

end Recorded

section Programs

variable {libs : Libraries} {A : Type} {d : Db}

/-- The service leaves the check-ins alone. -/
abbrev LeavesCheckins (p : Service libs A) : Prop := p.Within Call.LeavesCheckins

theorem leavesCheckins_quiet {p : Service libs A} (plain : p.Plain Call.Quiet) : LeavesCheckins p :=
  (plain.mono fun _ => Call.Quiet.leavesCheckins).within

theorem leavesCheckins_call {c : Call} (leaves : c.LeavesCheckins) : LeavesCheckins (send c : Service libs _) :=
  ⟨leaves, fun _ => trivial⟩

theorem leavesCheckins_send {f : Err → Err} {c : Call} (leaves : c.LeavesCheckins) :
    LeavesCheckins (mapError f (send c) : Service libs _) := (plain_send leaves).within

/-- The check-ins after such a service, whatever the environment makes fail. -/
theorem checkins_run (env : Environment (calls libs)) {p : Service libs A} (leaves : LeavesCheckins p) :
    (Program.run env p { db := d }).2.db.checkins = d.checkins := by
  refine run_within (w := { db := d }) (fun a b : Db => b.checkins = a.checkins) (fun _ => rfl)
    (fun first second => second.trans first) (fun _ same => same) ?_ env leaves rfl
  intro c leaves now d x asked after performed
  exact Call.checkins_perform leaves performed

section Stations

open Stations

variable {id : ID}

theorem leavesCheckins_requireLocation : LeavesCheckins (Stations.Service.requireLocation id : Service libs Unit) :=
  leavesCheckins_quiet plain_requireLocation

theorem leavesCheckins_getStation : LeavesCheckins (Stations.Store.get id : Service libs Station) :=
  leavesCheckins_send (c := .selectStation id) trivial

theorem leavesCheckins_createStation {sha256Hex : String → String} {serverURL : String} {mutation : StationMutation}
    {token : Except Err String} :
    LeavesCheckins (Stations.Service.create sha256Hex serverURL mutation token : Service libs Pairing) := by
  refine Within.bind (p := lift _) trivial fun _ => ?_
  refine leavesCheckins_requireLocation.bind fun _ => ?_
  refine Within.bind (p := lift _) trivial fun key => ?_
  have inserts : LeavesCheckins (Stations.Store.create mutation.normalize key.2 : Service libs Station) :=
    (leavesCheckins_send (c := .insertStation mutation.normalize key.2) trivial).bind fun _ => leavesCheckins_getStation
  exact inserts.bind fun _ => trivial

theorem leavesCheckins_clearClientStates : LeavesCheckins (Stations.Store.clearClientStates id : Service libs Unit) :=
  (leavesCheckins_call (c := .deleteSession id) trivial).bind fun _ =>
    leavesCheckins_call (c := .deleteRejection id) trivial

theorem leavesCheckins_updateStation {mutation : StationMutation} :
    LeavesCheckins (Stations.Service.update id mutation : Service libs Station) := by
  refine Within.bind (p := lift _) trivial fun _ => ?_
  refine leavesCheckins_requireLocation.bind fun _ => ?_
  have writes : LeavesCheckins (Stations.Store.updateRow id mutation.normalize : Service libs Unit) := by
    refine (leavesCheckins_call (c := .updateStation id mutation.normalize) trivial).bind fun _ => ?_
    split
    · trivial
    · exact leavesCheckins_clearClientStates
  have updates : LeavesCheckins (Stations.Store.update id mutation.normalize : Service libs Station) :=
    (within_mapError writes.transaction).bind fun _ => leavesCheckins_getStation
  exact updates.bind fun _ => Within.bind (p := announce _) trivial fun _ => trivial

theorem leavesCheckins_rotateKey {sha256Hex : String → String} {serverURL : String} {token : Except Err String} :
    LeavesCheckins (Stations.Service.rotateKey sha256Hex serverURL id token : Service libs Pairing) := by
  refine Within.bind (p := lift _) trivial fun key => ?_
  have writes : LeavesCheckins (Stations.Store.replaceHash id key.2 : Service libs Unit) :=
    (leavesCheckins_call (c := .updateSecretHash id key.2) trivial).bind fun _ =>
      leavesCheckins_clearClientStates
  have updates : LeavesCheckins (Stations.Store.rotateKey id key.2 : Service libs Station) :=
    (within_mapError writes.transaction).bind fun _ => leavesCheckins_getStation
  exact updates.bind fun _ => Within.bind (p := announce _) trivial fun _ => trivial

end Stations

section Locations

variable {id : ID} {mutation : LocationMutation}

theorem leavesCheckins_createLocation : LeavesCheckins (Service.createLocation mutation : Service libs Location) := by
  have inserts : LeavesCheckins (Store.insertLocation mutation.normalize : Service libs ID) :=
    (plain_insertLocation (fun _ => trivial) trivial (fun _ => trivial) fun _ _ => trivial).within
  have creates : LeavesCheckins (Store.createLocation mutation.normalize : Service libs Location) :=
    inserts.transaction.bind fun _ => leavesCheckins_quiet plain_getLocation
  refine Within.bind (p := lift _) trivial fun _ => ?_
  refine (leavesCheckins_quiet (plain_finalizeAttachments _ _)).bind fun objectIDs => ?_
  refine creates.handle fun r => ?_
  cases r with
  | ok item => trivial
  | error e => exact (leavesCheckins_quiet (plain_deleteUnreferenced objectIDs)).bind fun _ => trivial

theorem leavesCheckins_updateLocation : LeavesCheckins (Service.updateLocation id mutation : Service libs Location) := by
  have replaces : LeavesCheckins (Store.replaceLocation id mutation.normalize : Service libs _) :=
    (plain_replaceLocation trivial (fun _ => trivial) trivial trivial fun _ => trivial).within
  have updates : LeavesCheckins (Store.updateLocation id mutation.normalize : Service libs Location) :=
    replaces.transaction.bind fun _ => (leavesCheckins_quiet (plain_deleteUnreferenced _)).bind fun _ =>
      (leavesCheckins_quiet (plain_deleteUnreferenced _)).bind fun _ => leavesCheckins_quiet plain_getLocation
  refine Within.bind (p := lift _) trivial fun _ => ?_
  refine (leavesCheckins_quiet (plain_finalizeAttachments _ _)).bind fun objectIDs => ?_
  refine updates.handle fun r => ?_
  cases r with
  | ok item => exact Within.bind (p := announce _) trivial fun _ => trivial
  | error e => exact (leavesCheckins_quiet (plain_deleteUnreferenced objectIDs)).bind fun _ => trivial

theorem leavesCheckins_deleteLocation : LeavesCheckins (Service.deleteLocation id : Service libs Unit) :=
  (leavesCheckins_send (c := .deleteLocation id) trivial).bind fun _ => leavesCheckins_quiet (plain_deleteUnreferenced _)

end Locations

end Programs

section Events

variable {libs : Libraries} {station user : ID → Prop} {d d' : Db}

theorem recorded_submit (env : Environment (calls libs)) (create : CheckinCreate) (actor : Actor) (photo : List UInt8) :
    Recorded station user (fun _ => False) d (Program.run env (Service.submit create actor photo) { db := d }).2.db := by
  have plain : (Service.submit create actor photo : Service libs Checkin).Plain SubmitCall := plain_submit
  refine run_within (w := { db := d }) (Recorded station user fun _ => False) (fun _ => recorded_of_checkins rfl)
    Recorded.trans (fun _ h => h) ?_ env plain.within rfl
  rintro c (quiet | ⟨create, actor, photoObjectID, rfl⟩) now d x asked after performed
  · exact recorded_of_checkins (Call.checkins_perform (Call.Quiet.leavesCheckins quiet) performed)
  · dsimp only [calls, Call.perform] at performed
    exact recorded_insertCheckin (Call.returning_ok.1 performed).2

theorem recorded_update (env : Environment (calls libs)) (id : ID) (mutation : CheckinMutation) :
    Recorded station user (· = id) d (Program.run env (Service.updateCheckin id mutation) { db := d }).2.db := by
  have plain : (Service.updateCheckin id mutation : Service libs Checkin).Plain (UpdateCall id) := plain_updateCheckin
  refine run_within (w := { db := d }) (Recorded station user (· = id)) (fun _ => recorded_of_checkins rfl)
    Recorded.trans (fun _ h => h) ?_ env plain.within rfl
  rintro c (quiet | ⟨mutation, rfl⟩) now d x asked after performed
  · exact recorded_of_checkins (Call.checkins_perform (Call.Quiet.leavesCheckins quiet) performed)
  · dsimp only [calls, Call.perform] at performed
    exact recorded_updateCheckin (Call.returning_ok.1 performed).2

/-- Nothing happens, or the station `k` goes, from its check-ins too. -/
def Detached (k : ID) (d d' : Db) : Prop :=
  d'.stations = d.stations ∧ d'.checkins = d.checkins ∨
    (d.stations.row k).isSome ∧ d'.stations.row k = none ∧ Recorded (· = k) (fun _ => False) (fun _ => False) d d'

theorem Detached.trans {k : ID} {a b c : Db} (first : Detached k a b) (second : Detached k b c) : Detached k a c := by
  rcases first with ⟨stations, checkins⟩ | ⟨there, gone, recorded⟩
  · rcases second with ⟨stations', checkins'⟩ | ⟨there, gone, recorded⟩
    · exact .inl ⟨stations'.trans stations, checkins'.trans checkins⟩
    · rw [stations] at there
      exact .inr ⟨there, gone, (recorded_of_checkins checkins).trans recorded⟩
  · rcases second with ⟨stations, checkins⟩ | ⟨there', _⟩
    · refine .inr ⟨there, ?_, recorded.trans (recorded_of_checkins checkins)⟩
      rw [stations]
      exact gone
    · rw [gone] at there'
      cases there'

theorem detached_delete (env : Environment (calls libs)) (k : ID) :
    Detached k d (Program.run env (Stations.Service.delete k) { db := d }).2.db := by
  have deletes : (Stations.Service.delete k : Service libs Unit).Within fun c => c = Call.deleteStation k :=
    (plain_send (P := fun c => c = Call.deleteStation k) rfl).within.bind fun _ => by trivial
  refine run_within (w := { db := d }) (Detached k) (fun _ => .inl ⟨rfl, rfl⟩) Detached.trans (fun _ h => h) ?_ env deletes rfl
  rintro c rfl now d x asked after performed
  dsimp only [calls, Call.perform] at performed
  have deleted := (Call.returning_ok.1 performed).2
  have there : (d.stations.row k).isSome := by
    unfold Stations.deleteStation at deleted
    split at deleted
    · cases deleted
    · rename_i found
      exact Option.isSome_iff_exists.2 ⟨_, found⟩
  have gone : after.stations.row k = none := by
    rw [(Stations.deleteStation_ok deleted).1]
    exact Table.row_erase_self ..
  exact .inr ⟨there, gone, recorded_deleteStation deleted⟩

/-- An event of the directory. -/
theorem directory_recorded {event : Directory.Event libs} (h : Directory.step libs d event = some d') :
    Recorded station
      (fun u => (∃ now, event = .deleteUser now u) ∧ Directory.IsLocal d u ∧ d'.users.row u = none)
      (fun id => ∃ env mutation, event = .updateCheckin env id mutation) d d' := by
  cases event with
  | applyProviderSnapshot now source snapshot =>
    obtain ⟨_, groups, users, _, _, rfl⟩ := Directory.applyProviderSnapshot_ok (toOption_eq_some.1 h)
    exact recorded_of_checkins rfl
  | createUser now params =>
    obtain ⟨_, mid, inserted, replaced⟩ := runStatements_cons_ok.1 (toOption_eq_some.1 h)
    obtain ⟨row, _, _, _, _, _, _, rfl⟩ := Directory.insertUser_ok (Sql.mapError_ok.1 inserted)
    obtain ⟨userRoles, rfl, _⟩ := Directory.replaceUserRoles_ok replaced
    exact recorded_of_checkins rfl
  | updateUser now id params =>
    obtain ⟨_, mid, written, replaced⟩ := runStatements_cons_ok.1 (toOption_eq_some.1 h)
    obtain ⟨old, _, _, _, rfl⟩ := Directory.writeUser_ok (Sql.mapError_ok.1 written)
    obtain ⟨userRoles, rfl, _⟩ := Directory.replaceUserRoles_ok replaced
    exact recorded_of_checkins rfl
  | updateAccount now id params =>
    obtain ⟨_, mid, written, rest⟩ := runStatements_cons_ok.1 (toOption_eq_some.1 h)
    cases rest
    obtain ⟨old, _, _, _, rfl⟩ := Directory.writeUser_ok (Sql.mapError_ok.1 written)
    exact recorded_of_checkins rfl
  | setUserRolesByEmail now email roleIDs =>
    obtain ⟨_, accepted, ran⟩ := transact_ok.1 (toOption_eq_some.1 h)
    unfold Directory.setUserRolesByEmail at accepted
    split at accepted
    · cases accepted
    cases accepted
    obtain ⟨mid, first, last⟩ := runStatements_append_ok.1 ran
    obtain ⟨_, held, locked, replaced⟩ := runStatements_cons_ok.1 first
    obtain ⟨rfl, _⟩ := Directory.lockUser_ok (Sql.mapError_ok.1 locked)
    obtain ⟨userRoles, rfl, _⟩ := Directory.replaceUserRoles_ok replaced
    obtain ⟨_, mid, written, rest⟩ := runStatements_cons_ok.1 last
    cases rest
    obtain ⟨old, _, _, _, rfl⟩ := Directory.writeUser_ok (Sql.mapError_ok.1 written)
    exact recorded_of_checkins rfl
  | setAPIKey now id key =>
    obtain ⟨_, mid, written, rest⟩ := runStatements_cons_ok.1 (toOption_eq_some.1 h)
    cases rest
    obtain ⟨old, _, _, _, rfl⟩ := Directory.writeUser_ok (Sql.mapError_ok.1 written)
    exact recorded_of_checkins rfl
  | clearAPIKey now id =>
    obtain ⟨_, mid, written, rest⟩ := runStatements_cons_ok.1 (toOption_eq_some.1 h)
    cases rest
    obtain ⟨old, _, _, _, rfl⟩ := Directory.writeUser_ok (Sql.mapError_ok.1 written)
    exact recorded_of_checkins rfl
  | deleteUser now id =>
    obtain ⟨_, accepted, ran⟩ := transact_ok.1 (toOption_eq_some.1 h)
    unfold Directory.deleteUser at accepted
    split at accepted
    · cases accepted
    rename_i u target
    cases accepted
    obtain ⟨_, held, locked, next⟩ := runStatements_cons_ok.1 ran
    have same : held = d := (Directory.lockUser_ok (Sql.mapError_ok.1 locked)).1
    rw [same] at next
    obtain ⟨_, mid, removed, rest⟩ := runStatements_cons_ok.1 next
    cases rest
    have found : d.users.row id = some u := (Option.filter_eq_some_iff.1 target).1
    refine (recorded_removeUser (Sql.mapError_ok.1 removed)).mono (fun _ deletes => deletes) ?_ (fun _ never => never)
    rintro _ ⟨rfl, hard, gone⟩
    exact ⟨⟨now, rfl⟩, ⟨u, found, hard⟩, gone⟩
  | deleteRole id =>
    obtain ⟨_, mid, deleted, rest⟩ := runStatements_cons_ok.1 (toOption_eq_some.1 h)
    cases rest
    unfold Directory.deleteRole at deleted
    split at deleted
    · cases deleted
    split at deleted <;> cases deleted
    exact recorded_of_checkins rfl
  | submit env create actor photo =>
    cases h
    exact (recorded_submit env create actor photo).mono (fun _ => id) (fun _ => id) fun _ never => never.elim
  | updateCheckin env id mutation =>
    cases h
    refine (recorded_update env id mutation).mono (fun _ h => h) (fun _ h => h) ?_
    rintro _ rfl
    exact ⟨env, mutation, rfl⟩
  | failed drawn =>
    simp only [Directory.step] at h
    split at h <;> cases h
    exact recorded_of_checkins rfl

end Events

section Runs

variable {libs : Libraries} {sha256Hex : String → String} {serverURL : String} {d d' : Db}

/-- **What one event can do to a check-in.** -/
theorem step_recorded {event : Event libs} (h : step libs sha256Hex serverURL d event = some d') :
    Recorded (fun k => event.DeletesStation sha256Hex serverURL k d) (fun u => event.HardDeletes sha256Hex serverURL u d)
      (fun id => event.Updates id d) d d' := by
  cases event with
  | directory event =>
    refine (directory_recorded h).mono (fun _ => id) ?_ ?_
    · rintro u ⟨⟨now, rfl⟩, isLocal, gone⟩
      exact ⟨⟨now, rfl⟩, isLocal, d', h, gone⟩
    · rintro id ⟨env, mutation, rfl⟩
      exact ⟨env, mutation, rfl⟩
  | createStation env mutation token =>
    rw [← Option.some.inj h]
    exact recorded_of_checkins (checkins_run env leavesCheckins_createStation)
  | updateStation env id mutation =>
    rw [← Option.some.inj h]
    exact recorded_of_checkins (checkins_run env leavesCheckins_updateStation)
  | rotateKey env id token =>
    rw [← Option.some.inj h]
    exact recorded_of_checkins (checkins_run env leavesCheckins_rotateKey)
  | deleteStation env k =>
    have detached : Detached k d d' := by
      rw [← Option.some.inj h]
      exact detached_delete env k
    rcases detached with ⟨_, same⟩ | ⟨there, gone, recorded⟩
    · exact recorded_of_checkins same
    · refine recorded.mono ?_ (fun _ never => never.elim) (fun _ never => never.elim)
      rintro _ rfl
      exact ⟨⟨env, rfl⟩, there, d', h, gone⟩
  | createLocation env mutation =>
    rw [← Option.some.inj h]
    exact recorded_of_checkins (checkins_run env leavesCheckins_createLocation)
  | updateLocation env id mutation =>
    rw [← Option.some.inj h]
    exact recorded_of_checkins (checkins_run env leavesCheckins_updateLocation)
  | deleteLocation env id =>
    rw [← Option.some.inj h]
    exact recorded_of_checkins (checkins_run env leavesCheckins_deleteLocation)

end Runs

/-- **Attribution is permanent.** In any run a check-in that is there stays, with who made it, its photo and its time;
it loses its station or its creator only where exactly that one is deleted, and its visit changes only where an
`UpdateCheckin` of it runs. -/
theorem attribution_permanent (libs : Libraries) (sha256Hex : String → String) (serverURL : String) {d d' : Db}
    {events : List (Event libs)} (h : run (step libs sha256Hex serverURL) d events = some d') {id : ID} {c : CheckinRow}
    (found : d.checkins.row id = some c) : ∃ c', d'.checkins.row id = some c' ∧
      Kept (fun k => Somewhere (step libs sha256Hex serverURL) (Event.DeletesStation sha256Hex serverURL k) d events)
        (fun u => Somewhere (step libs sha256Hex serverURL) (Event.HardDeletes sha256Hex serverURL u) d events)
        (Somewhere (step libs sha256Hex serverURL) (Event.Updates id) d events) c c' := by
  induction events generalizing d c with
  | nil =>
    cases h
    exact ⟨c, found, .refl c⟩
  | cons event events ih =>
    obtain ⟨s, stepped, rest⟩ := run_cons_iff.1 h
    obtain ⟨c₁, found₁, first⟩ := step_recorded stepped id c found
    obtain ⟨c₂, found₂, later⟩ := ih rest found₁
    refine ⟨c₂, found₂, Kept.trans (first.mono ?_ ?_ .inl) (later.mono ?_ ?_ ?_)⟩
    · exact fun _ => .inl
    · exact fun _ => .inl
    · exact fun _ further => .inr ⟨s, stepped, further⟩
    · exact fun _ further => .inr ⟨s, stepped, further⟩
    · exact fun further => .inr ⟨s, stepped, further⟩

/-- A check-in at a station, made by one local user for another. -/
def stationCheckin : CheckinRow where
  appID := 9
  userID := 1
  locationID := 1
  direction := .directionIn
  actorKind := "station"
  actorAppID := 2
  createdByUserID := some 2
  stationID := some 1
  occurredAt := 3
  createdAt := 3
  updatedAt := 3

def stationCheckins : Db where
  users := .ofList [(1, { appID := 7, email := "ada@example.invalid", createdAt := 0, updatedAt := 0 }),
    (2, { appID := 8, email := "bob@example.invalid", createdAt := 0, updatedAt := 0 })]
  locations := Stations.sampleDb.locations
  stations := Stations.sampleDb.stations
  checkins := .ofList [(1, stationCheckin)]

/-- An environment in which every call succeeds. -/
def undisturbed : Environment (calls sampleLibraries) where
  fault _ := none
  now _ := (5 : Time)

/-- The station is deleted, and the user who made the check-in. -/
def stationDeletions : List (Event sampleLibraries) := [.deleteStation undisturbed 1, .directory (.deleteUser 6 2)]

theorem attribution_permanent_station :
    ∃ d', run (step sampleLibraries Stations.sampleHash "https://desk.example") stationCheckins stationDeletions = some d' ∧
      ∃ c', d'.checkins.row 1 = some c' ∧ c'.stationID = none ∧ c'.createdByUserID = none ∧
        c'.actorKind = "station" ∧ c'.actorAppID = 2 := by
  refine ⟨_, rfl, ?_⟩
  have found : stationCheckins.checkins.row 1 = some stationCheckin := rfl
  obtain ⟨c', after, kept⟩ := attribution_permanent sampleLibraries Stations.sampleHash "https://desk.example"
    (d := stationCheckins) (show run _ _ stationDeletions = some _ from rfl) found
  have cleared : some c' = some { stationCheckin with stationID := none, createdByUserID := none } := after.symm
  refine ⟨c', after, ?_, ?_, kept.actorKind, kept.actorAppID⟩
  · rw [Option.some.inj cleared]
  · rw [Option.some.inj cleared]

end Woodgate.Checkin
