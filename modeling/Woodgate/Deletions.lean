import Woodgate.Checkin.Service
import Woodgate.Constraints
import Woodgate.Directory.Service
import Woodgate.Stations.Service

/-!
# Deletions

What `UserService.Delete`, `Service.DeleteLocation`, `Service.Delete` of the stations and
`Store.DeleteRole` return, when no call fails and nobody else is there. A foreign key that
holds a row is a conflict to `DeleteConflict`, and to `MutationError` it is a missing row:
`deletions_classified` says that the deletion of a local user with check-ins, which uses the
second, is the only one whose failure is misnamed.
-/

namespace Woodgate

open Library Library.ReadCommitted Library.Results Library.Program Postgres

namespace Err

/-- `errors.Is(err, fault.ErrNotFound)` -/
def isNotFound : Err → Bool
  | .notFound => true
  | .wrapped _ e => e.isNotFound
  | _ => false

/-- `errors.Is(err, fault.ErrConflict)` -/
def isConflict : Err → Bool
  | .conflict _ => true
  | .wrapped _ e => e.isConflict
  | _ => false

end Err

namespace Deletions

variable {libs : Libraries}

/-- `UserService.Delete` -/
def deleteUser (id : ID) : Service libs Unit := Directory.Store.deleteUser id

/-- `Store.DeleteRole` -/
def deleteRole (id : ID) (d : Db) : Except Err Unit × Db :=
  match transact (.ok [Directory.deleteRole id]) d with
  | .error e => (.error e, d)
  | .ok after => (.ok (), after)

section Records

variable (id : ID) (d after : Db)

def UserKnown : Prop := ∃ u, d.users.row id = some u ∧ Directory.isActive u = true

/-- A local user's row cannot go while a check-in refers to it. -/
def UserHeld : Prop :=
  (∃ u, d.users.row id = some u ∧ Directory.isActive u = true ∧ u.source = .sourceLocal) ∧
    ∃ j c, d.checkins.row j = some c ∧ c.userID = id

/-- Nothing is left of a local user, and a provider's is a tombstone. -/
def UserGone (now : Time) : Prop := ∀ u, d.users.row id = some u → after.users.row id =
  if u.source = .sourceLocal then none else some { u with deletedAt := some now, updatedAt := now }

def LocationHeld : Prop :=
  (∃ j c, d.checkins.row j = some c ∧ c.locationID = id) ∨ ∃ j s, d.stations.row j = some s ∧ s.locationID = id

def RoleHeld : Prop := ∃ role, d.roles.row id = some role ∧ role.builtin = true

end Records

/-- How the deletion of a record ends: it is not there, it is held by other rows, or it is
there and free. -/
structure Classified (known held : Prop) (gone : Db → Prop) (d : Db) (result : Except Err Unit) (after : Db) : Prop where
  notFound : (∃ e, result = .error e ∧ e.isNotFound = true) ↔ ¬ known
  conflict : known → held → (∃ e, result = .error e ∧ e.isConflict = true) ∧ ∀ k, Db.get k after = Db.get k d
  succeeds : known → ¬ held → result = .ok () ∧ gone after

section Outcomes

variable {known held : Prop} {gone : Db → Prop} {d after : Db} {result : Except Err Unit}

theorem classified_absent (absent : ¬ known) (failed : result = .error .notFound) : Classified known held gone d result after where
  notFound := iff_of_true ⟨_, failed, rfl⟩ absent
  conflict there := absurd there absent
  succeeds there := absurd there absent

theorem classified_held {message : String} (there : known) (holds : held) (failed : result = .error (.conflict message))
    (same : ∀ k, Db.get k after = Db.get k d) : Classified known held gone d result after where
  notFound := iff_of_false (by rintro ⟨_, rfl, found⟩; cases failed; cases found) (not_not_intro there)
  conflict _ _ := ⟨⟨_, failed, rfl⟩, same⟩
  succeeds _ free := absurd holds free

theorem classified_gone (there : known) (free : ¬ held) (ok : result = .ok ()) (done : gone after) :
    Classified known held gone d result after where
  notFound := iff_of_false (by rintro ⟨_, failed, _⟩; cases ok.symm.trans failed) (not_not_intro there)
  conflict _ holds := absurd holds free
  succeeds _ _ := ⟨ok, done⟩

end Outcomes

section Runs

variable {env : Environment (calls libs)} {w : World (calls libs) Notice} {f : Err → Err} {c : Call} {now : Time} {d after : Db}

/-- A call outside a transaction. -/
theorem run_request (calm : ∀ n, env.fault n = none) (idle : w.work = none) :
    run env (Service.mapError f (Service.send c)) w = match c.perform libs (env.now w.calls) w.db with
      | .error e => (.error (f e), w.tick)
      | .ok (x, _, after) => (.ok x, World.tick { w with db := after }) := by
  have clock : w.clock (env.now w.calls) = env.now w.calls := by simp [World.clock, idle]
  have first : run env (Service.send c) w = w.request env c := rfl
  rw [Service.mapError, run_handle, first]
  cases performed : c.perform libs (env.now w.calls) w.db with
  | error e =>
    have refused : (calls libs).perform (env.now w.calls) c w.db = .error e := performed
    simp [World.request, calm, World.view_idle idle, clock, refused, run]
  | ok answer =>
    have answered : (calls libs).perform (env.now w.calls) c w.db = .ok answer := performed
    simp [World.request, calm, World.view_idle idle, clock, answered, run, World.apply_idle idle]

/-- A call inside one. -/
theorem comesTo_refused {e : Err} (refused : c.perform libs now d = .error e) :
    (Service.mapError f (Service.send c) : Service libs _).comesTo now d = some (.error (f e), d) := by
  have sent := @comesTo_send _ _ _ (calls libs) Notice now c d
  have failed : (calls libs).perform now c d = .error e := refused
  rw [failed] at sent
  exact comesTo_handle sent

theorem comesTo_answered {x : c.Answer} {asked : List (RowKey × LockMode)}
    (answered : c.perform libs now d = .ok (x, asked, after)) :
    (Service.mapError f (Service.send c) : Service libs _).comesTo now d = some (.ok x, after) := by
  have sent := @comesTo_send _ _ _ (calls libs) Notice now c d
  have done : (calls libs).perform now c d = .ok (x, asked, after) := answered
  rw [done] at sent
  exact comesTo_handle sent

end Runs

section Outside

variable {env : Environment (calls libs)} {w : World (calls libs) Notice} {id : ID} {d : Db}

theorem deleteRole_classified :
    Classified (d.roles.row id).isSome (RoleHeld id d) (fun after => after.roles.row id = none) d (deleteRole id d).1
      (deleteRole id d).2 := by
  cases found : d.roles.row id with
  | none =>
    apply classified_absent (by simp)
    simp [deleteRole, transact, runStatements, Directory.deleteRole, found, bind, Except.bind]
  | some role =>
    cases builtin : role.builtin with
    | true =>
      have refused : deleteRole id d = (.error (.conflict "builtin roles cannot be deleted"), d) := by
        simp [deleteRole, transact, runStatements, Directory.deleteRole, found, builtin, bind, Except.bind]
      rw [refused]
      exact classified_held rfl ⟨role, found, builtin⟩ rfl fun _ => rfl
    | false =>
      have free : ¬ RoleHeld id d := by
        rintro ⟨role', there, held⟩
        cases found.symm.trans there
        exact absurd (builtin.symm.trans held) (by decide)
      apply classified_gone rfl free
      · simp [deleteRole, transact, runStatements, Directory.deleteRole, found, builtin, bind, Except.bind]
      · simp [deleteRole, transact, runStatements, Directory.deleteRole, found, builtin, bind, Except.bind]

variable (calm : ∀ n, env.fault n = none) (idle : w.work = none)

include calm idle

theorem deleteStation_classified :
    Classified (w.db.stations.row id).isSome False (fun after => after.stations.row id = none) w.db
      (run env (Stations.Service.delete id) w).1 (run env (Stations.Service.delete id) w).2.db := by
  have request := @run_request libs env w (deleteConflict "station is still referenced") (.deleteStation id) calm idle
  cases found : w.db.stations.row id with
  | none =>
    have refused : Call.perform libs (env.now w.calls) (.deleteStation id) w.db = .error .noRows := by
      simp [Call.perform, Call.returning, Stations.deleteStation, found, bind, Except.bind]
    rw [refused] at request
    have ended : run env (Stations.Service.delete id) w = (.error .notFound, w.tick) := run_bind_error request
    rw [ended]
    exact classified_absent (by simp) rfl
  | some s =>
    obtain ⟨asked, after, deleted⟩ : ∃ asked after, Stations.deleteStation id w.db = .ok (asked, after) := by
      simp [Stations.deleteStation, found]
    have performed : Call.perform libs (env.now w.calls) (.deleteStation id) w.db = .ok ((), asked, after) :=
      Call.returning_ok.2 ⟨rfl, deleted⟩
    rw [performed] at request
    have ended : run env (Stations.Service.delete id) w = _ := run_bind_ok request
    rw [ended]
    apply classified_gone rfl not_false
    · rfl
    · show after.stations.row id = none
      rw [(Stations.deleteStation_ok deleted).1, Table.row_erase_self]

omit calm in
/-- `DeleteUnreferenced` is the object store's: it reports nothing and leaves the locations. -/
theorem run_deleteUnreferenced (objectIDs : List ID) :
    ∃ w', run env (Checkin.deleteUnreferenced objectIDs : Service libs Unit) w = (.ok (), w') ∧ w'.db.locations = w.db.locations := by
  obtain ⟨e, failed⟩ | ⟨now, e, refused, answered⟩ | ⟨now, x, asked, after, performed, answered⟩ :=
    w.request_cases env (.deleteUnreferenced objectIDs)
  · exact ⟨_, rfl, by rw [failed]; rfl⟩
  · cases refused
  · refine ⟨_, rfl, ?_⟩
    rw [answered, World.apply_idle idle]
    cases performed
    rw [World.view_idle idle]
    rfl

theorem deleteLocation_classified :
    Classified (w.db.locations.row id).isSome (LocationHeld id w.db) (fun after => after.locations.row id = none) w.db
      (run env (Checkin.Service.deleteLocation id) w).1 (run env (Checkin.Service.deleteLocation id) w).2.db := by
  have request := @run_request libs env w (deleteConflict "location is still referenced") (.deleteLocation id) calm idle
  have fails : ∀ {e}, Checkin.deleteLocation id w.db = .error e →
      run env (Checkin.Service.deleteLocation id) w = (.error (deleteConflict "location is still referenced" e), w.tick) := by
    intro e failed
    have refused : Call.perform libs (env.now w.calls) (.deleteLocation id) w.db = .error e := by
      simp [Call.perform, Call.returning, failed, bind, Except.bind]
    rw [refused] at request
    exact run_bind_error request
  cases found : w.db.locations.row id with
  | none =>
    have failed : Checkin.deleteLocation id w.db = .error .noRows := by simp [Checkin.deleteLocation, found]
    rw [fails failed]
    exact classified_absent (by simp) rfl
  | some l =>
    by_cases visited : ∃ j c, w.db.checkins.row j = some c ∧ c.locationID = id
    · have failed : Checkin.deleteLocation id w.db = .error (.sqlState .foreignKeyViolation) := by
        have used : w.db.checkins.exists? (fun _ c => decide (c.locationID = id)) = true :=
          Table.exists?_iff.2 (by simpa using visited)
        simp [Checkin.deleteLocation, found, used]
      rw [fails failed]
      exact classified_held rfl (.inl visited) rfl fun _ => rfl
    · have unvisited : w.db.checkins.exists? (fun _ c => decide (c.locationID = id)) = false :=
        Bool.eq_false_iff.2 fun used => visited (by simpa using Table.exists?_iff.1 used)
      by_cases stationed : ∃ j s, w.db.stations.row j = some s ∧ s.locationID = id
      · have failed : Checkin.deleteLocation id w.db = .error (.sqlState .restrictViolation) := by
          have used : w.db.stations.exists? (fun _ s => decide (s.locationID = id)) = true :=
            Table.exists?_iff.2 (by simpa using stationed)
          simp [Checkin.deleteLocation, found, unvisited, used]
        rw [fails failed]
        exact classified_held rfl (.inr stationed) rfl fun _ => rfl
      · have vacant : w.db.stations.exists? (fun _ s => decide (s.locationID = id)) = false :=
          Bool.eq_false_iff.2 fun used => stationed (by simpa using Table.exists?_iff.1 used)
        obtain ⟨asked, after, deleted⟩ : ∃ asked after, Checkin.deleteLocation id w.db = .ok (asked, after) := by
          simp [Checkin.deleteLocation, found, unvisited, vacant]
        have performed : Call.perform libs (env.now w.calls) (.deleteLocation id) w.db =
            .ok ((l.backgroundObjectID, l.logoObjectID), asked, after) :=
          Call.returning_ok.2 ⟨by rw [found]; rfl, deleted⟩
        rw [performed] at request
        obtain ⟨w', dropped, locations⟩ := @run_deleteUnreferenced libs env (World.tick { w with db := after }) idle
          (Checkin.pointerIDs [l.backgroundObjectID, l.logoObjectID])
        have ended : run env (Checkin.Service.deleteLocation id) w = (.ok (), w') := (run_bind_ok request).trans dropped
        rw [ended]
        apply classified_gone rfl (fun held => held.elim visited stationed) rfl
        show w'.db.locations.row id = none
        rw [locations]
        show after.locations.row id = none
        rw [(Checkin.deleteLocation_ok deleted).2, Table.row_erase_self]

end Outside

section Users

variable {env : Environment (calls libs)} {w : World (calls libs) Notice} {id : ID} {now : Time} {d : Db}

/-- A tombstone collides with nobody its user did not collide with. -/
theorem userConstraints_tombstone {u : UserRow} (source : u.source = .sourceLocal ↔ u.externalID = none)
    (separate : d.users.Separate Directory.userCollides) (found : d.users.row id = some u) :
    Directory.userConstraints d.users id { u with deletedAt := some now, updatedAt := now } = .ok () := by
  have apart : d.users.exists? (fun j v => decide (j ≠ id) &&
      Directory.userCollides v { u with deletedAt := some now, updatedAt := now }) = false := by
    refine Table.exists?_eq_false_iff.2 fun j v there => ?_
    by_cases same : j = id
    · simp [same]
    · have free := separate j id v u same there found
      simp only [Directory.userCollides, Bool.or_eq_false_iff] at free
      simp [Directory.userCollides, free]
  have checked : decide (u.source = .sourceLocal) = u.externalID.isNone := by
    rw [Bool.eq_iff_iff, decide_eq_true_iff, source, Option.isNone_iff_eq_none]
  unfold Directory.userConstraints
  rw [if_neg (not_not_intro checked), apart]
  rfl

/-- What the first statement of `deleteUser` finds. -/
theorem lockUser_absent (absent : ¬ UserKnown id d) : Call.perform libs now (.lockUser id) d = .error .noRows := by
  have empty : (d.users.row id).filter Directory.isActive = none := by
    cases found : d.users.row id with
    | none => rfl
    | some u =>
      have inactive : Directory.isActive u = false := Bool.eq_false_iff.2 fun active => absent ⟨u, found, active⟩
      simp [inactive]
  simp [Call.perform, Call.returning, Directory.lockUser, empty, bind, Except.bind]

theorem lockUser_known {u : UserRow} (found : d.users.row id = some u) (active : Directory.isActive u = true) :
    Call.perform libs now (.lockUser id) d = .ok (u.source, [(.user id, .update)], d) := by
  have kept : (some u).filter Directory.isActive = some u := by simp [active]
  refine Call.returning_ok.2 ⟨by rw [found]; rfl, ?_⟩
  rw [Directory.lockUser, found, kept]

/-- The second statement of `deleteUser`, where it is not refused. -/
theorem removeUser_free {u : UserRow} (source : u.source = .sourceLocal ↔ u.externalID = none)
    (separate : d.users.Separate Directory.userCollides) (found : d.users.row id = some u)
    (free : u.source = .sourceLocal → ¬ ∃ j c, d.checkins.row j = some c ∧ c.userID = id) :
    ∃ asked after, Directory.removeUser now u.source id d = .ok (asked, after) ∧ UserGone id d after now := by
  by_cases own : u.source = .sourceLocal
  · have unvisited : d.checkins.exists? (fun _ c => decide (c.userID = id)) = false :=
      Bool.eq_false_iff.2 fun used => free own (by simpa using Table.exists?_iff.1 used)
    rw [Directory.removeUser, if_pos own, if_neg (by simp [found]), if_neg (by simp [unvisited])]
    refine ⟨_, _, rfl, fun v there => ?_⟩
    cases found.symm.trans there
    rw [if_pos own]
    exact Table.row_erase_self _ _
  · have checked := @userConstraints_tombstone id now d u source separate found
    have kept : (some u).filter (fun _ => true) = some u := by simp
    rw [Directory.removeUser, if_neg own, Directory.writeUser, found, kept]
    dsimp only
    rw [checked]
    refine ⟨_, _, rfl, fun v there => ?_⟩
    cases found.symm.trans there
    rw [if_neg own]
    exact Table.row_set_self _ _ _

/-- The body of the transaction, where the first statement finds a row. -/
theorem comesTo_deleteUser {u : UserRow} {result : Except Err Unit} {after : Db} (found : d.users.row id = some u)
    (active : Directory.isActive u = true)
    (second : (Service.mapError mutationError (Service.send (.removeUser u.source id)) : Service libs Unit).comesTo now d =
      some (result, after)) :
    (do
      let source : Source ← Service.mapError getError (Service.send (.lockUser id))
      Service.mapError mutationError (Service.send (.removeUser source id)) : Service libs Unit).comesTo now d =
        some (result, after) :=
  (comesTo_handle (comesTo_answered (lockUser_known found active))).trans second

variable (calm : ∀ n, env.fault n = none)

include calm

/-- A held user is reported as missing. -/
theorem deleteUser_held (held : UserHeld id w.db) : (run env (deleteUser id : Service libs Unit) w).1 = .error .notFound := by
  obtain ⟨⟨u, found, active, own⟩, visited⟩ := held
  have used : w.db.checkins.exists? (fun _ c => decide (c.userID = id)) = true := Table.exists?_iff.2 (by simpa using visited)
  have refused : Call.perform libs (env.now w.calls) (.removeUser u.source id) w.db = .error (.sqlState .foreignKeyViolation) := by
    simp [Call.perform, Call.returning, Directory.removeUser, own, found, used, bind, Except.bind]
  exact (run_transaction_calm calm (comesTo_deleteUser found active (comesTo_refused refused))).1

theorem deleteUser_classified (source : ∀ id u, w.db.users.row id = some u → (u.source = .sourceLocal ↔ u.externalID = none))
    (separate : w.db.users.Separate Directory.userCollides) (free : ¬ UserHeld id w.db) :
    Classified (UserKnown id w.db) (UserHeld id w.db) (fun after => UserGone id w.db after (env.now w.calls)) w.db
      (run env (deleteUser id : Service libs Unit) w).1 (run env (deleteUser id : Service libs Unit) w).2.db := by
  by_cases known : UserKnown id w.db
  · obtain ⟨u, found, active⟩ := known
    obtain ⟨asked, after, removed, gone⟩ := @removeUser_free id (env.now w.calls) w.db u (source id u found) separate found
      fun own visited => free ⟨⟨u, found, active, own⟩, visited⟩
    have performed : Call.perform libs (env.now w.calls) (.removeUser u.source id) w.db = .ok ((), asked, after) :=
      Call.returning_ok.2 ⟨rfl, removed⟩
    obtain ⟨ended, _, _, committed⟩ :=
      run_transaction_calm calm (comesTo_deleteUser found active (comesTo_answered performed))
    have written : (run env (deleteUser id : Service libs Unit) w).2.db = after := committed () rfl
    exact classified_gone ⟨u, found, active⟩ free ended (by rw [written]; exact gone)
  · have body : (do
        let source : Source ← Service.mapError getError (Service.send (.lockUser id))
        Service.mapError mutationError (Service.send (.removeUser source id)) : Service libs Unit).comesTo (env.now w.calls) w.db =
          some (.error .notFound, w.db) := comesTo_handle (comesTo_refused (lockUser_absent known))
    exact classified_absent known (run_transaction_calm calm body).1

end Users

section Main

variable {env : Environment (calls libs)} {w : World (calls libs) Notice}

/-- **All four deletions tell a missing record from a held one**, unless the user to be deleted is
a local one that a check-in refers to. The two hypotheses about users are their check and
their unique indexes. -/
theorem deletions_classified (calm : ∀ n, env.fault n = none) (idle : w.work = none)
    (source : ∀ id u, w.db.users.row id = some u → (u.source = .sourceLocal ↔ u.externalID = none))
    (separate : w.db.users.Separate Directory.userCollides) (userID locationID stationID roleID : ID) :
    (Classified (UserKnown userID w.db) (UserHeld userID w.db) (fun after => UserGone userID w.db after (env.now w.calls)) w.db
        (run env (deleteUser userID : Service libs Unit) w).1 (run env (deleteUser userID : Service libs Unit) w).2.db ∧
      Classified (w.db.locations.row locationID).isSome (LocationHeld locationID w.db)
        (fun after => after.locations.row locationID = none) w.db (run env (Checkin.Service.deleteLocation locationID) w).1
        (run env (Checkin.Service.deleteLocation locationID) w).2.db ∧
      Classified (w.db.stations.row stationID).isSome False (fun after => after.stations.row stationID = none) w.db
        (run env (Stations.Service.delete stationID) w).1 (run env (Stations.Service.delete stationID) w).2.db ∧
      Classified (w.db.roles.row roleID).isSome (RoleHeld roleID w.db) (fun after => after.roles.row roleID = none) w.db
        (deleteRole roleID w.db).1 (deleteRole roleID w.db).2) ↔
      ¬ UserHeld userID w.db := by
  constructor
  · rintro ⟨users, _⟩ held
    obtain ⟨u, found, active, _⟩ := held.1
    obtain ⟨⟨e, failed, conflict⟩, _⟩ := users.conflict ⟨u, found, active⟩ held
    cases (deleteUser_held calm held).symm.trans failed
    cases conflict
  · intro free
    exact ⟨deleteUser_classified calm source separate free, deleteLocation_classified calm idle,
      deleteStation_classified calm idle, deleteRole_classified⟩

/-- A local user and one of the provider's, both with check-ins. -/
def visitedDb : Db where
  users := .ofList [(1, { appID := 0, email := "ada@example.com", createdAt := 0, updatedAt := 0 }),
    (2, { appID := 1, email := "bea@example.com", source := .sourceEntra, externalID := some "b", createdAt := 0, updatedAt := 0 })]
  roles := .ofList [(1, { key := "admin", name := "Admin", builtin := true, createdAt := 0, updatedAt := 0 })]
  locations := .ofList [(1, { appID := 2, name := "Gate", createdAt := 0, updatedAt := 0 })]
  stations := .ofList [(1, { appID := 3, name := "Desk", locationID := 1, secretHash := "h", createdAt := 0, updatedAt := 0 })]
  checkins := .ofList [(1, {
      appID := 4, userID := 1, locationID := 1, direction := .directionIn, actorKind := "user", actorAppID := 0
      occurredAt := 0, createdAt := 0, updatedAt := 0 }),
    (2, {
      appID := 5, userID := 2, locationID := 1, direction := .directionIn, actorKind := "user", actorAppID := 0
      occurredAt := 0, createdAt := 0, updatedAt := 0 })]

def noFaults : Environment (calls sampleLibraries) where
  fault _ := none
  now _ := (7 : Time)

theorem visitedDb_source : ∀ id u, visitedDb.users.row id = some u → (u.source = .sourceLocal ↔ u.externalID = none) := by
  decide +kernel

theorem visitedDb_separate : visitedDb.users.Separate Directory.userCollides := by
  decide +kernel

/-- The provider's user leaves a tombstone, although a check-in refers to it. -/
theorem deletions_classified_visited : ∃ w : World (calls sampleLibraries) Notice, w.db = visitedDb ∧
    (run noFaults (deleteUser 2 : Service sampleLibraries Unit) w).1 = .ok () ∧
    UserGone 2 visitedDb (run noFaults (deleteUser 2 : Service sampleLibraries Unit) w).2.db 7 ∧
    ∃ e, (run noFaults (Checkin.Service.deleteLocation 1) w).1 = .error e ∧ e.isConflict = true := by
  have free : ¬ UserHeld 2 visitedDb := by
    rintro ⟨⟨u, found, _, own⟩, _⟩
    cases found
    cases own
  obtain ⟨users, locations, _, _⟩ := (@deletions_classified sampleLibraries noFaults { db := visitedDb } (fun _ => rfl) rfl
    visitedDb_source visitedDb_separate 2 1 1 1).2 free
  have known : UserKnown 2 visitedDb := ⟨_, rfl, rfl⟩
  obtain ⟨ok, gone⟩ := users.succeeds known free
  exact ⟨{ db := visitedDb }, rfl, ok, gone, (locations.conflict rfl (.inl ⟨1, _, rfl, rfl⟩)).1⟩

/-- The local user is there and is reported as missing. -/
theorem deleteUser_visited : ∃ w : World (calls sampleLibraries) Notice, w.db = visitedDb ∧
    (run noFaults (deleteUser 1 : Service sampleLibraries Unit) w).1 = .error .notFound ∧
    ¬ Classified (UserKnown 1 visitedDb) (UserHeld 1 visitedDb) (fun after => UserGone 1 visitedDb after 7) visitedDb
      (run noFaults (deleteUser 1 : Service sampleLibraries Unit) w).1
      (run noFaults (deleteUser 1 : Service sampleLibraries Unit) w).2.db := by
  refine ⟨{ db := visitedDb }, rfl, rfl, fun classified => ?_⟩
  exact classified.notFound.1 ⟨_, rfl, rfl⟩ ⟨_, rfl, rfl⟩

end Main

end Deletions

end Woodgate
