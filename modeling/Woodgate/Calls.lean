import Woodgate.Checkin.Store
import Woodgate.Directory.UserStore
import Woodgate.Library.Programs
import Woodgate.Stations.Store

/-!
# The calls of the services

`Call` lists what the services send to the database and to the object store, with the type
of the answer; `perform` says what each does. The two libraries that are not the
repository's, the object store and the detection of media types, are parameters: all the
object store can touch is `storage_objects`.
-/

namespace Woodgate

open Library Library.ReadCommitted Postgres

/-- The object store. `deleteUnreferenced` drops what it can and reports nothing. -/
structure Bloby where
  available : ObjectRow → Bool
  finalize : Time → (objectID : ID) → (objectPrefix : String) → Table ID ObjectRow → Except Err (ID × Table ID ObjectRow)
  write : Time → (objectPrefix filename contentType : String) → List UInt8 → Table ID ObjectRow →
    Except Err (ID × Table ID ObjectRow)
  deleteUnreferenced : Time → List ID → Db → Table ID ObjectRow

/-- The detection of media types. -/
structure Mimetype where
  detect : List UInt8 → String
  lookup : (contentType : String) → Option String
  is : (detected mime : String) → Bool

structure Libraries where
  locale : DbLocale
  objects : Bloby
  mimetype : Mimetype

/-- A store without objects. -/
def sampleLibraries : Libraries where
  locale := .c
  objects := {
    available := fun object => object.availableAt.isSome
    finalize := fun _ _ _ _ => .error .notFound
    write := fun _ _ _ _ _ _ => .error .interrupted
    deleteUnreferenced := fun _ _ d => d.storageObjects }
  mimetype := { detect := fun _ => "application/octet-stream", lookup := some, is := fun a b => decide (a = b) }

inductive Call where
  -- check-ins
  | selectLocation (id : ID)
  | selectLocationGroups (id : ID)
  | personEligible (locationID userID : ID)
  | userActor (id : ID)
  | stationActor (id : ID)
  | selectCheckin (id : ID)
  | insertCheckin (create : Checkin.CheckinCreate) (actor : Checkin.Actor) (photoObjectID : Option ID)
  | updateCheckin (id : ID) (mutation : Checkin.CheckinMutation)
  -- locations
  | selectImage (objectID : ID)
  | insertLocation (mutation : Checkin.LocationMutation)
  | lockLocation (id : ID)
  | updateLocation (id : ID) (mutation : Checkin.LocationMutation)
  | deleteLocationGroups (locationID : ID)
  | insertLocationGroup (locationID groupID : ID)
  | deleteLocation (id : ID)
  -- stations
  | selectStation (id : ID)
  | insertStation (mutation : Stations.StationMutation) (secretHash : String)
  | updateStation (id : ID) (mutation : Stations.StationMutation)
  | updateSecretHash (id : ID) (secretHash : String)
  | deleteSession (stationID : ID)
  | deleteRejection (stationID : ID)
  | deleteStation (id : ID)
  -- the directory
  | lockUser (id : ID)
  | removeUser (source : Source) (id : ID)
  | snapshot (statement : Time → Sql)
  -- the object store
  | finalizeObject (objectID : ID) (objectPrefix : String)
  | writeObject (objectPrefix filename contentType : String) (content : List UInt8)
  | deleteUnreferenced (objectIDs : List ID)

namespace Call

def Answer : Call → Type
  | .selectLocation _ => Checkin.Location
  | .selectLocationGroups _ => List Checkin.GroupSummary
  | .personEligible _ _ => Bool
  | .userActor _ | .stationActor _ => UUID
  | .selectCheckin _ => Checkin.Checkin
  | .selectImage _ => ObjectRow
  | .lockLocation _ | .deleteLocation _ => Option ID × Option ID
  | .selectStation _ => Stations.Station
  | .lockUser _ => Source
  | .insertCheckin _ _ _ | .insertLocation _ | .insertStation _ _ | .finalizeObject _ _ | .writeObject _ _ _ _ => ID
  | .updateCheckin _ _ | .updateLocation _ _ | .deleteLocationGroups _ | .insertLocationGroup _ _ | .updateStation _ _
  | .updateSecretHash _ _ | .deleteSession _ | .deleteRejection _ | .deleteStation _ | .removeUser _ _ | .snapshot _
  | .deleteUnreferenced _ => Unit

/-- What a call answers and does. -/
abbrev Outcome (X : Type) : Type := Except Err (X × List (RowKey × LockMode) × Db)

/-- A query of one row. -/
def one {X : Type} (row : Option X) (d : Db) : Outcome X :=
  match row with
  | some x => .ok (x, [], d)
  | none => .error .noRows

/-- A statement with the columns of one row. -/
def returning {X : Type} (row : Option X) (statement : Sql) (d : Db) : Except Err (X × List (RowKey × LockMode) × Db) := do
  let (asked, after) ← statement d
  match row with
  | some x => .ok (x, asked, after)
  | none => .error .noRows

/-- A call to the object store. -/
def storing (result : Except Err (ID × Table ID ObjectRow)) (d : Db) : Except Err (ID × List (RowKey × LockMode) × Db) := do
  let (objectID, storageObjects) ← result
  .ok (objectID, [], { d with storageObjects })

variable (libs : Libraries) (now : Time)

def perform : (c : Call) → Db → Outcome c.Answer
  | .selectLocation id, d => one (Checkin.locationSelect id d) d
  | .selectLocationGroups id, d => .ok (Checkin.locationGroups libs.locale id d, [], d)
  | .personEligible locationID userID, d => .ok (Checkin.personEligible locationID userID d, [], d)
  | .userActor id, d => one ((d.users.row id).map UserRow.appID) d
  | .stationActor id, d => one ((d.stations.row id).map StationRow.appID) d
  | .selectCheckin id, d => one (Checkin.checkinSelect id d) d
  | .insertCheckin create actor photo, d => returning (some d.seq.checkins) (Checkin.insertCheckin now create actor photo) d
  | .updateCheckin id mutation, d => returning (some ()) (Checkin.updateCheckin now id mutation) d
  | .selectImage objectID, d => returning (d.storageObjects.row objectID) (Checkin.selectImage objectID) d
  | .insertLocation mutation, d => returning (some d.seq.locations) (Checkin.insertLocation now mutation) d
  | .lockLocation id, d =>
    returning ((d.locations.row id).map fun l => (l.backgroundObjectID, l.logoObjectID)) (Checkin.lockLocation id) d
  | .updateLocation id mutation, d => returning (some ()) (Checkin.updateLocation now id mutation) d
  | .deleteLocationGroups locationID, d => returning (some ()) (Checkin.deleteLocationGroups locationID) d
  | .insertLocationGroup locationID groupID, d => returning (some ()) (Checkin.insertLocationGroup locationID groupID) d
  | .deleteLocation id, d =>
    returning ((d.locations.row id).map fun l => (l.backgroundObjectID, l.logoObjectID)) (Checkin.deleteLocation id) d
  | .selectStation id, d => one (Stations.stationSelect now id d) d
  | .insertStation mutation hash, d => returning (some d.seq.stations) (Stations.insertStation now mutation hash) d
  | .updateStation id mutation, d => returning (some ()) (Stations.updateStation now id mutation) d
  | .updateSecretHash id hash, d => returning (some ()) (Stations.updateSecretHash now id hash) d
  | .deleteSession stationID, d => returning (some ()) (Stations.deleteSession stationID) d
  | .deleteRejection stationID, d => returning (some ()) (Stations.deleteRejection stationID) d
  | .deleteStation id, d => returning (some ()) (Stations.deleteStation id) d
  | .lockUser id, d => returning ((d.users.row id).map UserRow.source) (Directory.lockUser id Directory.isActive) d
  | .removeUser source id, d => returning (some ()) (Directory.removeUser now source id) d
  | .snapshot statement, d => returning (some ()) (statement now) d
  | .finalizeObject objectID objectPrefix, d => storing (libs.objects.finalize now objectID objectPrefix d.storageObjects) d
  | .writeObject objectPrefix filename contentType content, d =>
    storing (libs.objects.write now objectPrefix filename contentType content d.storageObjects) d
  | .deleteUnreferenced objectIDs, d =>
    .ok ((), [], { d with storageObjects := libs.objects.deleteUnreferenced now objectIDs d })

section Outcomes

variable {X : Type} {x : X} {row : Option X} {asked : List (RowKey × LockMode)} {d d' : Db}

theorem one_ok : one row d = .ok (x, asked, d') ↔ row = some x ∧ asked = [] ∧ d' = d := by
  cases row with
  | none => simp [one]
  | some y => simp [one, eq_comm]

theorem returning_ok {statement : Sql} : returning row statement d = .ok (x, asked, d') ↔
    row = some x ∧ statement d = .ok (asked, d') := by
  rw [returning, Results.bind_ok]
  constructor
  · rintro ⟨⟨asked', after⟩, sent, returned⟩
    cases row with
    | none => cases returned
    | some y =>
      cases returned
      exact ⟨rfl, sent⟩
  · rintro ⟨rfl, sent⟩
    exact ⟨(asked, d'), sent, rfl⟩

theorem storing_ok {result : Except Err (ID × Table ID ObjectRow)} {objectID : ID} :
    storing result d = .ok (objectID, asked, d') ↔
      asked = [] ∧ ∃ storageObjects, result = .ok (objectID, storageObjects) ∧ d' = { d with storageObjects } := by
  rw [storing, Results.bind_ok]
  constructor
  · rintro ⟨⟨objectID', storageObjects⟩, stored, returned⟩
    cases returned
    exact ⟨rfl, storageObjects, stored, rfl⟩
  · rintro ⟨rfl, storageObjects, stored, rfl⟩
    exact ⟨(objectID, storageObjects), stored, rfl⟩

end Outcomes

section Quiet

/-- The call changes nothing but `storage_objects`. -/
def Quiet : Call → Prop
  | .selectLocation _ | .selectLocationGroups _ | .personEligible _ _ | .userActor _ | .stationActor _ | .selectCheckin _
  | .selectImage _ | .lockLocation _ | .selectStation _ | .lockUser _ | .finalizeObject _ _ | .writeObject _ _ _ _
  | .deleteUnreferenced _ => True
  | _ => False

theorem perform_quiet {libs : Libraries} {now : Time} {c : Call} {d after : Db} {x : c.Answer}
    {asked : List (RowKey × LockMode)} (quiet : c.Quiet) (h : c.perform libs now d = .ok (x, asked, after)) :
    ∃ storageObjects, after = { d with storageObjects } := by
  have same : after = d → ∃ storageObjects, after = { d with storageObjects } := fun same => ⟨d.storageObjects, same⟩
  cases c with
  | selectLocation | userActor | stationActor | selectCheckin | selectStation => exact same (one_ok.1 h).2.2
  | selectLocationGroups | personEligible =>
    cases h
    exact same rfl
  | deleteUnreferenced =>
    cases h
    exact ⟨_, rfl⟩
  | selectImage => exact same (Checkin.selectImage_ok (returning_ok.1 h).2)
  | lockLocation => exact same (Checkin.lockLocation_ok (returning_ok.1 h).2).1
  | lockUser => exact same (Directory.lockUser_ok (returning_ok.1 h).2).1
  | finalizeObject | writeObject =>
    obtain ⟨_, storageObjects, _, stored⟩ := storing_ok.1 h
    exact ⟨storageObjects, stored⟩
  | _ => exact quiet.elim

end Quiet

/-- The call leaves the check-ins alone. -/
def LeavesCheckins : Call → Prop
  | .insertCheckin _ _ _ | .updateCheckin _ _ | .deleteStation _ | .removeUser _ _ | .snapshot _ => False
  | _ => True

theorem Quiet.leavesCheckins {c : Call} (quiet : c.Quiet) : c.LeavesCheckins := by
  cases c <;> first | exact quiet.elim | trivial

theorem checkins_perform {libs : Libraries} {now : Time} {c : Call} {d after : Db} {x : c.Answer}
    {asked : List (RowKey × LockMode)} (leaves : c.LeavesCheckins) (h : c.perform libs now d = .ok (x, asked, after)) :
    after.checkins = d.checkins := by
  cases c with
  | insertCheckin | updateCheckin | deleteStation | removeUser | snapshot => exact leaves.elim
  | insertLocation mutation =>
    dsimp only [perform] at h
    rw [(Checkin.insertLocation_ok (returning_ok.1 h).2).2]
  | updateLocation id mutation =>
    dsimp only [perform] at h
    obtain ⟨old, _, stored⟩ := Checkin.updateLocation_ok (returning_ok.1 h).2
    rw [stored]
  | deleteLocationGroups id =>
    cases h
    rfl
  | insertLocationGroup id groupID =>
    dsimp only [perform] at h
    rw [Checkin.insertLocationGroup_ok (returning_ok.1 h).2]
  | deleteLocation id =>
    dsimp only [perform] at h
    rw [(Checkin.deleteLocation_ok (returning_ok.1 h).2).2]
  | insertStation mutation hash =>
    dsimp only [perform] at h
    obtain ⟨_, _, row, _, _, _, _, stored⟩ := Stations.insertStation_ok (returning_ok.1 h).2
    rw [stored]
  | updateStation id mutation =>
    dsimp only [perform] at h
    obtain ⟨old, mode, _, _, _, stored⟩ := Stations.writeStation_ok (returning_ok.1 h).2
    rw [stored]
  | updateSecretHash id hash =>
    dsimp only [perform] at h
    obtain ⟨old, mode, _, _, _, stored⟩ := Stations.writeStation_ok (returning_ok.1 h).2
    rw [stored]
  | deleteSession | deleteRejection =>
    cases h
    rfl
  | _ =>
    obtain ⟨storageObjects, rfl⟩ := perform_quiet (by trivial) h
    rfl

end Call

/-- What a service tells the hub: `LocationChanged`, `ConfigurationChanged`, `Disconnect`. -/
inductive Notice where
  | locationChanged (locationID : ID)
  | configurationChanged (stationID locationID : ID)
  | disconnect (stationID : ID) (reason : String)
  deriving DecidableEq, Repr

/-- The calls, as the programs of the services use them. -/
def calls (libs : Libraries) : Interface Db Err where
  Call := Call
  Answer := Call.Answer
  Time := Time
  perform now c d := c.perform libs now d

/-- A function of a service. -/
abbrev Service (libs : Libraries) (A : Type) : Type := Program (calls libs) Notice A

namespace Service

variable {libs : Libraries} {A : Type}

/-- Send one call. -/
def send (c : Call) : Service libs c.Answer := Program.send (I := calls libs) c

/-- The program, with its errors translated. -/
def mapError (f : Err → Err) (p : Service libs A) : Service libs A :=
  p.handle fun
    | .ok a => .done (.ok a)
    | .error e => .done (.error (f e))

/-- Run every program of the list. -/
def forEach {B : Type} (f : B → Service libs Unit) : List B → Service libs Unit
  | [] => pure ()
  | b :: bs => do
    f b
    forEach f bs

section Plain

variable {P : Call → Prop} {B : Type}

theorem plain_mapError {f : Err → Err} {p : Service libs A} (plain : p.Plain P) : (mapError f p).Plain P :=
  plain.handle fun r => by cases r <;> trivial

theorem plain_send {f : Err → Err} {c : Call} (meets : P c) : (mapError f (send c) : Service libs _).Plain P :=
  plain_mapError (Program.Plain.send meets)

theorem plain_forEach {f : B → Service libs Unit} (each : ∀ b, (f b).Plain P) (bs : List B) : (forEach f bs).Plain P := by
  induction bs with
  | nil => trivial
  | cons b bs ih => exact (each b).bind fun _ => ih

theorem within_mapError {f : Err → Err} {p : Service libs A} (within : p.Within P) : (mapError f p).Within P :=
  within.handle fun r => by cases r <;> trivial

end Plain

section Yields

variable {now : Time} {d d' : Db}

theorem mapError_yields {f : Err → Err} {p : Service libs A} {a : A} (h : (mapError f p).Yields now a d' d) :
    p.Yields now a d' d := by
  change (p.handle _).Yields now a d' d at h
  induction p generalizing d with
  | done result =>
    cases result with
    | error e => cases h.1
    | ok b => exact h
  | call c next ih =>
    rcases h with ⟨e, later⟩ | ⟨x, asked, after, performed, later⟩
    · exact .inl ⟨e, ih _ later⟩
    · exact .inr ⟨x, asked, after, performed, ih _ later⟩
  | begin | commit | rollback | notify => exact h.elim

theorem request_yields {c : Call} {f : Err → Err} {x : c.Answer} (h : (mapError f (send c) : Service libs _).Yields now x d' d) :
    ∃ asked, c.perform libs now d = .ok (x, asked, d') := by
  have sent : (send c : Service libs _).Yields now x d' d := mapError_yields h
  exact Program.Yields.send sent

end Yields

section Sends

variable {now : Time}

/-- A call that is one statement. -/
theorem sends_send {c : Call} {statement : Sql} {row : Db → Option c.Answer}
    (performs : ∀ d, c.perform libs now d = Call.returning (row d) statement d)
    (found : ∀ d asked d', statement d = .ok (asked, d') → ∃ x, row d = some x) :
    Program.Sends now (send c : Service libs _) [statement] := by
  refine Program.Sends.one (fun d asked d' sent => ?_) fun d e failed => ⟨d, ?_⟩
  · obtain ⟨x, present⟩ := found d asked d' sent
    have answered : (calls libs).perform now c d = .ok (x, asked, d') :=
      (performs d).trans (Call.returning_ok.2 ⟨present, sent⟩)
    have comes := @Program.comesTo_send _ _ _ (calls libs) Notice now c d
    rw [answered] at comes
    exact ⟨x, comes⟩
  · have refused : (calls libs).perform now c d = .error e := by
      refine (performs d).trans ?_
      rw [Call.returning, failed]
      rfl
    have comes := @Program.comesTo_send _ _ _ (calls libs) Notice now c d
    rw [refused] at comes
    exact comes

theorem runStatements_mapError {f : Err → Err} {statements : List Sql} {d : Db} :
    runStatements (statements.map (Sql.mapError f)) d = (runStatements statements d).mapError f := by
  induction statements generalizing d with
  | nil => rfl
  | cons statement rest ih =>
    rw [List.map_cons, runStatements, runStatements, Sql.mapError]
    cases statement d with
    | error e => rfl
    | ok r => exact ih

theorem sends_mapError {f : Err → Err} {p : Service libs A} {statements : List Sql} (sends : Program.Sends now p statements) :
    Program.Sends now (mapError f p) (statements.map (Sql.mapError f)) := by
  intro d
  constructor
  · intro d' ran
    rw [runStatements_mapError, Results.mapError_ok] at ran
    obtain ⟨a, comes⟩ := (sends d).1 d' ran
    exact ⟨a, Program.comesTo_handle comes⟩
  · intro e ran
    rw [runStatements_mapError, Results.mapError_error] at ran
    obtain ⟨e', failed, rfl⟩ := ran
    obtain ⟨d', comes⟩ := (sends d).2 e' failed
    exact ⟨d', Program.comesTo_handle comes⟩

theorem sends_forEach {B : Type} {f : B → Service libs Unit} {statement : B → Sql}
    (each : ∀ b, Program.Sends now (f b) [statement b]) (bs : List B) : Program.Sends now (forEach f bs) (bs.map statement) := by
  induction bs with
  | nil => exact Program.Sends.pure (I := calls libs) now ()
  | cons b bs ih => exact (each b).bind fun _ => ih

end Sends

end Service

end Woodgate
