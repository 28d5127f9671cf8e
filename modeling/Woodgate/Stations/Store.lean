import Woodgate.Constraints
import Woodgate.Go.Strings
import Woodgate.Postgres.Listing

/-!
# The station store

The SQL of `Store`, one definition a statement, under the function that sends it.
A statement maps the rows it sees to the locks it asks for and the rows it leaves.
`now` is `now()`, the start of the transaction the statement runs in; `sha256Hex` is
`hex.EncodeToString(sha256.Sum256(..))`.
-/

namespace Woodgate.Stations

open Library Library.ReadCommitted

/-- The `State` of a station. -/
inductive State where
  | online
  | offline
  | incompatible
  deriving DecidableEq, Repr

structure Location where
  id : ID
  name : String
  deriving DecidableEq, Repr

/-- The administrative view of a station; its key hash is no part of it. -/
structure Station where
  id : ID
  name : String
  locationID : ID
  location : Location
  enabled : Bool
  state : State
  version : String
  protocolVersion : Option Int
  createdAt : Time
  updatedAt : Time
  deriving DecidableEq, Repr

structure StationMutation where
  name : String
  locationID : ID
  enabled : Bool
  deriving DecidableEq, Repr

/-- 15 seconds. -/
def stationSessionTTL : Time := 15000000

/-- 5 minutes. -/
def stationRejectionTTL : Time := 300000000

section Read

/-- `stationSelectSQL` with `stationFromRow`, for one station. -/
def stationSelect (now : Time) (id : ID) (d : Db) : Option Station := do
  let s ← d.stations.row id
  let l ← d.locations.row s.locationID
  let session := (d.sessions.row id).filter fun r => decide (now < r.expiresAt)
  let rejection := (d.rejections.row id).filter fun r => decide (now < r.expiresAt)
  some {
    id, name := s.name, locationID := s.locationID, location := ⟨s.locationID, l.name⟩
    enabled := s.enabled
    state := if session.isSome then .online else if rejection.isSome then .incompatible else .offline
    version := ((session.map SessionRow.version).or (rejection.map RejectionRow.version)).getD ""
    protocolVersion := (session.map SessionRow.protocolVersion).or (rejection.bind RejectionRow.protocolVersion)
    createdAt := s.createdAt, updatedAt := s.updatedAt }

/-- A station whose location is there is found. -/
theorem stationSelect_some {now : Time} {id : ID} {d : Db} {s : StationRow} (found : d.stations.row id = some s)
    (located : (d.locations.row s.locationID).isSome) :
    ∃ station, stationSelect now id d = some station ∧ station.enabled = s.enabled ∧ station.locationID = s.locationID := by
  obtain ⟨l, there⟩ := Option.isSome_iff_exists.1 located
  simp [stationSelect, found, there]

/-- `Store.Get` -/
def get (now : Time) (id : ID) (d : Db) : Except Err Station :=
  match stationSelect now id d with
  | some station => .ok station
  | none => .error .notFound

structure StationListParams where
  listParams : Postgres.Params := {}
  locationID : ID := 0
  enabled : Option Bool := none
  deriving DecidableEq, Repr

/-- The `WHERE` of `Store.List`. -/
def stationWhere (locale : Postgres.DbLocale) (params : StationListParams) (s : Station) : Bool :=
  Postgres.matchesSearch locale params.listParams.q [some s.name, some s.location.name] &&
  (decide (params.locationID ≤ 0) || decide (s.locationID = params.locationID)) &&
  params.enabled.all fun enabled => decide (s.enabled = enabled)

def stationListQuery (locale : Postgres.DbLocale) (now : Time) (params : StationListParams) (d : Db) :
    Postgres.ListQuery Station where
  rows := (d.stations.toList.filterMap fun s => stationSelect now s.1 d).filter (stationWhere locale params)
  orderKeys := [
    ("id", { sql := "s.id", value := fun s => .int s.id }),
    ("name", { sql := "lower(s.name)", value := fun s => .text (locale.lower s.name) }),
    ("location.name", { sql := "lower(l.name)", value := fun s => .text (locale.lower s.location.name) }),
    ("enabled", { sql := "s.enabled", value := fun s => .bool s.enabled }),
    ("version", {
      sql := "lower(COALESCE(session.version, rejection.version, ''))", value := fun s => .text (locale.lower s.version) }),
    ("created_at", { sql := "s.created_at", value := fun s => .int s.createdAt }),
    ("updated_at", { sql := "s.updated_at", value := fun s => .int s.updatedAt })]
  defaultOrder := [
    { sql := "lower(s.name)", value := fun s => .text (locale.lower s.name) },
    { sql := "s.id", value := fun s => .int s.id }]
  params := params.listParams

/-- `Store.List` -/
def list (locale : Postgres.DbLocale) (now : Time) (params : StationListParams) (d : Db) : Except Err (List Station × Nat) :=
  (stationListQuery locale now params d).listWithCount locale

/-- A station of a list is the one `Get` shows. -/
theorem stationSelect_of_list {locale : Postgres.DbLocale} {now : Time} {params : StationListParams} {d : Db}
    {items : List Station} {count : Nat} (h : list locale now params d = .ok (items, count)) {station : Station}
    (mem : station ∈ items) : stationSelect now station.id d = some station := by
  have selected : station ∈ (stationListQuery locale now params d).rows := Postgres.mem_of_page h mem
  obtain ⟨⟨id, row⟩, _, shown⟩ := List.mem_filterMap.1 (List.mem_of_mem_filter selected)
  have own : station.id = id := by
    obtain ⟨s, _, shown⟩ := Option.bind_eq_some_iff.1 shown
    obtain ⟨l, _, shown⟩ := Option.bind_eq_some_iff.1 shown
    cases shown
    rfl
  rw [own]
  exact shown

variable (sha256Hex : String → String)

/-- `hashSecret` -/
def hashSecret (secret : String) : String :=
  let secret := Go.trimSpace secret
  if secret = "" then "" else sha256Hex secret

/-- `Store.authenticate` -/
def authenticate (now : Time) (secret : String) (d : Db) : Except Err Station :=
  let secretHash := hashSecret sha256Hex secret
  if secretHash = "" then .error .unauthorized
  else
    match d.stations.find? fun id s => decide (s.secretHash = secretHash) && s.enabled &&
        (stationSelect now id d).isSome with
    | some id => match stationSelect now id d with
      | some station => .ok station
      | none => .error .unauthorized
    | none => .error .unauthorized

end Read

section Constraints

/-- `CHECK (secret_hash ~ '^[0-9a-f]{64}$')` -/
def secretHashCheck (secretHash : String) : Bool :=
  decide (secretHash.length = 64) &&
    secretHash.toList.all fun c => ('0' ≤ c && c ≤ '9') || ('a' ≤ c && c ≤ 'f')

/-- The checks and keys of `stations` for the row about to be stored at `id`. -/
def stationConstraints (id : ID) (row : StationRow) (d : Db) : Except Err Unit :=
  if !nameCheck row.name || !secretHashCheck row.secretHash then .error (.sqlState .checkViolation)
  else if d.stations.exists? fun j s => decide (j ≠ id) &&
      (decide (s.name = row.name) || decide (s.secretHash = row.secretHash)) then
    .error (.sqlState .uniqueViolation)
  else if (d.locations.row row.locationID).isNone then .error (.sqlState .foreignKeyViolation)
  else .ok ()

end Constraints

section Statements

variable (now : Time)

/-- `INSERT INTO stations ... RETURNING id` -/
def insertStation (mutation : StationMutation) (secretHash : String) : Sql := fun d => do
  let id := d.seq.stations
  let row : StationRow := {
    appID := d.seq.uuid, name := mutation.name, locationID := mutation.locationID
    enabled := mutation.enabled, secretHash, createdAt := now, updatedAt := now }
  if (d.stations.row id).isSome then .error (.sqlState .uniqueViolation)
  else do
    stationConstraints id row d
    .ok ([(.location mutation.locationID, .keyShare)],
      { d with stations := d.stations.set id row, seq := { d.seq with stations := id + 1, uuid := d.seq.uuid + 1 } })

/-- `UPDATE stations ... WHERE id = $n`. A new value in a column with a unique index
asks for the strongest row lock. -/
def writeStation (id : ID) (f : StationRow → StationRow) : Sql := fun d =>
  match d.stations.row id with
  | none => .error .noRows
  | some old => do
    let new := f old
    stationConstraints id new d
    let mode := if new.name = old.name ∧ new.secretHash = old.secretHash then LockMode.noKeyUpdate else .update
    let parent := if new.locationID = old.locationID then [] else [(.location new.locationID, LockMode.keyShare)]
    .ok ((.station id, mode) :: parent, { d with stations := d.stations.set id new })

/-- The columns `Store.update` writes. -/
def StationMutation.apply (mutation : StationMutation) (s : StationRow) : StationRow :=
  { s with name := mutation.name, locationID := mutation.locationID, enabled := mutation.enabled, updatedAt := now }

/-- The `UPDATE` of `Store.update`. -/
def updateStation (id : ID) (mutation : StationMutation) : Sql := writeStation id (mutation.apply now)

/-- The `UPDATE` of `Store.rotateKey`. -/
def updateSecretHash (id : ID) (secretHash : String) : Sql :=
  writeStation id fun s => { s with secretHash, updatedAt := now }

/-- `DELETE FROM stations`, with what its foreign keys do to the rows that refer to it. -/
def deleteStation (id : ID) : Sql := fun d =>
  match d.stations.row id with
  | none => .error .noRows
  | some _ => .ok ([], { d with
      stations := d.stations.erase id
      sessions := d.sessions.erase id
      rejections := d.rejections.erase id
      checkins := d.checkins.map fun _ c => if c.stationID = some id then { c with stationID := none } else c })

/-- `DELETE FROM station_sessions WHERE station_id = $1` -/
def deleteSession (stationID : ID) : Sql := fun d =>
  .ok ([], { d with sessions := d.sessions.erase stationID })

/-- `DELETE FROM station_rejections WHERE station_id = $1` -/
def deleteRejection (stationID : ID) : Sql := fun d =>
  .ok ([], { d with rejections := d.rejections.erase stationID })

/-- `clearClientStates` -/
def clearClientStates (stationID : ID) : List Sql := [deleteSession stationID, deleteRejection stationID]

/-- `lockStationCredential` -/
def lockStationCredential (sha256Hex : String → String) (stationID : ID) (secret : String) : Sql := fun d =>
  match d.stations.row stationID with
  | none => .error .sessionInvalid
  | some s =>
    if s.enabled && decide (s.secretHash = hashSecret sha256Hex secret) then
      .ok ([(.station stationID, .share)], d)
    else .error .sessionInvalid

/-- A statement with an argument for an `INTEGER` column, which the driver encodes first. -/
def encodeInteger (value : Option Int) (statement : Sql) : Sql := fun d =>
  if value.any fun v => decide (v < -2147483648 ∨ 2147483647 < v) then .error (.failure "value out of range for int4")
  else statement d

/-- `INSERT INTO station_sessions ... ON CONFLICT (station_id) DO UPDATE` -/
def upsertSession (stationID : ID) (row : SessionRow) : Sql := fun d =>
  if row.protocolVersion < 0 then .error (.sqlState .checkViolation)
  else if (d.stations.row stationID).isNone then .error (.sqlState .foreignKeyViolation)
  else .ok ([(.session stationID, .noKeyUpdate), (.station stationID, .keyShare)],
    { d with sessions := d.sessions.set stationID row })

/-- `INSERT INTO station_rejections ... ON CONFLICT (station_id) DO UPDATE` -/
def upsertRejection (stationID : ID) (row : RejectionRow) : Sql := fun d =>
  if row.protocolVersion.any (fun v => decide (v < 0)) then .error (.sqlState .checkViolation)
  else if (d.stations.row stationID).isNone then .error (.sqlState .foreignKeyViolation)
  else .ok ([(.rejection stationID, .noKeyUpdate), (.station stationID, .keyShare)],
    { d with rejections := d.rejections.set stationID row })

/-- The statement of `renewClientSession`; no affected row is `ErrSessionInvalid`. -/
def renewSession (stationID : ID) (connectionID : String) : Sql := fun d =>
  match d.sessions.row stationID, d.stations.row stationID with
  | some session, some station =>
    if session.connectionID = connectionID ∧ now < session.expiresAt ∧ station.enabled = true then
      .ok ([(.session stationID, .noKeyUpdate)],
        { d with sessions := d.sessions.set stationID { session with expiresAt := now + stationSessionTTL } })
    else .error .sessionInvalid
  | _, _ => .error .sessionInvalid

/-- The statement of `releaseClientSession`. -/
def releaseSession (stationID : ID) (connectionID : String) : Sql := fun d =>
  match d.sessions.row stationID with
  | some session =>
    if session.connectionID = connectionID then .ok ([], { d with sessions := d.sessions.erase stationID })
    else .ok ([], d)
  | none => .ok ([], d)

end Statements

section Effects

variable {sha256Hex : String → String} {now : Time} {k : ID} {d after : Db} {asked : List (RowKey × LockMode)}

/-- The station is enabled and `secret` is its current key. -/
def Credential (sha256Hex : String → String) (secret : String) (row : Option StationRow) : Prop :=
  ∃ s, row = some s ∧ s.enabled = true ∧ s.secretHash = hashSecret sha256Hex secret

theorem lockStationCredential_ok {secret : String}
    (h : lockStationCredential sha256Hex k secret d = .ok (asked, after)) :
    Credential sha256Hex secret (d.stations.row k) ∧ asked = [(.station k, .share)] ∧ after = d := by
  unfold lockStationCredential at h
  split at h
  · cases h
  · rename_i s found
    split at h
    · rename_i current
      cases h
      rw [Bool.and_eq_true, decide_eq_true_eq] at current
      exact ⟨⟨s, found, current.1, current.2⟩, rfl, rfl⟩
    · cases h

/-- A statement that ran had an argument in range. -/
theorem encodeInteger_ok {value : Option Int} {statement : Sql} {result : List (RowKey × LockMode) × Db} :
    encodeInteger value statement d = .ok result ↔
      (∀ v, value = some v → -2147483648 ≤ v ∧ v ≤ 2147483647) ∧ statement d = .ok result := by
  have range : (value.any fun v => decide (v < -2147483648 ∨ 2147483647 < v)) = true ↔
      ¬ ∀ v, value = some v → -2147483648 ≤ v ∧ v ≤ 2147483647 := by
    cases value with
    | none => simp
    | some v =>
      simp only [Option.any_some, decide_eq_true_eq, Option.some.injEq, forall_eq']
      omega
  unfold encodeInteger
  split
  · rename_i out
    exact iff_of_false nofun fun both => range.1 out both.1
  · rename_i inside
    exact (and_iff_right (not_not.1 fun out => inside (range.2 out))).symm

theorem upsertSession_ok {row : SessionRow} (h : upsertSession k row d = .ok (asked, after)) :
    (.session k, .noKeyUpdate) ∈ asked ∧ after = { d with sessions := d.sessions.set k row } := by
  unfold upsertSession at h
  split at h
  · cases h
  · split at h
    · cases h
    · cases h
      exact ⟨List.mem_cons_self, rfl⟩

theorem upsertRejection_ok {row : RejectionRow} (h : upsertRejection k row d = .ok (asked, after)) :
    after = { d with rejections := d.rejections.set k row } := by
  unfold upsertRejection at h
  split at h
  · cases h
  · split at h
    · cases h
    · cases h
      rfl

/-- A row that may be stored has a location. -/
theorem stationConstraints_ok {row : StationRow} (h : stationConstraints k row d = .ok ()) :
    (d.locations.row row.locationID).isSome := by
  unfold stationConstraints at h
  split at h
  · cases h
  · split at h
    · cases h
    · split at h
      · cases h
      · rename_i present
        simpa [Option.isSome_iff_ne_none] using present

theorem insertStation_ok {mutation : StationMutation} {secretHash : String}
    (h : insertStation now mutation secretHash d = .ok (asked, after)) :
    d.stations.row d.seq.stations = none ∧ (d.locations.row mutation.locationID).isSome ∧ ∃ row : StationRow,
      row.name = mutation.name ∧ row.locationID = mutation.locationID ∧ row.enabled = mutation.enabled ∧
      row.secretHash = secretHash ∧ after = { d with
        stations := d.stations.set d.seq.stations row
        seq := { d.seq with stations := d.seq.stations + 1, uuid := d.seq.uuid + 1 } } := by
  unfold insertStation at h
  dsimp only at h
  split at h
  · cases h
  · rename_i vacant
    obtain ⟨_, checked, stored⟩ := Results.bind_ok.1 h
    cases stored
    exact ⟨by simpa using vacant, stationConstraints_ok checked, _, rfl, rfl, rfl, rfl, rfl⟩

/-- An updated station has a location. -/
theorem writeStation_location {f : StationRow → StationRow} (h : writeStation k f d = .ok (asked, after)) :
    ∃ old, d.stations.row k = some old ∧ (after.locations.row (f old).locationID).isSome := by
  unfold writeStation at h
  split at h
  · cases h
  · rename_i old found
    obtain ⟨_, checked, stored⟩ := Results.bind_ok.1 h
    have located := stationConstraints_ok checked
    cases stored
    exact ⟨old, found, located⟩

/-- An `UPDATE` of a station locks its row against writers and writers only. -/
theorem writeStation_ok {f : StationRow → StationRow} (h : writeStation k f d = .ok (asked, after)) :
    ∃ old mode, d.stations.row k = some old ∧ (.station k, mode) ∈ asked ∧ mode.writes = true ∧
      after = { d with stations := d.stations.set k (f old) } := by
  unfold writeStation at h
  split at h
  · cases h
  · rename_i old found
    obtain ⟨_, _, stored⟩ := Results.bind_ok.1 h
    cases stored
    refine ⟨old, _, found, List.mem_cons_self, ?_, rfl⟩
    split <;> rfl

theorem deleteStation_ok (h : deleteStation k d = .ok (asked, after)) :
    after.stations = d.stations.erase k ∧ after.sessions = d.sessions.erase k := by
  unfold deleteStation at h
  split at h
  · cases h
  · cases h
    exact ⟨rfl, rfl⟩

/-- A renewal that succeeds moves the expiry of the session of `connectionID`, which
had not expired when the call began. -/
theorem renewSession_ok {connectionID : String} (h : renewSession now k connectionID d = .ok (asked, after)) :
    ∃ session, d.sessions.row k = some session ∧ session.connectionID = connectionID ∧
      now < session.expiresAt ∧
      after = { d with sessions := d.sessions.set k { session with expiresAt := now + stationSessionTTL } } := by
  unfold renewSession at h
  split at h
  · rename_i session station found _
    split at h
    · rename_i current
      cases h
      exact ⟨session, found, current.1, current.2.1, rfl⟩
    · cases h
  · cases h

theorem releaseSession_ok {connectionID : String} (h : releaseSession k connectionID d = .ok (asked, after)) :
    after.stations = d.stations ∧ ∀ j, after.sessions.row j =
      if j = k then (d.sessions.row j).filter fun s => !decide (s.connectionID = connectionID)
      else d.sessions.row j := by
  unfold releaseSession at h
  split at h
  · rename_i session found
    split at h
    · rename_i own
      cases h
      refine ⟨rfl, fun j => ?_⟩
      by_cases same : j = k
      · simp [same, found, own, Option.filter]
      · simp [same, Table.row_erase_ne]
    · rename_i foreign
      cases h
      refine ⟨rfl, fun j => ?_⟩
      by_cases same : j = k
      · simp [same, found, foreign, Option.filter]
      · simp [same]
  · rename_i absent
    cases h
    refine ⟨rfl, fun j => ?_⟩
    by_cases same : j = k
    · simp [same, absent]
    · simp [same]

theorem changesOnly_sessions_set (row : SessionRow) :
    Db.ChangesOnly d { d with sessions := d.sessions.set k row } (· = .session k) := by
  intro key differ
  by_contra ne
  refine differ ?_
  cases key with
  | session j => exact (Table.row_set_ne _ _ fun same => ne (congrArg _ same)).symm
  | _ => rfl

theorem changesOnly_sessions_erase :
    Db.ChangesOnly d { d with sessions := d.sessions.erase k } (· = .session k) := by
  intro key differ
  by_contra ne
  refine differ ?_
  cases key with
  | session j => exact (Table.row_erase_ne _ fun same => ne (congrArg _ same)).symm
  | _ => rfl

theorem changesOnly_rejections_set (row : RejectionRow) :
    Db.ChangesOnly d { d with rejections := d.rejections.set k row } (· = .rejection k) := by
  intro key differ
  by_contra ne
  refine differ ?_
  cases key with
  | rejection j => exact (Table.row_set_ne _ _ fun same => ne (congrArg _ same)).symm
  | _ => rfl

theorem changesOnly_rejections_erase :
    Db.ChangesOnly d { d with rejections := d.rejections.erase k } (· = .rejection k) := by
  intro key differ
  by_contra ne
  refine differ ?_
  cases key with
  | rejection j => exact (Table.row_erase_ne _ fun same => ne (congrArg _ same)).symm
  | _ => rfl

theorem changesOnly_stations_set (row : StationRow) :
    Db.ChangesOnly d { d with stations := d.stations.set k row } (· = .station k) := by
  intro key differ
  by_contra ne
  refine differ ?_
  cases key with
  | station j => exact (Table.row_set_ne _ _ fun same => ne (congrArg _ same)).symm
  | _ => rfl

end Effects

section Operations

variable (sha256Hex : String → String) (now : Time)

/-- `Store.update`, up to its commit. -/
def update (id : ID) (mutation : StationMutation) : List Sql :=
  updateStation now id mutation :: if mutation.enabled then [] else clearClientStates id

/-- `Store.rotateKey`, up to its commit. -/
def rotateKey (id : ID) (secretHash : String) : List Sql :=
  updateSecretHash now id secretHash :: clearClientStates id

/-- `Store.ObserveRejectedClient` -/
def observeRejectedClient (stationID : ID) (secret : String) (protocolVersion : Option Int) (version : String) :
    List Sql :=
  [lockStationCredential sha256Hex stationID secret,
    encodeInteger protocolVersion
      (upsertRejection stationID ⟨protocolVersion, version, now + stationRejectionTTL⟩)]

/-- `Store.claimClientSession`; an empty connection ID never reaches the database. -/
def claimClientSession (stationID : ID) (secret connectionID : String) (protocolVersion : Int) (version : String) :
    Except Err (List Sql) :=
  if connectionID = "" then .error (.invalidInput "connection ID is required")
  else .ok [lockStationCredential sha256Hex stationID secret,
    encodeInteger protocolVersion
      (upsertSession stationID ⟨connectionID, protocolVersion, version, now + stationSessionTTL⟩),
    deleteRejection stationID]

variable {sha256Hex now} {k : ID} {secret c version : String} {protocolVersion : Int} {d d' : Db}

/-- A committed claim writes the session of its station and touches no other station's. -/
theorem claimClientSession_ok {statements : List Sql}
    (accepted : claimClientSession sha256Hex now k secret c protocolVersion version = .ok statements)
    (h : runStatements statements d = .ok d') :
    Credential sha256Hex secret (d.stations.row k) ∧
      d'.sessions = d.sessions.set k ⟨c, protocolVersion, version, now + stationSessionTTL⟩ ∧
      d'.stations = d.stations ∧ d'.locations = d.locations := by
  unfold claimClientSession at accepted
  split at accepted
  · cases accepted
  cases accepted
  obtain ⟨_, _, locked, rest⟩ := runStatements_cons_ok.1 h
  obtain ⟨current, rfl, rfl⟩ := lockStationCredential_ok locked
  obtain ⟨_, _, upserted, rest⟩ := runStatements_cons_ok.1 rest
  obtain ⟨_, rfl⟩ := upsertSession_ok (encodeInteger_ok.1 upserted).2
  obtain ⟨_, _, deleted, rest⟩ := runStatements_cons_ok.1 rest
  cases deleted
  cases rest
  exact ⟨current, rfl, rfl, rfl⟩

/-- A committed update rewrites its station and touches no other. -/
theorem update_ok {mutation : StationMutation} (h : runStatements (update now k mutation) d = .ok d') :
    ∃ old, d.stations.row k = some old ∧ d'.stations = d.stations.set k (mutation.apply now old) := by
  obtain ⟨_, _, updated, rest⟩ := runStatements_cons_ok.1 h
  obtain ⟨old, _, found, _, _, rfl⟩ := writeStation_ok updated
  refine ⟨old, found, ?_⟩
  split at rest
  · cases rest
    rfl
  · obtain ⟨_, _, deleted, rest⟩ := runStatements_cons_ok.1 rest
    cases deleted
    obtain ⟨_, _, deleted, rest⟩ := runStatements_cons_ok.1 rest
    cases deleted
    cases rest
    rfl

end Operations

section Sample

/-- SHA-256 on the secrets of the sample runs. -/
def sampleHash (secret : String) : String :=
  if secret = "wgst_a" then "e1f3eb65967d2c65d929a07e8a52f6267e9597a71988670b340a02ecfd9e6295"
  else if secret = "wgst_b" then "f4145832082ca79c20eaa59ca52d05c86cc34791d65eb9ca6e69828c62008347"
  else ""

/-- Two locations, and one enabled station at the first. -/
def sampleDb : Db where
  locations := .ofList [
    (1, { appID := 0, name := "Office", createdAt := 0, updatedAt := 0 }),
    (2, { appID := 1, name := "Library", createdAt := 0, updatedAt := 0 })]
  stations := .ofList [(1, {
    appID := 2, name := "Front desk", locationID := 1, secretHash := sampleHash "wgst_a"
    createdAt := 0, updatedAt := 0 })]

end Sample

end Woodgate.Stations
