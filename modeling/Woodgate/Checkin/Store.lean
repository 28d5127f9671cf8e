import Woodgate.Checkin.Eligibility
import Woodgate.Library.ReadCommitted

/-!
# The check-in store

The SQL of `Store`, one definition a statement, under the function that sends it. A
statement that returns columns has its answer beside it, read from the same rows.
-/

namespace Woodgate.Checkin

open Library Library.ReadCommitted Library.Results Postgres

section Read

/-- `attachmentFile`, with the `LEFT JOIN` on `storage_objects`. -/
def attachmentFile (objectID : Option ID) (d : Db) : Option AttachmentFile := do
  let object ← d.storageObjects.row (← objectID)
  some { filename := object.filename, contentType := object.contentType, sizeBytes := object.sizeBytes, sha256 := object.sha256 }

/-- `locationSelectSQL` with `locationFromRow`, for one location. -/
def locationSelect (id : ID) (d : Db) : Option Location :=
  (d.locations.row id).map fun l => {
    id, name := l.name, description := l.description, enabled := l.enabled, notes := l.notes, photo := l.photo
    backgroundObjectID := l.backgroundObjectID, backgroundFile := attachmentFile l.backgroundObjectID d
    backgroundURL := backgroundURL l.backgroundObjectID
    logoObjectID := l.logoObjectID, logoFile := attachmentFile l.logoObjectID d, logoURL := logoURL l.logoObjectID
    createdAt := l.createdAt, updatedAt := l.updatedAt }

/-- The query of `attachLocationGroups`, for one location. -/
def locationGroups (locale : DbLocale) (id : ID) (d : Db) : List GroupSummary :=
  let rows := d.locationGroups.toList.filterMap fun entry =>
    if entry.1.1 = id then (d.groups.row entry.1.2).map fun g =>
      { id := entry.1.2, source := g.source, displayName := g.displayName, mailNickname := g.mailNickname.getD "" }
    else none
  rows.insertionSort fun g h =>
    let before (a b : GroupSummary) := locale.le (locale.lower a.displayName) (locale.lower b.displayName)
    before g h = true ∧ (before h g = true → g.id ≤ h.id)

/-- `COALESCE(NULLIF(creator.name,''),NULLIF(creator.email,''),k.name,station.name,'')` -/
def actorName (creator : Option UserRow) (key : Option AppKeyRow) (station : Option StationRow) : String :=
  let nonempty (s : String) : Option String := if s = "" then none else some s
  ((creator.bind fun u => nonempty u.name).or ((creator.bind fun u => nonempty u.email).or
    ((key.map AppKeyRow.name).or (station.map StationRow.name)))).getD ""

/-- `checkinSelectSQL` with `checkinFromRow`, for one check-in. -/
def checkinSelect (id : ID) (d : Db) : Option Checkin := do
  let c ← d.checkins.row id
  let u ← d.users.row c.userID
  let l ← d.locations.row c.locationID
  let creator := c.createdByUserID.bind d.users.row
  let key := c.appKeyID.bind d.appKeys.row
  let station := c.stationID.bind d.stations.row
  some {
    id, appID := c.appID
    person := { id := c.userID, name := u.name, email := u.email, department := u.department.getD "" }
    location := { id := c.locationID, name := l.name }
    direction := directionText c.direction, notes := c.notes
    photoObjectID := c.photoObjectID, photoFile := attachmentFile c.photoObjectID d, photoURL := photoURL id c.photoObjectID
    actorName := actorName creator key station
    station := c.stationID.map fun stationID => { id := stationID, name := (station.map StationRow.name).getD "" }
    actorKind := c.actorKind, actorAppID := c.actorAppID
    createdBy := c.createdByUserID.map fun userID =>
      { id := userID, name := (creator.map UserRow.name).getD "", email := (creator.map UserRow.email).getD "" }
    occurredAt := c.occurredAt, createdAt := c.createdAt, updatedAt := c.updatedAt }

theorem locationSelect_some {id : ID} {d : Db} (found : (d.locations.row id).isSome) :
    ∃ location, locationSelect id d = some location := by
  obtain ⟨l, there⟩ := Option.isSome_iff_exists.1 found
  simp [locationSelect, there]

/-- A check-in whose person and location are there is found. -/
theorem checkinSelect_some {id : ID} {d : Db} {c : CheckinRow} (found : d.checkins.row id = some c)
    (person : (d.users.row c.userID).isSome) (located : (d.locations.row c.locationID).isSome) :
    ∃ item, checkinSelect id d = some item := by
  obtain ⟨u, here⟩ := Option.isSome_iff_exists.1 person
  obtain ⟨l, there⟩ := Option.isSome_iff_exists.1 located
  simp [checkinSelect, found, here, there]

/-- The person and the location it shows are the row's. -/
theorem checkinSelect_pair {id : ID} {d : Db} {item : Checkin} (selected : checkinSelect id d = some item) :
    ∃ c, d.checkins.row id = some c ∧ item.person.id = c.userID ∧ item.location.id = c.locationID := by
  obtain ⟨c, found, selected⟩ := Option.bind_eq_some_iff.1 selected
  obtain ⟨u, _, selected⟩ := Option.bind_eq_some_iff.1 selected
  obtain ⟨l, _, selected⟩ := Option.bind_eq_some_iff.1 selected
  cases selected
  exact ⟨c, found, rfl, rfl⟩

end Read

section Checkins

variable (now : Time)

/-- `CHECK (actor_kind IN ('user', 'api_key', 'station'))` -/
def actorKindCheck (kind : String) : Bool := ["user", "api_key", "station"].contains kind

/-- The rows a check-in refers to. -/
def checkinParents (row : CheckinRow) : List RowKey :=
  [.user row.userID, .location row.locationID] ++ (row.photoObjectID.map RowKey.storageObject).toList ++
    (row.appKeyID.map RowKey.appKey).toList ++ (row.createdByUserID.map RowKey.user).toList ++
    (row.stationID.map RowKey.station).toList

/-- The row of an `INSERT INTO checkins`. -/
def newCheckin (create : CheckinCreate) (direction : Direction) (actor : Actor) (photoObjectID : Option ID) (appID : UUID) :
    CheckinRow where
  appID := appID
  userID := create.userID
  locationID := create.locationID
  direction := direction
  notes := create.notes
  photoObjectID := photoObjectID
  appKeyID := actor.appKeyID
  actorKind := actor.kind
  actorAppID := actor.appID
  createdByUserID := actor.userID
  stationID := actor.stationID
  occurredAt := now
  createdAt := now
  updatedAt := now

/-- The `INSERT` of `Store.CreateCheckin`; the id it returns is the next of the sequence. -/
def insertCheckin (create : CheckinCreate) (actor : Actor) (photoObjectID : Option ID) : Sql := fun d =>
  match parseDirection create.direction with
  | none => .error (.sqlState .invalidTextRepresentation)
  | some direction =>
    let row := newCheckin now create direction actor photoObjectID d.seq.uuid
    if !actorKindCheck row.actorKind then .error (.sqlState .checkViolation)
    else if (d.checkins.row d.seq.checkins).isSome || d.checkins.exists? (fun _ c => decide (c.appID = row.appID)) then
      .error (.sqlState .uniqueViolation)
    else if (checkinParents row).any fun key => (Db.get key d).isNone then .error (.sqlState .foreignKeyViolation)
    else .ok ((checkinParents row).map fun key => (key, .keyShare), { d with
      checkins := d.checkins.set d.seq.checkins row
      seq := { d.seq with checkins := d.seq.checkins + 1, uuid := d.seq.uuid + 1 } })

/-- The columns `Store.UpdateCheckin` writes. -/
def CheckinMutation.apply (mutation : CheckinMutation) (direction : Direction) (c : CheckinRow) : CheckinRow :=
  { c with
    userID := mutation.userID, locationID := mutation.locationID, direction, notes := mutation.notes
    occurredAt := mutation.occurredAt, updatedAt := now }

/-- The `UPDATE` of `Store.UpdateCheckin`; no affected row counts as `pgx.ErrNoRows`. -/
def updateCheckin (id : ID) (mutation : CheckinMutation) : Sql := fun d =>
  match parseDirection mutation.direction with
  | none => .error (.sqlState .invalidTextRepresentation)
  | some direction =>
    match d.checkins.row id with
    | none => .error .noRows
    | some old =>
      if (d.users.row mutation.userID).isNone || (d.locations.row mutation.locationID).isNone then
        .error (.sqlState .foreignKeyViolation)
      else .ok ([(.checkin id, .noKeyUpdate), (.user mutation.userID, .keyShare), (.location mutation.locationID, .keyShare)],
        { d with checkins := d.checkins.set id (mutation.apply now direction old) })

end Checkins

section Locations

variable (now : Time)

/-- The `SELECT ... FOR KEY SHARE` of `requireImage`. -/
def selectImage (objectID : ID) : Sql := fun d =>
  match (d.storageObjects.row objectID).filter fun object => object.expiredAt.isNone with
  | none => .error .noRows
  | some _ => .ok ([(.storageObject objectID, .keyShare)], d)

/-- The checks and keys of `locations` for the row about to be stored at `id`. -/
def locationConstraints (id : ID) (row : LocationRow) (d : Db) : Except Err Unit :=
  if !nameCheck row.name then .error (.sqlState .checkViolation)
  else if d.locations.exists? fun j l => decide (j ≠ id) && (decide (l.appID = row.appID) ||
      (l.backgroundAppID.isSome && decide (l.backgroundAppID = row.backgroundAppID)) ||
      (l.logoAppID.isSome && decide (l.logoAppID = row.logoAppID))) then .error (.sqlState .uniqueViolation)
  else if (pointerIDs [row.backgroundObjectID, row.logoObjectID]).any fun object => (d.storageObjects.row object).isNone then
    .error (.sqlState .foreignKeyViolation)
  else .ok ()

/-- The locks on the objects a location refers to. -/
def imageLocks (row : LocationRow) : List (RowKey × LockMode) :=
  (pointerIDs [row.backgroundObjectID, row.logoObjectID]).map fun object => (.storageObject object, .keyShare)

/-- The row of an `INSERT INTO locations`; it draws up to three identifiers. -/
def newLocation (mutation : LocationMutation) (uuid : UUID) : LocationRow where
  appID := uuid
  name := mutation.name
  description := mutation.description
  enabled := mutation.enabled
  notes := mutation.notes
  photo := mutation.photo
  backgroundObjectID := mutation.backgroundObjectID
  backgroundAppID := mutation.backgroundObjectID.map fun _ => uuid + 1
  logoObjectID := mutation.logoObjectID
  logoAppID := mutation.logoObjectID.map fun _ => uuid + 2
  createdAt := now
  updatedAt := now

/-- The `INSERT` of `Store.CreateLocation`. -/
def insertLocation (mutation : LocationMutation) : Sql := fun d => do
  let row := newLocation now mutation d.seq.uuid
  if (d.locations.row d.seq.locations).isSome then .error (.sqlState .uniqueViolation)
  else do
    locationConstraints d.seq.locations row d
    .ok (imageLocks row, { d with
      locations := d.locations.set d.seq.locations row
      seq := { d.seq with locations := d.seq.locations + 1, uuid := d.seq.uuid + 3 } })

/-- The `SELECT ... FOR UPDATE` of `Store.UpdateLocation`. -/
def lockLocation (id : ID) : Sql := fun d =>
  match d.locations.row id with
  | none => .error .noRows
  | some _ => .ok ([(.location id, .update)], d)

/-- `CASE WHEN object_id IS NOT DISTINCT FROM $n THEN app_id WHEN $n IS NULL THEN NULL ELSE
gen_random_uuid() END` -/
def objectAppID (old new : Option ID) (appID : Option UUID) (drawn : UUID) : Option UUID :=
  if old = new then appID else new.map fun _ => drawn

/-- The columns `Store.UpdateLocation` writes. -/
def LocationMutation.apply (mutation : LocationMutation) (uuid : UUID) (l : LocationRow) : LocationRow :=
  { l with
    name := mutation.name, description := mutation.description, enabled := mutation.enabled, notes := mutation.notes
    photo := mutation.photo
    backgroundAppID := objectAppID l.backgroundObjectID mutation.backgroundObjectID l.backgroundAppID uuid
    logoAppID := objectAppID l.logoObjectID mutation.logoObjectID l.logoAppID (uuid + 1)
    backgroundObjectID := mutation.backgroundObjectID, logoObjectID := mutation.logoObjectID, updatedAt := now }

/-- The `UPDATE` of `Store.UpdateLocation`. A new value in a column with a unique index asks
for the strongest row lock. -/
def updateLocation (id : ID) (mutation : LocationMutation) : Sql := fun d =>
  match d.locations.row id with
  | none => .error .noRows
  | some old => do
    let new := mutation.apply now d.seq.uuid old
    locationConstraints id new d
    let mode := if new.backgroundAppID = old.backgroundAppID ∧ new.logoAppID = old.logoAppID then LockMode.noKeyUpdate
      else .update
    .ok ((.location id, mode) :: imageLocks new, { d with
      locations := d.locations.set id new, seq := { d.seq with uuid := d.seq.uuid + 2 } })

/-- The `DELETE` of `replaceLocationGroups`. -/
def deleteLocationGroups (locationID : ID) : Sql := fun d =>
  .ok ([], { d with locationGroups := d.locationGroups.filter fun k _ => decide (k.1 ≠ locationID) })

/-- One `INSERT` of `replaceLocationGroups`. -/
def insertLocationGroup (locationID groupID : ID) : Sql := fun d =>
  if (d.locationGroups.row (locationID, groupID)).isSome then .error (.sqlState .uniqueViolation)
  else if (d.locations.row locationID).isNone || (d.groups.row groupID).isNone then .error (.sqlState .foreignKeyViolation)
  else .ok ([(.location locationID, .keyShare), (.group groupID, .keyShare)],
    { d with locationGroups := d.locationGroups.set (locationID, groupID) () })

/-- `DELETE FROM locations`, with what the foreign keys say: check-ins and stations hold it, its groups go with it. -/
def deleteLocation (id : ID) : Sql := fun d =>
  if (d.locations.row id).isNone then .error .noRows
  else if d.checkins.exists? fun _ c => decide (c.locationID = id) then .error (.sqlState .foreignKeyViolation)
  else if d.stations.exists? fun _ s => decide (s.locationID = id) then .error (.sqlState .restrictViolation)
  else .ok ([], { d with
    locations := d.locations.erase id
    locationGroups := d.locationGroups.filter fun k _ => decide (k.1 ≠ id) })

end Locations

section Effects

variable {now : Time} {id : ID} {d d' : Db} {asked : List (RowKey × LockMode)}

theorem insertCheckin_ok {create : CheckinCreate} {actor : Actor} {photoObjectID : Option ID}
    (h : insertCheckin now create actor photoObjectID d = .ok (asked, d')) :
    ∃ direction, parseDirection create.direction = some direction ∧ d.checkins.row d.seq.checkins = none ∧
      (∀ key ∈ checkinParents (newCheckin now create direction actor photoObjectID d.seq.uuid), (Db.get key d).isSome) ∧
      d' = { d with
        checkins := d.checkins.set d.seq.checkins (newCheckin now create direction actor photoObjectID d.seq.uuid)
        seq := { d.seq with checkins := d.seq.checkins + 1, uuid := d.seq.uuid + 1 } } := by
  unfold insertCheckin at h
  split at h
  · cases h
  · rename_i direction parsed
    dsimp only at h
    split at h
    · cases h
    · split at h
      · cases h
      · rename_i fresh
        split at h
        · cases h
        · rename_i refers
          cases h
          have vacant : d.checkins.row d.seq.checkins = none := by
            rw [Bool.or_eq_true, not_or] at fresh
            simpa using fresh.1
          refine ⟨direction, parsed, vacant, fun key mem => ?_, rfl⟩
          have present : ¬ (Db.get key d).isNone = true := fun absent => refers (List.any_eq_true.2 ⟨key, mem, absent⟩)
          simpa [Option.isSome_iff_ne_none] using present

theorem updateCheckin_ok {mutation : CheckinMutation} (h : updateCheckin now id mutation d = .ok (asked, d')) :
    ∃ direction old, parseDirection mutation.direction = some direction ∧ d.checkins.row id = some old ∧
      (d.users.row mutation.userID).isSome ∧ (d.locations.row mutation.locationID).isSome ∧
      d' = { d with checkins := d.checkins.set id (mutation.apply now direction old) } := by
  unfold updateCheckin at h
  split at h
  · cases h
  · rename_i direction parsed
    split at h
    · cases h
    · rename_i old found
      split at h
      · cases h
      · rename_i refers
        cases h
        rw [Bool.or_eq_true, not_or] at refers
        exact ⟨direction, old, parsed, found, by simpa [Option.isSome_iff_ne_none] using refers.1,
          by simpa [Option.isSome_iff_ne_none] using refers.2, rfl⟩

theorem selectImage_ok (h : selectImage id d = .ok (asked, d')) : d' = d := by
  unfold selectImage at h
  split at h
  · cases h
  · cases h
    rfl

theorem insertLocation_ok {mutation : LocationMutation} (h : insertLocation now mutation d = .ok (asked, d')) :
    d.locations.row d.seq.locations = none ∧ d' = { d with
      locations := d.locations.set d.seq.locations (newLocation now mutation d.seq.uuid)
      seq := { d.seq with locations := d.seq.locations + 1, uuid := d.seq.uuid + 3 } } := by
  unfold insertLocation at h
  dsimp only at h
  split at h
  · cases h
  · rename_i vacant
    obtain ⟨_, _, stored⟩ := bind_ok.1 h
    cases stored
    exact ⟨by simpa using vacant, rfl⟩

theorem lockLocation_ok (h : lockLocation id d = .ok (asked, d')) : d' = d ∧ ∃ l, d.locations.row id = some l := by
  unfold lockLocation at h
  split at h
  · cases h
  · rename_i l found
    cases h
    exact ⟨rfl, l, found⟩

theorem updateLocation_ok {mutation : LocationMutation} (h : updateLocation now id mutation d = .ok (asked, d')) :
    ∃ old, d.locations.row id = some old ∧ d' = { d with
      locations := d.locations.set id (mutation.apply now d.seq.uuid old), seq := { d.seq with uuid := d.seq.uuid + 2 } } := by
  unfold updateLocation at h
  split at h
  · cases h
  · rename_i old found
    obtain ⟨_, _, stored⟩ := bind_ok.1 h
    cases stored
    exact ⟨old, found, rfl⟩

theorem insertLocationGroup_ok {groupID : ID} (h : insertLocationGroup id groupID d = .ok (asked, d')) :
    d' = { d with locationGroups := d.locationGroups.set (id, groupID) () } := by
  unfold insertLocationGroup at h
  split at h
  · cases h
  · split at h
    · cases h
    · cases h
      rfl

theorem deleteLocation_ok (h : deleteLocation id d = .ok (asked, d')) :
    (∀ j c, d.checkins.row j = some c → c.locationID ≠ id) ∧ d' = { d with
      locations := d.locations.erase id
      locationGroups := d.locationGroups.filter fun k _ => decide (k.1 ≠ id) } := by
  unfold deleteLocation at h
  split at h
  · cases h
  · split at h
    · cases h
    · rename_i free
      split at h
      · cases h
      · cases h
        have unused := Table.exists?_eq_false_iff.1 (Bool.eq_false_iff.2 free)
        exact ⟨fun j c found => of_decide_eq_false (unused j c found), rfl⟩

end Effects

end Woodgate.Checkin
