import Woodgate.Checkin.Model
import Woodgate.Library.Joins
import Woodgate.Migrations.Initial

/-!
# The shared foundations

`002_shared_foundations.sql`: the new tables are filled from the old ones by `INSERT ... SELECT`,
whose rows come in whatever order the plan yields, and the counts are compared at the end. What a
constraint refuses ends the migration. `sharedFoundations_ok` says that nothing is refused, and
what the new tables are.
-/

namespace Woodgate.Migrations

open Library.Joins Library.Results

section Statements

/-- The order in which the rows of a query come. -/
structure Plan where
  arrange : {R : Type} → List R → List R
  perm : ∀ {R : Type} (rows : List R), (arrange rows).Perm rows

variable {R K : Type}

/-- A constraint that is not kept refuses the statement. -/
def constraint (state : SqlState) (kept : Bool) : Except Err Unit := if kept then .ok () else .error (.sqlState state)

/-- `UNIQUE`, of the rows that have the key. -/
def unique [DecidableEq K] (key : R → Option K) (rows : List R) : Except Err Unit :=
  constraint .uniqueViolation (decide (rows.filterMap key).Nodup)

/-- `CHECK (...)` over the rows. -/
def check (holds : R → Bool) (rows : List R) : Except Err Unit := constraint .checkViolation (rows.all holds)

/-- The table that an `INSERT` of these rows fills. -/
def numbered (plan : Plan) (rows : List R) : List (ID × R) := serial (plan.arrange rows)

theorem unique_ok [DecidableEq K] {key : R → Option K} {rows : List R} (nodup : (rows.filterMap key).Nodup) :
    unique key rows = .ok () := by simp [unique, constraint, nodup]

theorem check_ok {holds : R → Bool} {rows : List R} (each : ∀ row ∈ rows, holds row = true) : check holds rows = .ok () := by
  simp [check, constraint, List.all_eq_true.2 each]

end Statements

/-- A row of `app_keys`. -/
structure KeyRow where
  appID : UUID
  name : String
  keyPrefix : String
  keyHash : String
  allLocations : Bool := false
  readUsers : Bool := true
  readLocations : Bool := true
  readBranding : Bool := true
  expiresAt : Option Time := none
  lastUsedAt : Option Time := none
  createdAt : Time
  updatedAt : Time
  deletedAt : Option Time := none
  deriving DecidableEq, Repr

/-- A row of `checkins` in this schema. -/
structure FoundationCheckin where
  appID : UUID
  userID : ID
  locationID : ID
  direction : Direction
  notes : String := ""
  photoObjectID : Option ID := none
  appKeyID : Option ID := none
  actorKind : String
  actorAppID : UUID
  createdByUserID : Option ID := none
  createdAt : Time
  deriving DecidableEq, Repr

/-- The tables of `002_shared_foundations.sql`. -/
structure Foundations where
  users : List (ID × UserRow)
  groups : List (ID × GroupRow)
  memberships : List (ID × ID)
  locations : List (ID × LocationRow)
  locationGroups : List (ID × ID)
  appKeys : List (ID × KeyRow)
  keyLocations : List (ID × ID)
  checkins : List (ID × FoundationCheckin)
  roles : List (ID × RoleRow)
  rolePermissions : List ((ID × String) × Int)
  userRoles : List (ID × ID)
  deriving DecidableEq, Repr

section Users

/-- `INSERT INTO users ... SELECT` -/
def userOf (u : OldUser) : UserRow where
  appID := u.id
  email := u.upn
  name := u.displayName
  source := .sourceEntra
  externalID := some (uuidText u.id)
  userPrincipalName := if u.upn = "" then none else some u.upn
  department := some u.department
  createdAt := u.createdAt
  updatedAt := u.updatedAt

/-- `users_local_lower_email_active_idx` -/
def localEmail (u : UserRow) : Option String :=
  if u.email ≠ "" ∧ u.deletedAt = none ∧ u.source = .sourceLocal then some u.email else none

/-- `users_provider_lower_email_active_idx` -/
def providerEmail (u : UserRow) : Option String :=
  if u.email ≠ "" ∧ u.deletedAt = none ∧ u.source ≠ .sourceLocal then some u.email else none

/-- `users_provider_lower_upn_active_idx` -/
def providerUPN (u : UserRow) : Option String :=
  if u.deletedAt = none ∧ u.source ≠ .sourceLocal then u.userPrincipalName.filter fun upn => decide (upn ≠ "") else none

def insertUsers (plan : Plan) (old : Initial) : Except Err (List (ID × UserRow)) := do
  let rows := old.users.map userOf
  unique (fun u => some u.appID) rows
  unique UserRow.identity rows
  check (fun u => decide (u.source = .sourceLocal ↔ u.externalID = none)) rows
  unique UserRow.apiKey rows
  unique localEmail rows
  unique providerEmail rows
  unique providerUPN rows
  .ok (numbered plan rows)

end Users

section Groups

/-- `INSERT INTO directory_groups ... SELECT` -/
def groupOf (g : OldGroup) : GroupRow where
  appID := g.id
  source := .sourceEntra
  externalID := uuidText g.id
  displayName := g.name
  description := g.description
  createdAt := g.createdAt
  updatedAt := g.updatedAt

def insertGroups (plan : Plan) (old : Initial) : Except Err (List (ID × GroupRow)) := do
  let rows := old.groups.map groupOf
  unique (fun g => some g.appID) rows
  unique GroupRow.identity rows
  check (fun g => decide (g.source ≠ .sourceLocal)) rows
  .ok (numbered plan rows)

/-- The rows of a table whose `app_id` is this one. -/
def usersOf (users : List (ID × UserRow)) (appID : UUID) : List ID := idsOf UserRow.appID users appID
def groupsOf (groups : List (ID × GroupRow)) (appID : UUID) : List ID := idsOf GroupRow.appID groups appID
def locationsOf (locations : List (ID × LocationRow)) (appID : UUID) : List ID := idsOf LocationRow.appID locations appID
def keysOf (appKeys : List (ID × KeyRow)) (appID : UUID) : List ID := idsOf KeyRow.appID appKeys appID

/-- The memberships that one of the old ones is joined to. -/
def membershipOf (users : List (ID × UserRow)) (groups : List (ID × GroupRow)) (m : OldMembership) : List (ID × ID) :=
  (usersOf users m.userID).flatMap fun u => (groupsOf groups m.groupID).map fun g => (u, g)

def insertMemberships (users : List (ID × UserRow)) (groups : List (ID × GroupRow)) (old : Initial) :
    Except Err (List (ID × ID)) := do
  let rows := old.memberships.flatMap (membershipOf users groups)
  unique some rows
  .ok rows

end Groups

section Locations

/-- `INSERT INTO locations ... SELECT` -/
def locationOf (l : OldLocation) : LocationRow where
  appID := l.id
  name := l.name
  description := l.description
  enabled := l.enabled
  notes := l.notes
  photo := l.photo
  createdAt := l.createdAt
  updatedAt := l.updatedAt

def insertLocations (plan : Plan) (old : Initial) : Except Err (List (ID × LocationRow)) := do
  let rows := old.locations.map locationOf
  unique (fun l => some l.appID) rows
  unique LocationRow.backgroundAppID rows
  unique LocationRow.logoAppID rows
  check (fun l => nameCheck l.name) rows
  check (fun l => l.backgroundObjectID.isNone == l.backgroundAppID.isNone) rows
  check (fun l => l.logoObjectID.isNone == l.logoAppID.isNone) rows
  .ok (numbered plan rows)

/-- `CROSS JOIN LATERAL unnest(old.group_ids)`: an element that is `NULL` is joined to nothing. -/
def locationGroupsOf (locations : List (ID × LocationRow)) (groups : List (ID × GroupRow)) (l : OldLocation) : List (ID × ID) :=
  l.groupIDs.flatMap fun member => (locationsOf locations l.id).flatMap fun id =>
    (member.elim [] (groupsOf groups)).map fun g => (id, g)

def insertLocationGroups (locations : List (ID × LocationRow)) (groups : List (ID × GroupRow)) (old : Initial) :
    Except Err (List (ID × ID)) := do
  let rows := (old.locations.flatMap (locationGroupsOf locations groups)).dedup
  unique some rows
  .ok rows

end Locations

section Keys

/-- `r.principal_kind = 'api_key' AND r.principal_id = old.id AND r.role = 'admin'` -/
def adminKey (old : Initial) (k : OldKey) : Bool :=
  old.principalRoles.any fun r => decide (r.principalKind = "api_key" ∧ r.principalID = k.id ∧ r.role = "admin")

def permitted (old : Initial) (k : OldKey) (resource action : String) (scope : OldPermission → Bool) : Bool :=
  adminKey old k || old.permissions.any fun p =>
    decide (p.subjectKind = "api_key" ∧ p.subjectID = k.id ∧ p.resource = resource ∧ p.action = action) && scope p

/-- `INSERT INTO app_keys ... SELECT`, with what the key was permitted to do. -/
def keyOf (old : Initial) (k : OldKey) : KeyRow where
  appID := k.id
  name := k.name
  keyPrefix := k.keyPrefix
  keyHash := k.keyHash
  allLocations := permitted old k "checkins" "create" fun p => p.locationID.isNone
  readUsers := permitted old k "users" "read" fun _ => true
  readLocations := permitted old k "locations" "read" fun _ => true
  readBranding := permitted old k "assets" "read" fun p => p.assetType.all fun assetType => decide (assetType = "asset")
  expiresAt := k.expiresAt
  lastUsedAt := k.lastUsedAt
  createdAt := k.createdAt
  updatedAt := k.createdAt

def insertAppKeys (plan : Plan) (old : Initial) : Except Err (List (ID × KeyRow)) := do
  let rows := old.apiKeys.map (keyOf old)
  unique (fun k => some k.appID) rows
  check (fun k => nameCheck k.name) rows
  unique (fun k => some k.keyHash) rows
  .ok (numbered plan rows)

def keyLocationsOf (appKeys : List (ID × KeyRow)) (locations : List (ID × LocationRow)) (p : OldPermission) : List (ID × ID) :=
  if p.subjectKind = "api_key" ∧ p.resource = "checkins" ∧ p.action = "create" then
    (keysOf appKeys p.subjectID).flatMap fun k => (p.locationID.elim [] (locationsOf locations)).map fun l => (k, l)
  else []

def insertKeyLocations (appKeys : List (ID × KeyRow)) (locations : List (ID × LocationRow)) (old : Initial) :
    Except Err (List (ID × ID)) := do
  let rows := (old.permissions.flatMap (keyLocationsOf appKeys locations)).dedup
  unique some rows
  .ok rows

end Keys

section Checkins

variable (users : List (ID × UserRow)) (locations : List (ID × LocationRow)) (appKeys : List (ID × KeyRow))

/-- `direction::checkin_direction` -/
def castDirection (direction : String) : Except Err Direction :=
  match Checkin.parseDirection direction with
  | some direction => .ok direction
  | none => .error (.sqlState .invalidTextRepresentation)

/-- A check-in with the keys that it is joined to. -/
structure JoinedCheckin where
  old : OldCheckin
  user : ID
  location : ID
  author : Option ID
  key : Option ID

/-- The joins of `INSERT INTO checkins ... SELECT`. -/
def joinedCheckins (c : OldCheckin) : List JoinedCheckin :=
  (usersOf users c.userID).flatMap fun user => (locationsOf locations c.locationID).flatMap fun location =>
    (orNull (if c.createdByKind = "user" then usersOf users c.createdByID else [])).flatMap fun author =>
      (orNull (if c.createdByKind = "api_key" then keysOf appKeys c.createdByID else [])).map fun key =>
        ⟨c, user, location, author, key⟩

def checkinRow (joined : JoinedCheckin) (direction : Direction) : FoundationCheckin where
  appID := joined.old.id
  userID := joined.user
  locationID := joined.location
  direction
  notes := joined.old.notes
  appKeyID := joined.key
  actorKind := joined.old.createdByKind
  actorAppID := joined.old.createdByID
  createdByUserID := joined.author
  createdAt := joined.old.createdAt

def checkinOf (joined : JoinedCheckin) : Except Err FoundationCheckin := do
  let direction ← castDirection joined.old.direction
  .ok (checkinRow joined direction)

def insertCheckins (plan : Plan) (old : Initial) : Except Err (List (ID × FoundationCheckin)) := do
  let rows ← (old.checkins.flatMap (joinedCheckins users locations appKeys)).mapM checkinOf
  unique (fun c => some c.appID) rows
  check (fun c => decide (c.actorKind = "user" ∨ c.actorKind = "api_key")) rows
  .ok (numbered plan rows)

end Checkins

section Roles

def adminRole (now : Time) : RoleRow where
  key := "admin"
  name := "Admin"
  description := "Full access to every resource."
  builtin := true
  createdAt := now
  updatedAt := now

def insertRoles (now : Time) : Except Err (List (ID × RoleRow)) := do
  let rows := [adminRole now]
  unique (fun r => some r.key) rows
  check (fun r => nameCheck r.key) rows
  check (fun r => nameCheck r.name) rows
  .ok (serial rows)

/-- The resources the admin role may write. -/
def adminResources : List String := ["users", "groups", "directory", "locations", "checkins", "app_keys", "authz.roles"]

/-- The roles whose key is `admin`. -/
def adminRoles (roles : List (ID × RoleRow)) : List ID := idsOf RoleRow.key roles "admin"

def insertRolePermissions (roles : List (ID × RoleRow)) : Except Err (List ((ID × String) × Int)) := do
  let rows := (adminRoles roles).flatMap fun role => adminResources.map fun resource => ((role, resource), 2)
  unique (fun row => some row.1) rows
  check (fun row => decide (row.2 = 1 ∨ row.2 = 2)) rows
  .ok rows

def userRolesOf (users : List (ID × UserRow)) (roles : List (ID × RoleRow)) (r : OldRole) : List (ID × ID) :=
  if r.principalKind = "user" ∧ r.role = "admin" then
    (usersOf users r.principalID).flatMap fun u => (adminRoles roles).map fun role => (u, role)
  else []

def insertUserRoles (users : List (ID × UserRow)) (roles : List (ID × RoleRow)) (old : Initial) :
    Except Err (List (ID × ID)) := do
  let rows := old.principalRoles.flatMap (userRolesOf users roles)
  unique some rows
  .ok rows

end Roles

/-- The comparison at the end. -/
def complete (old : Initial) (new : Foundations) : Bool :=
  decide (new.users.length = old.users.length) && decide (new.groups.length = old.groups.length) &&
  decide (new.memberships.length = old.memberships.length) && decide (new.locations.length = old.locations.length) &&
  decide (new.appKeys.length = old.apiKeys.length) && decide (new.checkins.length = old.checkins.length)

/-- The statements in the order of the file; the guard at its end compares the counts. -/
def sharedFoundations (plan : Plan) (now : Time) (old : Initial) : Except Err Foundations := do
  let roles ← insertRoles now
  let rolePermissions ← insertRolePermissions roles
  let users ← insertUsers plan old
  let groups ← insertGroups plan old
  let memberships ← insertMemberships users groups old
  let locations ← insertLocations plan old
  let locationGroups ← insertLocationGroups locations groups old
  let appKeys ← insertAppKeys plan old
  let keyLocations ← insertKeyLocations appKeys locations old
  let checkins ← insertCheckins users locations appKeys plan old
  let userRoles ← insertUserRoles users roles old
  let new : Foundations := {
    users, groups, memberships, locations, locationGroups, appKeys, keyLocations, checkins, roles, rolePermissions
    userRoles }
  if complete old new then .ok new
  else .error (.failure "Shared foundations migration did not preserve every identity and check-in")

end Woodgate.Migrations
