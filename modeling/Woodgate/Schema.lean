import Woodgate.Library.Table
import Woodgate.Library.ReadCommitted
import Woodgate.Postgres.Errors

/-!
# The tables

One record per table of the migrations, under the columns' names, and `Db`, the
tables together. `BIGSERIAL` columns and `gen_random_uuid()` draw from `Sequences`:
numbers that are only ever handed out once, also by a transaction that is rolled
back. `Db` is a `RowStore`, so the statements written against it run inside the
transactions of `Library.ReadCommitted` as well as alone.
-/

namespace Woodgate

open Library

/-- A `BIGINT` identifier. -/
abbrev ID := Int

/-- A `TIMESTAMPTZ` in microseconds. -/
abbrev Time := Int

/-- A value of `gen_random_uuid()`: the n-th one drawn. -/
abbrev UUID := Nat

/-- The `directory_source` enumeration. -/
inductive Source where
  | sourceLocal
  | sourceEntra
  deriving DecidableEq, Repr

/-- The `checkin_direction` enumeration. -/
inductive Direction where
  | directionIn
  | directionOut
  deriving DecidableEq, Repr

structure UserRow where
  appID : UUID
  email : String
  name : String := ""
  passwordHash : Option String := none
  apiKey : Option String := none
  apiKeyCreatedAt : Option Time := none
  source : Source := .sourceLocal
  externalID : Option String := none
  userPrincipalName : Option String := none
  mailNickname : Option String := none
  givenName : Option String := none
  familyName : Option String := none
  department : Option String := none
  deletedAt : Option Time := none
  createdAt : Time
  updatedAt : Time
  deriving DecidableEq, Repr

/-- A row of `directory_groups`. -/
structure GroupRow where
  appID : UUID
  source : Source
  externalID : String
  displayName : String
  description : String := ""
  mailNickname : Option String := none
  createdAt : Time
  updatedAt : Time
  deriving DecidableEq, Repr

/-- A row of `authz_roles`. -/
structure RoleRow where
  key : String
  name : String
  description : String := ""
  builtin : Bool := false
  createdAt : Time
  updatedAt : Time
  deriving DecidableEq, Repr

structure LocationRow where
  appID : UUID
  name : String
  description : String := ""
  enabled : Bool := true
  notes : Bool := false
  photo : Bool := false
  backgroundObjectID : Option ID := none
  backgroundAppID : Option UUID := none
  logoObjectID : Option ID := none
  logoAppID : Option UUID := none
  createdAt : Time
  updatedAt : Time
  deriving DecidableEq, Repr

structure StationRow where
  appID : UUID
  name : String
  locationID : ID
  enabled : Bool := true
  secretHash : String
  createdAt : Time
  updatedAt : Time
  deriving DecidableEq, Repr

/-- A row of `station_sessions`. -/
structure SessionRow where
  connectionID : String
  protocolVersion : Int
  version : String
  expiresAt : Time
  deriving DecidableEq, Repr

/-- A row of `station_rejections`. -/
structure RejectionRow where
  protocolVersion : Option Int
  version : String
  expiresAt : Time
  deriving DecidableEq, Repr

structure CheckinRow where
  appID : UUID
  userID : ID
  locationID : ID
  direction : Direction
  notes : String := ""
  photoObjectID : Option ID := none
  appKeyID : Option ID := none
  actorKind : String
  actorAppID : UUID
  createdByUserID : Option ID := none
  stationID : Option ID := none
  occurredAt : Time
  createdAt : Time
  updatedAt : Time
  deriving DecidableEq, Repr

/-- A row of `app_keys`, of which only the name is still read. -/
structure AppKeyRow where
  name : String
  deriving DecidableEq, Repr

/-- A row of `storage_objects`, which the object store owns. -/
structure ObjectRow where
  objectPrefix : String
  filename : String
  contentType : String
  sizeBytes : Int
  sha256 : String
  availableAt : Option Time := none
  expiredAt : Option Time := none
  deriving DecidableEq, Repr

/-- The next value of each `BIGSERIAL` column, and of `gen_random_uuid()`. -/
structure Sequences where
  users : ID := 1
  groups : ID := 1
  roles : ID := 1
  locations : ID := 1
  stations : ID := 1
  checkins : ID := 1
  uuid : UUID := 0

/-- The tables of the service. A membership or an assignment is a row without other
columns than its key; `rolePermissions` holds the access level. -/
structure Db where
  users : Table ID UserRow := .empty
  groups : Table ID GroupRow := .empty
  memberships : Table (ID × ID) Unit := .empty
  roles : Table ID RoleRow := .empty
  rolePermissions : Table (ID × String) Int := .empty
  userRoles : Table (ID × ID) Unit := .empty
  groupRoles : Table (ID × ID) Unit := .empty
  locations : Table ID LocationRow := .empty
  locationGroups : Table (ID × ID) Unit := .empty
  stations : Table ID StationRow := .empty
  sessions : Table ID SessionRow := .empty
  rejections : Table ID RejectionRow := .empty
  checkins : Table ID CheckinRow := .empty
  appKeys : Table ID AppKeyRow := .empty
  storageObjects : Table ID ObjectRow := .empty
  seq : Sequences := {}

/-- A primary key together with the table it is of. -/
inductive RowKey where
  | user (id : ID)
  | group (id : ID)
  | membership (userID groupID : ID)
  | role (id : ID)
  | rolePermission (roleID : ID) (resource : String)
  | userRole (userID roleID : ID)
  | groupRole (groupID roleID : ID)
  | location (id : ID)
  | locationGroup (locationID groupID : ID)
  | station (id : ID)
  | session (stationID : ID)
  | rejection (stationID : ID)
  | checkin (id : ID)
  | appKey (id : ID)
  | storageObject (id : ID)
  deriving DecidableEq, Repr

/-- The columns behind a primary key. -/
def RowKey.Row : RowKey → Type
  | .user _ => UserRow
  | .group _ => GroupRow
  | .role _ => RoleRow
  | .rolePermission _ _ => Int
  | .location _ => LocationRow
  | .station _ => StationRow
  | .session _ => SessionRow
  | .rejection _ => RejectionRow
  | .checkin _ => CheckinRow
  | .appKey _ => AppKeyRow
  | .storageObject _ => ObjectRow
  | .membership _ _ | .userRole _ _ | .groupRole _ _ | .locationGroup _ _ => Unit

namespace Db

/-- The row at a primary key. -/
def get : (k : RowKey) → Db → Option k.Row
  | .user id, d => d.users.row id
  | .group id, d => d.groups.row id
  | .membership u g, d => d.memberships.row (u, g)
  | .role id, d => d.roles.row id
  | .rolePermission r res, d => d.rolePermissions.row (r, res)
  | .userRole u r, d => d.userRoles.row (u, r)
  | .groupRole g r, d => d.groupRoles.row (g, r)
  | .location id, d => d.locations.row id
  | .locationGroup l g, d => d.locationGroups.row (l, g)
  | .station id, d => d.stations.row id
  | .session id, d => d.sessions.row id
  | .rejection id, d => d.rejections.row id
  | .checkin id, d => d.checkins.row id
  | .appKey id, d => d.appKeys.row id
  | .storageObject id, d => d.storageObjects.row id

/-- The selected rows of `a`, the other rows and the sequences of `b`. -/
def merge (sel : RowKey → Bool) (a b : Db) : Db where
  users := .merge (fun id => sel (.user id)) a.users b.users
  groups := .merge (fun id => sel (.group id)) a.groups b.groups
  memberships := .merge (fun k => sel (.membership k.1 k.2)) a.memberships b.memberships
  roles := .merge (fun id => sel (.role id)) a.roles b.roles
  rolePermissions := .merge (fun k => sel (.rolePermission k.1 k.2)) a.rolePermissions b.rolePermissions
  userRoles := .merge (fun k => sel (.userRole k.1 k.2)) a.userRoles b.userRoles
  groupRoles := .merge (fun k => sel (.groupRole k.1 k.2)) a.groupRoles b.groupRoles
  locations := .merge (fun id => sel (.location id)) a.locations b.locations
  locationGroups := .merge (fun k => sel (.locationGroup k.1 k.2)) a.locationGroups b.locationGroups
  stations := .merge (fun id => sel (.station id)) a.stations b.stations
  sessions := .merge (fun id => sel (.session id)) a.sessions b.sessions
  rejections := .merge (fun id => sel (.rejection id)) a.rejections b.rejections
  checkins := .merge (fun id => sel (.checkin id)) a.checkins b.checkins
  appKeys := .merge (fun id => sel (.appKey id)) a.appKeys b.appKeys
  storageObjects := .merge (fun id => sel (.storageObject id)) a.storageObjects b.storageObjects
  seq := b.seq

/-- The primary keys at which two databases differ. -/
def changed (a b : Db) : List RowKey :=
  (a.users.changed b.users).map .user ++ (a.groups.changed b.groups).map .group ++
  (a.memberships.changed b.memberships).map (fun k => .membership k.1 k.2) ++
  (a.roles.changed b.roles).map .role ++
  (a.rolePermissions.changed b.rolePermissions).map (fun k => .rolePermission k.1 k.2) ++
  (a.userRoles.changed b.userRoles).map (fun k => .userRole k.1 k.2) ++
  (a.groupRoles.changed b.groupRoles).map (fun k => .groupRole k.1 k.2) ++
  (a.locations.changed b.locations).map .location ++
  (a.locationGroups.changed b.locationGroups).map (fun k => .locationGroup k.1 k.2) ++
  (a.stations.changed b.stations).map .station ++ (a.sessions.changed b.sessions).map .session ++
  (a.rejections.changed b.rejections).map .rejection ++ (a.checkins.changed b.checkins).map .checkin ++
  (a.appKeys.changed b.appKeys).map .appKey ++
  (a.storageObjects.changed b.storageObjects).map .storageObject

theorem get_merge (k : RowKey) (sel : RowKey → Bool) (a b : Db) :
    get k (merge sel a b) = if sel k then get k a else get k b := by
  cases k <;> rfl

theorem mem_changed (k : RowKey) (a b : Db) : k ∈ changed a b ↔ get k a ≠ get k b := by
  cases k <;> simp [changed, Table.mem_changed] <;> rfl

/-- Every row at which `after` differs from `before` is named by `p`. -/
def ChangesOnly (before after : Db) (p : RowKey → Prop) : Prop :=
  ∀ key, get key before ≠ get key after → p key

theorem ChangesOnly.refl (d : Db) (p : RowKey → Prop) : ChangesOnly d d p :=
  fun _ differ => absurd rfl differ

instance : ReadCommitted.RowStore Db where
  Key := RowKey
  decKey := inferInstance
  Row := RowKey.Row
  get := get
  merge := merge
  get_merge := get_merge
  changed := changed
  mem_changed := mem_changed
  carry a b := { b with seq := a.seq }
  get_carry k a b := by cases k <;> rfl

end Db

/-- A statement of this service. -/
abbrev Sql := ReadCommitted.Statement Db Err

/-- The statement, with its errors translated. -/
def Sql.mapError (f : Err → Err) (s : Sql) : Sql := fun d => (s d).mapError f

theorem Sql.mapError_ok {f : Err → Err} {s : Sql} {d : Db} {r : List (RowKey × ReadCommitted.LockMode) × Db} :
    s.mapError f d = .ok r ↔ s d = .ok r := by
  rw [mapError, Results.mapError_ok]

/-- The rows a transaction leaves, if its function gets to the statements and they all
succeed. -/
def transact (statements : Except Err (List Sql)) (d : Db) : Except Err Db := do
  ReadCommitted.runStatements (← statements) d

theorem transact_ok {statements : Except Err (List Sql)} {d d' : Db} :
    transact statements d = .ok d' ↔ ∃ sent, statements = .ok sent ∧ ReadCommitted.runStatements sent d = .ok d' := by
  rw [transact, Results.bind_ok]

end Woodgate
