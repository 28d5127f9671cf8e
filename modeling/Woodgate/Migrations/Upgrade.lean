import Woodgate.Checkin.Eligibility
import Woodgate.Migrations.Translated

/-!
# The later migrations

`003_stations.sql` and `004_checkin_times.sql`, and the run of all three. What they end in is the
`Db` of the stores, beside the columns of `app_keys` and the rows of `app_key_locations` that no
store reads any more.
-/

namespace Woodgate.Migrations

open Library Library.Joins Library.Results

structure StationCheckin extends FoundationCheckin where
  stationID : Option ID := none
  deriving DecidableEq, Repr

/-- The tables after `003_stations.sql`; the three new ones are empty. -/
structure Stationed where
  kept : Foundations
  checkins : List (ID × StationCheckin)
  rolePermissions : List ((ID × String) × Int)

structure Upgraded where
  db : Db
  appKeys : List (ID × KeyRow)
  keyLocations : List (ID × ID)

section Stations

def greatest (a b : Int) : Int := if a < b then b else a

/-- `ON CONFLICT (role_id, resource) DO UPDATE SET access = greatest(authz_role_permissions.access, EXCLUDED.access)` -/
def upsertPermission (rows : List ((ID × String) × Int)) (row : (ID × String) × Int) : List ((ID × String) × Int) :=
  if rows.any fun old => decide (old.1 = row.1) then
    rows.map fun old => if old.1 = row.1 then (old.1, greatest old.2 row.2) else old
  else rows ++ [row]

/-- The permissions for `app_keys` become permissions for `stations`. -/
def renamePermissions (rows : List ((ID × String) × Int)) : List ((ID × String) × Int) :=
  let selected := (rows.filter fun row => decide (row.1.2 = "app_keys")).map fun row => ((row.1.1, "stations"), row.2)
  (selected.foldl upsertPermission rows).filter fun row => decide (row.1.2 ≠ "app_keys")

def stationKinds (kind : String) : Bool := decide (kind = "user" ∨ kind = "api_key" ∨ kind = "station")

def stations (old : Foundations) : Except Err Stationed := do
  check (fun c => stationKinds c.2.actorKind) old.checkins
  .ok {
    kept := old
    checkins := old.checkins.map fun c => (c.1, { c.2 with })
    rolePermissions := renamePermissions old.rolePermissions }

end Stations

section Times

/-- `UPDATE checkins SET occurred_at = created_at, updated_at = created_at` -/
def timed (c : StationCheckin) : CheckinRow :=
  { c with occurredAt := c.createdAt, updatedAt := c.createdAt }

/-- The next value of a serial column. -/
def nextID {R : Type} (table : List (ID × R)) : ID := (table.length : Int) + 1

/-- A number above those in use, which `gen_random_uuid()` does not draw. -/
def nextUUID (old : Foundations) : UUID :=
  (old.users.map fun row => row.2.appID) ++ (old.groups.map fun row => row.2.appID) ++
    (old.locations.map fun row => row.2.appID) ++ (old.checkins.map fun row => row.2.appID) |>.foldl Nat.max 0 |>.succ

def checkinTimes (old : Stationed) : Upgraded where
  appKeys := old.kept.appKeys
  keyLocations := old.kept.keyLocations
  db := {
    users := .ofList old.kept.users
    groups := .ofList old.kept.groups
    memberships := .ofList (old.kept.memberships.map fun m => (m, ()))
    roles := .ofList old.kept.roles
    rolePermissions := .ofList old.rolePermissions
    userRoles := .ofList (old.kept.userRoles.map fun r => (r, ()))
    locations := .ofList old.kept.locations
    locationGroups := .ofList (old.kept.locationGroups.map fun g => (g, ()))
    checkins := .ofList (old.checkins.map fun c => (c.1, timed c.2))
    appKeys := .ofList (old.kept.appKeys.map fun k => (k.1, { name := k.2.name }))
    seq := {
      users := nextID old.kept.users
      groups := nextID old.kept.groups
      roles := nextID old.kept.roles
      locations := nextID old.kept.locations
      checkins := nextID old.checkins
      uuid := nextUUID old.kept } }

end Times

/-- The migrations after the first; a failed one is rolled back. -/
def migrate (plan : Plan) (now : Time) (old : Initial) : Except Err Upgraded := do
  let foundations ← sharedFoundations plan now old
  let stationed ← stations foundations
  .ok (checkinTimes stationed)

end Woodgate.Migrations
