import Woodgate.Constraints
import Woodgate.Go.Strings
import Woodgate.Postgres.Locale
import Woodgate.Library.Latest
import Woodgate.Library.Upsert

/-!
# Applying a provider snapshot

`Store.ApplyProviderSnapshot`. The snapshot is staged with the position of every entry;
then six statements reconcile the groups, the users and the memberships of its source.
The staging tables belong to the connection, so the statements get their contents as
arguments.
-/

namespace Woodgate.Directory

open Library Library.ReadCommitted Library.Latest

/-- A source-owned directory user. -/
structure ProviderUser where
  externalID : String
  userPrincipalName : String
  mail : String := ""
  mailNickname : String := ""
  displayName : String := ""
  givenName : String := ""
  familyName : String := ""
  department : String := ""
  enabled : Bool
  groupExternalIDs : List String := []
  deriving DecidableEq, Repr

/-- A source-owned directory group. -/
structure ProviderGroup where
  externalID : String
  displayName : String
  mailNickname : String := ""
  deriving DecidableEq, Repr

structure ProviderSnapshot where
  users : List ProviderUser := []
  groups : List ProviderGroup := []
  deriving DecidableEq, Repr

section Staging

/-- A row of `directory_group_snapshot`. -/
structure GroupSnapshot where
  position : Nat
  externalID : String
  displayName : String
  mailNickname : Option String
  deriving DecidableEq, Repr

/-- A row of `directory_user_snapshot`. -/
structure UserSnapshot where
  position : Nat
  externalID : String
  userPrincipalName : String
  mail : Option String
  mailNickname : Option String
  displayName : String
  givenName : Option String
  familyName : Option String
  department : Option String
  enabled : Bool
  groupExternalIDs : List String
  deriving DecidableEq, Repr

def stageGroup (group : ProviderGroup) (i : Nat) : GroupSnapshot :=
  ⟨i, group.externalID, group.displayName, Go.nullString group.mailNickname⟩

def stageUser (user : ProviderUser) (i : Nat) : UserSnapshot where
  position := i
  externalID := user.externalID
  userPrincipalName := Go.trimSpace user.userPrincipalName
  mail := Go.nullString (Go.trimSpace user.mail)
  mailNickname := Go.nullString user.mailNickname
  displayName := user.displayName
  givenName := Go.nullString user.givenName
  familyName := Go.nullString user.familyName
  department := Go.nullString user.department
  enabled := user.enabled
  groupExternalIDs := user.groupExternalIDs

/-- What `stageProviderSnapshot` copies into the two tables. -/
def stageGroups (snapshot : ProviderSnapshot) : List GroupSnapshot := numbered stageGroup snapshot.groups

def stageUsers (snapshot : ProviderSnapshot) : List UserSnapshot := numbered stageUser snapshot.users

end Staging

section Constraints

/-- The checks and keys of `directory_groups` for the row about to be stored at `id`. -/
def groupConstraints (groups : Table ID GroupRow) (id : ID) (row : GroupRow) : Except Err Unit :=
  if row.source = .sourceLocal then .error (.sqlState .checkViolation)
  else if groups.exists? fun j g => decide (j ≠ id) &&
      (decide (g.appID = row.appID) || (decide (g.source = row.source) && decide (g.externalID = row.externalID))) then
    .error (.sqlState .uniqueViolation)
  else .ok ()

/-- The two rows collide in one of the unique indexes of `users`. -/
def userCollides (u v : UserRow) : Bool :=
  let active := u.deletedAt.isNone && v.deletedAt.isNone
  let provider := decide (u.source ≠ .sourceLocal) && decide (v.source ≠ .sourceLocal)
  let sameEmail := decide (u.email = v.email) && decide (u.email ≠ "")
  decide (u.appID = v.appID) ||
    (decide (u.source = v.source) && u.externalID.isSome && decide (u.externalID = v.externalID)) ||
    (u.apiKey.isSome && decide (u.apiKey = v.apiKey)) ||
    (active && decide (u.source = .sourceLocal) && decide (v.source = .sourceLocal) && sameEmail) ||
    (active && provider && sameEmail) ||
    (active && provider && u.userPrincipalName.isSome && decide (u.userPrincipalName ≠ some "") &&
      decide (u.userPrincipalName = v.userPrincipalName))

/-- The checks and keys of `users` for the row about to be stored at `id`. -/
def userConstraints (users : Table ID UserRow) (id : ID) (row : UserRow) : Except Err Unit :=
  if decide (row.source = .sourceLocal) ≠ row.externalID.isNone then .error (.sqlState .checkViolation)
  else if users.exists? fun j u => decide (j ≠ id) && userCollides u row then .error (.sqlState .uniqueViolation)
  else .ok ()

end Constraints

section Groups

/-- The `INSERT INTO directory_groups ... ON CONFLICT (source, external_id)`. -/
def groupUpsert (now : Time) (source : Source) (seq : Sequences) : Upsert ID GroupRow GroupSnapshot (Source × String) where
  key := GroupRow.identity
  keyOf p := (source, p.externalID)
  fresh n := seq.groups + n
  insert n p := {
    appID := seq.uuid + n, source, externalID := p.externalID, displayName := p.displayName
    mailNickname := p.mailNickname, createdAt := now, updatedAt := now }
  update g p := { g with displayName := p.displayName, mailNickname := p.mailNickname, updatedAt := now }
  insert_key _ _ := rfl
  update_key _ _ own := own

/-- The selected rows of the staged groups. -/
def currentGroups (locale : Postgres.DbLocale) (staged : List GroupSnapshot) : List GroupSnapshot :=
  distinctOn GroupSnapshot.externalID GroupSnapshot.position locale.le staged

/-- The first statement of `reconcileGroupSnapshot`. -/
def upsertGroups (locale : Postgres.DbLocale) (now : Time) (source : Source) (staged : List GroupSnapshot) : Sql := fun d => do
  let rows := currentGroups locale staged
  let groups ← (groupUpsert now source d.seq).applyRows groupConstraints (.sqlState .uniqueViolation) d.groups 0 rows
  let conflicting := d.groups.toList.filter fun g => decide (g.2.source = source) &&
    rows.any fun p => decide (p.externalID = g.2.externalID)
  .ok (conflicting.map fun g => (.group g.1, .noKeyUpdate), { d with
    groups, seq := { d.seq with groups := d.seq.groups + rows.length, uuid := d.seq.uuid + rows.length } })

/-- The group is the source's and not in the snapshot. -/
def absentGroup (source : Source) (staged : List GroupSnapshot) (group : GroupRow) : Bool :=
  decide (group.source = source) && staged.all fun p => decide (p.externalID ≠ group.externalID)

/-- The second one: its `DELETE`, with what the foreign keys do to the rows that refer to
a deleted group. -/
def deleteAbsentGroups (source : Source) (staged : List GroupSnapshot) : Sql := fun d =>
  let survives (id : ID) := (d.groups.row id).all fun g => !absentGroup source staged g
  .ok ([], { d with
    groups := d.groups.filter fun _ g => !absentGroup source staged g
    memberships := d.memberships.filter fun k _ => survives k.2
    groupRoles := d.groupRoles.filter fun k _ => survives k.1
    locationGroups := d.locationGroups.filter fun k _ => survives k.2 })

end Groups

section Users

/-- `deleted_at = now(), updated_at = now()` for an active user of the source. -/
def tombstone (now : Time) (source : Source) (u : UserRow) : UserRow :=
  if u.source = source ∧ u.deletedAt = none then { u with deletedAt := some now, updatedAt := now } else u

/-- The first statement of `reconcileUserSnapshot`. -/
def tombstoneUsers (now : Time) (source : Source) : Sql := fun d =>
  let active := d.users.toList.filter fun u => decide (u.2.source = source) && u.2.deletedAt.isNone
  .ok (active.map fun u => (.user u.1, .noKeyUpdate), { d with users := d.users.map fun _ => tombstone now source })

/-- The `INSERT INTO users ... ON CONFLICT (source, external_id)`. -/
def userUpsert (now : Time) (source : Source) (seq : Sequences) : Upsert ID UserRow UserSnapshot (Source × String) where
  key := UserRow.identity
  keyOf p := (source, p.externalID)
  fresh n := seq.users + n
  insert n p := {
    appID := seq.uuid + n, email := p.mail.getD p.userPrincipalName, name := p.displayName, source
    externalID := some p.externalID, userPrincipalName := some p.userPrincipalName, mailNickname := p.mailNickname
    givenName := p.givenName, familyName := p.familyName, department := p.department
    deletedAt := if p.enabled then none else some now, createdAt := now, updatedAt := now }
  update u p := { u with
    email := p.mail.getD p.userPrincipalName, name := p.displayName
    userPrincipalName := some p.userPrincipalName, mailNickname := p.mailNickname
    givenName := p.givenName, familyName := p.familyName, department := p.department
    deletedAt := if p.enabled then none else some now, updatedAt := now }
  insert_key _ _ := rfl
  update_key _ _ own := own

/-- The selected rows of the staged users. -/
def currentUsers (locale : Postgres.DbLocale) (staged : List UserSnapshot) : List UserSnapshot :=
  distinctOn UserSnapshot.externalID UserSnapshot.position locale.le staged

/-- The second statement of `reconcileUserSnapshot`. -/
def upsertUsers (locale : Postgres.DbLocale) (now : Time) (source : Source) (staged : List UserSnapshot) : Sql := fun d => do
  let rows := currentUsers locale staged
  let users ← (userUpsert now source d.seq).applyRows userConstraints (.sqlState .uniqueViolation) d.users 0 rows
  let conflicting := d.users.toList.filter fun u => decide (u.2.source = source) &&
    rows.any fun p => decide (u.2.externalID = some p.externalID)
  .ok (conflicting.map fun u => (.user u.1, .noKeyUpdate), { d with
    users, seq := { d.seq with users := d.seq.users + rows.length, uuid := d.seq.uuid + rows.length } })

end Users

section Memberships

/-- The first statement of `reconcileGroupMembershipSnapshot`. -/
def deleteMemberships (source : Source) : Sql := fun d =>
  .ok ([], { d with memberships := d.memberships.filter fun k _ =>
    !((d.users.row k.1).any (fun u => decide (u.source = source)) &&
      (d.groups.row k.2).any fun g => decide (g.source = source)) })

/-- The rows its second statement selects. -/
def snapshotMemberships (source : Source) (rows : List UserSnapshot) (users : Table ID UserRow)
    (groups : Table ID GroupRow) : List (ID × ID) :=
  rows.flatMap fun p => p.groupExternalIDs.flatMap fun groupExternalID =>
    (users.toList.filter fun u => decide (u.2.source = source) && decide (u.2.externalID = some p.externalID)).flatMap
      fun u => (groups.toList.filter fun g => decide (g.2.source = source) &&
        decide (g.2.externalID = groupExternalID)).map fun g => (u.1, g.1)

def insertMemberships (locale : Postgres.DbLocale) (source : Source) (staged : List UserSnapshot) : Sql := fun d =>
  let rows := snapshotMemberships source (currentUsers locale staged) d.users d.groups
  .ok (rows.flatMap fun k => [(.user k.1, .keyShare), (.group k.2, .keyShare)],
    { d with memberships := d.memberships.insertKeys rows })

end Memberships

/-- What `Store.ApplyProviderSnapshot` sends; each statement takes the `now()` of the
transaction. -/
def snapshotStatements (locale : Postgres.DbLocale) (source : Source) (snapshot : ProviderSnapshot) : List (Time → Sql) :=
  let groups := stageGroups snapshot
  let users := stageUsers snapshot
  [fun now => upsertGroups locale now source groups, fun _ => deleteAbsentGroups source groups,
    fun now => tombstoneUsers now source, fun now => upsertUsers locale now source users,
    fun _ => deleteMemberships source, fun _ => insertMemberships locale source users]

/-- `Store.ApplyProviderSnapshot`, up to its commit. -/
def applyProviderSnapshot (locale : Postgres.DbLocale) (now : Time) (source : Source) (snapshot : ProviderSnapshot) :
    Except Err (List Sql) :=
  if source = .sourceLocal then .error (.failure "directory: local source cannot apply provider snapshot")
  else .ok ((snapshotStatements locale source snapshot).map fun statement => statement now)

end Woodgate.Directory
