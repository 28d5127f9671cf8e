import Woodgate.Constraints
import Woodgate.Library.Results
import Woodgate.Postgres.Listing

/-!
# Roles of users

The four queries that decide or show which roles a user has: the projection of
`attachUserRoles`, the two halves of the role filter of `Store.ListUsers`, and the grants
that the authorization reads.
-/

namespace Woodgate.Directory

open Library Postgres

section Projection

/-- A row of the CTE `assigned`. -/
structure AssignedRole where
  userID : ID
  roleID : ID
  direct : Bool
  deriving DecidableEq, Repr

/-- The CTE `assigned`: a `UNION ALL`. -/
def assignedRoles (ids : List ID) (d : Db) : List AssignedRole :=
  ((d.userRoles.toList.filter fun k => ids.contains k.1.1).map fun k => ⟨k.1.1, k.1.2, true⟩) ++
  (d.memberships.toList.filter fun k => ids.contains k.1.1).flatMap fun membership =>
    (d.groupRoles.toList.filter fun groupRole => decide (groupRole.1.1 = membership.1.2)).map fun groupRole =>
      ⟨membership.1.1, groupRole.1.2, false⟩

end Projection

section List

structure UserListParams where
  listParams : Params := {}
  values : List String := []
  roleValues : List String := []
  source : String := ""
  groupID : ID := 0
  deriving DecidableEq, Repr

/-- `effectiveRoleExistsSQL` -/
def effectiveRoleExists (userID : ID) (d : Db) : Bool :=
  (d.userRoles.exists? fun k _ => decide (k.1 = userID)) ||
    d.memberships.exists? fun k _ => decide (k.1 = userID) &&
      d.groupRoles.exists? fun j _ => decide (j.1 = k.2)

/-- The first condition of `roleFilterSQL`. -/
def roleExists (roleIDs : List ID) (userID : ID) (d : Db) : Bool :=
  (d.userRoles.exists? fun k _ => decide (k.1 = userID) && roleIDs.contains k.2) ||
    d.memberships.exists? fun k _ => decide (k.1 = userID) &&
      d.groupRoles.exists? fun j _ => decide (j.1 = k.2) && roleIDs.contains j.2

/-- The role ids a filter names. -/
def filterRoleIDs (values : List String) : List ID :=
  (values.filter fun value => decide (value ≠ "none")).map Go.parseInt

/-- `roleFilterSQL` -/
def roleFilter (values : List String) (userID : ID) (d : Db) : Bool :=
  let roleIDs := filterRoleIDs values
  let includeNone := values.contains "none"
  (!roleIDs.isEmpty && roleExists roleIDs userID d) || (includeNone && !effectiveRoleExists userID d)

/-- `userWhere`, with the join of `userListSelectSQL`. -/
def userWhere (locale : DbLocale) (params : UserListParams) (d : Db) (u : ID × UserRow) : Bool :=
  u.2.deletedAt.isNone &&
  (decide (params.groupID ≤ 0) || (d.memberships.row (u.1, params.groupID)).isSome) &&
  matchesSearch locale params.listParams.q [some u.2.email, u.2.userPrincipalName, u.2.mailNickname, some u.2.name,
    u.2.givenName, u.2.familyName, u.2.department] &&
  (params.values.isEmpty || (normalizeValues params.values).contains (toString u.1)) &&
  (params.roleValues.isEmpty || roleFilter params.roleValues u.1 d) &&
  (decide (params.source ≠ "local") || decide (u.2.source = .sourceLocal)) &&
  (decide (params.source ≠ "entra") || decide (u.2.source = .sourceEntra))

def optionText : Option String → SortValue
  | none => .null
  | some s => .text s

/-- `userListQuery` -/
def userListQuery (locale : DbLocale) (params : UserListParams) (d : Db) : ListQuery (ID × UserRow) where
  rows := d.users.toList.filter (userWhere locale params d)
  orderKeys := [
    ("name", { sql := "lower(u.name)", value := fun u => .text (locale.lower u.2.name) }),
    ("email", { sql := "lower(u.email)", value := fun u => .text (locale.lower u.2.email) }),
    ("department", {
      sql := "lower(u.department)", value := fun u => optionText (u.2.department.map locale.lower)
      nullOrder := .nullsLast }),
    ("created_at", { sql := "u.created_at", value := fun u => .int u.2.createdAt }),
    ("updated_at", { sql := "u.updated_at", value := fun u => .int u.2.updatedAt })]
  defaultOrder := [
    { sql := "lower(u.name)", value := fun u => .text (locale.lower u.2.name) },
    { sql := "lower(u.email)", value := fun u => .text (locale.lower u.2.email) },
    { sql := "u.id", value := fun u => .int u.1 }]
  params := params.listParams

end List

end Woodgate.Directory

namespace Woodgate.Rbac

open Library

/-- The `Access` levels of the authorization. -/
inductive Access where
  | view
  | edit
  deriving DecidableEq, Repr

structure Grant where
  resource : String
  access : Access
  deriving DecidableEq, Repr

/-- `accessFromLevel` -/
def accessFromLevel (level : Int) : Except Err Access :=
  if level = 1 then .ok .view
  else if level = 2 then .ok .edit
  else .error (.invalidAccess level)

/-- The CTE `assigned_roles`: a `UNION ALL`. -/
def assignedRoles (userID : ID) (d : Db) : List ID :=
  ((d.userRoles.toList.filter fun k => decide (k.1.1 = userID)).map fun k => k.1.2) ++
  d.groupRoles.toList.flatMap fun groupRole =>
    (d.memberships.toList.filter fun membership =>
      decide (membership.1.2 = groupRole.1.1) && decide (membership.1.1 = userID)).map fun _ => groupRole.1.2

/-- The query of `Store.Grants`: a resource and a level. -/
def grantRows (userID : ID) (d : Db) : List (String × Int) :=
  (assignedRoles userID d).flatMap fun roleID =>
    (d.rolePermissions.toList.filter fun permission => decide (permission.1.1 = roleID)).map fun permission =>
      (permission.1.2, permission.2)

def grantFromRow (row : String × Int) : Except Err Grant := do .ok ⟨row.1, ← accessFromLevel row.2⟩

/-- `Store.Grants` -/
def grants (userID : ID) (d : Db) : Except Err (List Grant) := (grantRows userID d).mapM grantFromRow

end Woodgate.Rbac
