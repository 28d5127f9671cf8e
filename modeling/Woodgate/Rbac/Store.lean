import Woodgate.Directory.Roles
import Woodgate.Directory.UserStore
import Woodgate.Go.Strings

/-!
# The permissions of roles

`Store.UpdateRole` of the authorization. A request carries a map from resources to levels
of access, here the entries in the order in which the loops visit them.
-/

namespace Woodgate.Rbac

open Library Library.ReadCommitted Library.Results Postgres

section Mutation

/-- The `authz.Access` of a request. -/
inductive RequestedAccess where
  | none
  | level (access : Access)
  /-- any other text -/
  | other (text : String)
  deriving DecidableEq, Repr

/-- The resource catalogue. -/
def resources : List String := ["users", "groups", "directory", "locations", "checkins", "stations", "authz.roles"]

/-- A `RoleMutation`, without the key that only `CreateRole` reads. -/
structure RoleMutation where
  name : String
  description : String
  permissions : List (String × RequestedAccess)
  nodup : (permissions.map Prod.fst).Nodup
  deriving DecidableEq, Repr

def RoleMutation.normalize (mutation : RoleMutation) : RoleMutation :=
  { mutation with name := Go.trimSpace mutation.name, description := Go.trimSpace mutation.description }

def validResource (resource : String) : Bool := resources.contains resource

def validAccess : RequestedAccess → Bool
  | .none | .level _ => true
  | .other _ => false

def RequestedAccess.text : RequestedAccess → String
  | .none => "none"
  | .level .view => "view"
  | .level .edit => "edit"
  | .other text => text

/-- One turn of the loop of `validate`. -/
def validatePermission (permission : String × RequestedAccess) : Except Err Unit :=
  if !validResource permission.1 then .error (.invalidInput ("unknown resource " ++ Go.quote permission.1))
  else if !validAccess permission.2 then .error (.invalidInput ("invalid access " ++ Go.quote permission.2.text))
  else .ok ()

/-- `RoleMutation.validate(false)` -/
def RoleMutation.validate (mutation : RoleMutation) : Except Err Unit := do
  if mutation.name = "" then .error (.invalidInput "name is required")
  mutation.permissions.forM validatePermission

/-- `accessLevel` -/
def accessLevel : RequestedAccess → Except Err Int
  | .none => .ok 0
  | .level .view => .ok 1
  | .level .edit => .ok 2
  | .other text => .error (.failure ("invalid access: " ++ Go.quote text))

end Mutation

section Statements

/-- `UPDATE authz_roles ... WHERE id = $1 AND NOT builtin`, and the lookup that follows if
there is no such row. -/
def writeRole (now : Time) (id : ID) (mutation : RoleMutation) : Sql := fun d =>
  match d.roles.row id with
  | none => .error .notFound
  | some old =>
    if old.builtin then .error (.conflict "builtin roles cannot be changed")
    else if !nameCheck mutation.name then .error (mutationError (.sqlState .checkViolation))
    else .ok ([(.role id, .noKeyUpdate)], { d with
      roles := d.roles.set id { old with name := mutation.name, description := mutation.description, updatedAt := now } })

/-- The `DELETE` of `replacePermissions`. -/
def deletePermissions (roleID : ID) : Sql := fun d =>
  .ok ([], { d with rolePermissions := d.rolePermissions.filter fun k _ => decide (k.1 ≠ roleID) })

/-- One `INSERT` of `replacePermissions`. -/
def insertPermission (roleID : ID) (resource : String) (level : Int) : Sql := fun d =>
  if level ≠ 1 ∧ level ≠ 2 then .error (.sqlState .checkViolation)
  else if (d.rolePermissions.row (roleID, resource)).isSome then .error (.sqlState .uniqueViolation)
  else if (d.roles.row roleID).isNone then .error (.sqlState .foreignKeyViolation)
  else .ok ([(.role roleID, .keyShare)], { d with rolePermissions := d.rolePermissions.set (roleID, resource) level })

/-- One turn of the loop of `replacePermissions`. -/
def grantPermission (roleID : ID) (permission : String × RequestedAccess) : Sql := fun d => do
  (insertPermission roleID permission.1 (← accessLevel permission.2)).mapError mutationError d

/-- `replacePermissions` -/
def replacePermissions (roleID : ID) (permissions : List (String × RequestedAccess)) : List Sql :=
  deletePermissions roleID ::
    (permissions.filter fun permission => decide (permission.2 ≠ .none)).map (grantPermission roleID)

/-- `Store.UpdateRole` -/
def updateRole (now : Time) (id : ID) (mutation : RoleMutation) : Except Err (List Sql) := do
  mutation.normalize.validate
  .ok (writeRole now id mutation.normalize :: replacePermissions id mutation.normalize.permissions)

/-- The level a request asks for; `None` is the absence of a row. -/
def requestedLevel (permissions : List (String × RequestedAccess)) (resource : String) : Option Int :=
  match permissions.find? fun permission => decide (permission.1 = resource) with
  | some (_, .level access) => (accessLevel (.level access)).toOption
  | _ => none

section Levels

variable {permissions : List (String × RequestedAccess)} {resource : String} {access : RequestedAccess}

end Levels

end Statements

section Effects

variable {now : Time} {id : ID} {d d' : Db} {asked : List (RowKey × LockMode)}

end Effects

end Woodgate.Rbac
