import Woodgate.Directory.ProviderStore

/-!
# The administration of users

The writing half of `Store` and of `AuthnStore`, and the deletion of a role, one definition
a statement. What they can do to an identity is small: only `deleteUser` removes a row, and
only a local one.
-/

namespace Woodgate.Directory

open Library Library.ReadCommitted Library.Results Postgres

section Roles

/-- `DELETE FROM authz_user_roles WHERE user_id = $1` -/
def deleteUserRoles (userID : ID) : Sql := fun d =>
  .ok ([], { d with userRoles := d.userRoles.filter fun k _ => decide (k.1 ≠ userID) })

/-- `INSERT INTO authz_user_roles (user_id, role_id) SELECT $1, unnest($2)` -/
def insertUserRoles (userID : ID) (roleIDs : List ID) : Sql := fun d =>
  if !decide roleIDs.Nodup || roleIDs.any fun r => (d.userRoles.row (userID, r)).isSome then
    .error (.sqlState .uniqueViolation)
  else if (d.users.row userID).isNone || roleIDs.any fun r => (d.roles.row r).isNone then
    .error (.sqlState .foreignKeyViolation)
  else .ok ((.user userID, .keyShare) :: roleIDs.map fun r => (.role r, .keyShare),
    { d with userRoles := d.userRoles.insertKeys (roleIDs.map (Prod.mk userID)) })

/-- `replaceUserRoles` -/
def replaceUserRoles (userID : ID) (roleIDs : List ID) : List Sql :=
  (deleteUserRoles userID).mapError mutationError ::
    if roleIDs = [] then [] else [(insertUserRoles userID roleIDs).mapError mutationError]

end Roles

section Users

variable (now : Time)

structure UserCreateRecord where
  email : String
  name : String
  passwordHash : String
  roleIDs : List ID
  deriving DecidableEq, Repr

structure UserUpdateRecord where
  name : String
  passwordHash : Option String
  roleIDs : List ID
  deriving DecidableEq, Repr

structure AccountUpdateRecord where
  name : String
  passwordHash : Option String
  deriving DecidableEq, Repr

/-- `INSERT INTO users (email, name, password_hash, source) ... RETURNING` -/
def insertUser (params : UserCreateRecord) : Sql := fun d => do
  let id := d.seq.users
  let row : UserRow := {
    appID := d.seq.uuid, email := params.email, name := params.name, passwordHash := some params.passwordHash
    source := .sourceLocal, createdAt := now, updatedAt := now }
  if (d.users.row id).isSome then .error (.sqlState .uniqueViolation)
  else do
    userConstraints d.users id row
    .ok ([], { d with
      users := d.users.set id row, seq := { d.seq with users := id + 1, uuid := d.seq.uuid + 1 } })

/-- `UPDATE users SET ... WHERE id = $n AND cond`, with no row counted as `pgx.ErrNoRows`. -/
def writeUser (id : ID) (cond : UserRow → Bool) (f : UserRow → UserRow) : Sql := fun d =>
  match (d.users.row id).filter cond with
  | none => .error .noRows
  | some old => do
    userConstraints d.users id (f old)
    .ok ([(.user id, .noKeyUpdate)], { d with users := d.users.set id (f old) })

/-- The columns `updateUser` and `updateAccount` write: the provider's users keep theirs. -/
def setProfile (name : String) (passwordHash : Option String) (u : UserRow) : UserRow :=
  { u with
    name := if u.source = .sourceLocal then name else u.name
    passwordHash := if u.source = .sourceLocal then passwordHash.or u.passwordHash else u.passwordHash
    updatedAt := now }

def isActive (u : UserRow) : Bool := u.deletedAt.isNone

/-- `Store.createUser`: the id of the inserted row is what `RETURNING` yields. -/
def createUser (params : UserCreateRecord) (d : Db) : Except Err (List Sql) :=
  .ok ((insertUser now params).mapError mutationError :: replaceUserRoles d.seq.users params.roleIDs)

/-- `Store.updateUser` -/
def updateUser (id : ID) (params : UserUpdateRecord) : List Sql :=
  (writeUser id isActive (setProfile now params.name params.passwordHash)).mapError mutationError ::
    replaceUserRoles id params.roleIDs

/-- `Store.updateAccount` -/
def updateAccount (id : ID) (params : AccountUpdateRecord) : List Sql :=
  [(writeUser id (fun _ => true) (setProfile now params.name params.passwordHash)).mapError mutationError]

/-- The active rows of an address, provider users first and then by id. -/
def usersByEmail (email : String) (d : Db) : List (ID × UserRow) :=
  let rank (u : ID × UserRow) : Int := if u.2.source = .sourceLocal then 1 else 0
  (d.users.toList.filter fun u => decide (u.2.email = email) && isActive u.2).insertionSort fun u v =>
    rank u < rank v ∨ (rank u = rank v ∧ u.1 ≤ v.1)

/-- The `SELECT id ... LIMIT 1 FOR UPDATE` of `setUserRolesByEmail`. -/
def roleTarget (email : String) (d : Db) : Option ID := (usersByEmail email d).head?.map Prod.fst

/-- `FOR UPDATE` on one user. -/
def lockUser (id : ID) (cond : UserRow → Bool) : Sql := fun d =>
  match (d.users.row id).filter cond with
  | none => .error .noRows
  | some _ => .ok ([(.user id, .update)], d)

/-- `Store.setUserRolesByEmail` -/
def setUserRolesByEmail (email : String) (roleIDs : List ID) (d : Db) : Except Err (List Sql) :=
  match roleTarget email d with
  | none => .error .notFound
  | some userID => .ok ((lockUser userID isActive).mapError getError :: replaceUserRoles userID roleIDs ++
      [(writeUser userID (fun _ => true) fun u => { u with updatedAt := now }).mapError mutationError])

/-- The second statement of `deleteUser`. A local user is deleted, with what the foreign
keys do to the rows that refer to it; a provider's is tombstoned. -/
def removeUser (source : Source) (id : ID) : Sql := fun d =>
  if source = .sourceLocal then
    if (d.users.row id).isNone then .error .noRows
    else if d.checkins.exists? fun _ c => decide (c.userID = id) then .error (.sqlState .foreignKeyViolation)
    else .ok ([], { d with
      users := d.users.erase id
      memberships := d.memberships.filter fun k _ => decide (k.1 ≠ id)
      userRoles := d.userRoles.filter fun k _ => decide (k.1 ≠ id)
      checkins := d.checkins.map fun _ c => if c.createdByUserID = some id then { c with createdByUserID := none } else c })
  else writeUser id (fun _ => true) (fun u => { u with deletedAt := some now, updatedAt := now }) d

/-- `Store.deleteUser`; `source` is what its first statement reads. -/
def deleteUser (id : ID) (d : Db) : Except Err (List Sql) :=
  match (d.users.row id).filter isActive with
  | none => .error .notFound
  | some u => .ok [(lockUser id isActive).mapError getError, (removeUser now u.source id).mapError mutationError]

/-- `AuthnStore.SetAPIKey` -/
def setAPIKey (id : ID) (key : String) : Sql :=
  (writeUser id isActive fun u => { u with apiKey := some key, apiKeyCreatedAt := some now, updatedAt := now }).mapError
    fun e => if e = .noRows then .principalNotFound else mutationError e

/-- `AuthnStore.ClearAPIKey` -/
def clearAPIKey (id : ID) : Sql :=
  (writeUser id isActive fun u => { u with apiKey := none, apiKeyCreatedAt := none, updatedAt := now }).mapError
    fun e => if e = .noRows then .principalNotFound else mutationError e

end Users

/-- `Store.DeleteRole` of the authorization, with what the foreign keys do. -/
def deleteRole (id : ID) : Sql := fun d =>
  match d.roles.row id with
  | none => .error .notFound
  | some role =>
    if role.builtin then .error (.conflict "builtin roles cannot be deleted")
    else .ok ([], { d with
      roles := d.roles.erase id
      rolePermissions := d.rolePermissions.filter fun k _ => decide (k.1 ≠ id)
      userRoles := d.userRoles.filter fun k _ => decide (k.2 ≠ id)
      groupRoles := d.groupRoles.filter fun k _ => decide (k.2 ≠ id) })

section Effects

variable {now : Time} {id : ID} {d d' : Db} {asked : List (RowKey × LockMode)}

theorem writeUser_ok {cond : UserRow → Bool} {f : UserRow → UserRow} (h : writeUser id cond f d = .ok (asked, d')) :
    ∃ old, d.users.row id = some old ∧ cond old = true ∧ userConstraints d.users id (f old) = .ok () ∧
      d' = { d with users := d.users.set id (f old) } := by
  unfold writeUser at h
  split at h
  · cases h
  · rename_i old found
    rw [Option.filter_eq_some_iff] at found
    obtain ⟨_, checked, stored⟩ := bind_ok.1 h
    cases stored
    exact ⟨old, found.1, found.2, checked, rfl⟩

theorem insertUser_ok {params : UserCreateRecord} (h : insertUser now params d = .ok (asked, d')) :
    ∃ row : UserRow, row.appID = d.seq.uuid ∧ row.source = .sourceLocal ∧ row.externalID = none ∧ row.apiKey = none ∧
      d.users.row d.seq.users = none ∧ userConstraints d.users d.seq.users row = .ok () ∧
      d' = { d with users := d.users.set d.seq.users row
                    seq := { d.seq with users := d.seq.users + 1, uuid := d.seq.uuid + 1 } } := by
  unfold insertUser at h
  dsimp only at h
  split at h
  · cases h
  · rename_i vacant
    obtain ⟨_, checked, stored⟩ := bind_ok.1 h
    cases stored
    exact ⟨_, rfl, rfl, rfl, rfl, by simpa using vacant, checked, rfl⟩

theorem lockUser_ok {cond : UserRow → Bool} (h : lockUser id cond d = .ok (asked, d')) :
    d' = d ∧ ∃ u, d.users.row id = some u ∧ cond u = true := by
  unfold lockUser at h
  split at h
  · cases h
  · rename_i u found
    cases h
    rw [Option.filter_eq_some_iff] at found
    exact ⟨rfl, u, found⟩

/-- Replacing the roles of a user leaves every other table, and every other user's roles. -/
theorem replaceUserRoles_ok {roleIDs : List ID} (h : runStatements (replaceUserRoles id roleIDs) d = .ok d') :
    ∃ userRoles, d' = { d with userRoles } ∧ (∀ u r, u ≠ id → userRoles.row (u, r) = d.userRoles.row (u, r)) ∧
      ∀ r, (userRoles.row (id, r)).isSome → (d.users.row id).isSome := by
  obtain ⟨_, _, deleted, rest⟩ := runStatements_cons_ok.1 h
  have deleted := Sql.mapError_ok.1 deleted
  cases deleted
  have others : ∀ u r, u ≠ id → (d.userRoles.filter fun k _ => decide (k.1 ≠ id)).row (u, r) = d.userRoles.row (u, r) := by
    intro u r other
    rw [Table.row_filter_key, if_pos (by simpa using other)]
  have cleared : ∀ r, (d.userRoles.filter fun k _ => decide (k.1 ≠ id)).row (id, r) = none := by
    intro r
    rw [Table.row_filter_key, if_neg (by simp)]
  split at rest
  · cases rest
    exact ⟨_, rfl, others, fun r present => by simp at present⟩
  · obtain ⟨_, _, inserted, rest⟩ := runStatements_cons_ok.1 rest
    cases rest
    have inserted := Sql.mapError_ok.1 inserted
    unfold insertUserRoles at inserted
    split at inserted
    · cases inserted
    · split at inserted
      · cases inserted
      · rename_i refers
        cases inserted
        refine ⟨_, rfl, fun u r other => ?_, fun _ _ => ?_⟩
        · have foreign : (u, r) ∉ roleIDs.map (Prod.mk id) := by
            intro mem
            obtain ⟨_, _, same⟩ := List.mem_map.1 mem
            exact other (congrArg Prod.fst same).symm
          rw [Table.row_insertKeys, if_neg foreign, others u r other]
        · have present : ¬ (d.users.row id).isNone = true := fun absent => refers (by simp [absent])
          simpa [Option.isSome_iff_ne_none] using present

end Effects

end Woodgate.Directory
