import Woodgate.Schema
import Woodgate.Go.Strconv

/-!
# The declared constraints

The unique indexes, the checks and the foreign keys of the migrations, as far as the
directory and the check-ins rest on them. PostgreSQL keeps them in every committed state.
-/

namespace Woodgate

open Library

/-- `CHECK (btrim(name) <> '')`: some character other than a blank. -/
def nameCheck (name : String) : Bool := name.toList.any fun c => decide (c ≠ ' ')

/-- The columns of `UNIQUE (source, external_id)`. -/
def UserRow.identity (u : UserRow) : Option (Source × String) :=
  u.externalID.map fun externalID => (u.source, externalID)

theorem UserRow.identity_eq_some {u : UserRow} {source : Source} {e : String} :
    u.identity = some (source, e) ↔ u.source = source ∧ u.externalID = some e := by
  cases own : u.externalID <;> simp [identity, own]

/-- The columns of `UNIQUE (source, external_id)`. -/
def GroupRow.identity (g : GroupRow) : Option (Source × String) := some (g.source, g.externalID)

theorem GroupRow.identity_eq_some {g : GroupRow} {source : Source} {e : String} :
    g.identity = some (source, e) ↔ g.source = source ∧ g.externalID = e := by
  simp [identity]

namespace Db

@[mk_iff]
structure Constraints (d : Db) : Prop where
  userIdentity : d.users.Unique UserRow.identity
  userAppID : d.users.Unique fun u => some u.appID
  userSource : ∀ id u, d.users.row id = some u → (u.source = .sourceLocal ↔ u.externalID = none)
  groupIdentity : d.groups.Unique GroupRow.identity
  groupSource : ∀ id g, d.groups.row id = some g → g.source ≠ .sourceLocal
  membershipUser : ∀ u g, (d.memberships.row (u, g)).isSome → (d.users.row u).isSome
  membershipGroup : ∀ u g, (d.memberships.row (u, g)).isSome → (d.groups.row g).isSome
  userRoleUser : ∀ u r, (d.userRoles.row (u, r)).isSome → (d.users.row u).isSome
  userRoleRole : ∀ u r, (d.userRoles.row (u, r)).isSome → (d.roles.row r).isSome
  groupRoleGroup : ∀ g r, (d.groupRoles.row (g, r)).isSome → (d.groups.row g).isSome
  groupRoleRole : ∀ g r, (d.groupRoles.row (g, r)).isSome → (d.roles.row r).isSome
  roleBigint : ∀ r, (d.roles.row r).isSome → Go.minInt64 ≤ r ∧ r ≤ Go.maxInt64
  permissionAccess : ∀ r res access, d.rolePermissions.row (r, res) = some access → access = 1 ∨ access = 2
  locationGroupGroup : ∀ l g, (d.locationGroups.row (l, g)).isSome → (d.groups.row g).isSome
  checkinUser : ∀ id c, d.checkins.row id = some c → (d.users.row c.userID).isSome

/-- They can be checked row by row. -/
instance (d : Db) : Decidable d.Constraints :=
  decidable_of_iff _ (constraints_iff d).symm

end Db

end Woodgate
