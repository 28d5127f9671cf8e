import Mathlib.Data.List.Destutter
import Woodgate.Directory.Roles
import Woodgate.Directory.UserStore

/-!
# The group store

`Store.UpdateGroup`: a group belongs to its provider, its roles to the application. The
role ids of a request, for a group as for a user, are sorted and each is kept once.
`Store.ListGroups` counts the active members of each group, which joins a group with its
memberships before it groups the rows again.
-/

namespace Woodgate.Directory

open Library Library.ReadCommitted Postgres

section RoleIDs

/-- `normalizeRoleIDs`: `slices.Sort`, then `slices.Compact`. -/
def normalizeRoleIDs (ids : List ID) : List ID := (ids.insertionSort (· ≤ ·)).destutter (· ≠ ·)

def validateRoleIDs (ids : List ID) : Except Err Unit :=
  if ids.any fun id => decide (id ≤ 0) then .error (.invalidInput "role_ids must be positive") else .ok ()

end RoleIDs

section Groups

structure GroupMutation where
  roleIDs : List ID
  deriving DecidableEq, Repr

def GroupMutation.normalize (mutation : GroupMutation) : GroupMutation :=
  { mutation with roleIDs := normalizeRoleIDs mutation.roleIDs }

def GroupMutation.validate (mutation : GroupMutation) : Except Err Unit := validateRoleIDs mutation.roleIDs

/-- `UPDATE directory_groups SET updated_at = now() WHERE id = $1 RETURNING id` -/
def touchGroup (now : Time) (id : ID) : Sql := fun d =>
  match d.groups.row id with
  | none => .error .noRows
  | some old => .ok ([(.group id, .noKeyUpdate)], { d with groups := d.groups.set id { old with updatedAt := now } })

/-- `DELETE FROM authz_group_roles WHERE group_id = $1` -/
def deleteGroupRoles (groupID : ID) : Sql := fun d =>
  .ok ([], { d with groupRoles := d.groupRoles.filter fun k _ => decide (k.1 ≠ groupID) })

/-- `INSERT INTO authz_group_roles (group_id, role_id) SELECT $1, unnest($2)` -/
def insertGroupRoles (groupID : ID) (roleIDs : List ID) : Sql := fun d =>
  if !decide roleIDs.Nodup || roleIDs.any fun r => (d.groupRoles.row (groupID, r)).isSome then
    .error (.sqlState .uniqueViolation)
  else if (d.groups.row groupID).isNone || roleIDs.any fun r => (d.roles.row r).isNone then
    .error (.sqlState .foreignKeyViolation)
  else .ok ((.group groupID, .keyShare) :: roleIDs.map fun r => (.role r, .keyShare),
    { d with groupRoles := d.groupRoles.insertKeys (roleIDs.map (Prod.mk groupID)) })

/-- `replaceGroupRoles` -/
def replaceGroupRoles (groupID : ID) (roleIDs : List ID) : List Sql :=
  (deleteGroupRoles groupID).mapError mutationError ::
    if roleIDs = [] then [] else [(insertGroupRoles groupID roleIDs).mapError mutationError]

/-- `Store.UpdateGroup` -/
def updateGroup (now : Time) (id : ID) (mutation : GroupMutation) : Except Err (List Sql) := do
  mutation.normalize.validate
  .ok ((touchGroup now id).mapError mutationError :: replaceGroupRoles id mutation.normalize.roleIDs)

end Groups

section List

structure GroupListParams where
  listParams : Params := {}
  values : List String := []
  deriving DecidableEq, Repr

/-- The position of a value in the enumeration, which is how PostgreSQL compares two. -/
def sourcePosition : Source → Int
  | .sourceLocal => 0
  | .sourceEntra => 1

/-- The two `LEFT JOIN`s of `groupSelectSQL`: a row for each membership, with the member if
that is active, or one row for a group without memberships. -/
def joinMembers (d : Db) : List ((ID × GroupRow) × Option ID) :=
  d.groups.toList.flatMap fun g =>
    match d.memberships.toList.filter fun membership => decide (membership.1.2 = g.1) with
    | [] => [(g, none)]
    | memberships => memberships.map fun membership =>
      (g, ((d.users.row membership.1.1).filter isActive).map fun _ => membership.1.1)

/-- `groupWhere` -/
def groupWhere (locale : DbLocale) (params : GroupListParams) (g : ID × GroupRow) : Bool :=
  matchesSearch locale params.listParams.q [some g.2.displayName, g.2.mailNickname, some g.2.externalID] &&
  (params.values.isEmpty || (normalizeValues params.values).contains (toString g.1))

/-- A row of the list: a group and its `member_count`. -/
abbrev GroupListRow := (ID × GroupRow) × Nat

/-- `GROUP BY g.id`, with `count(u.id)`. -/
def groupById (joined : List ((ID × GroupRow) × Option ID)) : List GroupListRow :=
  (joined.map Prod.fst).dedup.map fun g => (g, joined.countP fun row => decide (row.1 = g) && row.2.isSome)

def groupOrder (locale : DbLocale) : List (OrderExpr GroupListRow) := [
  { sql := "lower(g.display_name)", value := fun g => .text (locale.lower g.1.2.displayName) },
  { sql := "g.id", value := fun g => .int g.1.1 }]

/-- `groupListQuery` -/
def groupListQuery (locale : DbLocale) (params : GroupListParams) (d : Db) : ListQuery GroupListRow where
  rows := groupById ((joinMembers d).filter fun row => groupWhere locale params row.1)
  orderKeys := [
    ("display_name", { sql := "lower(g.display_name)", value := fun g => .text (locale.lower g.1.2.displayName) }),
    ("mail_nickname", {
      sql := "lower(g.mail_nickname)", value := fun g => optionText (g.1.2.mailNickname.map locale.lower)
      nullOrder := .nullsLast }),
    ("member_count", { sql := "member_count", value := fun g => .int g.2 }),
    ("source", { sql := "g.source", value := fun g => .int (sourcePosition g.1.2.source) })]
  defaultOrder := groupOrder locale
  params := params.listParams

/-- The query of `Store.ListGroups`. -/
def listGroupsQuery (locale : DbLocale) (params : GroupListParams) (d : Db) : ListQuery GroupListRow :=
  groupListQuery locale { listParams := params.listParams.normalize, values := normalizeValues params.values } d

variable {locale : DbLocale} {params : GroupListParams} {d : Db} {g : ID × GroupRow}

theorem mem_joinMembers : (∃ member, (g, member) ∈ joinMembers d) ↔ d.groups.row g.1 = some g.2 := by
  rw [← Table.mem_toList]
  constructor
  · rintro ⟨member, mem⟩
    obtain ⟨g', there, mem⟩ := List.mem_flatMap.1 mem
    split at mem
    · cases List.mem_singleton.1 mem
      exact there
    · obtain ⟨_, _, same⟩ := List.mem_map.1 mem
      cases same
      exact there
  · intro there
    cases memberships : d.memberships.toList.filter fun membership => decide (membership.1.2 = g.1) with
    | nil =>
      refine ⟨none, List.mem_flatMap.2 ⟨g, there, ?_⟩⟩
      rw [memberships]
      exact List.mem_cons_self
    | cons first rest =>
      let member := ((d.users.row first.1.1).filter isActive).map fun _ => first.1.1
      refine ⟨member, List.mem_flatMap.2 ⟨g, there, ?_⟩⟩
      rw [memberships]
      exact List.mem_cons_self

/-- The joins neither lose a group nor repeat one. -/
theorem mem_groupListQuery_rows : (∃ count, (g, count) ∈ (groupListQuery locale params d).rows) ↔
    d.groups.row g.1 = some g.2 ∧ groupWhere locale params g = true := by
  constructor
  · rintro ⟨count, mem⟩
    obtain ⟨g', named, same⟩ := List.mem_map.1 mem
    cases same
    obtain ⟨row, selected, rfl⟩ := List.mem_map.1 (List.mem_dedup.1 named)
    obtain ⟨joined, holds⟩ := List.mem_filter.1 selected
    exact ⟨mem_joinMembers.1 ⟨row.2, joined⟩, holds⟩
  · rintro ⟨there, holds⟩
    obtain ⟨member, joined⟩ := mem_joinMembers.2 there
    exact ⟨_, List.mem_map.2 ⟨g, List.mem_dedup.2 (List.mem_map.2 ⟨_, List.mem_filter.2 ⟨joined, holds⟩, rfl⟩), rfl⟩⟩

theorem groupListQuery_nodup : ((groupListQuery locale params d).rows.map fun g => g.1.1).Nodup := by
  have once : ((groupListQuery locale params d).rows.map Prod.fst).Nodup := by
    rw [groupListQuery, groupById, List.map_map]
    exact (List.nodup_dedup _).map fun _ _ same => same
  have composed : ((groupListQuery locale params d).rows.map fun g => g.1.1) =
      ((groupListQuery locale params d).rows.map Prod.fst).map Prod.fst := by
    rw [List.map_map]
    rfl
  rw [composed]
  refine List.Nodup.map_on (fun g mem h mem' same => ?_) once
  obtain ⟨⟨_, count⟩, listed, rfl⟩ := List.mem_map.1 mem
  obtain ⟨⟨_, count'⟩, listed', rfl⟩ := List.mem_map.1 mem'
  have here := (mem_groupListQuery_rows.1 ⟨count, listed⟩).1
  have there := (mem_groupListQuery_rows.1 ⟨count', listed'⟩).1
  rw [same, there] at here
  exact Prod.ext same (Option.some.inj here).symm

end List

end Woodgate.Directory
