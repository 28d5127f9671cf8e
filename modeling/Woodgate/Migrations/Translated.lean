import Woodgate.Migrations.SharedFoundations

/-!
# Nothing is refused

The constraints of `001_initial.sql` imply those of the new tables, each `JOIN` on an `app_id` finds
one row, and so the counts agree: `sharedFoundations_ok`.
-/

namespace Woodgate.Migrations

open Library.Joins Library.Results

section Numbered

variable {R K : Type} {plan : Plan} {rows : List R} {key : R → K}

/-- The serial keys are told apart. -/
theorem numbered_ids : ((numbered plan rows).map Prod.fst).Nodup := serial_ids

/-- A numbering leaves out no row and makes none up. -/
theorem numbered_rows : ((numbered plan rows).map Prod.snd).Perm rows := by
  rw [numbered, serial_rows]
  exact plan.perm rows

theorem length_numbered : (numbered plan rows).length = rows.length := by
  rw [numbered, length_serial, (plan.perm rows).length_eq]

/-- A column has the same values before and after the numbering. -/
theorem numbered_keys : ((numbered plan rows).map fun row => key row.2).Perm (rows.map key) := by
  have keys : (numbered plan rows).map (fun row => key row.2) = ((numbered plan rows).map Prod.snd).map key := by
    rw [List.map_map]
    rfl
  rw [keys]
  exact numbered_rows.map key

/-- Every row has a number. -/
theorem mem_numbered {row : R} : row ∈ rows ↔ ∃ id, (id, row) ∈ numbered plan rows := by
  rw [← numbered_rows.mem_iff, List.mem_map]
  constructor
  · rintro ⟨⟨id, row'⟩, mem, rfl⟩
    exact ⟨id, mem⟩
  · rintro ⟨id, mem⟩
    exact ⟨(id, row), mem, rfl⟩

/-- A key is unique if the rows that have it are told apart by a unique column. -/
theorem nodup_keys {J : Type} {own : R → J} {index : R → Option K} (nodup : (rows.map own).Nodup)
    (apart : ∀ r ∈ rows, ∀ s ∈ rows, ∀ k, index r = some k → index s = some k → own r = own s) :
    (rows.filterMap index).Nodup := by
  rw [List.Nodup, List.pairwise_map] at nodup
  rw [List.Nodup, List.pairwise_filterMap]
  refine nodup.imp_of_mem fun {r s} mem mem' other k first k' second same => other ?_
  subst same
  exact apart r mem s mem' k first second

/-- A unique index over a column that is never `NULL`. -/
theorem nodup_column (nodup : (rows.map key).Nodup) : (rows.filterMap fun r => some (key r)).Nodup :=
  nodup_keys nodup fun _ _ _ _ _ first second => Option.some.inj (first.trans second.symm)

/-- A unique index over a column that is `NULL` everywhere refuses nothing. -/
theorem nodup_none {index : R → Option K} (none : ∀ r ∈ rows, index r = none) : (rows.filterMap index).Nodup := by
  rw [List.filterMap_eq_nil_iff.2 none]
  exact List.nodup_nil

end Numbered

variable {plan : Plan} {now : Time} {old : Initial} {new : Foundations}

section Identities

/-- The new rows take their `app_id` from the primary key of the old ones, which is unique. -/
theorem users_appIDs (valid : old.Constraints) : ((old.users.map userOf).map UserRow.appID).Nodup := by
  rw [List.map_map]
  exact valid.userID

theorem groups_appIDs (valid : old.Constraints) : ((old.groups.map groupOf).map GroupRow.appID).Nodup := by
  rw [List.map_map]
  exact valid.groupID

theorem locations_appIDs (valid : old.Constraints) : ((old.locations.map locationOf).map LocationRow.appID).Nodup := by
  rw [List.map_map]
  exact valid.locationID

theorem keys_appIDs (valid : old.Constraints) : ((old.apiKeys.map (keyOf old)).map KeyRow.appID).Nodup := by
  rw [List.map_map]
  exact valid.keyID

theorem userOf_externalID (u : OldUser) : (userOf u).externalID = some (uuidText u.id) := rfl

theorem groupOf_externalID (g : OldGroup) : (groupOf g).externalID = uuidText g.id := rfl

/-- The new address is the old `upn`, which may be empty. -/
theorem providerEmail_userOf (u : OldUser) : providerEmail (userOf u) = if u.upn = "" then none else some u.upn := by
  by_cases none : u.upn = "" <;> simp [providerEmail, userOf, none]

/-- So is the new user principal name. -/
theorem providerUPN_userOf (u : OldUser) : providerUPN (userOf u) = if u.upn = "" then none else some u.upn := by
  by_cases none : u.upn = "" <;> simp [providerUPN, userOf, none]

/-- The unique index on `upn` is that of the new columns. -/
theorem upns_eq {index : UserRow → Option String} (column : ∀ u, index (userOf u) = if u.upn = "" then none else some u.upn)
    {users : List OldUser} :
    (users.map userOf).filterMap index = (users.map OldUser.upn).filter fun upn => decide (upn ≠ "") := by
  induction users with
  | nil => rfl
  | cons u rest ih =>
    rw [List.map_cons, List.map_cons, List.filterMap_cons, List.filter_cons, column, ih]
    by_cases none : u.upn = "" <;> simp [none]

/-- The old users meet every index of the new table: their external ids are their primary keys as text, and address and
user principal name are the old `upn`, which was unique. -/
theorem insertUsers_ok (valid : old.Constraints) : insertUsers plan old = .ok (numbered plan (old.users.map userOf)) := by
  have identities : ((old.users.map userOf).filterMap UserRow.identity).Nodup := by
    refine nodup_keys (users_appIDs valid) ?_
    intro r mem s mem' k first second
    obtain ⟨u, there, rfl⟩ := List.mem_map.1 mem
    obtain ⟨v, there', rfl⟩ := List.mem_map.1 mem'
    have texts := (UserRow.identity_eq_some.1 first).2.trans (UserRow.identity_eq_some.1 second).2.symm
    rw [userOf_externalID, userOf_externalID] at texts
    exact uuidText_inj (valid.userUUID u there) (valid.userUUID v there') (Option.some.inj texts)
  have emails : ((old.users.map userOf).filterMap providerEmail).Nodup := by
    rw [upns_eq providerEmail_userOf]
    exact valid.userUPN
  have upns : ((old.users.map userOf).filterMap providerUPN).Nodup := by
    rw [upns_eq providerUPN_userOf]
    exact valid.userUPN
  have sources : ∀ row ∈ old.users.map userOf, row.source = .sourceEntra ∧ row.externalID ≠ none ∧ row.apiKey = none := by
    intro row mem
    obtain ⟨u, -, rfl⟩ := List.mem_map.1 mem
    exact ⟨rfl, Option.some_ne_none _, rfl⟩
  unfold insertUsers
  dsimp only
  rw [unique_ok (nodup_column (users_appIDs valid)), unique_ok identities, check_ok fun row mem => by simp [sources row mem],
    unique_ok (nodup_none fun row mem => (sources row mem).2.2),
    unique_ok (nodup_none fun row mem => by simp [localEmail, sources row mem]), unique_ok emails, unique_ok upns]
  rfl

/-- The old groups meet the indexes of the new table, as their external ids are their primary keys. -/
theorem insertGroups_ok (valid : old.Constraints) : insertGroups plan old = .ok (numbered plan (old.groups.map groupOf)) := by
  have identities : ((old.groups.map groupOf).filterMap GroupRow.identity).Nodup := by
    refine nodup_keys (groups_appIDs valid) ?_
    intro r mem s mem' k first second
    obtain ⟨g, there, rfl⟩ := List.mem_map.1 mem
    obtain ⟨h, there', rfl⟩ := List.mem_map.1 mem'
    have texts := (GroupRow.identity_eq_some.1 first).2.trans (GroupRow.identity_eq_some.1 second).2.symm
    rw [groupOf_externalID, groupOf_externalID] at texts
    exact uuidText_inj (valid.groupUUID g there) (valid.groupUUID h there') texts
  have sources : ∀ row ∈ old.groups.map groupOf, row.source = .sourceEntra := by
    intro row mem
    obtain ⟨g, -, rfl⟩ := List.mem_map.1 mem
    rfl
  unfold insertGroups
  dsimp only
  rw [unique_ok (nodup_column (groups_appIDs valid)), unique_ok identities, check_ok fun row mem => by simp [sources row mem]]
  rfl

/-- The old locations have a name and no images. -/
theorem insertLocations_ok (valid : old.Constraints) :
    insertLocations plan old = .ok (numbered plan (old.locations.map locationOf)) := by
  have plain : ∀ row ∈ old.locations.map locationOf, nameCheck row.name = true ∧ row.backgroundAppID = none ∧
      row.logoAppID = none ∧ row.backgroundObjectID = none ∧ row.logoObjectID = none := by
    intro row mem
    obtain ⟨l, there, rfl⟩ := List.mem_map.1 mem
    exact ⟨valid.locationName l there, rfl, rfl, rfl, rfl⟩
  unfold insertLocations
  dsimp only
  rw [unique_ok (nodup_column (locations_appIDs valid)), unique_ok (nodup_none fun row mem => (plain row mem).2.1),
    unique_ok (nodup_none fun row mem => (plain row mem).2.2.1), check_ok fun row mem => (plain row mem).1,
    check_ok fun row mem => by simp [plain row mem], check_ok fun row mem => by simp [plain row mem]]
  rfl

/-- The old keys have a name and a hash of their own. -/
theorem insertAppKeys_ok (valid : old.Constraints) :
    insertAppKeys plan old = .ok (numbered plan (old.apiKeys.map (keyOf old))) := by
  have hashes : ((old.apiKeys.map (keyOf old)).map KeyRow.keyHash).Nodup := by
    rw [List.map_map]
    exact valid.keyHash
  have names : ∀ row ∈ old.apiKeys.map (keyOf old), nameCheck row.name = true := by
    intro row mem
    obtain ⟨k, there, rfl⟩ := List.mem_map.1 mem
    exact valid.keyName k there
  unfold insertAppKeys
  dsimp only
  rw [unique_ok (nodup_column (keys_appIDs valid)), check_ok names, unique_ok (nodup_column hashes)]
  rfl

end Identities

section References

variable {users : List (ID × UserRow)} {groups : List (ID × GroupRow)} {locations : List (ID × LocationRow)}
  {appKeys : List (ID × KeyRow)} {roles : List (ID × RoleRow)}

/-- A new table: its serial keys are unique, and so are the `app_id`s, which are those of the old one. -/
structure Renamed {R : Type} (appID : R → UUID) (ids : List UUID) (table : List (ID × R)) : Prop where
  serial : (table.map Prod.fst).Nodup
  unique : (table.map fun row => appID row.2).Nodup
  same : ∀ id, id ∈ table.map (fun row => appID row.2) ↔ id ∈ ids

/-- Numbered rows with a unique `app_id` make such a table. -/
theorem renamed_numbered {R : Type} {appID : R → UUID} {rows : List R} (nodup : (rows.map appID).Nodup) :
    Renamed appID (rows.map appID) (numbered plan rows) where
  serial := numbered_ids
  unique := numbered_keys.nodup_iff.2 nodup
  same _ := numbered_keys.mem_iff

/-- A reference finds its row. -/
theorem Renamed.found {R : Type} {appID : R → UUID} {ids : List UUID} {table : List (ID × R)} {id : UUID}
    (renamed : Renamed appID ids table) (mem : id ∈ ids) :
    ∃ key row, (key, row) ∈ table ∧ appID row = id ∧ idsOf appID table id = [key] := by
  obtain ⟨⟨key, row⟩, there, rfl⟩ := List.mem_map.1 ((renamed.same id).2 mem)
  exact ⟨key, row, there, rfl, idsOf_of_mem renamed.unique there⟩

/-- Two references that find the same row are the same. -/
theorem Renamed.apart {R : Type} {appID : R → UUID} {ids : List UUID} {table : List (ID × R)} {id id' : UUID} {key : ID}
    (renamed : Renamed appID ids table) (first : key ∈ idsOf appID table id) (second : key ∈ idsOf appID table id') : id = id' := by
  obtain ⟨row, there, rfl⟩ := mem_idsOf.1 first
  obtain ⟨row', there', rfl⟩ := mem_idsOf.1 second
  rw [row_unique renamed.serial there there']

/-- A membership is joined to every row that its two references find. -/
theorem mem_membershipOf {m : OldMembership} {pair : ID × ID} :
    pair ∈ membershipOf users groups m ↔ pair.1 ∈ usersOf users m.userID ∧ pair.2 ∈ groupsOf groups m.groupID := by
  simp only [membershipOf, List.mem_flatMap, List.mem_map]
  constructor
  · rintro ⟨u, first, g, second, rfl⟩
    exact ⟨first, second⟩
  · rintro ⟨first, second⟩
    exact ⟨pair.1, first, pair.2, second, rfl⟩

/-- Both references find one row each. -/
theorem length_membershipOf (valid : old.Constraints) (user : Renamed UserRow.appID (old.users.map OldUser.id) users)
    (group : Renamed GroupRow.appID (old.groups.map OldGroup.id) groups) :
    ∀ m ∈ old.memberships, (membershipOf users groups m).length = 1 := by
  intro m mem
  obtain ⟨u, -, -, -, first⟩ := user.found (valid.membershipUser m mem)
  obtain ⟨g, -, -, -, second⟩ := group.found (valid.membershipGroup m mem)
  simp [membershipOf, usersOf, groupsOf, first, second]

theorem length_memberships (valid : old.Constraints) (user : Renamed UserRow.appID (old.users.map OldUser.id) users)
    (group : Renamed GroupRow.appID (old.groups.map OldGroup.id) groups) :
    (old.memberships.flatMap (membershipOf users groups)).length = old.memberships.length :=
  length_flatMap_one (length_membershipOf valid user group)

/-- Two memberships of one pair would have been of one pair before. -/
theorem nodup_memberships (valid : old.Constraints) (user : Renamed UserRow.appID (old.users.map OldUser.id) users)
    (group : Renamed GroupRow.appID (old.groups.map OldGroup.id) groups) :
    (old.memberships.flatMap (membershipOf users groups)).Nodup := by
  refine nodup_flatMap valid.membershipUnique (fun m mem => ?_) fun m _ m' _ pair first second => ?_
  · obtain ⟨pair, single⟩ := List.length_eq_one_iff.1 (length_membershipOf valid user group m mem)
    rw [single]
    exact List.nodup_singleton pair
  · obtain ⟨firstUser, firstGroup⟩ := mem_membershipOf.1 first
    obtain ⟨secondUser, secondGroup⟩ := mem_membershipOf.1 second
    rw [user.apart firstUser secondUser, group.apart firstGroup secondGroup]

/-- No membership is lost, and none refused. -/
theorem insertMemberships_ok (valid : old.Constraints) (user : Renamed UserRow.appID (old.users.map OldUser.id) users)
    (group : Renamed GroupRow.appID (old.groups.map OldGroup.id) groups) :
    insertMemberships users groups old = .ok (old.memberships.flatMap (membershipOf users groups)) := by
  unfold insertMemberships
  dsimp only
  rw [unique_ok (by rw [List.filterMap_some]; exact nodup_memberships valid user group)]
  rfl

/-- `SELECT DISTINCT` keeps the primary key. -/
theorem insertLocationGroups_ok : insertLocationGroups locations groups old =
    .ok (old.locations.flatMap (locationGroupsOf locations groups)).dedup := by
  unfold insertLocationGroups
  dsimp only
  rw [unique_ok (by rw [List.filterMap_some]; exact List.nodup_dedup _)]
  rfl

theorem insertKeyLocations_ok : insertKeyLocations appKeys locations old =
    .ok (old.permissions.flatMap (keyLocationsOf appKeys locations)).dedup := by
  unfold insertKeyLocations
  dsimp only
  rw [unique_ok (by rw [List.filterMap_some]; exact List.nodup_dedup _)]
  rfl

/-- A check-in with what it was joined to. -/
theorem mem_joinedCheckins {c : OldCheckin} {joined : JoinedCheckin} (mem : joined ∈ joinedCheckins users locations appKeys c) :
    joined.old = c ∧ joined.user ∈ usersOf users c.userID ∧ joined.location ∈ locationsOf locations c.locationID := by
  simp only [joinedCheckins, List.mem_flatMap, List.mem_map] at mem
  obtain ⟨user, first, location, second, author, -, key, -, rfl⟩ := mem
  exact ⟨rfl, first, second⟩

/-- The check on the old column is what the cast to the enumeration asks for. -/
theorem castDirection_ok {direction : String} (known : direction = "check_in" ∨ direction = "check_out") :
    castDirection direction = .ok ((Checkin.parseDirection direction).getD .directionIn) := by
  obtain rfl | rfl := known <;> rfl

/-- The new row of a check-in. -/
def newCheckin (joined : JoinedCheckin) : FoundationCheckin :=
  checkinRow joined ((Checkin.parseDirection joined.old.direction).getD .directionIn)

/-- A `LEFT JOIN` on a unique `app_id` makes one row, found or not. -/
theorem length_orNull_if {R : Type} {appID : R → UUID} {ids : List UUID} {table : List (ID × R)}
    (renamed : Renamed appID ids table) (c : Prop) [Decidable c] (id : UUID) :
    (orNull (if c then idsOf appID table id else [])).length = 1 := by
  split
  · exact length_orNull renamed.unique
  · rfl

/-- Each check-in is joined to its user and its location, and at most one author and key. -/
theorem length_joinedCheckins (valid : old.Constraints) (user : Renamed UserRow.appID (old.users.map OldUser.id) users)
    (location : Renamed LocationRow.appID (old.locations.map OldLocation.id) locations)
    (key : Renamed KeyRow.appID (old.apiKeys.map OldKey.id) appKeys) :
    ∀ c ∈ old.checkins, (joinedCheckins users locations appKeys c).length = 1 := by
  intro c mem
  obtain ⟨u, -, -, -, first⟩ := user.found (valid.checkinUser c mem)
  obtain ⟨l, -, -, -, second⟩ := location.found (valid.checkinLocation c mem)
  obtain ⟨author, third⟩ := List.length_eq_one_iff.1 (length_orNull_if user (c.createdByKind = "user") c.createdByID)
  obtain ⟨k, fourth⟩ := List.length_eq_one_iff.1 (length_orNull_if key (c.createdByKind = "api_key") c.createdByID)
  simp [joinedCheckins, usersOf, locationsOf, keysOf, first, second, third, fourth]

/-- Each check-in keeps its id, so that none is lost or doubled by the joins. -/
theorem checkins_appIDs (valid : old.Constraints) (user : Renamed UserRow.appID (old.users.map OldUser.id) users)
    (location : Renamed LocationRow.appID (old.locations.map OldLocation.id) locations)
    (key : Renamed KeyRow.appID (old.apiKeys.map OldKey.id) appKeys) :
    ((old.checkins.flatMap (joinedCheckins users locations appKeys)).map newCheckin).map FoundationCheckin.appID =
      old.checkins.map OldCheckin.id := by
  rw [List.map_map]
  refine map_flatMap_one (length_joinedCheckins valid user location key) fun c _ joined mem => ?_
  obtain ⟨rfl, -, -⟩ := mem_joinedCheckins mem
  rfl

/-- The old check-ins meet the checks on the direction and on the kind of the actor. -/
theorem insertCheckins_ok (valid : old.Constraints) (user : Renamed UserRow.appID (old.users.map OldUser.id) users)
    (location : Renamed LocationRow.appID (old.locations.map OldLocation.id) locations)
    (key : Renamed KeyRow.appID (old.apiKeys.map OldKey.id) appKeys) :
    insertCheckins users locations appKeys plan old =
      .ok (numbered plan ((old.checkins.flatMap (joinedCheckins users locations appKeys)).map newCheckin)) := by
  have held : ∀ joined ∈ old.checkins.flatMap (joinedCheckins users locations appKeys), joined.old ∈ old.checkins := by
    intro joined mem
    obtain ⟨c, there, mem⟩ := List.mem_flatMap.1 mem
    obtain ⟨rfl, -, -⟩ := mem_joinedCheckins mem
    exact there
  have cast : (old.checkins.flatMap (joinedCheckins users locations appKeys)).mapM checkinOf =
      .ok ((old.checkins.flatMap (joinedCheckins users locations appKeys)).map newCheckin) := by
    refine mapM_eq_map fun joined mem => ?_
    unfold checkinOf
    rw [castDirection_ok (valid.checkinDirection _ (held joined mem))]
    rfl
  have kinds : ∀ row ∈ (old.checkins.flatMap (joinedCheckins users locations appKeys)).map newCheckin,
      row.actorKind = "user" ∨ row.actorKind = "api_key" := by
    intro row mem
    obtain ⟨joined, there, rfl⟩ := List.mem_map.1 mem
    exact valid.checkinKind _ (held joined there)
  have unique_ids : (((old.checkins.flatMap (joinedCheckins users locations appKeys)).map newCheckin).map
      FoundationCheckin.appID).Nodup := by
    rw [checkins_appIDs valid user location key]
    exact valid.checkinID
  unfold insertCheckins
  refine bind_ok.2 ⟨_, cast, ?_⟩
  rw [unique_ok (nodup_column unique_ids), check_ok fun row mem => decide_eq_true (kinds row mem)]
  rfl

theorem adminRoles_eq : adminRoles (serial [adminRole now]) = [1] := rfl

/-- The only role is the admin role. -/
theorem insertRoles_ok : insertRoles now = .ok (serial [adminRole now]) := by
  have keys : ([adminRole now].map RoleRow.key).Nodup := List.nodup_singleton _
  have names : ∀ row ∈ [adminRole now], nameCheck row.key = true ∧ nameCheck row.name = true := by
    intro row mem
    rw [List.mem_singleton.1 mem]
    show nameCheck "admin" = true ∧ nameCheck "Admin" = true
    decide
  unfold insertRoles
  dsimp only
  rw [unique_ok (nodup_column keys), check_ok fun row mem => (names row mem).1, check_ok fun row mem => (names row mem).2]
  rfl

/-- The resources of the admin role. -/
theorem insertRolePermissions_ok : insertRolePermissions (serial [adminRole now]) =
    .ok (adminResources.map fun resource => ((1, resource), 2)) := by
  unfold insertRolePermissions
  dsimp only
  rw [adminRoles_eq, List.flatMap_singleton, unique_ok (by decide), check_ok (by decide)]
  rfl

/-- The admin role is given to the users who had it, and to no key. -/
theorem mem_userRolesOf {r : OldRole} {pair : ID × ID} : pair ∈ userRolesOf users (serial [adminRole now]) r ↔
    (r.principalKind = "user" ∧ r.role = "admin") ∧ pair.1 ∈ usersOf users r.principalID ∧ pair.2 = 1 := by
  unfold userRolesOf
  rw [adminRoles_eq]
  split
  · rename_i admin
    simp only [List.map_cons, List.map_nil, List.mem_flatMap, List.mem_singleton, admin, and_self, true_and]
    constructor
    · rintro ⟨u, found, rfl⟩
      exact ⟨found, rfl⟩
    · rintro ⟨found, role⟩
      exact ⟨pair.1, found, Prod.ext rfl role⟩
  · rename_i other
    simp [other]

theorem nodup_userRoles (valid : old.Constraints) (user : Renamed UserRow.appID (old.users.map OldUser.id) users) :
    (old.principalRoles.flatMap (userRolesOf users (serial [adminRole now]))).Nodup := by
  have rows : (old.principalRoles.map id).Nodup := by
    rw [List.map_id]
    exact valid.roleUnique
  refine nodup_flatMap rows (fun r mem => ?_) ?_
  · unfold userRolesOf
    rw [adminRoles_eq]
    split
    · by_cases known : r.principalID ∈ old.users.map OldUser.id
      · obtain ⟨u, -, -, -, found⟩ := user.found known
        rw [usersOf, found]
        exact List.nodup_singleton _
      · have none : usersOf users r.principalID = [] := idsOf_absent fun mem => known ((user.same _).1 mem)
        rw [none]
        exact List.nodup_nil
    · exact List.nodup_nil
  · intro r mem r' mem' pair first second
    obtain ⟨kind, found, -⟩ := mem_userRolesOf.1 first
    obtain ⟨kind', found', -⟩ := mem_userRolesOf.1 second
    exact OldRole.ext (kind.1.trans kind'.1.symm) (user.apart found found') (kind.2.trans kind'.2.symm)

/-- Nobody is given the role twice. -/
theorem insertUserRoles_ok (valid : old.Constraints) (user : Renamed UserRow.appID (old.users.map OldUser.id) users) :
    insertUserRoles users (serial [adminRole now]) old =
      .ok (old.principalRoles.flatMap (userRolesOf users (serial [adminRole now]))) := by
  unfold insertUserRoles
  dsimp only
  rw [unique_ok (by rw [List.filterMap_some]; exact nodup_userRoles valid user)]
  rfl

end References

/-- What the migration makes of the old tables. -/
def translation (plan : Plan) (now : Time) (old : Initial) : Foundations :=
  let users := numbered plan (old.users.map userOf)
  let groups := numbered plan (old.groups.map groupOf)
  let locations := numbered plan (old.locations.map locationOf)
  let appKeys := numbered plan (old.apiKeys.map (keyOf old))
  let roles := serial [adminRole now]
  { users, groups, locations, appKeys, roles
    memberships := old.memberships.flatMap (membershipOf users groups)
    locationGroups := (old.locations.flatMap (locationGroupsOf locations groups)).dedup
    keyLocations := (old.permissions.flatMap (keyLocationsOf appKeys locations)).dedup
    checkins := numbered plan ((old.checkins.flatMap (joinedCheckins users locations appKeys)).map newCheckin)
    rolePermissions := adminResources.map fun resource => ((1, resource), 2)
    userRoles := old.principalRoles.flatMap (userRolesOf users roles) }

section Translation

variable (plan now)

/-- The references of the later statements find their rows in the new tables. -/
theorem translation_users (valid : old.Constraints) :
    Renamed UserRow.appID (old.users.map OldUser.id) (translation plan now old).users := by
  have renamed := @renamed_numbered plan _ _ _ (users_appIDs valid)
  rwa [List.map_map] at renamed

theorem translation_groups (valid : old.Constraints) :
    Renamed GroupRow.appID (old.groups.map OldGroup.id) (translation plan now old).groups := by
  have renamed := @renamed_numbered plan _ _ _ (groups_appIDs valid)
  rwa [List.map_map] at renamed

theorem translation_locations (valid : old.Constraints) :
    Renamed LocationRow.appID (old.locations.map OldLocation.id) (translation plan now old).locations := by
  have renamed := @renamed_numbered plan _ _ _ (locations_appIDs valid)
  rwa [List.map_map] at renamed

theorem translation_appKeys (valid : old.Constraints) :
    Renamed KeyRow.appID (old.apiKeys.map OldKey.id) (translation plan now old).appKeys := by
  have renamed := @renamed_numbered plan _ _ _ (keys_appIDs valid)
  rwa [List.map_map] at renamed

theorem translation_appIDs (valid : old.Constraints) : ((old.checkins.flatMap (joinedCheckins (translation plan now old).users
    (translation plan now old).locations (translation plan now old).appKeys)).map newCheckin).map FoundationCheckin.appID =
    old.checkins.map OldCheckin.id :=
  checkins_appIDs valid (translation_users plan now valid) (translation_locations plan now valid)
    (translation_appKeys plan now valid)

/-- The check-ins of the new table are the old ones. -/
theorem translation_checkins (valid : old.Constraints) :
    Renamed FoundationCheckin.appID (old.checkins.map OldCheckin.id) (translation plan now old).checkins := by
  have appIDs := translation_appIDs plan now valid
  rw [← appIDs]
  exact renamed_numbered (appIDs ▸ valid.checkinID)

/-- The counts agree. -/
theorem translation_complete (valid : old.Constraints) : complete old (translation plan now old) = true := by
  have checkins := congrArg List.length (translation_appIDs plan now valid)
  simp only [List.length_map] at checkins
  have numbers : (translation plan now old).users.length = old.users.length ∧
      (translation plan now old).groups.length = old.groups.length ∧
      (translation plan now old).locations.length = old.locations.length ∧
      (translation plan now old).appKeys.length = old.apiKeys.length := by
    simp only [translation, length_numbered, List.length_map, and_self]
  have many : (translation plan now old).memberships.length = old.memberships.length ∧
      (translation plan now old).checkins.length = old.checkins.length := by
    refine ⟨length_memberships valid (translation_users plan now valid) (translation_groups plan now valid), ?_⟩
    exact length_numbered.trans ((List.length_map _).trans checkins)
  simp only [complete, numbers, many, decide_true, Bool.and_self]

/-- **Nothing is refused.** -/
theorem sharedFoundations_ok (valid : old.Constraints) :
    sharedFoundations plan now old = .ok (translation plan now old) := by
  have user := translation_users plan now valid
  have group := translation_groups plan now valid
  have location := translation_locations plan now valid
  have key := translation_appKeys plan now valid
  unfold sharedFoundations
  refine bind_ok.2 ⟨_, insertRoles_ok, bind_ok.2 ⟨_, insertRolePermissions_ok, bind_ok.2 ⟨_, insertUsers_ok valid,
    bind_ok.2 ⟨_, insertGroups_ok valid, bind_ok.2 ⟨_, insertMemberships_ok valid user group,
    bind_ok.2 ⟨_, insertLocations_ok valid, bind_ok.2 ⟨_, insertLocationGroups_ok, bind_ok.2 ⟨_, insertAppKeys_ok valid,
    bind_ok.2 ⟨_, insertKeyLocations_ok, bind_ok.2 ⟨_, insertCheckins_ok valid user location key,
    bind_ok.2 ⟨_, insertUserRoles_ok valid user, ?_⟩⟩⟩⟩⟩⟩⟩⟩⟩⟩⟩
  exact if_pos (translation_complete plan now valid)

end Translation

end Woodgate.Migrations
