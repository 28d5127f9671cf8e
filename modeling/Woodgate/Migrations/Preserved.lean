import Woodgate.Migrations.Upgrade

/-!
# What the migrations preserve

`Preserved` says what is kept of the old tables, by their `app_id`s. All of it is, except that a
location whose `group_ids` name no group any more has no group in the new tables, and is then open
to everyone: `preserved_iff`.
-/

namespace Woodgate.Migrations

open Library Library.Joins Library.Results

section Statement

variable {K : Type}

def userAppID (d : Db) (id : ID) : Option UUID := (d.users.row id).map UserRow.appID
def groupAppID (d : Db) (id : ID) : Option UUID := (d.groups.row id).map GroupRow.appID
def locationAppID (d : Db) (id : ID) : Option UUID := (d.locations.row id).map LocationRow.appID

/-- Each of the old ones is there once, and nothing else. -/
def Bijection (olds news : List K) : Prop := olds.Nodup ∧ news.Perm olds

structure CheckinKept (d : Db) (old : OldCheckin) (c : CheckinRow) : Prop where
  appID : c.appID = old.id
  person : userAppID d c.userID = some old.userID
  location : locationAppID d c.locationID = some old.locationID
  direction : Checkin.directionText c.direction = old.direction
  notes : c.notes = old.notes
  actorKind : c.actorKind = old.createdByKind
  actorID : c.actorAppID = old.createdByID
  occurredAt : c.occurredAt = old.createdAt
  updatedAt : c.updatedAt = old.createdAt
  createdAt : c.createdAt = old.createdAt

/-- The user had the admin role. -/
def AdminPrincipal (old : Initial) (id : UUID) : Prop :=
  ∃ r ∈ old.principalRoles, r.principalKind = "user" ∧ r.principalID = id ∧ r.role = "admin"

/-- The location is restricted to exactly those of its groups that there were, and nobody is eligible who was in none. -/
structure StillRestricted (old : Initial) (d : Db) (l : OldLocation) (id : ID) : Prop where
  restricted : Checkin.restricted id d = true
  groups : ∀ g ∈ old.groups,
    (∃ key, (d.locationGroups.row (id, key)).isSome ∧ groupAppID d key = some g.id) ↔ some g.id ∈ l.groupIDs
  eligible : ∀ p, Checkin.personEligible id p d = true →
    ∃ m ∈ old.memberships, some m.groupID ∈ l.groupIDs ∧ userAppID d p = some m.userID

structure Preserved (old : Initial) (new : Upgraded) : Prop where
  users : Bijection (old.users.map OldUser.id) (new.db.users.toList.map fun u => u.2.appID)
  groups : Bijection (old.groups.map OldGroup.id) (new.db.groups.toList.map fun g => g.2.appID)
  memberships : Bijection (old.memberships.map fun m => (some m.userID, some m.groupID))
    (new.db.memberships.toList.map fun m => (userAppID new.db m.1.1, groupAppID new.db m.1.2))
  locations : Bijection (old.locations.map OldLocation.id) (new.db.locations.toList.map fun l => l.2.appID)
  appKeys : Bijection (old.apiKeys.map OldKey.id) (new.appKeys.map fun k => k.2.appID)
  checkins : Bijection (old.checkins.map OldCheckin.id) (new.db.checkins.toList.map fun c => c.2.appID)
  history : ∀ c ∈ old.checkins, ∃ id row, new.db.checkins.row id = some row ∧ CheckinKept new.db c row
  admins : ∀ id u, new.db.users.row id = some u → AdminPrincipal old u.appID →
    ∃ r role, (new.db.userRoles.row (id, r)).isSome ∧ new.db.roles.row r = some role ∧ role.key = "admin"
  others : ∀ id r, (new.db.userRoles.row (id, r)).isSome → ∃ appID, userAppID new.db id = some appID ∧ AdminPrincipal old appID
  restrictions : ∀ l ∈ old.locations, l.groupIDs ≠ [] → ∀ id row, new.db.locations.row id = some row → row.appID = l.id →
    StillRestricted old new.db l id

/-- Every location that has groups has one that is still there. -/
def Grouped (old : Initial) : Prop := ∀ l ∈ old.locations, l.groupIDs ≠ [] → ∃ g ∈ old.groups, some g.id ∈ l.groupIDs

end Statement

variable {plan : Plan} {now : Time} {old : Initial}

section Upgraded

variable (plan now old)

/-- What the migrations end in. -/
def upgraded : Upgraded :=
  checkinTimes {
    kept := translation plan now old
    checkins := (translation plan now old).checkins.map fun c => (c.1, { c.2 with })
    rolePermissions := renamePermissions (translation plan now old).rolePermissions }

variable {old}

theorem stations_ok (valid : old.Constraints) : ∃ stationed, stations (translation plan now old) = .ok stationed ∧
    checkinTimes stationed = upgraded plan now old := by
  have kinds : ∀ c ∈ (translation plan now old).checkins, stationKinds c.2.actorKind = true := by
    intro c mem
    have row : c.2 ∈ (old.checkins.flatMap (joinedCheckins (translation plan now old).users (translation plan now old).locations
        (translation plan now old).appKeys)).map newCheckin := mem_numbered.2 ⟨c.1, mem⟩
    obtain ⟨joined, there, same⟩ := List.mem_map.1 row
    obtain ⟨checkin, held, there⟩ := List.mem_flatMap.1 there
    obtain ⟨own, -, -⟩ := mem_joinedCheckins there
    have kind : c.2.actorKind = checkin.createdByKind := by
      rw [← same, ← own]
      rfl
    rw [kind]
    obtain user | key := valid.checkinKind checkin held
    · rw [user]
      rfl
    · rw [key]
      rfl
  refine ⟨_, ?_, rfl⟩
  unfold stations
  rw [check_ok kinds]
  rfl

theorem migrate_ok (valid : old.Constraints) : migrate plan now old = .ok (upgraded plan now old) := by
  obtain ⟨stationed, passed, result⟩ := stations_ok plan now valid
  unfold migrate
  exact bind_ok.2 ⟨_, sharedFoundations_ok plan now valid, bind_ok.2 ⟨stationed, passed, congrArg Except.ok result⟩⟩

end Upgraded

section Rows

variable {id key : ID}

theorem row_users (valid : old.Constraints) {u : UserRow} :
    (upgraded plan now old).db.users.row id = some u ↔ (id, u) ∈ (translation plan now old).users :=
  Table.row_ofList (translation_users plan now valid).serial

theorem row_groups (valid : old.Constraints) {g : GroupRow} :
    (upgraded plan now old).db.groups.row id = some g ↔ (id, g) ∈ (translation plan now old).groups :=
  Table.row_ofList (translation_groups plan now valid).serial

theorem row_locations (valid : old.Constraints) {l : LocationRow} :
    (upgraded plan now old).db.locations.row id = some l ↔ (id, l) ∈ (translation plan now old).locations :=
  Table.row_ofList (translation_locations plan now valid).serial

theorem row_memberships (valid : old.Constraints) : ((upgraded plan now old).db.memberships.row (id, key)).isSome = true ↔
    ∃ m ∈ old.memberships, id ∈ usersOf (translation plan now old).users m.userID ∧
      key ∈ groupsOf (translation plan now old).groups m.groupID := by
  have nodup : (translation plan now old).memberships.Nodup :=
    nodup_memberships valid (translation_users plan now valid) (translation_groups plan now valid)
  refine (Table.isSome_ofList_keys nodup).trans (List.mem_flatMap.trans ?_)
  exact exists_congr fun m => and_congr_right fun _ => mem_membershipOf

theorem row_locationGroups : ((upgraded plan now old).db.locationGroups.row (id, key)).isSome = true ↔
    ∃ l ∈ old.locations, ∃ g, some g ∈ l.groupIDs ∧ id ∈ locationsOf (translation plan now old).locations l.id ∧
      key ∈ groupsOf (translation plan now old).groups g := by
  refine (Table.isSome_ofList_keys (List.nodup_dedup _)).trans (List.mem_dedup.trans (List.mem_flatMap.trans ?_))
  refine exists_congr fun l => and_congr_right fun _ => ?_
  simp only [locationGroupsOf, List.mem_flatMap, List.mem_map]
  constructor
  · rintro ⟨member, mem, id', found, g, named, same⟩
    cases same
    cases member with
    | none => cases named
    | some g => exact ⟨g, mem, found, named⟩
  · rintro ⟨g, mem, found, named⟩
    exact ⟨some g, mem, id, found, key, named, rfl⟩

theorem row_userRoles (valid : old.Constraints) : ((upgraded plan now old).db.userRoles.row (id, key)).isSome = true ↔
    ∃ r ∈ old.principalRoles, (r.principalKind = "user" ∧ r.role = "admin") ∧
      id ∈ usersOf (translation plan now old).users r.principalID ∧ key = 1 := by
  have nodup : (translation plan now old).userRoles.Nodup := nodup_userRoles valid (translation_users plan now valid)
  refine (Table.isSome_ofList_keys nodup).trans (List.mem_flatMap.trans ?_)
  simp only [translation, mem_userRolesOf]

theorem row_roles {role : RoleRow} : (upgraded plan now old).db.roles.row id = some role ↔ id = 1 ∧ role = adminRole now := by
  have serial : ((translation plan now old).roles.map Prod.fst).Nodup := serial_ids
  refine (Table.row_ofList serial).trans ?_
  simp [translation, Library.Joins.serial]

/-- The check-ins as the last two migrations leave them. -/
def timedCheckins (plan : Plan) (now : Time) (old : Initial) : List (ID × CheckinRow) :=
  (translation plan now old).checkins.map fun c => (c.1, timed { c.2 with })

theorem checkins_eq : (upgraded plan now old).db.checkins = .ofList (timedCheckins plan now old) := by
  unfold timedCheckins upgraded checkinTimes
  dsimp only
  rw [List.map_map]
  rfl

theorem timedCheckins_ids : ((timedCheckins plan now old).map Prod.fst).Nodup := by
  have ids : (timedCheckins plan now old).map Prod.fst = (translation plan now old).checkins.map Prod.fst := by
    rw [timedCheckins, List.map_map]
    rfl
  rw [ids]
  exact numbered_ids

theorem row_checkins {c : FoundationCheckin} (mem : (id, c) ∈ (translation plan now old).checkins) :
    (upgraded plan now old).db.checkins.row id = some (timed { c with }) := by
  rw [checkins_eq, Table.row_ofList timedCheckins_ids]
  exact List.mem_map.2 ⟨(id, c), mem, rfl⟩

/-- A `JOIN` on the `app_id` of a user finds the users that have it. -/
theorem mem_usersOf (valid : old.Constraints) {appID : UUID} :
    id ∈ usersOf (translation plan now old).users appID ↔ userAppID (upgraded plan now old).db id = some appID := by
  rw [usersOf, mem_idsOf, userAppID, Option.map_eq_some_iff]
  simp only [row_users valid]

theorem mem_groupsOf (valid : old.Constraints) {appID : UUID} :
    id ∈ groupsOf (translation plan now old).groups appID ↔ groupAppID (upgraded plan now old).db id = some appID := by
  rw [groupsOf, mem_idsOf, groupAppID, Option.map_eq_some_iff]
  simp only [row_groups valid]

theorem mem_locationsOf (valid : old.Constraints) {appID : UUID} :
    id ∈ locationsOf (translation plan now old).locations appID ↔ locationAppID (upgraded plan now old).db id = some appID := by
  rw [locationsOf, mem_idsOf, locationAppID, Option.map_eq_some_iff]
  simp only [row_locations valid]

end Rows

section Kept

variable (plan now)

theorem renamed_bijection {R : Type} {appID : R → UUID} {ids : List UUID} {table : List (ID × R)} (nodup : ids.Nodup)
    (renamed : Renamed appID ids table) : Bijection ids (table.map fun row => appID row.2) :=
  ⟨nodup, (List.perm_ext_iff_of_nodup renamed.unique nodup).2 renamed.same⟩

/-- So a scan of the table finds each of them once. -/
theorem ofList_bijection {R : Type} {appID : R → UUID} {ids : List UUID} {table : List (ID × R)} (nodup : ids.Nodup)
    (renamed : Renamed appID ids table) : Bijection ids ((Table.ofList table).toList.map fun row => appID row.2) :=
  ⟨nodup, ((Table.toList_ofList renamed.serial).map _).trans (renamed_bijection nodup renamed).2⟩

theorem memberships_bijection (valid : old.Constraints) :
    Bijection (old.memberships.map fun m => (some m.userID, some m.groupID))
      ((upgraded plan now old).db.memberships.toList.map fun m =>
        (userAppID (upgraded plan now old).db m.1.1, groupAppID (upgraded plan now old).db m.1.2)) := by
  have user := translation_users plan now valid
  have group := translation_groups plan now valid
  have keys : (((translation plan now old).memberships.map fun m => (m, ())).map Prod.fst).Nodup := by
    rw [List.map_map]
    exact (List.map_id _).symm ▸ nodup_memberships valid user group
  constructor
  · have swapped : (old.memberships.map fun m => (some m.userID, some m.groupID)) =
        (old.memberships.map fun m => (m.groupID, m.userID)).map fun pair => (some pair.2, some pair.1) := by
      rw [List.map_map]
      rfl
    rw [swapped]
    refine valid.membershipUnique.map fun a b same => ?_
    obtain ⟨second, first⟩ := Prod.mk.inj same
    exact Prod.ext (Option.some.inj first) (Option.some.inj second)
  · refine ((Table.toList_ofList keys).map _).trans (.of_eq ?_)
    rw [List.map_map]
    refine map_flatMap_one (length_membershipOf valid user group) fun m _ pair mem => ?_
    obtain ⟨first, second⟩ := mem_membershipOf.1 mem
    exact Prod.ext ((mem_usersOf valid).1 first) ((mem_groupsOf valid).1 second)

theorem checkins_bijection (valid : old.Constraints) :
    Bijection (old.checkins.map OldCheckin.id) ((upgraded plan now old).db.checkins.toList.map fun c => c.2.appID) := by
  refine ⟨valid.checkinID, ?_⟩
  rw [checkins_eq]
  refine ((Table.toList_ofList timedCheckins_ids).map _).trans ?_
  rw [timedCheckins, List.map_map]
  exact (renamed_bijection valid.checkinID (translation_checkins plan now valid)).2

/-- Each check-in is kept as it was. -/
theorem history_kept (valid : old.Constraints) {c : OldCheckin} (mem : c ∈ old.checkins) :
    ∃ id row, (upgraded plan now old).db.checkins.row id = some row ∧ CheckinKept (upgraded plan now old).db c row := by
  obtain ⟨joined, single⟩ := List.length_eq_one_iff.1 (length_joinedCheckins valid (translation_users plan now valid)
    (translation_locations plan now valid) (translation_appKeys plan now valid) c mem)
  have there : joined ∈ joinedCheckins (translation plan now old).users (translation plan now old).locations
      (translation plan now old).appKeys c := by
    rw [single]
    exact List.mem_singleton_self joined
  obtain ⟨own, person, location⟩ := mem_joinedCheckins there
  obtain ⟨id, stored⟩ := (@mem_numbered _ plan _ (newCheckin joined)).1 (List.mem_map_of_mem
    (List.mem_flatMap.2 ⟨c, mem, there⟩))
  have direction : Checkin.directionText ((Checkin.parseDirection joined.old.direction).getD .directionIn) = c.direction := by
    rw [own]
    obtain known | known := valid.checkinDirection c mem
    · rw [known]
      rfl
    · rw [known]
      rfl
  subst own
  exact ⟨id, _, row_checkins stored, rfl, (mem_usersOf valid).1 person, (mem_locationsOf valid).1 location, direction, rfl, rfl,
    rfl, rfl, rfl, rfl⟩

/-- A direct role is the admin role, and its user had it. -/
theorem userRoles_kept (valid : old.Constraints) {id r : ID} (given : ((upgraded plan now old).db.userRoles.row (id, r)).isSome) :
    ∃ appID, userAppID (upgraded plan now old).db id = some appID ∧ AdminPrincipal old appID := by
  obtain ⟨role, mem, ⟨kind, admin⟩, found, -⟩ := (row_userRoles valid).1 given
  exact ⟨role.principalID, (mem_usersOf valid).1 found, role, mem, kind, rfl, admin⟩

theorem admins_kept (valid : old.Constraints) {id : ID} {u : UserRow}
    (present : (upgraded plan now old).db.users.row id = some u) (admin : AdminPrincipal old u.appID) :
    ∃ r role, ((upgraded plan now old).db.userRoles.row (id, r)).isSome ∧
      (upgraded plan now old).db.roles.row r = some role ∧ role.key = "admin" := by
  obtain ⟨role, mem, kind, principal, admin⟩ := admin
  have found : id ∈ usersOf (translation plan now old).users role.principalID := by
    rw [mem_usersOf valid, userAppID, present, principal]
    rfl
  exact ⟨1, adminRole now, (row_userRoles valid).2 ⟨role, mem, ⟨kind, admin⟩, found, rfl⟩, row_roles.2 ⟨rfl, rfl⟩, rfl⟩

end Kept

section Restrictions

variable {l : OldLocation} {id : ID} {row : LocationRow}

/-- The groups of a location are those of its `group_ids` that there were. -/
theorem groups_of_location (valid : old.Constraints) (mem : l ∈ old.locations)
    (present : (upgraded plan now old).db.locations.row id = some row) (same : row.appID = l.id) {key : ID} :
    ((upgraded plan now old).db.locationGroups.row (id, key)).isSome = true ↔
      ∃ g, some g ∈ l.groupIDs ∧ groupAppID (upgraded plan now old).db key = some g := by
  have own : locationAppID (upgraded plan now old).db id = some l.id := by
    rw [locationAppID, present, ← same]
    rfl
  rw [row_locationGroups]
  simp only [mem_locationsOf valid, mem_groupsOf valid, own, Option.some.injEq]
  constructor
  · rintro ⟨l', mem', g, named, same, found⟩
    cases List.inj_on_of_nodup_map valid.locationID mem mem' same
    exact ⟨g, named, found⟩
  · rintro ⟨g, named, found⟩
    exact ⟨l, mem, g, named, rfl, found⟩

theorem groupAppID_old (valid : old.Constraints) {key : ID} {g : UUID}
    (known : groupAppID (upgraded plan now old).db key = some g) : g ∈ old.groups.map OldGroup.id := by
  obtain ⟨row, there, rfl⟩ := mem_idsOf.1 ((mem_groupsOf valid).2 known)
  exact ((translation_groups plan now valid).same _).1 (List.mem_map.2 ⟨(key, row), there, rfl⟩)

theorem group_found (valid : old.Constraints) {g : OldGroup} (mem : g ∈ old.groups) :
    ∃ key, groupAppID (upgraded plan now old).db key = some g.id := by
  obtain ⟨key, row, -, -, found⟩ := (translation_groups plan now valid).found (List.mem_map_of_mem mem)
  refine ⟨key, (mem_groupsOf valid).1 ?_⟩
  rw [groupsOf, found]
  exact List.mem_singleton_self key

/-- A location is restricted if and only if one of its groups was there. -/
theorem restricted_iff_grouped (valid : old.Constraints) (mem : l ∈ old.locations)
    (present : (upgraded plan now old).db.locations.row id = some row) (same : row.appID = l.id) :
    Checkin.restricted id (upgraded plan now old).db = true ↔ ∃ g ∈ old.groups, some g.id ∈ l.groupIDs := by
  rw [Checkin.restricted_iff, Checkin.Restricted]
  simp only [groups_of_location valid mem present same]
  constructor
  · rintro ⟨key, g, named, known⟩
    obtain ⟨group, there, rfl⟩ := List.mem_map.1 (groupAppID_old valid known)
    exact ⟨group, there, named⟩
  · rintro ⟨group, there, named⟩
    obtain ⟨key, known⟩ := group_found valid there
    exact ⟨key, group.id, named, known⟩

theorem stillRestricted (valid : old.Constraints) (mem : l ∈ old.locations)
    (present : (upgraded plan now old).db.locations.row id = some row) (same : row.appID = l.id)
    (grouped : ∃ g ∈ old.groups, some g.id ∈ l.groupIDs) : StillRestricted old (upgraded plan now old).db l id where
  restricted := (restricted_iff_grouped valid mem present same).2 grouped
  groups g there := by
    simp only [groups_of_location valid mem present same]
    constructor
    · rintro ⟨key, ⟨g', named, known⟩, own⟩
      cases known.symm.trans own
      exact named
    · intro named
      obtain ⟨key, known⟩ := group_found valid there
      exact ⟨key, ⟨g.id, named, known⟩, known⟩
  eligible p eligible := by
    obtain ⟨u, -, -, member⟩ := Checkin.personEligible_iff.1 eligible
    have restricted := (restricted_iff_grouped valid mem present same).2 grouped
    obtain ⟨key, listed, joined⟩ := member (Checkin.restricted_iff.1 restricted)
    obtain ⟨g, named, known⟩ := (groups_of_location valid mem present same).1 listed
    obtain ⟨m, there, user, group⟩ := (row_memberships valid).1 joined
    have own := (mem_groupsOf valid).1 group
    cases known.symm.trans own
    exact ⟨m, there, named, (mem_usersOf valid).1 user⟩

end Restrictions

/-- What is kept in every case, and what more it takes for the restrictions. -/
theorem preserved_iff (valid : old.Constraints) : Preserved old (upgraded plan now old) ↔ Grouped old := by
  have location := translation_locations plan now valid
  constructor
  · intro preserved l mem some
    obtain ⟨key, row, there, same, -⟩ := location.found (List.mem_map_of_mem mem)
    have present := (@row_locations plan now old _ valid _).2 there
    exact (restricted_iff_grouped valid mem present same).1 (preserved.restrictions l mem some key row present same).restricted
  · intro grouped
    exact {
      users := ofList_bijection valid.userID (translation_users plan now valid)
      groups := ofList_bijection valid.groupID (translation_groups plan now valid)
      memberships := memberships_bijection plan now valid
      locations := ofList_bijection valid.locationID location
      appKeys := renamed_bijection valid.keyID (translation_appKeys plan now valid)
      checkins := checkins_bijection plan now valid
      history := fun c mem => history_kept plan now valid mem
      admins := fun id u present admin => admins_kept plan now valid present admin
      others := fun id r given => userRoles_kept plan now valid given
      restrictions := fun l mem some id row present same => stillRestricted valid mem present same (grouped l mem some) }

/-- **What the migrations preserve.** No constraint that they declare refuses a row, and the guard at their end passes; and
everything is preserved if and only if every location that has groups has one that is still there. -/
theorem migrations_preserve_iff (plan : Plan) (now : Time) (old : Initial) (valid : old.Constraints) :
    (∃ new, migrate plan now old = .ok new) ∧
      ((∀ new, migrate plan now old = .ok new → Preserved old new) ↔ Grouped old) := by
  have run := migrate_ok plan now valid
  refine ⟨⟨_, run⟩, ?_⟩
  constructor
  · intro preserved
    exact (preserved_iff valid).1 (preserved _ run)
  · intro grouped new result
    cases run.symm.trans result
    exact (preserved_iff valid).2 grouped

def Plan.asGiven : Plan where
  arrange rows := rows
  perm _ := .refl _

/-- A school with one of each, and a location one of whose groups is gone. -/
def school : Initial where
  users := [{ id := 1, upn := "ada@school.example", displayName := "Ada", source := "entra", createdAt := 0, updatedAt := 0 }]
  groups := [{ id := 2, name := "Staff", createdAt := 0, updatedAt := 0 }]
  memberships := [{ id := 3, groupID := 2, userID := 1, createdAt := 0, updatedAt := 0 }]
  locations := [{ id := 4, name := "Desk", groupIDs := [some 2, some 9, none, some 2], createdAt := 0, updatedAt := 0 }]
  apiKeys := [{ id := 5, name := "Kiosk", keyPrefix := "wg", keyHash := "hash", createdAt := 0 }]
  principalRoles := [{ principalKind := "user", principalID := 1, role := "admin" }]
  checkins := [{
    id := 6, userID := 1, locationID := 4, direction := "check_in", createdByKind := "api_key", createdByID := 5, createdAt := 7 }]

theorem school_constraints : school.Constraints where
  userID := by decide
  userUUID := by decide
  userUPN := by decide
  groupID := by decide
  groupUUID := by decide
  membershipUnique := by decide
  membershipGroup := by decide
  membershipUser := by decide
  locationID := by decide
  locationName := by decide
  keyID := by decide
  keyHash := by decide
  keyName := by decide
  roleUnique := by decide
  roleAdmin := by decide
  checkinID := by decide
  checkinUser := by decide
  checkinLocation := by decide
  checkinDirection := by decide
  checkinKind := by decide

/-- The desk stays the staff's. -/
theorem migrations_preserve_iff_school : ∃ new, migrate .asGiven 0 school = .ok new ∧ Preserved school new := by
  obtain ⟨⟨new, migrated⟩, preserved⟩ := migrations_preserve_iff .asGiven 0 school school_constraints
  have grouped : Grouped school := by
    intro l mem _
    cases List.mem_singleton.1 mem
    exact ⟨_, List.mem_cons_self, by decide⟩
  exact ⟨new, migrated, preserved.2 grouped new migrated⟩

/-- A location for a group that has been deleted. -/
def closedRoom : Initial where
  users := [{ id := 1, displayName := "Ada", source := "entra", createdAt := 0, updatedAt := 0 }]
  locations := [{ id := 4, name := "Server room", groupIDs := [some 9], createdAt := 0, updatedAt := 0 }]

theorem closedRoom_constraints : closedRoom.Constraints where
  userID := by decide
  userUUID := by decide
  userUPN := by decide
  groupID := by decide
  groupUUID := by decide
  membershipUnique := by decide
  membershipGroup := by decide
  membershipUser := by decide
  locationID := by decide
  locationName := by decide
  keyID := by decide
  keyHash := by decide
  keyName := by decide
  roleUnique := by decide
  roleAdmin := by decide
  checkinID := by decide
  checkinUser := by decide
  checkinLocation := by decide
  checkinDirection := by decide
  checkinKind := by decide

/-- The room is open to everyone afterwards. -/
theorem closedRoom_opens : closedRoom.Constraints ∧ ∃ new, migrate .asGiven 0 closedRoom = .ok new ∧
    ¬ Preserved closedRoom new ∧ Checkin.restricted 1 new.db = false ∧ Checkin.personEligible 1 1 new.db = true := by
  refine ⟨closedRoom_constraints, _, migrate_ok .asGiven 0 closedRoom_constraints, ?_, by decide, by decide⟩
  rw [preserved_iff closedRoom_constraints]
  intro grouped
  obtain ⟨g, none, -⟩ := grouped _ List.mem_cons_self (by decide)
  cases none

end Woodgate.Migrations
