import Woodgate.Directory.ProviderStore

/-!
# A snapshot and the directory after it

`Reconciled` is what a synchronisation is for, said without statements: the groups and the
active users of the source are those of the snapshot, where the latest entry of each
external id counts; the others are tombstoned or gone; identities, credentials, direct
roles, check-ins and everything of another source stay. `applyProviderSnapshot` gets there
with two upserts and four set operations.
-/

namespace Woodgate.Directory

open Library Library.ReadCommitted Library.Latest Library.Results

/-- The entry that counts for an external id. -/
def ProviderSnapshot.user (snapshot : ProviderSnapshot) (externalID : String) : Option ProviderUser :=
  latest ProviderUser.externalID externalID snapshot.users

def ProviderSnapshot.group (snapshot : ProviderSnapshot) (externalID : String) : Option ProviderGroup :=
  latest ProviderGroup.externalID externalID snapshot.groups

/-- The attributes of a row are those of a snapshot entry. -/
structure Shows (u : UserRow) (w : ProviderUser) : Prop where
  email : u.email = if Go.trimSpace w.mail = "" then Go.trimSpace w.userPrincipalName else Go.trimSpace w.mail
  name : u.name = w.displayName
  userPrincipalName : u.userPrincipalName = some (Go.trimSpace w.userPrincipalName)
  mailNickname : u.mailNickname = Go.nullString w.mailNickname
  givenName : u.givenName = Go.nullString w.givenName
  familyName : u.familyName = Go.nullString w.familyName
  department : u.department = Go.nullString w.department

/-- What a provider may not change of a row. -/
structure SameIdentity (u v : UserRow) : Prop where
  appID : v.appID = u.appID
  source : v.source = u.source
  externalID : v.externalID = u.externalID
  passwordHash : v.passwordHash = u.passwordHash
  apiKey : v.apiKey = u.apiKey
  apiKeyCreatedAt : v.apiKeyCreatedAt = u.apiKeyCreatedAt
  createdAt : v.createdAt = u.createdAt

/-- The same for a group. -/
structure SameGroup (g h : GroupRow) : Prop where
  appID : h.appID = g.appID
  source : h.source = g.source
  externalID : h.externalID = g.externalID
  description : h.description = g.description
  createdAt : h.createdAt = g.createdAt

/-- The reference: `after` is `before` reconciled with the snapshot. -/
structure Reconciled (source : Source) (snapshot : ProviderSnapshot) (before after : Db) : Prop where
  groups : ∀ e, (∃ id g, after.groups.row id = some g ∧ g.source = source ∧ g.externalID = e) ↔
    e ∈ snapshot.groups.map ProviderGroup.externalID
  group_columns : ∀ id g, after.groups.row id = some g → g.source = source →
    ∃ w, snapshot.group g.externalID = some w ∧ g.displayName = w.displayName ∧
      g.mailNickname = Go.nullString w.mailNickname
  group_unique : after.groups.Unique GroupRow.identity
  users : ∀ e w, snapshot.user e = some w → ∃ id u, after.users.row id = some u ∧ u.source = source ∧
    u.externalID = some e ∧ Shows u w
  user_active : ∀ id u, after.users.row id = some u → u.source = source → ∃ e, u.externalID = some e ∧
    (u.deletedAt = none ↔ ∃ w, snapshot.user e = some w ∧ w.enabled = true)
  user_unique : after.users.Unique UserRow.identity
  memberships : ∀ uid gid u g e, after.users.row uid = some u → after.groups.row gid = some g → u.source = source →
    g.source = source → u.externalID = some e → ((after.memberships.row (uid, gid)).isSome ↔
      ∃ w, snapshot.user e = some w ∧ g.externalID ∈ w.groupExternalIDs)
  user_kept : ∀ id u, before.users.row id = some u →
    ∃ u', after.users.row id = some u' ∧ SameIdentity u u' ∧ (u.source ≠ source → u' = u)
  user_new : ∀ id u, before.users.row id = none → after.users.row id = some u → u.source = source ∧
    u.passwordHash = none ∧ u.apiKey = none ∧ ∀ j v, before.users.row j = some v → v.identity ≠ u.identity
  group_kept : ∀ id g, before.groups.row id = some g →
    (g.source ≠ source → after.groups.row id = some g) ∧
    (g.source = source → g.externalID ∈ snapshot.groups.map ProviderGroup.externalID →
      ∃ g', after.groups.row id = some g' ∧ SameGroup g g')
  group_identity : ∀ id g g', before.groups.row id = some g → after.groups.row id = some g' → SameGroup g g'
  membership_group : ∀ uid gid, (after.memberships.row (uid, gid)).isSome → (after.groups.row gid).isSome
  other_memberships : ∀ uid gid, (∀ u, after.users.row uid = some u → u.source ≠ source) →
    after.memberships.row (uid, gid) = if (after.groups.row gid).isSome then before.memberships.row (uid, gid) else none
  groupRoles : ∀ g r, after.groupRoles.row (g, r) =
    if (after.groups.row g).isSome then before.groupRoles.row (g, r) else none
  locationGroups : ∀ l g, after.locationGroups.row (l, g) =
    if (after.groups.row g).isSome then before.locationGroups.row (l, g) else none
  userRoles : after.userRoles = before.userRoles
  checkins : after.checkins = before.checkins
  roles : after.roles = before.roles ∧ after.rolePermissions = before.rolePermissions
  locations : after.locations = before.locations
  stations : after.stations = before.stations ∧ after.sessions = before.sessions ∧ after.rejections = before.rejections
  storageObjects : after.storageObjects = before.storageObjects

section Staged

variable {locale : Postgres.DbLocale} {snapshot : ProviderSnapshot} {e : String}

theorem mem_currentGroups {w : ProviderGroup} (found : snapshot.group e = some w) :
    ∃ i, stageGroup w i ∈ currentGroups locale (stageGroups snapshot) :=
  mem_distinctOn_of_latest (by intros; rfl) (by intros; rfl) found

theorem user_of_currentUsers {p : UserSnapshot} (selected : p ∈ currentUsers locale (stageUsers snapshot)) :
    ∃ w i, snapshot.user p.externalID = some w ∧ p = stageUser w i := by
  obtain ⟨w, i, found, rfl⟩ := latest_of_mem_distinctOn (by intros; rfl) (by intros; rfl) selected
  exact ⟨w, i, found, rfl⟩

theorem mem_currentUsers {w : ProviderUser} (found : snapshot.user e = some w) :
    ∃ i, stageUser w i ∈ currentUsers locale (stageUsers snapshot) :=
  mem_distinctOn_of_latest (by intros; rfl) (by intros; rfl) found

theorem nodup_currentGroups (now : Time) (source : Source) (seq : Sequences) :
    ((currentGroups locale (stageGroups snapshot)).map (groupUpsert now source seq).keyOf).Nodup := by
  have externalIDs : ((currentGroups locale (stageGroups snapshot)).map GroupSnapshot.externalID).Nodup :=
    nodup_keys_distinctOn (nodup_positions_numbered (by intros; rfl))
  refine List.Nodup.of_map Prod.snd ?_
  rwa [List.map_map]

theorem nodup_currentUsers (now : Time) (source : Source) (seq : Sequences) :
    ((currentUsers locale (stageUsers snapshot)).map (userUpsert now source seq).keyOf).Nodup := by
  have externalIDs : ((currentUsers locale (stageUsers snapshot)).map UserSnapshot.externalID).Nodup :=
    nodup_keys_distinctOn (nodup_positions_numbered (by intros; rfl))
  refine List.Nodup.of_map Prod.snd ?_
  rwa [List.map_map]

/-- A group is absent from the staged rows exactly when it has no entry. -/
theorem absentGroup_iff {source : Source} {g : GroupRow} : absentGroup source (stageGroups snapshot) g = true ↔
    g.source = source ∧ g.externalID ∉ snapshot.groups.map ProviderGroup.externalID := by
  simp only [absentGroup, Bool.and_eq_true, decide_eq_true_eq, List.all_eq_true, stageGroups, mem_numbered,
    List.mem_map, not_exists, not_and]
  refine and_congr_right fun _ => ⟨fun absent w mem same => ?_, fun absent p staged => ?_⟩
  · obtain ⟨i, at_⟩ := List.mem_iff_getElem?.1 mem
    exact absent (stageGroup w i) ⟨i, w, at_, rfl⟩ same
  · obtain ⟨i, w, at_, rfl⟩ := staged
    exact absent w (List.mem_of_getElem? at_)

/-- The address of a staged user is the trimmed mail, or without one the trimmed UPN. -/
theorem email_stageUser (w : ProviderUser) (i : Nat) :
    (stageUser w i).mail.getD (stageUser w i).userPrincipalName =
      if Go.trimSpace w.mail = "" then Go.trimSpace w.userPrincipalName else Go.trimSpace w.mail := by
  simp only [stageUser, Go.nullString]
  split <;> rfl

end Staged

section Tombstone

variable {now : Time} {source : Source} {u : UserRow}

theorem identity_tombstone : (tombstone now source u).identity = u.identity := by
  unfold tombstone
  split <;> rfl

/-- No user of the source stays active. -/
theorem deletedAt_tombstone (own : (tombstone now source u).source = source) :
    (tombstone now source u).deletedAt ≠ none := by
  unfold tombstone at own ⊢
  split
  · simp
  · rename_i kept
    rw [if_neg kept] at own
    exact fun active => kept ⟨own, active⟩

theorem sameIdentity_tombstone : SameIdentity u (tombstone now source u) := by
  unfold tombstone
  split <;> exact ⟨rfl, rfl, rfl, rfl, rfl, rfl, rfl⟩

theorem tombstone_of_ne (foreign : u.source ≠ source) : tombstone now source u = u :=
  if_neg fun own => foreign own.1

end Tombstone

section Outcome

/-- The groups that stay when the absent ones are deleted. -/
def keptGroups (source : Source) (snapshot : ProviderSnapshot) (groups : Table ID GroupRow) : Table ID GroupRow :=
  groups.filter fun _ g => !absentGroup source (stageGroups snapshot) g

theorem keptGroups_eq_some {source : Source} {snapshot : ProviderSnapshot} {groups : Table ID GroupRow} {id : ID}
    {g : GroupRow} : (keptGroups source snapshot groups).row id = some g ↔ groups.row id = some g ∧
      (g.source = source → g.externalID ∈ snapshot.groups.map ProviderGroup.externalID) := by
  rw [keptGroups, Table.row_filter_eq_some, Bool.not_eq_true', ← Bool.not_eq_true, absentGroup_iff, not_and, not_not]

/-- The tables after the six statements, `groups` and `users` being what the two upserts
make of them. -/
def outcome (locale : Postgres.DbLocale) (source : Source) (snapshot : ProviderSnapshot) (d : Db)
    (groups : Table ID GroupRow) (users : Table ID UserRow) (seq : Sequences) : Db :=
  let staged := stageGroups snapshot
  let survives (id : ID) := (groups.row id).all fun g => !absentGroup source staged g
  let kept := keptGroups source snapshot groups
  { d with
    groups := kept, users, seq
    memberships := ((d.memberships.filter fun k _ => survives k.2).filter fun k _ =>
      !((users.row k.1).any (fun u => decide (u.source = source)) &&
        (kept.row k.2).any fun g => decide (g.source = source))).insertKeys
      (snapshotMemberships source (currentUsers locale (stageUsers snapshot)) users kept)
    groupRoles := d.groupRoles.filter fun k _ => survives k.1
    locationGroups := d.locationGroups.filter fun k _ => survives k.2 }

/-- The sequences after the group upsert, and after both. -/
def drawnGroups (locale : Postgres.DbLocale) (snapshot : ProviderSnapshot) (seq : Sequences) : Sequences :=
  let n := (currentGroups locale (stageGroups snapshot)).length
  { seq with groups := seq.groups + n, uuid := seq.uuid + n }

def drawnUsers (locale : Postgres.DbLocale) (snapshot : ProviderSnapshot) (seq : Sequences) : Sequences :=
  let n := (currentUsers locale (stageUsers snapshot)).length
  { seq with users := seq.users + n, uuid := seq.uuid + n }

variable {locale : Postgres.DbLocale} {now : Time} {source : Source} {snapshot : ProviderSnapshot} {d d' : Db}

theorem upsertGroups_ok {staged : List GroupSnapshot} {asked : List (RowKey × LockMode)}
    (h : upsertGroups locale now source staged d = .ok (asked, d')) :
    ∃ groups, (groupUpsert now source d.seq).applyRows groupConstraints (.sqlState .uniqueViolation) d.groups 0
        (currentGroups locale staged) = .ok groups ∧
      d' = { d with groups, seq := { d.seq with
        groups := d.seq.groups + (currentGroups locale staged).length
        uuid := d.seq.uuid + (currentGroups locale staged).length } } := by
  obtain ⟨groups, applied, stored⟩ := bind_ok.1 h
  cases stored
  exact ⟨groups, applied, rfl⟩

theorem upsertUsers_ok {staged : List UserSnapshot} {asked : List (RowKey × LockMode)}
    (h : upsertUsers locale now source staged d = .ok (asked, d')) :
    ∃ users, (userUpsert now source d.seq).applyRows userConstraints (.sqlState .uniqueViolation) d.users 0
        (currentUsers locale staged) = .ok users ∧
      d' = { d with users, seq := { d.seq with
        users := d.seq.users + (currentUsers locale staged).length
        uuid := d.seq.uuid + (currentUsers locale staged).length } } := by
  obtain ⟨users, applied, stored⟩ := bind_ok.1 h
  cases stored
  exact ⟨users, applied, rfl⟩

/-- The snapshot's transaction, as the outcome of its two upserts. -/
theorem applyProviderSnapshot_ok (h : transact (applyProviderSnapshot locale now source snapshot) d = .ok d') :
    source ≠ .sourceLocal ∧ ∃ groups users,
      (groupUpsert now source d.seq).applyRows groupConstraints (.sqlState .uniqueViolation) d.groups 0
        (currentGroups locale (stageGroups snapshot)) = .ok groups ∧
      (userUpsert now source (drawnGroups locale snapshot d.seq)).applyRows userConstraints (.sqlState .uniqueViolation)
        (d.users.map fun _ => tombstone now source) 0 (currentUsers locale (stageUsers snapshot)) = .ok users ∧
      d' = outcome locale source snapshot d groups users
        (drawnUsers locale snapshot (drawnGroups locale snapshot d.seq)) := by
  obtain ⟨sent, accepted, ran⟩ := transact_ok.1 h
  unfold applyProviderSnapshot at accepted
  split at accepted
  · cases accepted
  · rename_i notLocal
    cases accepted
    obtain ⟨_, _, first, ran⟩ := runStatements_cons_ok.1 ran
    obtain ⟨groups, groupsOk, rfl⟩ := upsertGroups_ok first
    obtain ⟨_, _, second, ran⟩ := runStatements_cons_ok.1 ran
    cases second
    obtain ⟨_, _, third, ran⟩ := runStatements_cons_ok.1 ran
    cases third
    obtain ⟨_, _, fourth, ran⟩ := runStatements_cons_ok.1 ran
    obtain ⟨users, usersOk, rfl⟩ := upsertUsers_ok fourth
    obtain ⟨_, _, fifth, ran⟩ := runStatements_cons_ok.1 ran
    cases fifth
    obtain ⟨_, _, sixth, ran⟩ := runStatements_cons_ok.1 ran
    cases sixth
    cases ran
    exact ⟨notLocal, groups, users, groupsOk, usersOk, rfl⟩

end Outcome

section Reconcile

variable {locale : Postgres.DbLocale} {now : Time} {source : Source} {snapshot : ProviderSnapshot} {d : Db}
  {seq : Sequences} {groups : Table ID GroupRow} {users : Table ID UserRow}

/-- The group upsert, as far as what follows depends on it. -/
abbrev GroupsApplied (locale : Postgres.DbLocale) (now : Time) (source : Source) (snapshot : ProviderSnapshot)
    (seq : Sequences) (before after : Table ID GroupRow) : Prop :=
  Upsert.Applied (groupUpsert now source seq) before 0 (currentGroups locale (stageGroups snapshot)) after

/-- The user upsert, over the tombstoned users. -/
abbrev UsersApplied (locale : Postgres.DbLocale) (now : Time) (source : Source) (snapshot : ProviderSnapshot)
    (seq : Sequences) (before after : Table ID UserRow) : Prop :=
  Upsert.Applied (userUpsert now source seq) (before.map fun _ => tombstone now source) 0
    (currentUsers locale (stageUsers snapshot)) after

section Groups

variable (applied : GroupsApplied locale now source snapshot seq d.groups groups)

include applied

/-- A group of the source that is in the snapshot shows its entry. -/
theorem columns_of_group {id : ID} {g : GroupRow} (present : groups.row id = some g) (own : g.source = source)
    (staged : g.externalID ∈ snapshot.groups.map ProviderGroup.externalID) :
    ∃ w, snapshot.group g.externalID = some w ∧ g.displayName = w.displayName ∧
      g.mailNickname = Go.nullString w.mailNickname := by
  obtain ⟨w, found⟩ := exists_latest_iff.2 (List.mem_map.1 staged)
  obtain ⟨i, selected⟩ := @mem_currentGroups locale _ _ _ found
  have key : g.identity = some ((groupUpsert now source seq).keyOf (stageGroup w i)) :=
    GroupRow.identity_eq_some.2 ⟨own, (key_of_latest found).symm⟩
  refine ⟨w, found, ?_⟩
  rcases applied.of_key (nodup_currentGroups now source seq) selected present key with
    ⟨old, _, _, rfl⟩ | ⟨_, _, m, _, _, _, rfl⟩
  · exact ⟨rfl, rfl⟩
  · exact ⟨rfl, rfl⟩

/-- Every external id of the snapshot has a group. -/
theorem group_of_staged {e : String} (staged : e ∈ snapshot.groups.map ProviderGroup.externalID) :
    ∃ id g, groups.row id = some g ∧ g.source = source ∧ g.externalID = e := by
  obtain ⟨w, found⟩ := exists_latest_iff.2 (List.mem_map.1 staged)
  obtain ⟨i, selected⟩ := @mem_currentGroups locale _ _ _ found
  obtain ⟨id, g, present, key⟩ := applied.present _ selected
  obtain ⟨own, same⟩ := GroupRow.identity_eq_some.1 key
  have counts : w.externalID = e := key_of_latest found
  exact ⟨id, g, present, own, same.trans counts⟩

/-- A stored group keeps what a provider may not change, and a group of another source
everything. -/
theorem group_of_row {id : ID} {g : GroupRow} (present : d.groups.row id = some g) :
    ∃ g', groups.row id = some g' ∧ SameGroup g g' ∧ (g.source ≠ source → g' = g) := by
  rcases applied.of_row present with stays | ⟨p, _, key, changed⟩
  · exact ⟨g, stays, ⟨rfl, rfl, rfl, rfl, rfl⟩, fun _ => rfl⟩
  · exact ⟨_, changed, ⟨rfl, rfl, rfl, rfl, rfl⟩, fun foreign => absurd (GroupRow.identity_eq_some.1 key).1 foreign⟩

/-- A row that refers to a group survives the deletion exactly when the group does. -/
theorem survives_iff {gid : ID} (present : (d.groups.row gid).isSome) :
    ((groups.row gid).all fun g => !absentGroup source (stageGroups snapshot) g) =
      ((keptGroups source snapshot groups).row gid).isSome := by
  obtain ⟨g, found⟩ := Option.isSome_iff_exists.1 present
  obtain ⟨g', stored, _⟩ := group_of_row applied found
  cases absent : absentGroup source (stageGroups snapshot) g' <;> simp [keptGroups, stored, absent, Option.filter]

theorem row_of_survives {gid : ID} {row : Option Unit} (refers : row.isSome → (d.groups.row gid).isSome) :
    (if (groups.row gid).all fun g => !absentGroup source (stageGroups snapshot) g then row else none) =
      if ((keptGroups source snapshot groups).row gid).isSome then row else none := by
  cases row with
  | none => simp
  | some _ => rw [survives_iff applied (refers rfl)]

end Groups

section Users

variable (applied : UsersApplied locale now source snapshot seq d.users users)

include applied

theorem stored_of_user {e : String} {w : ProviderUser} (found : snapshot.user e = some w) {id : ID} {u : UserRow}
    (present : users.row id = some u) (own : u.source = source) (same : u.externalID = some e) :
    Shows u w ∧ u.deletedAt = if w.enabled then none else some now := by
  obtain ⟨i, selected⟩ := @mem_currentUsers locale _ _ _ found
  have key : u.identity = some ((userUpsert now source seq).keyOf (stageUser w i)) :=
    UserRow.identity_eq_some.2 ⟨own, same.trans (congrArg some (key_of_latest found).symm)⟩
  rcases applied.of_key (nodup_currentUsers now source seq) selected present key with
    ⟨old, _, _, rfl⟩ | ⟨_, _, m, _, _, _, rfl⟩
  · exact ⟨⟨email_stageUser w i, rfl, rfl, rfl, rfl, rfl, rfl⟩, rfl⟩
  · exact ⟨⟨email_stageUser w i, rfl, rfl, rfl, rfl, rfl, rfl⟩, rfl⟩

/-- A user of the source without an entry is tombstoned. -/
theorem tombstoned_of_absent {e : String} (absent : snapshot.user e = none) {id : ID} {u : UserRow}
    (present : users.row id = some u) (own : u.source = source) (same : u.externalID = some e) : u.deletedAt ≠ none := by
  have before := applied.of_other present fun p selected key => by
    obtain ⟨w, i, found, rfl⟩ := user_of_currentUsers selected
    obtain ⟨_, same'⟩ := UserRow.identity_eq_some.1 key
    cases same.symm.trans same'
    rw [absent] at found
    cases found
  obtain ⟨old, _, rfl⟩ := Option.map_eq_some_iff.1 before
  exact deletedAt_tombstone own

/-- Every entry that counts has a user. -/
theorem user_of_staged {e : String} {w : ProviderUser} (found : snapshot.user e = some w) :
    ∃ id u, users.row id = some u ∧ u.source = source ∧ u.externalID = some e := by
  obtain ⟨i, selected⟩ := @mem_currentUsers locale _ _ _ found
  obtain ⟨id, u, present, key⟩ := applied.present _ selected
  obtain ⟨own, same⟩ := UserRow.identity_eq_some.1 key
  have counts : w.externalID = e := key_of_latest found
  exact ⟨id, u, present, own, same.trans (congrArg some counts)⟩

/-- A stored user keeps its identity, and a user of another source everything. -/
theorem user_of_row {id : ID} {u : UserRow} (present : d.users.row id = some u) :
    ∃ u', users.row id = some u' ∧ SameIdentity u u' ∧ (u.source ≠ source → u' = u) := by
  have tombstoned : (d.users.map fun _ => tombstone now source).row id = some (tombstone now source u) :=
    Option.map_eq_some_iff.2 ⟨u, present, rfl⟩
  obtain ⟨appID, src, externalID, passwordHash, apiKey, apiKeyCreatedAt, createdAt⟩ :=
    @sameIdentity_tombstone now source u
  rcases applied.of_row tombstoned with stays | ⟨p, _, key, changed⟩
  · exact ⟨_, stays, sameIdentity_tombstone, tombstone_of_ne⟩
  · refine ⟨_, changed, ⟨appID, src, externalID, passwordHash, apiKey, apiKeyCreatedAt, createdAt⟩, ?_⟩
    exact fun foreign => absurd (src.symm.trans (UserRow.identity_eq_some.1 key).1) foreign

/-- A row of the outcome at an unused id is a new identity without credentials. -/
theorem user_of_new {id : ID} {u : UserRow} (absent : d.users.row id = none) (present : users.row id = some u) :
    (u.source = source ∧ u.externalID ≠ none ∧ u.passwordHash = none ∧ u.apiKey = none) ∧
      (∀ j v, d.users.row j = some v → v.identity ≠ u.identity) ∧
      ∃ m < (currentUsers locale (stageUsers snapshot)).length, id = seq.users + m ∧ u.appID = seq.uuid + m := by
  have vacant : (d.users.map fun _ => tombstone now source).row id = none := by
    rw [Table.row_map, absent, Option.map_none]
  obtain ⟨p, _, m, _, below, at_, rfl, free⟩ := applied.inserted id u vacant present
  rw [Nat.zero_add] at below
  refine ⟨⟨rfl, Option.some_ne_none _, rfl, rfl⟩, fun j v stored same => ?_, m, below, at_, rfl⟩
  refine free j (tombstone now source v) (Option.map_eq_some_iff.2 ⟨v, stored, rfl⟩) ?_
  rw [← (userUpsert now source seq).insert_key m p]
  exact identity_tombstone.trans same

end Users

section Memberships

theorem mem_snapshotMemberships {rows : List UserSnapshot} {uid gid : ID} :
    (uid, gid) ∈ snapshotMemberships source rows users groups ↔
      ∃ p ∈ rows, ∃ u g, users.row uid = some u ∧ groups.row gid = some g ∧ u.source = source ∧ g.source = source ∧
        u.externalID = some p.externalID ∧ g.externalID ∈ p.groupExternalIDs := by
  simp only [snapshotMemberships, List.mem_flatMap, List.mem_map, List.mem_filter, Bool.and_eq_true,
    decide_eq_true_eq, Prod.exists, Table.mem_toList, Prod.mk.injEq]
  constructor
  · rintro ⟨p, selected, e, listed, uid', u, ⟨present, own, same⟩, gid', g, ⟨present', own', rfl⟩, rfl, rfl⟩
    exact ⟨p, selected, u, g, present, present', own, own', same, listed⟩
  · rintro ⟨p, selected, u, g, present, present', own, own', same, listed⟩
    exact ⟨p, selected, g.externalID, listed, uid, u, ⟨present, own, same⟩, gid, g, ⟨present', own', rfl⟩, rfl, rfl⟩

/-- The membership statements, pair by pair. -/
theorem memberships_outcome (locale : Postgres.DbLocale) (source : Source) (snapshot : ProviderSnapshot) (d : Db)
    (groups : Table ID GroupRow) (users : Table ID UserRow) (seq : Sequences) (uid gid : ID) :
    (outcome locale source snapshot d groups users seq).memberships.row (uid, gid) =
      if (uid, gid) ∈ snapshotMemberships source (currentUsers locale (stageUsers snapshot)) users
          (keptGroups source snapshot groups) then some ()
      else if (users.row uid).any (fun u => decide (u.source = source)) &&
          ((keptGroups source snapshot groups).row gid).any fun g => decide (g.source = source) then none
      else if (groups.row gid).all fun g => !absentGroup source (stageGroups snapshot) g then d.memberships.row (uid, gid)
      else none := by
  show (Table.insertKeys _ _).row _ = _
  rw [Table.row_insertKeys, Table.row_filter_key, Table.row_filter_key]
  dsimp only
  cases ((users.row uid).any fun u => decide (u.source = source)) &&
    ((keptGroups source snapshot groups).row gid).any fun g => decide (g.source = source) <;> simp

/-- Between a user and a group of the source there is what the snapshot lists. -/
theorem membership_of_source {uid gid : ID} {u : UserRow} {g : GroupRow} {e : String} (present : users.row uid = some u)
    (kept : (keptGroups source snapshot groups).row gid = some g) (own : u.source = source) (own' : g.source = source)
    (same : u.externalID = some e) :
    ((outcome locale source snapshot d groups users seq).memberships.row (uid, gid)).isSome ↔
      ∃ w, snapshot.user e = some w ∧ g.externalID ∈ w.groupExternalIDs := by
  have selected : (uid, gid) ∈ snapshotMemberships source (currentUsers locale (stageUsers snapshot)) users
        (keptGroups source snapshot groups) ↔ ∃ w, snapshot.user e = some w ∧ g.externalID ∈ w.groupExternalIDs := by
    rw [mem_snapshotMemberships]
    constructor
    · rintro ⟨p, mem, u', g', stored', kept', _, _, same', listed⟩
      cases stored'.symm.trans present
      cases kept'.symm.trans kept
      obtain ⟨w, i, found, rfl⟩ := user_of_currentUsers mem
      cases same.symm.trans same'
      exact ⟨w, found, listed⟩
    · rintro ⟨w, found, listed⟩
      obtain ⟨i, mem⟩ := @mem_currentUsers locale _ _ _ found
      have counts : w.externalID = e := key_of_latest found
      exact ⟨_, mem, u, g, present, kept, own, own', same.trans (congrArg some counts.symm), listed⟩
  have both : ((users.row uid).any (fun u => decide (u.source = source)) &&
      ((keptGroups source snapshot groups).row gid).any fun g => decide (g.source = source)) = true := by
    simp [present, kept, own, own']
  rw [memberships_outcome, if_pos both]
  split
  · rename_i mem
    exact iff_of_true rfl (selected.1 mem)
  · rename_i absent
    exact iff_of_false (by simp) fun found => absent (selected.2 found)

/-- A user of another source keeps its memberships, save those of deleted groups. -/
theorem membership_of_other (applied : GroupsApplied locale now source snapshot seq d.groups groups) {uid gid : ID}
    (refers : (d.memberships.row (uid, gid)).isSome → (d.groups.row gid).isSome)
    (foreign : ∀ u, users.row uid = some u → u.source ≠ source) :
    (outcome locale source snapshot d groups users seq).memberships.row (uid, gid) =
      if ((keptGroups source snapshot groups).row gid).isSome then d.memberships.row (uid, gid) else none := by
  have unselected : (uid, gid) ∉ snapshotMemberships source (currentUsers locale (stageUsers snapshot)) users
      (keptGroups source snapshot groups) := by
    rw [mem_snapshotMemberships]
    rintro ⟨_, _, u, _, present, _, own, _⟩
    exact foreign u present own
  have outside : (users.row uid).any (fun u => decide (u.source = source)) = false := by
    cases present : users.row uid with
    | none => rfl
    | some u => simpa using foreign u present
  rw [memberships_outcome, if_neg unselected, outside, Bool.false_and, if_neg Bool.false_ne_true]
  exact row_of_survives applied refers

/-- Every membership is of a group that is there. -/
theorem group_of_membership (applied : GroupsApplied locale now source snapshot seq d.groups groups) {uid gid : ID}
    (refers : (d.memberships.row (uid, gid)).isSome → (d.groups.row gid).isSome)
    (present : ((outcome locale source snapshot d groups users seq).memberships.row (uid, gid)).isSome) :
    ((keptGroups source snapshot groups).row gid).isSome := by
  rw [memberships_outcome] at present
  split at present
  · rename_i mem
    obtain ⟨_, _, _, g, _, kept, _⟩ := mem_snapshotMemberships.1 mem
    simp [kept]
  · split at present
    · cases present
    · rw [row_of_survives applied refers] at present
      split at present
      · assumption
      · cases present

end Memberships

end Reconcile

/-- A synchronisation that commits has applied both upserts. -/
theorem applied_of_commit {locale : Postgres.DbLocale} {now : Time} {source : Source} {snapshot : ProviderSnapshot}
    {d d' : Db} (constraints : d.Constraints)
    (h : transact (applyProviderSnapshot locale now source snapshot) d = .ok d') :
    source ≠ .sourceLocal ∧ ∃ groups users, GroupsApplied locale now source snapshot d.seq d.groups groups ∧
      UsersApplied locale now source snapshot (drawnGroups locale snapshot d.seq) d.users users ∧
      d' = outcome locale source snapshot d groups users
        (drawnUsers locale snapshot (drawnGroups locale snapshot d.seq)) := by
  obtain ⟨notLocal, groups, users, groupsOk, usersOk, stored⟩ := applyProviderSnapshot_ok h
  have tombstoned : (d.users.map fun _ => tombstone now source).Unique UserRow.identity :=
    constraints.userIdentity.map fun _ _ => identity_tombstone
  exact ⟨notLocal, groups, users, Upsert.applied constraints.groupIdentity (nodup_currentGroups now source _) groupsOk,
    Upsert.applied tombstoned (nodup_currentUsers now source _) usersOk, stored⟩

/-- What the two upserts make of the tables is the directory the reference describes. -/
theorem reconciled_outcome {locale : Postgres.DbLocale} {now : Time} {source : Source} {snapshot : ProviderSnapshot}
    {d : Db} {seq seq' seq'' : Sequences} {groups : Table ID GroupRow} {users : Table ID UserRow}
    (constraints : d.Constraints) (notLocal : source ≠ .sourceLocal)
    (groupsApplied : GroupsApplied locale now source snapshot seq d.groups groups)
    (usersApplied : UsersApplied locale now source snapshot seq' d.users users) :
    Reconciled source snapshot d (outcome locale source snapshot d groups users seq'') := by
  constructor
  case groups =>
    intro e
    constructor
    · rintro ⟨id, g, present, own, rfl⟩
      exact (keptGroups_eq_some.1 present).2 own
    · intro staged
      obtain ⟨id, g, stored, own, rfl⟩ := group_of_staged groupsApplied staged
      exact ⟨id, g, keptGroups_eq_some.2 ⟨stored, fun _ => staged⟩, own, rfl⟩
  case group_columns =>
    intro id g present own
    obtain ⟨stored, staged⟩ := keptGroups_eq_some.1 present
    exact columns_of_group groupsApplied stored own (staged own)
  case group_unique => exact groupsApplied.unique.filter
  case users =>
    intro e w found
    obtain ⟨id, u, present, own, same⟩ := user_of_staged usersApplied found
    exact ⟨id, u, present, own, same, (stored_of_user usersApplied found present own same).1⟩
  case user_active =>
    intro id u present own
    have external : u.externalID ≠ none := by
      cases before : d.users.row id with
      | none => exact (user_of_new usersApplied before present).1.2.1
      | some old =>
        obtain ⟨u', present', identity, _⟩ := user_of_row usersApplied before
        cases present'.symm.trans present
        rw [identity.externalID, ne_eq, ← constraints.userSource id old before, ← identity.source, own]
        exact notLocal
    obtain ⟨e, same⟩ := Option.ne_none_iff_exists'.1 external
    refine ⟨e, same, ?_⟩
    cases found : snapshot.user e with
    | none =>
      have gone := tombstoned_of_absent usersApplied found present own same
      simp [gone]
    | some w =>
      rw [(stored_of_user usersApplied found present own same).2]
      cases enabled : w.enabled <;> simp [enabled]
  case user_unique => exact usersApplied.unique
  case memberships =>
    intro uid gid u g e present kept own own' same
    exact membership_of_source present kept own own' same
  case user_kept =>
    intro id u present
    exact user_of_row usersApplied present
  case user_new =>
    intro id u absent present
    obtain ⟨⟨own, _, passwordHash, apiKey⟩, fresh, _⟩ := user_of_new usersApplied absent present
    exact ⟨own, passwordHash, apiKey, fresh⟩
  case group_kept =>
    intro id g present
    obtain ⟨g', stored, same, foreign⟩ := group_of_row groupsApplied present
    constructor
    · intro other
      cases foreign other
      exact keptGroups_eq_some.2 ⟨stored, fun own => absurd own other⟩
    · intro own staged
      exact ⟨g', keptGroups_eq_some.2 ⟨stored, fun _ => same.externalID ▸ staged⟩, same⟩
  case group_identity =>
    intro id g g' present present'
    obtain ⟨g₁, stored, same, _⟩ := group_of_row groupsApplied present
    cases stored.symm.trans (keptGroups_eq_some.1 present').1
    exact same
  case membership_group =>
    intro uid gid present
    exact group_of_membership groupsApplied (constraints.membershipGroup uid gid) present
  case other_memberships =>
    intro uid gid foreign
    exact membership_of_other groupsApplied (constraints.membershipGroup uid gid) foreign
  case groupRoles =>
    intro g r
    show (d.groupRoles.filter _).row (g, r) = _
    rw [Table.row_filter_key]
    exact row_of_survives groupsApplied (constraints.groupRoleGroup g r)
  case locationGroups =>
    intro l g
    show (d.locationGroups.filter _).row (l, g) = _
    rw [Table.row_filter_key]
    exact row_of_survives groupsApplied (constraints.locationGroupGroup l g)
  case roles => exact ⟨rfl, rfl⟩
  case stations => exact ⟨rfl, rfl, rfl⟩
  all_goals rfl

/-- **A synchronisation reconciles.** Whatever the tables hold and whatever the snapshot
lists, a snapshot that commits leaves the directory the reference describes. -/
theorem reconciles (locale : Postgres.DbLocale) (now : Time) (source : Source) (snapshot : ProviderSnapshot) (d d' : Db)
    (constraints : d.Constraints) (h : transact (applyProviderSnapshot locale now source snapshot) d = .ok d') :
    Reconciled source snapshot d d' := by
  obtain ⟨notLocal, groups, users, groupsApplied, usersApplied, rfl⟩ := applied_of_commit constraints h
  exact reconciled_outcome constraints notLocal groupsApplied usersApplied

/-- Alice is listed twice, the second time with a mail address. -/
def sampleSnapshot : ProviderSnapshot where
  users := [
    { externalID := "alice", userPrincipalName := "alice@example.invalid", displayName := "Alice", enabled := false },
    { externalID := "alice", userPrincipalName := "alice@example.invalid", mail := " a@example.invalid"
      displayName := "Alice", enabled := true, groupExternalIDs := ["staff", "unknown"] }]
  groups := [{ externalID := "staff", displayName := "Staff" }]

/-- What earlier synchronisations left: a local visitor, Alice with an API key, a role of her
own and a check-in, Bea as a tombstone, and Carl; the staff and the contractors, each with the
visitor as a member, the role and the office. -/
def earlierGeneration : Db where
  users := .ofList [
    (1, { appID := 0, email := "visitor@example.invalid", passwordHash := some "hash", createdAt := 0, updatedAt := 0 }),
    (2, {
      appID := 1, email := "alice@example.invalid", name := "Alice", apiKey := some "key", apiKeyCreatedAt := some 2
      source := .sourceEntra, externalID := some "alice", createdAt := 0, updatedAt := 0 }),
    (3, {
      appID := 2, email := "bea@example.invalid", name := "Bea", source := .sourceEntra, externalID := some "bea"
      deletedAt := some 3, createdAt := 0, updatedAt := 3 }),
    (4, {
      appID := 3, email := "carl@example.invalid", name := "Carl", source := .sourceEntra, externalID := some "carl"
      createdAt := 0, updatedAt := 0 })]
  groups := .ofList [
    (1, { appID := 4, source := .sourceEntra, externalID := "staff", displayName := "Crew", createdAt := 0, updatedAt := 0 }),
    (2, {
      appID := 5, source := .sourceEntra, externalID := "contractors", displayName := "Contractors"
      createdAt := 0, updatedAt := 0 })]
  memberships := .ofList [((1, 1), ()), ((1, 2), ()), ((2, 2), ()), ((4, 1), ())]
  roles := .ofList [(1, { key := "admin", name := "Admin", builtin := true, createdAt := 0, updatedAt := 0 })]
  rolePermissions := .ofList [((1, "users"), 2)]
  userRoles := .ofList [((2, 1), ())]
  groupRoles := .ofList [((1, 1), ()), ((2, 1), ())]
  locations := .ofList [(1, { appID := 6, name := "Office", createdAt := 0, updatedAt := 0 })]
  locationGroups := .ofList [((1, 1), ()), ((1, 2), ())]
  checkins := .ofList [(1, {
    appID := 7, userID := 2, locationID := 1, direction := .directionIn, actorKind := "user", actorAppID := 1
    occurredAt := 1, createdAt := 1, updatedAt := 1 })]
  seq := { users := 5, groups := 3, roles := 2, locations := 2, checkins := 2, uuid := 8 }

theorem earlierGeneration_constraints : earlierGeneration.Constraints := by
  decide +kernel

/-- Bea is back, Dora is new and disabled, and Carl and the contractors are no longer listed. -/
def nextSnapshot : ProviderSnapshot where
  users := sampleSnapshot.users ++ [
    { externalID := "bea", userPrincipalName := "bea@example.invalid", displayName := "Bea", enabled := true },
    { externalID := "dora", userPrincipalName := "dora@example.invalid", displayName := "Dora", enabled := false }]
  groups := sampleSnapshot.groups

/-- The synchronisation after it: Bea is revived, Carl a tombstone, the contractors are gone
with what referred to them, and Alice keeps her row, key and role. -/
theorem reconciles_next_generation :
    ∃ d', transact (applyProviderSnapshot .c 5 .sourceEntra nextSnapshot) earlierGeneration = .ok d' ∧
      Reconciled .sourceEntra nextSnapshot earlierGeneration d' ∧
      (d'.users.row 2).bind UserRow.apiKey = some "key" ∧ (d'.users.row 3).map UserRow.deletedAt = some none ∧
      (d'.users.row 4).map UserRow.deletedAt = some (some 5) ∧ d'.groups.row 2 = none ∧
      d'.memberships.row (1, 1) = some () ∧ d'.memberships.row (1, 2) = none :=
  ⟨_, rfl, reconciles .c 5 .sourceEntra nextSnapshot earlierGeneration _ earlierGeneration_constraints rfl,
    rfl, rfl, rfl, rfl, rfl, rfl⟩

end Woodgate.Directory
