import Woodgate.Checkin.Service
import Woodgate.Directory.Reconciliation
import Woodgate.Library.Runs

/-!
# Identities over whole runs

A run is any sequence of synchronisations, of the administration's operations and of
check-ins, each of which commits or fails. `Transition` says what one of them can do to the
users, their direct roles and API keys and the check-ins; `Stable` what follows for two
states of a run, however far apart: a provider's user keeps its row, and a new external id
never gets anything of another one.
-/

namespace Woodgate.Directory

open Library Library.ReadCommitted Library.Runs Library.Results Postgres

/-- One call, with what the environment does to it. `failed` is any call that is rolled back:
it may have drawn from the sequences. -/
inductive Event (libs : Libraries) where
  | applyProviderSnapshot (now : Time) (source : Source) (snapshot : ProviderSnapshot)
  | createUser (now : Time) (params : UserCreateRecord)
  | updateUser (now : Time) (id : ID) (params : UserUpdateRecord)
  | updateAccount (now : Time) (id : ID) (params : AccountUpdateRecord)
  | setUserRolesByEmail (now : Time) (email : String) (roleIDs : List ID)
  | setAPIKey (now : Time) (id : ID) (key : String)
  | clearAPIKey (now : Time) (id : ID)
  | deleteUser (now : Time) (id : ID)
  | deleteRole (id : ID)
  | submit (env : Environment (calls libs)) (create : Checkin.CheckinCreate) (actor : Checkin.Actor) (photo : List UInt8)
  | updateCheckin (env : Environment (calls libs)) (id : ID) (mutation : Checkin.CheckinMutation)
  | failed (drawn : Sequences)

/-- No sequence of `b` is behind that of `a`. -/
structure Ahead (a b : Sequences) : Prop where
  users : a.users ≤ b.users
  groups : a.groups ≤ b.groups
  roles : a.roles ≤ b.roles
  locations : a.locations ≤ b.locations
  stations : a.stations ≤ b.stations
  checkins : a.checkins ≤ b.checkins
  uuid : a.uuid ≤ b.uuid

instance (a b : Sequences) : Decidable (Ahead a b) :=
  decidable_of_iff (a.users ≤ b.users ∧ a.groups ≤ b.groups ∧ a.roles ≤ b.roles ∧ a.locations ≤ b.locations ∧
      a.stations ≤ b.stations ∧ a.checkins ≤ b.checkins ∧ a.uuid ≤ b.uuid)
    ⟨fun ⟨users, groups, roles, locations, stations, checkins, uuid⟩ =>
        ⟨users, groups, roles, locations, stations, checkins, uuid⟩,
      fun h => ⟨h.users, h.groups, h.roles, h.locations, h.stations, h.checkins, h.uuid⟩⟩

/-- The rows after the event; `none` when it would not commit. -/
def step (libs : Libraries) (d : Db) : Event libs → Option Db
  | .applyProviderSnapshot now source snapshot =>
    (transact (applyProviderSnapshot libs.locale now source snapshot) d).toOption
  | .createUser now params => (transact (createUser now params d) d).toOption
  | .updateUser now id params => (transact (.ok (updateUser now id params)) d).toOption
  | .updateAccount now id params => (transact (.ok (updateAccount now id params)) d).toOption
  | .setUserRolesByEmail now email roleIDs => (transact (setUserRolesByEmail now email roleIDs d) d).toOption
  | .setAPIKey now id key => (transact (.ok [setAPIKey now id key]) d).toOption
  | .clearAPIKey now id => (transact (.ok [clearAPIKey now id]) d).toOption
  | .deleteUser now id => (transact (deleteUser now id d) d).toOption
  | .deleteRole id => (transact (.ok [deleteRole id]) d).toOption
  | .submit env create actor photo => some (Program.run env (Checkin.Service.submit create actor photo) { db := d }).2.db
  | .updateCheckin env id mutation => some (Program.run env (Checkin.Service.updateCheckin id mutation) { db := d }).2.db
  | .failed drawn => if Ahead d.seq drawn then some { d with seq := drawn } else none

namespace Event

variable {libs : Libraries}

/-- An explicit operation on the direct role `r` of the user, or the deletion of the role. -/
def SetsRole (d : Db) (event : Event libs) (id r : ID) : Prop :=
  match event with
  | .updateUser _ target _ => target = id
  | .setUserRolesByEmail _ email _ => roleTarget email d = some id
  | .deleteRole role => role = r
  | _ => False

/-- The API key of the user is set or cleared. -/
def SetsKey (event : Event libs) (id : ID) : Prop :=
  match event with
  | .setAPIKey _ target _ | .clearAPIKey _ target => target = id
  | _ => False

/-- The check-in is updated. -/
def Updates (event : Event libs) (checkin : ID) : Prop :=
  match event with
  | .updateCheckin _ id _ => id = checkin
  | _ => False

end Event

section Transition

/-- The columns that make a user the user it is. -/
structure SamePerson (u u' : UserRow) : Prop where
  appID : u'.appID = u.appID
  source : u'.source = u.source
  externalID : u'.externalID = u.externalID

theorem SamePerson.refl (u : UserRow) : SamePerson u u := ⟨rfl, rfl, rfl⟩

theorem SamePerson.trans {u v w : UserRow} (first : SamePerson u v) (second : SamePerson v w) : SamePerson u w :=
  ⟨second.appID.trans first.appID, second.source.trans first.source, second.externalID.trans first.externalID⟩

theorem SamePerson.identity {u u' : UserRow} (same : SamePerson u u') : u'.identity = u.identity := by
  rw [UserRow.identity, UserRow.identity, same.source, same.externalID]

/-- A local user has the id. -/
def IsLocal (d : Db) (id : ID) : Prop := ∃ u, d.users.row id = some u ∧ u.source = .sourceLocal

/-- The API key at an id. -/
def keyOf (d : Db) (id : ID) : Option String := (d.users.row id).bind UserRow.apiKey

/-- What the constraints and the sequences make of every committed state. -/
structure Consistent (d : Db) : Prop where
  identity : d.users.Unique UserRow.identity
  drawn : ∀ id u, d.users.row id = some u → id < d.seq.users ∧ u.appID < d.seq.uuid
  userRoles : ∀ id r, (d.userRoles.row (id, r)).isSome → (d.users.row id).isSome

variable {libs : Libraries}

/-- **What one event can do.** -/
structure Transition (d : Db) (event : Event libs) (d' : Db) : Prop where
  seqUsers : d.seq.users ≤ d'.seq.users
  seqUuid : d.seq.uuid ≤ d'.seq.uuid
  kept : ∀ id u, d.users.row id = some u →
    (∃ u', d'.users.row id = some u' ∧ SamePerson u u') ∨ u.source = .sourceLocal ∧ d'.users.row id = none
  born : ∀ id u', d.users.row id = none → d'.users.row id = some u' →
    d.seq.users ≤ id ∧ id < d'.seq.users ∧ d.seq.uuid ≤ u'.appID ∧ u'.appID < d'.seq.uuid
  identity : d'.users.Unique UserRow.identity
  userRoles : ∀ id r, (d'.userRoles.row (id, r)).isSome → (d'.users.row id).isSome
  roles : ∀ id r, ¬ IsLocal d id → ¬ IsLocal d' id → ¬ event.SetsRole d id r →
    d'.userRoles.row (id, r) = d.userRoles.row (id, r)
  keys : ∀ id, ¬ IsLocal d id → ¬ event.SetsKey id → keyOf d' id = keyOf d id
  persons : ∀ id c, d.checkins.row id = some c → ¬ event.Updates id →
    ∃ c', d'.checkins.row id = some c' ∧ c'.userID = c.userID

variable {event : Event libs} {d d' : Db}

theorem Transition.consistent (transition : Transition d event d') (consistent : Consistent d) : Consistent d' where
  identity := transition.identity
  drawn id u' present := by
    cases before : d.users.row id with
    | none =>
      obtain ⟨_, id_lt, _, appID_lt⟩ := transition.born id u' before present
      exact ⟨id_lt, appID_lt⟩
    | some u =>
      obtain ⟨id_lt, appID_lt⟩ := consistent.drawn id u before
      rcases transition.kept id u before with ⟨u₁, stays, same⟩ | ⟨_, gone⟩
      · cases stays.symm.trans present
        have id_le := transition.seqUsers
        have appID_le := transition.seqUuid
        rw [same.appID]
        exact ⟨id_lt.trans_le id_le, appID_lt.trans_le appID_le⟩
      · rw [gone] at present
        cases present
  userRoles := transition.userRoles

end Transition

section Rewriting

variable {libs : Libraries} {event : Event libs} {d d' : Db} {id : ID} {old new : UserRow}

/-- The users of `d'` are those of `d`, with other columns perhaps. -/
def Rewrites (d d' : Db) : Prop := ∀ id, Option.Rel SamePerson (d.users.row id) (d'.users.row id)

theorem rewrites_of_users (same : d'.users = d.users) : Rewrites d d' := by
  intro id
  rw [same]
  cases d.users.row id with
  | none => exact .none
  | some u => exact .some (.refl u)

theorem rewrites_set (found : d.users.row id = some old) (same : SamePerson old new) (stored : d'.users = d.users.set id new) :
    Rewrites d d' := by
  intro j
  rw [stored, Table.row_set]
  split
  · rename_i at_
    rw [at_, found]
    exact .some same
  · exact rewrites_of_users rfl j

theorem Rewrites.isSome (rewrites : Rewrites d d') (id : ID) : (d'.users.row id).isSome = (d.users.row id).isSome := by
  have related := rewrites id
  generalize d.users.row id = before at related ⊢
  generalize d'.users.row id = after at related ⊢
  cases related <;> rfl

/-- An event that only rewrites users. -/
theorem transition_of_rewrites (consistent : Consistent d) (rewrites : Rewrites d d') (seqUsers : d.seq.users ≤ d'.seq.users)
    (seqUuid : d.seq.uuid ≤ d'.seq.uuid) (userRoles : ∀ id r, (d'.userRoles.row (id, r)).isSome → (d.users.row id).isSome)
    (roles : ∀ id r, ¬ event.SetsRole d id r → d'.userRoles.row (id, r) = d.userRoles.row (id, r))
    (keys : ∀ id, ¬ event.SetsKey id → keyOf d' id = keyOf d id)
    (persons : ∀ id c, d.checkins.row id = some c → ¬ event.Updates id →
      ∃ c', d'.checkins.row id = some c' ∧ c'.userID = c.userID) : Transition d event d' where
  seqUsers := seqUsers
  seqUuid := seqUuid
  kept id u present := by
    have related := rewrites id
    rw [present] at related
    cases h : d'.users.row id <;> rw [h] at related <;> cases related
    rename_i u' same
    exact .inl ⟨u', rfl, same⟩
  born id u' absent present := by
    have related := rewrites id
    rw [absent, present] at related
    cases related
  identity := by
    intro i j u v k here there own own'
    have before := rewrites i
    have before' := rewrites j
    rw [here] at before
    rw [there] at before'
    cases hi : d.users.row i <;> rw [hi] at before <;> cases before
    cases hj : d.users.row j <;> rw [hj] at before' <;> cases before'
    rename_i u₀ same v₀ same'
    exact consistent.identity i j u₀ v₀ k hi hj (same.identity.symm.trans own) (same'.identity.symm.trans own')
  userRoles id r present := by
    rw [rewrites.isSome]
    exact userRoles id r present
  roles id r _ _ idle := roles id r idle
  keys id _ idle := keys id idle
  persons := persons

theorem persons_same (same : d'.checkins = d.checkins) (id : ID) (c : CheckinRow) (found : d.checkins.row id = some c) :
    ∃ c', d'.checkins.row id = some c' ∧ c'.userID = c.userID := ⟨c, same ▸ found, rfl⟩

/-- A row that is written keeps its API key, or is the one whose key is set. -/
theorem apiKey_set {users : Table ID UserRow} (found : users.row id = some old) {j : ID}
    (key : j = id → new.apiKey = old.apiKey) :
    ((users.set id new).row j).bind UserRow.apiKey = (users.row j).bind UserRow.apiKey := by
  rw [Table.row_set]
  split
  · rename_i at_
    rw [at_, found]
    exact key at_
  · rfl

end Rewriting

section Administration

variable {libs : Libraries} {now : Time} {id : ID} {d d' : Db}

theorem samePerson_setProfile {name : String} {passwordHash : Option String} (u : UserRow) :
    SamePerson u (setProfile now name passwordHash u) := ⟨rfl, rfl, rfl⟩

theorem updateUser_transition {params : UserUpdateRecord} (consistent : Consistent d)
    (h : transact (.ok (updateUser now id params)) d = .ok d') :
    Transition d (.updateUser now id params : Event libs) d' := by
  have ran : runStatements (updateUser now id params) d = .ok d' := h
  obtain ⟨_, mid, written, ran⟩ := runStatements_cons_ok.1 ran
  obtain ⟨old, found, _, _, rfl⟩ := writeUser_ok (Sql.mapError_ok.1 written)
  obtain ⟨userRoles, rfl, others, refers⟩ := replaceUserRoles_ok ran
  refine transition_of_rewrites consistent (rewrites_set found (samePerson_setProfile old) rfl) (Int.le_refl _) (Nat.le_refl _)
    ?_ ?_ ?_ fun id c present _ => persons_same rfl id c present
  · intro j r present
    by_cases own : j = id
    · rw [own, found]
      rfl
    · have present : (userRoles.row (j, r)).isSome := present
      rw [others j r own] at present
      exact consistent.userRoles j r present
  · intro j r idle
    exact others j r fun own => idle own.symm
  · intro j _
    exact apiKey_set found fun _ => rfl

theorem updateAccount_transition {params : AccountUpdateRecord} (consistent : Consistent d)
    (h : transact (.ok (updateAccount now id params)) d = .ok d') :
    Transition d (.updateAccount now id params : Event libs) d' := by
  have ran : runStatements (updateAccount now id params) d = .ok d' := h
  obtain ⟨_, mid, written, ran⟩ := runStatements_cons_ok.1 ran
  cases ran
  obtain ⟨old, found, _, _, rfl⟩ := writeUser_ok (Sql.mapError_ok.1 written)
  refine transition_of_rewrites consistent (rewrites_set found (samePerson_setProfile old) rfl) (Int.le_refl _) (Nat.le_refl _)
    consistent.userRoles (fun _ _ _ => rfl) ?_ fun id c present _ => persons_same rfl id c present
  intro j _
  exact apiKey_set found fun _ => rfl

/-- `RETURNING`, `lockUser` and the roles of one user. -/
theorem setUserRolesByEmail_transition {email : String} {roleIDs : List ID} (consistent : Consistent d)
    (h : transact (setUserRolesByEmail now email roleIDs d) d = .ok d') :
    Transition d (.setUserRolesByEmail now email roleIDs : Event libs) d' := by
  obtain ⟨_, accepted, ran⟩ := transact_ok.1 h
  unfold setUserRolesByEmail at accepted
  split at accepted
  · cases accepted
  rename_i userID target
  cases accepted
  obtain ⟨mid, first, last⟩ := runStatements_append_ok.1 ran
  obtain ⟨_, held, locked, replaced⟩ := runStatements_cons_ok.1 first
  have same : held = d := (lockUser_ok (Sql.mapError_ok.1 locked)).1
  rw [same] at replaced
  obtain ⟨userRoles, rfl, others, refers⟩ := replaceUserRoles_ok replaced
  obtain ⟨_, mid, written, rest⟩ := runStatements_cons_ok.1 last
  cases rest
  obtain ⟨old, found, _, _, rfl⟩ := writeUser_ok (Sql.mapError_ok.1 written)
  have found : d.users.row userID = some old := found
  have touched : SamePerson old { old with updatedAt := now } := ⟨rfl, rfl, rfl⟩
  refine transition_of_rewrites consistent (rewrites_set found touched rfl) (Int.le_refl _) (Nat.le_refl _)
    ?_ ?_ ?_ fun id c present _ => persons_same rfl id c present
  · intro j r present
    by_cases own : j = userID
    · rw [own, found]
      rfl
    · have present : (userRoles.row (j, r)).isSome := present
      rw [others j r own] at present
      exact consistent.userRoles j r present
  · intro j r idle
    exact others j r fun own => idle (own ▸ target)
  · intro j _
    exact apiKey_set found fun _ => rfl

/-- The statements of `AuthnStore`: one column of one user. -/
theorem writeUser_transition {event : Event libs} {cond : UserRow → Bool} {f : UserRow → UserRow}
    {asked : List (RowKey × LockMode)} (consistent : Consistent d) (written : writeUser id cond f d = .ok (asked, d'))
    (same : ∀ u, SamePerson u (f u)) (keys : ¬ event.SetsKey id → ∀ u, (f u).apiKey = u.apiKey) : Transition d event d' := by
  obtain ⟨old, found, _, _, rfl⟩ := writeUser_ok written
  refine transition_of_rewrites consistent (rewrites_set found (same old) rfl) (Int.le_refl _) (Nat.le_refl _)
    consistent.userRoles (fun _ _ _ => rfl) ?_ fun id c present _ => persons_same rfl id c present
  intro j idle
  refine apiKey_set found fun own => keys ?_ old
  rwa [← own]

theorem setAPIKey_transition {key : String} (consistent : Consistent d) (h : transact (.ok [setAPIKey now id key]) d = .ok d') :
    Transition d (.setAPIKey now id key : Event libs) d' := by
  have ran : runStatements [setAPIKey now id key] d = .ok d' := h
  obtain ⟨_, mid, written, ran⟩ := runStatements_cons_ok.1 ran
  cases ran
  exact writeUser_transition consistent (Sql.mapError_ok.1 written) (fun _ => ⟨rfl, rfl, rfl⟩) fun idle => absurd rfl idle

theorem clearAPIKey_transition (consistent : Consistent d) (h : transact (.ok [clearAPIKey now id]) d = .ok d') :
    Transition d (.clearAPIKey now id : Event libs) d' := by
  have ran : runStatements [clearAPIKey now id] d = .ok d' := h
  obtain ⟨_, mid, written, ran⟩ := runStatements_cons_ok.1 ran
  cases ran
  exact writeUser_transition consistent (Sql.mapError_ok.1 written) (fun _ => ⟨rfl, rfl, rfl⟩) fun idle => absurd rfl idle

theorem createUser_transition {params : UserCreateRecord} (consistent : Consistent d)
    (h : transact (createUser now params d) d = .ok d') : Transition d (.createUser now params : Event libs) d' := by
  have ran : runStatements ((insertUser now params).mapError mutationError :: replaceUserRoles d.seq.users params.roleIDs) d =
    .ok d' := h
  obtain ⟨_, mid, inserted, replaced⟩ := runStatements_cons_ok.1 ran
  obtain ⟨row, appID, source, externalID, apiKey, vacant, _, rfl⟩ := insertUser_ok (Sql.mapError_ok.1 inserted)
  obtain ⟨userRoles, rfl, others, refers⟩ := replaceUserRoles_ok replaced
  have rows : ∀ j, (d.users.set d.seq.users row).row j = if j = d.seq.users then some row else d.users.row j :=
    fun j => Table.row_set d.users j d.seq.users row
  have kept : ∀ j u, d.users.row j = some u → (d.users.set d.seq.users row).row j = some u := by
    intro j u present
    rw [rows, if_neg]
    · exact present
    · rintro rfl
      rw [vacant] at present
      cases present
  constructor
  · exact Int.le_of_lt (Int.lt_succ _)
  · exact Nat.le_succ _
  · intro j u present
    exact .inl ⟨u, kept j u present, .refl u⟩
  · intro j u absent present
    have present : (d.users.set d.seq.users row).row j = some u := present
    rw [rows] at present
    split at present
    · rename_i new
      cases present
      rw [appID, new]
      exact ⟨Int.le_refl _, Int.lt_succ _, Nat.le_refl _, Nat.lt_succ_self _⟩
    · rw [absent] at present
      cases present
  · intro i j u v k here there own own'
    have here : (d.users.set d.seq.users row).row i = some u := here
    have there : (d.users.set d.seq.users row).row j = some v := there
    have nobody : row.identity = none := by rw [UserRow.identity, externalID, Option.map_none]
    rw [rows] at here there
    split at here
    · cases here
      rw [nobody] at own
      cases own
    · split at there
      · cases there
        rw [nobody] at own'
        cases own'
      · exact consistent.identity i j u v k here there own own'
  · intro j r present
    have present : (userRoles.row (j, r)).isSome := present
    by_cases own : j = d.seq.users
    · rw [own] at present ⊢
      exact refers r present
    · rw [others j r own] at present
      obtain ⟨u, found⟩ := Option.isSome_iff_exists.1 (consistent.userRoles j r present)
      exact Option.isSome_iff_exists.2 ⟨u, kept j u found⟩
  · intro j r _ foreign _
    refine others j r fun own => foreign ⟨row, ?_, source⟩
    rw [own]
    exact Table.row_set_self ..
  · intro j _ _
    show ((d.users.set d.seq.users row).row j).bind UserRow.apiKey = (d.users.row j).bind UserRow.apiKey
    rw [rows]
    split
    · rename_i new
      rw [new, vacant]
      exact apiKey
    · rfl
  · exact fun id c present _ => persons_same rfl id c present

theorem deleteRole_transition (consistent : Consistent d) (h : transact (.ok [deleteRole id]) d = .ok d') :
    Transition d (.deleteRole id : Event libs) d' := by
  have ran : runStatements [deleteRole id] d = .ok d' := h
  obtain ⟨_, mid, deleted, ran⟩ := runStatements_cons_ok.1 ran
  cases ran
  unfold deleteRole at deleted
  split at deleted
  · cases deleted
  split at deleted
  · cases deleted
  cases deleted
  refine transition_of_rewrites consistent (rewrites_of_users rfl) (Int.le_refl _) (Nat.le_refl _) ?_ ?_ (fun _ _ => rfl)
    fun id c present _ => persons_same rfl id c present
  · intro j r present
    have present : ((d.userRoles.filter fun k _ => decide (k.2 ≠ id)).row (j, r)).isSome := present
    rw [Table.row_filter_key] at present
    split at present
    · exact consistent.userRoles j r present
    · cases present
  · intro j r idle
    show (d.userRoles.filter fun k _ => decide (k.2 ≠ id)).row (j, r) = d.userRoles.row (j, r)
    rw [Table.row_filter_key, if_pos]
    exact decide_eq_true fun same => idle same.symm

/-- A local user is deleted; a provider's keeps its row. -/
theorem deleteUser_transition (consistent : Consistent d) (h : transact (deleteUser now id d) d = .ok d') :
    Transition d (.deleteUser now id : Event libs) d' := by
  obtain ⟨_, accepted, ran⟩ := transact_ok.1 h
  unfold deleteUser at accepted
  split at accepted
  · cases accepted
  rename_i u target
  cases accepted
  obtain ⟨_, held, locked, ran⟩ := runStatements_cons_ok.1 ran
  have same : held = d := (lockUser_ok (Sql.mapError_ok.1 locked)).1
  rw [same] at ran
  obtain ⟨_, mid, removed, rest⟩ := runStatements_cons_ok.1 ran
  cases rest
  have removed := Sql.mapError_ok.1 removed
  have found : d.users.row id = some u := (Option.filter_eq_some_iff.1 target).1
  unfold removeUser at removed
  split at removed
  · rename_i isLocal
    split at removed
    · cases removed
    split at removed
    · cases removed
    cases removed
    have rows : ∀ j, (d.users.erase id).row j = if j = id then none else d.users.row j :=
      fun j => Table.row_erase d.users j id
    have roles : ∀ j r, (d.userRoles.filter fun k _ => decide (k.1 ≠ id)).row (j, r) =
        if j = id then none else d.userRoles.row (j, r) := by
      intro j r
      rw [Table.row_filter_key]
      by_cases own : j = id <;> simp [own]
    constructor
    · exact Int.le_refl _
    · exact Nat.le_refl _
    · intro j v present
      show (∃ v', (d.users.erase id).row j = some v' ∧ SamePerson v v') ∨ v.source = .sourceLocal ∧ (d.users.erase id).row j = none
      rw [rows]
      split
      · rename_i own
        rw [own] at present
        cases present.symm.trans found
        exact .inr ⟨isLocal, rfl⟩
      · exact .inl ⟨v, present, .refl v⟩
    · intro j v absent present
      have present : (d.users.erase id).row j = some v := present
      rw [rows, absent] at present
      split at present <;> cases present
    · intro i j v w k here there own own'
      have here : (d.users.erase id).row i = some v := here
      have there : (d.users.erase id).row j = some w := there
      rw [rows] at here there
      split at here
      · cases here
      split at there
      · cases there
      exact consistent.identity i j v w k here there own own'
    · intro j r present
      have present : ((d.userRoles.filter fun k _ => decide (k.1 ≠ id)).row (j, r)).isSome := present
      show ((d.users.erase id).row j).isSome
      rw [roles] at present
      split at present
      · cases present
      · rename_i other
        rw [rows, if_neg other]
        exact consistent.userRoles j r present
    · intro j r foreign _ _
      show (d.userRoles.filter fun k _ => decide (k.1 ≠ id)).row (j, r) = d.userRoles.row (j, r)
      rw [roles, if_neg]
      rintro rfl
      exact foreign ⟨u, found, isLocal⟩
    · intro j foreign _
      show ((d.users.erase id).row j).bind UserRow.apiKey = (d.users.row j).bind UserRow.apiKey
      rw [rows, if_neg]
      rintro rfl
      exact foreign ⟨u, found, isLocal⟩
    · intro j c present _
      refine ⟨if c.createdByUserID = some id then { c with createdByUserID := none } else c, ?_, ?_⟩
      · show (d.checkins.map _).row j = _
        rw [Table.row_map, present]
        rfl
      · split <;> rfl
  · exact writeUser_transition consistent removed (fun _ => ⟨rfl, rfl, rfl⟩) fun _ _ => rfl

end Administration

section Snapshot

variable {libs : Libraries} {now : Time} {source : Source} {snapshot : ProviderSnapshot} {d d' : Db}

/-- A synchronisation keeps every row, and inserts at ids and identifiers just drawn. -/
theorem applyProviderSnapshot_transition (consistent : Consistent d)
    (h : transact (applyProviderSnapshot libs.locale now source snapshot) d = .ok d') :
    Transition d (.applyProviderSnapshot now source snapshot : Event libs) d' := by
  obtain ⟨_, groups, users, _, usersOk, rfl⟩ := applyProviderSnapshot_ok h
  have tombstoned : (d.users.map fun _ => tombstone now source).Unique UserRow.identity :=
    consistent.identity.map fun _ _ => identity_tombstone
  have applied : UsersApplied libs.locale now source snapshot (drawnGroups libs.locale snapshot d.seq) d.users users :=
    Upsert.applied tombstoned (nodup_currentUsers now source _) usersOk
  constructor
  · exact Int.le_add_of_nonneg_right (Int.natCast_nonneg _)
  · exact Nat.le_trans (Nat.le_add_right _ _) (Nat.le_add_right _ _)
  · intro id u present
    obtain ⟨u', stays, same, _⟩ := user_of_row applied present
    exact .inl ⟨u', stays, same.appID, same.source, same.externalID⟩
  · intro id u absent present
    obtain ⟨_, _, m, below, at_, appID⟩ := user_of_new applied absent present
    rw [at_, appID]
    refine ⟨Int.le_add_of_nonneg_right (Int.natCast_nonneg m), Int.add_lt_add_left (Int.ofNat_lt.2 below) _, ?_,
      Nat.add_lt_add_left below _⟩
    exact Nat.le_trans (Nat.le_add_right _ _) (Nat.le_add_right _ _)
  · exact applied.unique
  · intro id r present
    obtain ⟨u, found⟩ := Option.isSome_iff_exists.1 (consistent.userRoles id r present)
    obtain ⟨u', stays, _⟩ := user_of_row applied found
    exact Option.isSome_iff_exists.2 ⟨u', stays⟩
  · exact fun _ _ _ _ _ => rfl
  · intro id _ _
    show (users.row id).bind UserRow.apiKey = (d.users.row id).bind UserRow.apiKey
    cases before : d.users.row id with
    | some u =>
      obtain ⟨u', stays, same, _⟩ := user_of_row applied before
      rw [stays]
      exact same.apiKey
    | none =>
      cases after : users.row id with
      | none => rfl
      | some u => exact (user_of_new applied before after).1.2.2.2
  · exact fun id c present _ => persons_same rfl id c present

end Snapshot

section Checkins

variable {libs : Libraries} {d d' : Db}

/-- What check-ins do: users, roles and keys stay, and so does whose a check-in is, unless
it is moved. -/
structure Recorded (moved : ID → Prop) (d d' : Db) : Prop where
  users : d'.users = d.users
  userRoles : d'.userRoles = d.userRoles
  seqUsers : d'.seq.users = d.seq.users
  seqUuid : d.seq.uuid ≤ d'.seq.uuid
  persons : ∀ id c, d.checkins.row id = some c → ¬ moved id → ∃ c', d'.checkins.row id = some c' ∧ c'.userID = c.userID

variable {moved : ID → Prop}

theorem Recorded.refl (d : Db) : Recorded moved d d := ⟨rfl, rfl, rfl, Nat.le_refl _, fun _ c present _ => ⟨c, present, rfl⟩⟩

theorem Recorded.trans {a b c : Db} (first : Recorded moved a b) (second : Recorded moved b c) : Recorded moved a c where
  users := second.users.trans first.users
  userRoles := second.userRoles.trans first.userRoles
  seqUsers := second.seqUsers.trans first.seqUsers
  seqUuid := first.seqUuid.trans second.seqUuid
  persons id row present idle := by
    obtain ⟨row', between, same⟩ := first.persons id row present idle
    obtain ⟨row'', after, same'⟩ := second.persons id row' between idle
    exact ⟨row'', after, same'.trans same⟩

theorem Recorded.transition {event : Event libs} (recorded : Recorded moved d d') (consistent : Consistent d)
    (updates : ∀ id, moved id → event.Updates id) : Transition d event d' := by
  refine transition_of_rewrites consistent (rewrites_of_users recorded.users) (Int.le_of_eq recorded.seqUsers.symm)
    recorded.seqUuid ?_ ?_ ?_ fun id c present idle => recorded.persons id c present fun moves => idle (updates id moves)
  · intro id r present
    rw [recorded.userRoles] at present
    exact consistent.userRoles id r present
  · intro id r _
    rw [recorded.userRoles]
  · intro id _
    rw [keyOf, recorded.users, keyOf]

theorem recorded_quiet {now : Time} {c : Call} (quiet : c.Quiet) {x : c.Answer} {asked : List (RowKey × LockMode)}
    (performed : c.perform libs now d = .ok (x, asked, d')) : Recorded moved d d' := by
  obtain ⟨storageObjects, rfl⟩ := Call.perform_quiet quiet performed
  exact ⟨rfl, rfl, rfl, Nat.le_refl _, fun _ c present _ => ⟨c, present, rfl⟩⟩

/-- `Service.Submit`, alone, whatever the environment makes fail. -/
theorem recorded_submit (env : Environment (calls libs)) (create : Checkin.CheckinCreate) (actor : Checkin.Actor)
    (photo : List UInt8) (d : Db) :
    Recorded (fun _ => False) d (Program.run env (Checkin.Service.submit create actor photo) { db := d }).2.db := by
  have keeps : ∀ c : Call, Checkin.SubmitCall c →
      ∀ now d x asked after, c.perform libs now d = .ok (x, asked, after) → Recorded (fun _ => False) d after := by
    rintro c (quiet | ⟨create, actor, photoObjectID, rfl⟩) now d x asked after performed
    · exact recorded_quiet quiet performed
    · dsimp only [Call.perform] at performed
      obtain ⟨direction, _, vacant, _, rfl⟩ := Checkin.insertCheckin_ok (Call.returning_ok.1 performed).2
      refine ⟨rfl, rfl, rfl, Nat.le_succ _, fun id c present _ => ⟨c, ?_, rfl⟩⟩
      have other : id ≠ d.seq.checkins := by
        rintro rfl
        rw [vacant] at present
        cases present
      exact (Table.row_set_ne _ _ other).trans present
  have plain : (Checkin.Service.submit create actor photo : Service libs Checkin.Checkin).Plain Checkin.SubmitCall :=
    Checkin.plain_submit
  have runs := Program.wp_plain (Recorded fun _ => False) Recorded.refl Recorded.trans keeps plain
    (w := ({ db := d } : World (calls libs) Notice)) rfl
  exact (Program.wp_run env runs).2.2.1

/-- `Service.UpdateCheckin`. -/
theorem recorded_updateCheckin (env : Environment (calls libs)) (id : ID) (mutation : Checkin.CheckinMutation) (d : Db) :
    Recorded (fun j => id = j) d (Program.run env (Checkin.Service.updateCheckin id mutation) { db := d }).2.db := by
  have keeps : ∀ c : Call, Checkin.UpdateCall id c →
      ∀ now d x asked after, c.perform libs now d = .ok (x, asked, after) → Recorded (fun j => id = j) d after := by
    rintro c (quiet | ⟨mutation, rfl⟩) now d x asked after performed
    · exact recorded_quiet quiet performed
    · dsimp only [Call.perform] at performed
      obtain ⟨direction, old, _, _, _, _, rfl⟩ := Checkin.updateCheckin_ok (Call.returning_ok.1 performed).2
      refine ⟨rfl, rfl, rfl, Nat.le_refl _, fun j c present other => ⟨c, ?_, rfl⟩⟩
      exact (Table.row_set_ne _ _ fun same => other same.symm).trans present
  have plain : (Checkin.Service.updateCheckin id mutation : Service libs Checkin.Checkin).Plain (Checkin.UpdateCall id) :=
    Checkin.plain_updateCheckin
  have runs := Program.wp_plain (Recorded fun j => id = j) Recorded.refl Recorded.trans keeps plain
    (w := ({ db := d } : World (calls libs) Notice)) rfl
  exact (Program.wp_run env runs).2.2.1

end Checkins

section Runs

variable {libs : Libraries} {event : Event libs} {d d' : Db} {events : List (Event libs)}

theorem step_transition (consistent : Consistent d) (h : step libs d event = some d') : Transition d event d' := by
  cases event with
  | applyProviderSnapshot now source snapshot => exact applyProviderSnapshot_transition consistent (toOption_eq_some.1 h)
  | createUser now params => exact createUser_transition consistent (toOption_eq_some.1 h)
  | updateUser now id params => exact updateUser_transition consistent (toOption_eq_some.1 h)
  | updateAccount now id params => exact updateAccount_transition consistent (toOption_eq_some.1 h)
  | setUserRolesByEmail now email roleIDs => exact setUserRolesByEmail_transition consistent (toOption_eq_some.1 h)
  | setAPIKey now id key => exact setAPIKey_transition consistent (toOption_eq_some.1 h)
  | clearAPIKey now id => exact clearAPIKey_transition consistent (toOption_eq_some.1 h)
  | deleteUser now id => exact deleteUser_transition consistent (toOption_eq_some.1 h)
  | deleteRole id => exact deleteRole_transition consistent (toOption_eq_some.1 h)
  | submit env create actor photo =>
    cases h
    exact (recorded_submit env create actor photo d).transition consistent fun _ never => never.elim
  | updateCheckin env id mutation =>
    cases h
    exact (recorded_updateCheckin env id mutation d).transition consistent fun _ same => same
  | failed drawn =>
    simp only [step] at h
    split at h
    · rename_i ahead
      cases h
      exact transition_of_rewrites consistent (rewrites_of_users rfl) ahead.users ahead.uuid consistent.userRoles
        (fun _ _ _ => rfl) (fun _ _ => rfl) fun id c present _ => persons_same rfl id c present
    · cases h

theorem run_consistent (consistent : Consistent d) (h : run (step libs) d events = some d') : Consistent d' :=
  run_invariant Consistent (fun _ _ _ consistent stepped => (step_transition consistent stepped).consistent consistent)
    consistent h

/-- What a run keeps of the users: a row keeps its person or was local and is gone for good,
and a new one has an id and an identifier never used before. -/
structure Continues (d d' : Db) : Prop where
  seqUsers : d.seq.users ≤ d'.seq.users
  seqUuid : d.seq.uuid ≤ d'.seq.uuid
  kept : ∀ id u, d.users.row id = some u →
    (∃ u', d'.users.row id = some u' ∧ SamePerson u u') ∨ u.source = .sourceLocal ∧ d'.users.row id = none
  born : ∀ id u', d.users.row id = none → d'.users.row id = some u' → d.seq.users ≤ id ∧ d.seq.uuid ≤ u'.appID

theorem Continues.refl (d : Db) : Continues d d where
  seqUsers := Int.le_refl _
  seqUuid := Nat.le_refl _
  kept _ u present := .inl ⟨u, present, .refl u⟩
  born _ _ absent present := by
    rw [absent] at present
    cases present

theorem Transition.continues (transition : Transition d event d') : Continues d d' where
  seqUsers := transition.seqUsers
  seqUuid := transition.seqUuid
  kept := transition.kept
  born id u' absent present := by
    obtain ⟨id_le, _, appID_le, _⟩ := transition.born id u' absent present
    exact ⟨id_le, appID_le⟩

theorem Continues.trans {a b c : Db} (consistent : Consistent a) (first : Continues a b) (second : Continues b c) :
    Continues a c where
  seqUsers := first.seqUsers.trans second.seqUsers
  seqUuid := first.seqUuid.trans second.seqUuid
  kept id u present := by
    rcases first.kept id u present with ⟨v, between, same⟩ | ⟨isLocal, gone⟩
    · rcases second.kept id v between with ⟨w, after, same'⟩ | ⟨isLocal, gone⟩
      · exact .inl ⟨w, after, same.trans same'⟩
      · exact .inr ⟨same.source.symm.trans isLocal, gone⟩
    · refine .inr ⟨isLocal, ?_⟩
      cases after : c.users.row id with
      | none => rfl
      | some w =>
        -- the id was drawn before, so nothing is inserted there again
        have fresh : b.seq.users ≤ id := (second.born id w gone after).1
        have old : id < a.seq.users := (consistent.drawn id u present).1
        exact absurd (old.trans_le (first.seqUsers.trans fresh)) (Int.lt_irrefl id)
  born id w absent present := by
    cases between : b.users.row id with
    | none =>
      obtain ⟨id_le, appID_le⟩ := second.born id w between present
      exact ⟨first.seqUsers.trans id_le, first.seqUuid.trans appID_le⟩
    | some v =>
      rcases second.kept id v between with ⟨w', stays, same⟩ | ⟨_, gone⟩
      · cases stays.symm.trans present
        rw [same.appID]
        exact first.born id v absent between
      · rw [gone] at present
        cases present

theorem run_continues (consistent : Consistent d) (h : run (step libs) d events = some d') : Continues d d' := by
  induction events generalizing d with
  | nil =>
    cases h
    exact .refl _
  | cons event events ih =>
    obtain ⟨s, stepped, rest⟩ := run_cons_iff.1 h
    have transition := step_transition consistent stepped
    exact transition.continues.trans consistent (ih (transition.consistent consistent) rest)

/-- An id that a provider's user has in the end never was a local user's. -/
theorem Continues.not_isLocal {id : ID} {u' : UserRow} (continues : Continues d d') (present : d'.users.row id = some u')
    (provided : u'.source ≠ .sourceLocal) : ¬ IsLocal d id := by
  rintro ⟨u, before, isLocal⟩
  rcases continues.kept id u before with ⟨v, stays, same⟩ | ⟨_, gone⟩
  · cases stays.symm.trans present
    exact provided (same.source.trans isLocal)
  · rw [gone] at present
    cases present

/-- Its direct roles change only by an operation on them. -/
theorem roles_run {id r : ID} {u' : UserRow} (consistent : Consistent d) (h : run (step libs) d events = some d')
    (present : d'.users.row id = some u') (provided : u'.source ≠ .sourceLocal)
    (idle : Guarded (step libs) (fun s event => ¬ event.SetsRole s id r) d events) :
    d'.userRoles.row (id, r) = d.userRoles.row (id, r) := by
  induction events generalizing d with
  | nil =>
    cases h
    rfl
  | cons event events ih =>
    have foreign : ¬ IsLocal d id := (run_continues consistent h).not_isLocal present provided
    obtain ⟨s, stepped, rest⟩ := run_cons_iff.1 h
    have transition := step_transition consistent stepped
    have consistent' := transition.consistent consistent
    have foreign' : ¬ IsLocal s id := (run_continues consistent' rest).not_isLocal present provided
    have first : s.userRoles.row (id, r) = d.userRoles.row (id, r) := transition.roles id r foreign foreign' idle.1
    exact (ih consistent' rest (idle.2 s stepped)).trans first

/-- And so does its API key. -/
theorem keys_run {id : ID} {u' : UserRow} (consistent : Consistent d) (h : run (step libs) d events = some d')
    (present : d'.users.row id = some u') (provided : u'.source ≠ .sourceLocal)
    (idle : ∀ event ∈ events, ¬ event.SetsKey id) : keyOf d' id = keyOf d id := by
  induction events generalizing d with
  | nil =>
    cases h
    rfl
  | cons event events ih =>
    have foreign : ¬ IsLocal d id := (run_continues consistent h).not_isLocal present provided
    obtain ⟨s, stepped, rest⟩ := run_cons_iff.1 h
    have transition := step_transition consistent stepped
    have first : keyOf s id = keyOf d id := transition.keys id foreign (idle event List.mem_cons_self)
    have later := ih (transition.consistent consistent) rest fun event mem => idle event (List.mem_cons_of_mem _ mem)
    exact later.trans first

theorem persons_run {id : ID} {c : CheckinRow} (consistent : Consistent d) (h : run (step libs) d events = some d')
    (found : d.checkins.row id = some c) (idle : ∀ event ∈ events, ¬ event.Updates id) :
    ∃ c', d'.checkins.row id = some c' ∧ c'.userID = c.userID := by
  induction events generalizing d c with
  | nil =>
    cases h
    exact ⟨c, found, rfl⟩
  | cons event events ih =>
    obtain ⟨s, stepped, rest⟩ := run_cons_iff.1 h
    have transition := step_transition consistent stepped
    obtain ⟨c₁, found₁, same₁⟩ := transition.persons id c found (idle event List.mem_cons_self)
    obtain ⟨c₂, found₂, same₂⟩ :=
      ih (transition.consistent consistent) rest found₁ fun event mem => idle event (List.mem_cons_of_mem _ mem)
    exact ⟨c₂, found₂, same₂.trans same₁⟩

end Runs

/-- **What a run may not change.** `e` is an external id of Entra. -/
structure Stable (libs : Libraries) (d : Db) (events : List (Event libs)) (d' : Db) : Prop where
  lasting : ∀ id u e, d.users.row id = some u → u.identity = some (.sourceEntra, e) →
    ∃ u', d'.users.row id = some u' ∧ SamePerson u u'
  single : ∀ e id u id' u', d.users.row id = some u → d'.users.row id' = some u' → u.identity = some (.sourceEntra, e) →
    u'.identity = some (.sourceEntra, e) → id' = id
  roles : ∀ id u e r, d.users.row id = some u → u.identity = some (.sourceEntra, e) →
    Guarded (step libs) (fun s event => ¬ event.SetsRole s id r) d events →
    d'.userRoles.row (id, r) = d.userRoles.row (id, r)
  keys : ∀ id u e, d.users.row id = some u → u.identity = some (.sourceEntra, e) →
    (∀ event ∈ events, ¬ event.SetsKey id) → keyOf d' id = keyOf d id
  persons : ∀ id c, d.checkins.row id = some c → (∀ event ∈ events, ¬ event.Updates id) →
    ∃ c', d'.checkins.row id = some c' ∧ c'.userID = c.userID
  /-- A new external id: nothing of any identity there ever was before. -/
  newcomer : ∀ e id u', (∀ j v, d.users.row j = some v → v.identity ≠ some (.sourceEntra, e)) →
    d'.users.row id = some u' → u'.identity = some (.sourceEntra, e) →
    (∀ j v, d.users.row j = some v → id ≠ j ∧ u'.appID ≠ v.appID) ∧
    (∀ r, Guarded (step libs) (fun s event => ¬ event.SetsRole s id r) d events → d'.userRoles.row (id, r) = none) ∧
    ((∀ event ∈ events, ¬ event.SetsKey id) → u'.apiKey = none)

/-- **Identities are stable.** For any two states of a run, whatever is synchronised and
whatever the administration does before, between and after them. -/
theorem identity_stable (libs : Libraries) (d₀ d d' : Db) (before events : List (Event libs)) (consistent : Consistent d₀)
    (reached : run (step libs) d₀ before = some d) (h : run (step libs) d events = some d') : Stable libs d events d' := by
  have consistent : Consistent d := run_consistent consistent reached
  have continues : Continues d d' := run_continues consistent h
  have provided : ∀ {u : UserRow} {e : String}, u.identity = some (.sourceEntra, e) → u.source ≠ .sourceLocal := by
    intro u e own isLocal
    have entra := (UserRow.identity_eq_some.1 own).1
    rw [isLocal] at entra
    cases entra
  have lasting : ∀ id u e, d.users.row id = some u → u.identity = some (.sourceEntra, e) →
      ∃ u', d'.users.row id = some u' ∧ SamePerson u u' := by
    intro id u e present own
    rcases continues.kept id u present with stays | ⟨isLocal, _⟩
    · exact stays
    · exact absurd isLocal (provided own)
  constructor
  case lasting => exact lasting
  case single =>
    intro e id u id' u' present present' own own'
    obtain ⟨v, stays, same⟩ := lasting id u e present own
    exact (run_consistent consistent h).identity id' id u' v _ present' stays own' (same.identity.trans own)
  case roles =>
    intro id u e r present own idle
    obtain ⟨v, stays, same⟩ := lasting id u e present own
    exact roles_run consistent h stays (provided (same.identity.trans own)) idle
  case keys =>
    intro id u e present own idle
    obtain ⟨v, stays, same⟩ := lasting id u e present own
    exact keys_run consistent h stays (provided (same.identity.trans own)) idle
  case persons =>
    intro id c found idle
    exact persons_run consistent h found idle
  case newcomer =>
    intro e id u' new present own
    -- the row was not there: what was there would have the same identity
    have absent : d.users.row id = none := by
      cases there : d.users.row id with
      | none => rfl
      | some u =>
        rcases continues.kept id u there with ⟨v, stays, same⟩ | ⟨_, gone⟩
        · cases stays.symm.trans present
          exact absurd (same.identity.symm.trans own) (new id u there)
        · rw [gone] at present
          cases present
    obtain ⟨id_le, appID_le⟩ := continues.born id u' absent present
    refine ⟨fun j v there => ?_, fun r idle => ?_, fun idle => ?_⟩
    · obtain ⟨id_lt, appID_lt⟩ := consistent.drawn j v there
      exact ⟨(id_lt.trans_le id_le).ne', (appID_lt.trans_le appID_le).ne'⟩
    · rw [roles_run consistent h present (provided own) idle]
      cases held : d.userRoles.row (id, r) with
      | none => rfl
      | some _ =>
        have user : (d.users.row id).isSome := consistent.userRoles id r (by rw [held]; rfl)
        rw [absent] at user
        cases user
    · have key : keyOf d' id = keyOf d id := keys_run consistent h present (provided own) idle
      rw [keyOf, keyOf, present, absent] at key
      exact key

theorem Consistent.empty : Consistent {} where
  identity _ _ _ _ _ absent := by cases absent
  drawn _ _ absent := by cases absent
  userRoles _ _ absent := by cases absent

/-- Alice leaves; Bob is a new object with her address. -/
def handedOver : ProviderSnapshot where
  users := [{ externalID := "bob", userPrincipalName := "alice@example.invalid", displayName := "Bob", enabled := true }]

/-- Alice is synchronised and gets an API key; then her address goes to Bob. -/
theorem alice_stays_alice :
    ∃ d d', run (step sampleLibraries) {} [.applyProviderSnapshot 5 .sourceEntra sampleSnapshot, .setAPIKey 6 1 "wg"] = some d ∧
      run (step sampleLibraries) d [.applyProviderSnapshot 7 .sourceEntra handedOver] = some d' ∧
      keyOf d 1 = some "wg" ∧ (d'.users.row 2).map UserRow.email = some "alice@example.invalid" ∧
      Stable sampleLibraries d [.applyProviderSnapshot 7 .sourceEntra handedOver] d' :=
  ⟨_, _, rfl, rfl, rfl, rfl, identity_stable sampleLibraries {} _ _
    [.applyProviderSnapshot 5 .sourceEntra sampleSnapshot, .setAPIKey 6 1 "wg"] _ .empty rfl rfl⟩

end Woodgate.Directory