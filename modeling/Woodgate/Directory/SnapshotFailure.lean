import Woodgate.Directory.Reconciliation
import Woodgate.Directory.Service

/-!
# When a snapshot fails

The rows of a snapshot are checked one by one against the unique indexes of `users`, under
another key than the one that finds the row to update. `Progress` is what holds between two
of them: no user of the source is active but those of the entries already applied. So
nothing left from an earlier snapshot is in the way, and a snapshot fails exactly when two
of its own entries claim one address (`Contradictory`). A failed one leaves every row.
-/

namespace Woodgate.Directory

open Library Library.ReadCommitted Library.Latest Library.Results
open Library.Program hiding send
open Woodgate.Service

section Collisions

/-- The two rows collide in one of the unique indexes of `directory_groups`. -/
def groupCollides (g h : GroupRow) : Bool :=
  decide (g.appID = h.appID) || (decide (g.source = h.source) && decide (g.externalID = h.externalID))

theorem groupCollides_comm (g h : GroupRow) : groupCollides g h = groupCollides h g := by
  simp only [groupCollides, eq_comm]

theorem groupConstraints_separates : Upsert.Separates groupConstraints (fun g => g.source ≠ .sourceLocal) groupCollides := by
  intro groups id row
  unfold groupConstraints
  split
  · rename_i isLocal
    exact iff_of_false nofun fun h => h.1 isLocal
  · rename_i provided
    split
    · rename_i taken
      obtain ⟨j, g, present, clash⟩ := Table.exists?_iff.1 taken
      obtain ⟨other, clash⟩ := Bool.and_eq_true_iff.1 clash
      refine iff_of_false nofun fun h => ?_
      have free : groupCollides g row = false := h.2 j g (of_decide_eq_true other) present
      exact absurd (clash.symm.trans free) nofun
    · rename_i free
      have free := Table.exists?_eq_false_iff.1 (Bool.not_eq_true _ ▸ free)
      refine iff_of_true rfl ⟨provided, fun j g other present => ?_⟩
      have alone := free j g present
      rwa [decide_eq_true other, Bool.true_and] at alone

theorem userConstraints_separates : Upsert.Separates userConstraints
    (fun u => decide (u.source = .sourceLocal) = u.externalID.isNone) userCollides := by
  intro users id row
  unfold userConstraints
  split
  · rename_i unsound
    exact iff_of_false nofun fun h => unsound h.1
  · rename_i sound
    split
    · rename_i taken
      obtain ⟨j, u, present, clash⟩ := Table.exists?_iff.1 taken
      obtain ⟨other, clash⟩ := Bool.and_eq_true_iff.1 clash
      refine iff_of_false nofun fun h => ?_
      exact absurd (clash.symm.trans (h.2 j u (of_decide_eq_true other) present)) nofun
    · rename_i free
      have free := Table.exists?_eq_false_iff.1 (Bool.not_eq_true _ ▸ free)
      refine iff_of_true rfl ⟨not_not.1 sound, fun j u other present => ?_⟩
      have alone := free j u present
      rwa [decide_eq_true other, Bool.true_and] at alone

/-- Two active users of one kind with one address. -/
def SharesAddress (u v : UserRow) : Prop :=
  u.deletedAt = none ∧ v.deletedAt = none ∧
    ((u.source = .sourceLocal ∧ v.source = .sourceLocal ∧ u.email = v.email ∧ u.email ≠ "") ∨
      (u.source ≠ .sourceLocal ∧ v.source ≠ .sourceLocal ∧
        ((u.email = v.email ∧ u.email ≠ "") ∨
          ∃ upn, u.userPrincipalName = some upn ∧ v.userPrincipalName = some upn ∧ upn ≠ "")))

theorem userCollides_iff {u v : UserRow} : userCollides u v = true ↔
    u.appID = v.appID ∨ (∃ k, u.identity = some k ∧ v.identity = some k) ∨
      (∃ key, u.apiKey = some key ∧ v.apiKey = some key) ∨ SharesAddress u v := by
  have identity : (∃ k, u.identity = some k ∧ v.identity = some k) ↔
      (u.source = v.source ∧ u.externalID.isSome = true) ∧ u.externalID = v.externalID := by
    cases own : u.externalID <;> cases other : v.externalID <;> simp [UserRow.identity, own, other, eq_comm]
  have apiKey : (∃ key, u.apiKey = some key ∧ v.apiKey = some key) ↔ u.apiKey.isSome = true ∧ u.apiKey = v.apiKey := by
    cases own : u.apiKey <;> simp [eq_comm]
  have upn : (∃ upn, u.userPrincipalName = some upn ∧ v.userPrincipalName = some upn ∧ upn ≠ "") ↔
      (u.userPrincipalName.isSome = true ∧ u.userPrincipalName ≠ some "") ∧ u.userPrincipalName = v.userPrincipalName := by
    cases own : u.userPrincipalName <;> cases other : v.userPrincipalName <;> simp [eq_comm, and_comm]
  rw [identity, apiKey, SharesAddress, upn]
  simp only [userCollides, Bool.or_eq_true, Bool.and_eq_true, decide_eq_true_eq, Option.isNone_iff_eq_none]
  constructor
  · rintro (((((same | same) | same) | ⟨⟨⟨here, own⟩, other⟩, same⟩) | ⟨⟨here, own, other⟩, same⟩) |
      ⟨⟨⟨⟨here, own, other⟩, filled⟩, named⟩, same⟩)
    · exact .inl same
    · exact .inr (.inl same)
    · exact .inr (.inr (.inl same))
    · exact .inr (.inr (.inr ⟨here.1, here.2, .inl ⟨own, other, same⟩⟩))
    · exact .inr (.inr (.inr ⟨here.1, here.2, .inr ⟨own, other, .inl same⟩⟩))
    · exact .inr (.inr (.inr ⟨here.1, here.2, .inr ⟨own, other, .inr ⟨⟨filled, named⟩, same⟩⟩⟩))
  · rintro (same | same | same | ⟨here, there, ⟨own, other, same⟩ | ⟨own, other, same | ⟨⟨filled, named⟩, same⟩⟩⟩)
    · exact .inl (.inl (.inl (.inl (.inl same))))
    · exact .inl (.inl (.inl (.inl (.inr same))))
    · exact .inl (.inl (.inl (.inr same)))
    · exact .inl (.inl (.inr ⟨⟨⟨⟨here, there⟩, own⟩, other⟩, same⟩))
    · exact .inl (.inr ⟨⟨⟨here, there⟩, own, other⟩, same⟩)
    · exact .inr ⟨⟨⟨⟨⟨here, there⟩, own, other⟩, filled⟩, named⟩, same⟩

theorem userCollides_comm (u v : UserRow) : userCollides u v = userCollides v u := by
  have one_way : ∀ {a b : UserRow}, userCollides a b = true → userCollides b a = true := by
    intro a b collides
    rw [userCollides_iff] at collides ⊢
    rcases collides with same | ⟨k, own, other⟩ | ⟨key, own, other⟩ | ⟨here, there, shared⟩
    · exact .inl same.symm
    · exact .inr (.inl ⟨k, other, own⟩)
    · exact .inr (.inr (.inl ⟨key, other, own⟩))
    · refine .inr (.inr (.inr ⟨there, here, ?_⟩))
      rcases shared with ⟨own, other, same, filled⟩ | ⟨own, other, ⟨same, filled⟩ | ⟨upn, mine, yours, filled⟩⟩
      · exact .inl ⟨other, own, same.symm, same ▸ filled⟩
      · exact .inr ⟨other, own, .inl ⟨same.symm, same ▸ filled⟩⟩
      · exact .inr ⟨other, own, .inr ⟨upn, yours, mine, filled⟩⟩
  exact Bool.eq_iff_iff.2 ⟨one_way, one_way⟩

end Collisions

/-- What the unique indexes and the sequences behind the primary keys and application ids of
the two tables guarantee in every state. -/
structure Keyed (d : Db) : Prop where
  users : d.users.Separate userCollides
  groups : d.groups.Separate groupCollides
  usersDrawn : ∀ id u, d.users.row id = some u → id < d.seq.users ∧ u.appID < d.seq.uuid
  groupsDrawn : ∀ id g, d.groups.row id = some g → id < d.seq.groups ∧ g.appID < d.seq.uuid

theorem Keyed.empty : Keyed {} where
  users _ _ _ _ _ absent := by cases absent
  groups _ _ _ _ _ absent := by cases absent
  usersDrawn _ _ absent := by cases absent
  groupsDrawn _ _ absent := by cases absent

section Contradiction

/-- The address of the user an entry describes. -/
def ProviderUser.address (w : ProviderUser) : String :=
  if Go.trimSpace w.mail = "" then Go.trimSpace w.userPrincipalName else Go.trimSpace w.mail

/-- The two entries claim one address or one user principal name. -/
def SharesName (w v : ProviderUser) : Prop :=
  (w.address = v.address ∧ w.address ≠ "") ∨
    (Go.trimSpace w.userPrincipalName = Go.trimSpace v.userPrincipalName ∧ Go.trimSpace w.userPrincipalName ≠ "")

instance (w v : ProviderUser) : Decidable (SharesName w v) := by
  unfold SharesName
  infer_instance

/-- Two enabled entries that count, of different objects, share a name. -/
def Contradictory (snapshot : ProviderSnapshot) : Prop :=
  ∃ e f w v, e ≠ f ∧ snapshot.user e = some w ∧ snapshot.user f = some v ∧ w.enabled = true ∧ v.enabled = true ∧
    SharesName w v

/-- A stored user that shows an enabled entry. -/
structure ShowsEnabled (u : UserRow) (w : ProviderUser) : Prop where
  source : u.source = .sourceEntra
  active : u.deletedAt = none
  email : u.email = w.address
  userPrincipalName : u.userPrincipalName = some (Go.trimSpace w.userPrincipalName)

/-- Users collide by their addresses exactly when their entries share a name. -/
theorem sharesAddress_iff {u u' : UserRow} {w v : ProviderUser} (shown : ShowsEnabled u w) (shown' : ShowsEnabled u' v) :
    SharesAddress u u' ↔ SharesName w v := by
  have provided : u.source ≠ .sourceLocal := by
    rw [shown.source]
    exact nofun
  have provided' : u'.source ≠ .sourceLocal := by
    rw [shown'.source]
    exact nofun
  rw [SharesAddress, SharesName, shown.email, shown'.email, shown.userPrincipalName, shown'.userPrincipalName]
  constructor
  · rintro ⟨_, _, ⟨isLocal, _⟩ | ⟨_, _, same | ⟨upn, own, other, filled⟩⟩⟩
    · exact absurd isLocal provided
    · exact .inl same
    · have own : Go.trimSpace w.userPrincipalName = upn := Option.some.inj own
      have other : Go.trimSpace v.userPrincipalName = upn := Option.some.inj other
      rw [own, other]
      exact .inr ⟨rfl, filled⟩
  · intro shares
    refine ⟨shown.active, shown'.active, .inr ⟨provided, provided', ?_⟩⟩
    rcases shares with same | ⟨same, filled⟩
    · exact .inl same
    · exact .inr ⟨_, rfl, congrArg some same.symm, filled⟩

end Contradiction

section Progress

variable {locale : Postgres.DbLocale} {now : Time} {snapshot : ProviderSnapshot} {seq : Sequences}
  {before t : Table ID UserRow} {earlier : List UserSnapshot} {p : UserSnapshot}

theorem tombstone_cases (now : Time) (source : Source) (u : UserRow) : tombstone now source u = u ∨
    tombstone now source u = { u with deletedAt := some now, updatedAt := now } := by
  unfold tombstone
  split
  · exact .inr rfl
  · exact .inl rfl

/-- A tombstoned user collides with nobody it did not collide with. -/
theorem separate_tombstone {source : Source} (separate : before.Separate userCollides) :
    (before.map fun _ => tombstone now source).Separate userCollides := by
  refine separate.map fun _ _ u v apart => ?_
  rw [← Bool.not_eq_true, userCollides_iff] at apart ⊢
  have active : ∀ u : UserRow, (tombstone now source u).deletedAt = none → tombstone now source u = u := by
    intro u alive
    rcases tombstone_cases now source u with same | marked
    · exact same
    · rw [marked] at alive
      cases alive
  have apiKey : ∀ u : UserRow, (tombstone now source u).apiKey = u.apiKey := fun _ => sameIdentity_tombstone.apiKey
  rintro (same | same | same | shares)
  · rw [sameIdentity_tombstone.appID, sameIdentity_tombstone.appID] at same
    exact apart (.inl same)
  · simp only [identity_tombstone] at same
    exact apart (.inr (.inl same))
  · simp only [apiKey] at same
    exact apart (.inr (.inr (.inl same)))
  · rw [active u shares.1, active v shares.2.1] at shares
    exact apart (.inr (.inr (.inr shares)))

/-- Between two rows of the user upsert. -/
structure Progress (snapshot : ProviderSnapshot) (seq : Sequences) (earlier : List UserSnapshot) (t : Table ID UserRow) :
    Prop where
  separate : t.Separate userCollides
  drawn : ∀ id u, t.row id = some u → id < seq.users + earlier.length ∧ u.appID < seq.uuid + earlier.length
  active : ∀ id u, t.row id = some u → u.source = .sourceEntra → u.deletedAt = none →
    ∃ p ∈ earlier, ∃ w, snapshot.user p.externalID = some w ∧ w.enabled = true ∧ ShowsEnabled u w

/-- At first nobody of the source is active. -/
theorem progress_start (separate : before.Separate userCollides)
    (drawn : ∀ id u, before.row id = some u → id < seq.users ∧ u.appID < seq.uuid) :
    Progress snapshot seq [] (before.map fun _ => tombstone now .sourceEntra) where
  separate := separate_tombstone separate
  drawn id u present := by
    obtain ⟨old, stored, rfl⟩ := Option.map_eq_some_iff.1 present
    obtain ⟨id_lt, appID_lt⟩ := drawn id old stored
    rw [sameIdentity_tombstone.appID, List.length_nil]
    exact ⟨by simpa using id_lt, appID_lt⟩
  active id u present own alive := by
    obtain ⟨old, stored, rfl⟩ := Option.map_eq_some_iff.1 present
    exact absurd alive (deletedAt_tombstone own)

/-- The row the upsert makes of an entry, in place or inserted. -/
structure Makes (now : Time) (u : UserRow) (w : ProviderUser) : Prop where
  source : u.source = .sourceEntra
  externalID : u.externalID = some w.externalID
  email : u.email = w.address
  userPrincipalName : u.userPrincipalName = some (Go.trimSpace w.userPrincipalName)
  deletedAt : u.deletedAt = if w.enabled then none else some now

variable {w : ProviderUser} {i n : Nat} {r old : UserRow}

theorem makes_insert : Makes now ((userUpsert now .sourceEntra seq).insert n (stageUser w i)) w :=
  ⟨rfl, rfl, email_stageUser w i, rfl, rfl⟩

theorem makes_update (own : old.identity = some (.sourceEntra, w.externalID)) :
    Makes now ((userUpsert now .sourceEntra seq).update old (stageUser w i)) w := by
  obtain ⟨source, externalID⟩ := UserRow.identity_eq_some.1 own
  exact ⟨source, externalID, email_stageUser w i, rfl, rfl⟩

theorem Makes.sound (makes : Makes now r w) : decide (r.source = .sourceLocal) = r.externalID.isNone := by
  rw [makes.source, makes.externalID]
  rfl

theorem Makes.showsEnabled (makes : Makes now r w) (alive : r.deletedAt = none) : w.enabled = true ∧ ShowsEnabled r w := by
  have enabled : w.enabled = true := by
    have made := makes.deletedAt
    rw [alive] at made
    split at made
    · assumption
    · cases made
  exact ⟨enabled, makes.source, alive, makes.email, makes.userPrincipalName⟩

/-- No active user has the address of an entry that comes later. -/
theorem Progress.not_sharesAddress (progress : Progress snapshot seq earlier t) (sound : ¬ Contradictory snapshot)
    (found : snapshot.user w.externalID = some w) (new : ∀ p ∈ earlier, p.externalID ≠ w.externalID)
    (makes : Makes now r w) {j : ID} {u : UserRow} (present : t.row j = some u) : ¬ SharesAddress u r := by
  intro shares
  obtain ⟨here, there, kind⟩ := shares
  obtain ⟨enabled, shown⟩ := makes.showsEnabled there
  have provided : u.source = .sourceEntra := by
    rcases kind with ⟨_, isLocal, _⟩ | ⟨provided, _, _⟩
    · exact absurd (makes.source.symm.trans isLocal) nofun
    · cases source : u.source with
      | sourceLocal => exact absurd source provided
      | sourceEntra => rfl
  obtain ⟨p, mem, w', found', enabled', shown'⟩ := progress.active j u present provided here
  have named : SharesName w' w := (sharesAddress_iff shown' shown).1 ⟨here, there, kind⟩
  exact sound ⟨p.externalID, w.externalID, w', w, new p mem, found', found, enabled', enabled, named⟩

/-- One row of the upsert is stored, if the entries do not contradict one another. -/
theorem Progress.applies (progress : Progress snapshot seq earlier t) (sound : ¬ Contradictory snapshot)
    (found : snapshot.user w.externalID = some w) (new : ∀ p ∈ earlier, p.externalID ≠ w.externalID) :
    ∃ t', (userUpsert now .sourceEntra seq).applyRow userConstraints (.sqlState .uniqueViolation) t earlier.length
      (stageUser w i) = .ok t' := by
  apply Upsert.applyRow_total userConstraints_separates
  · intro k old present own
    have makes : Makes now ((userUpsert now .sourceEntra seq).update old (stageUser w i)) w := makes_update own
    refine ⟨makes.sound, fun j u other there => ?_⟩
    have apart := progress.separate j k u old other there present
    rw [← Bool.not_eq_true, userCollides_iff] at apart ⊢
    rintro (same | ⟨key, own', made⟩ | same | shares)
    · exact apart (.inl same)
    · have kept : old.identity = some key := own.trans ((UserRow.identity_eq_some.2 ⟨makes.source, makes.externalID⟩).symm.trans made)
      exact apart (.inr (.inl ⟨key, own', kept⟩))
    · exact apart (.inr (.inr (.inl same)))
    · exact progress.not_sharesAddress sound found new makes there shares
  · intro free
    have makes : Makes now ((userUpsert now .sourceEntra seq).insert earlier.length (stageUser w i)) w := makes_insert
    refine ⟨?_, makes.sound, fun j u there => ?_⟩
    · cases taken : t.row ((userUpsert now .sourceEntra seq).fresh earlier.length) with
      | none => rfl
      | some u => exact absurd (progress.drawn _ u taken).1 (Int.lt_irrefl _)
    · rw [← Bool.not_eq_true, userCollides_iff]
      rintro (same | ⟨key, own, made⟩ | ⟨_, _, made⟩ | shares)
      · exact absurd ((progress.drawn j u there).2.trans_eq same.symm) (Nat.lt_irrefl _)
      · exact free j u there (own.trans made.symm)
      · cases made
      · exact progress.not_sharesAddress sound found new makes there shares

/-- What one row that is stored leaves. -/
theorem Progress.step {t' : Table ID UserRow} (progress : Progress snapshot seq earlier t)
    (found : snapshot.user w.externalID = some w)
    (h : (userUpsert now .sourceEntra seq).applyRow userConstraints (.sqlState .uniqueViolation) t earlier.length
      (stageUser w i) = .ok t') : Progress snapshot seq (earlier ++ [stageUser w i]) t' := by
  have length : (earlier ++ [stageUser w i]).length = earlier.length + 1 := List.length_append
  -- the row that is written, at a key already drawn
  obtain ⟨k, r, makes, at_k, appID, checked, rfl⟩ : ∃ k r, Makes now r w ∧ k < seq.users + ↑(earlier.length + 1) ∧
      r.appID < seq.uuid + (earlier.length + 1) ∧ userConstraints t k r = .ok () ∧ t' = t.set k r := by
    rcases Upsert.applyRow_ok h with ⟨k, old, present, own, checked, rfl⟩ | ⟨_, _, checked, rfl⟩
    · obtain ⟨id_lt, appID_lt⟩ := progress.drawn k old present
      refine ⟨k, _, makes_update own, ?_, Nat.lt_succ_of_lt appID_lt, checked, rfl⟩
      exact id_lt.trans (Int.add_lt_add_left (Int.ofNat_lt.2 (Nat.lt_succ_self _)) _)
    · refine ⟨_, _, makes_insert, ?_, Nat.lt_succ_self _, checked, rfl⟩
      exact Int.add_lt_add_left (Int.ofNat_lt.2 (Nat.lt_succ_self _)) _
  constructor
  · exact progress.separate.set userCollides_comm ((userConstraints_separates _ _ _).1 checked).2
  · intro id u present
    rw [length]
    rw [Table.row_set] at present
    split at present
    · rename_i same
      cases present
      exact ⟨same ▸ at_k, appID⟩
    · obtain ⟨id_lt, appID_lt⟩ := progress.drawn id u present
      exact ⟨id_lt.trans (Int.add_lt_add_left (Int.ofNat_lt.2 (Nat.lt_succ_self _)) _), Nat.lt_succ_of_lt appID_lt⟩
  · intro id u present own alive
    rw [Table.row_set] at present
    split at present
    · cases present
      exact ⟨_, List.mem_append_right _ List.mem_cons_self, w, found, makes.showsEnabled alive⟩
    · obtain ⟨p, mem, rest⟩ := progress.active id u present own alive
      exact ⟨p, List.mem_append_left _ mem, rest⟩

/-- The rows of the snapshot are stored, if its entries do not contradict one another. -/
theorem users_apply (separate : before.Separate userCollides)
    (drawn : ∀ id u, before.row id = some u → id < seq.users ∧ u.appID < seq.uuid) (sound : ¬ Contradictory snapshot) :
    ∃ users, (userUpsert now .sourceEntra seq).applyRows userConstraints (.sqlState .uniqueViolation)
        (before.map fun _ => tombstone now .sourceEntra) 0 (currentUsers locale (stageUsers snapshot)) = .ok users ∧
      Progress snapshot seq (currentUsers locale (stageUsers snapshot)) users := by
  apply Upsert.applyRows_total (I := Progress snapshot seq) (progress_start separate drawn)
  intro earlier p later t split progress
  rw [Nat.zero_add]
  have selected : p ∈ currentUsers locale (stageUsers snapshot) := by
    rw [split]
    exact List.mem_append_right _ List.mem_cons_self
  obtain ⟨w, i, found, rfl⟩ := user_of_currentUsers selected
  have found : snapshot.user w.externalID = some w := found
  have new : ∀ p' ∈ earlier, p'.externalID ≠ w.externalID := by
    have distinct := @nodup_currentUsers locale snapshot now .sourceEntra seq
    rw [split, List.map_append, List.map_cons, List.nodup_append] at distinct
    intro p' mem same
    exact distinct.2.2 _ (List.mem_map_of_mem mem) _ List.mem_cons_self (congrArg (Prod.mk Source.sourceEntra) same)
  obtain ⟨t', applied⟩ := progress.applies sound found new (i := i)
  exact ⟨t', applied, progress.step found applied⟩

/-- Entries that contradict one another are not stored together. -/
theorem users_contradict (separate : before.Separate userCollides) (contradictory : Contradictory snapshot)
    {users : Table ID UserRow} :
    (userUpsert now .sourceEntra seq).applyRows userConstraints (.sqlState .uniqueViolation)
      (before.map fun _ => tombstone now .sourceEntra) 0 (currentUsers locale (stageUsers snapshot)) ≠ .ok users := by
  intro stored
  obtain ⟨e, f, w, v, other, found, found', enabled, enabled', shares⟩ := contradictory
  have tombstoned : (before.map fun _ => tombstone now .sourceEntra).Separate userCollides := separate_tombstone separate
  have identities : (before.map fun _ => tombstone now .sourceEntra).Unique UserRow.identity := by
    intro i j u u' k here there own own'
    by_contra ne
    have apart := tombstoned i j u u' ne here there
    rw [← Bool.not_eq_true, userCollides_iff] at apart
    exact apart (.inr (.inl ⟨k, own, own'⟩))
  have applied : UsersApplied locale now .sourceEntra snapshot seq before users :=
    Upsert.applied identities (nodup_currentUsers now _ _) stored
  have shown : ∀ {e w}, snapshot.user e = some w → w.enabled = true →
      ∃ id u, users.row id = some u ∧ u.externalID = some e ∧ ShowsEnabled u w := by
    intro e w found enabled
    obtain ⟨id, u, present, own, same⟩ := user_of_staged (d := { users := before }) applied found
    obtain ⟨shows, alive⟩ := stored_of_user (d := { users := before }) applied found present own same
    rw [if_pos enabled] at alive
    exact ⟨id, u, present, same, own, alive, shows.email, shows.userPrincipalName⟩
  obtain ⟨id, u, present, same, shows⟩ := shown found enabled
  obtain ⟨id', u', present', same', shows'⟩ := shown found' enabled'
  have ne : id ≠ id' := by
    rintro rfl
    cases present.symm.trans present'
    exact other (Option.some.inj (same.symm.trans same'))
  have apart := Upsert.separate_applyRows userConstraints_separates userCollides_comm tombstoned stored id id' u u' ne
    present present'
  rw [← Bool.not_eq_true, userCollides_iff] at apart
  exact apart (.inr (.inr (.inr ((sharesAddress_iff shows shows').2 shares))))

end Progress

section GroupProgress

variable {locale : Postgres.DbLocale} {now : Time} {snapshot : ProviderSnapshot} {seq : Sequences}
  {before : Table ID GroupRow}

/-- Between two rows of the group upsert. -/
structure GroupProgress (seq : Sequences) (earlier : List GroupSnapshot) (t : Table ID GroupRow) : Prop where
  separate : t.Separate groupCollides
  drawn : ∀ id g, t.row id = some g → id < seq.groups + earlier.length ∧ g.appID < seq.uuid + earlier.length

/-- The groups of a snapshot are stored. -/
theorem groups_apply (separate : before.Separate groupCollides)
    (drawn : ∀ id g, before.row id = some g → id < seq.groups ∧ g.appID < seq.uuid) :
    ∃ groups, (groupUpsert now .sourceEntra seq).applyRows groupConstraints (.sqlState .uniqueViolation) before 0
        (currentGroups locale (stageGroups snapshot)) = .ok groups ∧
      GroupProgress seq (currentGroups locale (stageGroups snapshot)) groups := by
  apply Upsert.applyRows_total (I := GroupProgress seq)
  · exact ⟨separate, fun id g present => by simpa using drawn id g present⟩
  intro earlier p later t split progress
  rw [Nat.zero_add]
  have applies : ∃ t', (groupUpsert now .sourceEntra seq).applyRow groupConstraints (.sqlState .uniqueViolation) t
      earlier.length p = .ok t' := by
    apply Upsert.applyRow_total groupConstraints_separates
    · intro k old present own
      obtain ⟨source, externalID⟩ := GroupRow.identity_eq_some.1 own
      refine ⟨fun isLocal => absurd (source.symm.trans isLocal) nofun, fun j g other there => ?_⟩
      exact progress.separate j k g old other there present
    · intro free
      refine ⟨?_, nofun, fun j g there => ?_⟩
      · cases taken : t.row ((groupUpsert now .sourceEntra seq).fresh earlier.length) with
        | none => rfl
        | some g => exact absurd (progress.drawn _ g taken).1 (Int.lt_irrefl _)
      · rw [← Bool.not_eq_true, groupCollides, Bool.or_eq_true, Bool.and_eq_true, decide_eq_true_eq, decide_eq_true_eq,
          decide_eq_true_eq]
        rintro (same | ⟨source, externalID⟩)
        · exact absurd ((progress.drawn j g there).2.trans_eq same.symm) (Nat.lt_irrefl _)
        · exact free j g there (GroupRow.identity_eq_some.2 ⟨source, externalID⟩)
  obtain ⟨t', stored⟩ := applies
  refine ⟨t', stored, ?_⟩
  have length : (earlier ++ [p]).length = earlier.length + 1 := List.length_append
  obtain ⟨k, r, at_k, appID, checked, rfl⟩ : ∃ k r, k < seq.groups + ↑(earlier.length + 1) ∧
      r.appID < seq.uuid + (earlier.length + 1) ∧ groupConstraints t k r = .ok () ∧ t' = t.set k r := by
    rcases Upsert.applyRow_ok stored with ⟨k, old, present, _, checked, rfl⟩ | ⟨_, _, checked, rfl⟩
    · obtain ⟨id_lt, appID_lt⟩ := progress.drawn k old present
      refine ⟨k, (groupUpsert now .sourceEntra seq).update old p, ?_, Nat.lt_succ_of_lt appID_lt, checked, rfl⟩
      exact id_lt.trans (Int.add_lt_add_left (Int.ofNat_lt.2 (Nat.lt_succ_self _)) _)
    · refine ⟨_, _, ?_, Nat.lt_succ_self _, checked, rfl⟩
      exact Int.add_lt_add_left (Int.ofNat_lt.2 (Nat.lt_succ_self _)) _
  constructor
  · exact progress.separate.set groupCollides_comm ((groupConstraints_separates _ _ _).1 checked).2
  · intro id g present
    rw [length]
    rw [Table.row_set] at present
    split at present
    · rename_i same
      cases present
      exact ⟨same ▸ at_k, appID⟩
    · obtain ⟨id_lt, appID_lt⟩ := progress.drawn id g present
      exact ⟨id_lt.trans (Int.add_lt_add_left (Int.ofNat_lt.2 (Nat.lt_succ_self _)) _), Nat.lt_succ_of_lt appID_lt⟩

end GroupProgress

section Transaction

variable {locale : Postgres.DbLocale} {now : Time} {snapshot : ProviderSnapshot} {d d' : Db}

/-- Two upserts that succeed make a transaction that does. -/
theorem transact_of_applied {groups : Table ID GroupRow} {users : Table ID UserRow}
    (groupsOk : (groupUpsert now .sourceEntra d.seq).applyRows groupConstraints (.sqlState .uniqueViolation) d.groups 0
      (currentGroups locale (stageGroups snapshot)) = .ok groups)
    (usersOk : (userUpsert now .sourceEntra (drawnGroups locale snapshot d.seq)).applyRows userConstraints
      (.sqlState .uniqueViolation) (d.users.map fun _ => tombstone now .sourceEntra) 0
      (currentUsers locale (stageUsers snapshot)) = .ok users) :
    transact (applyProviderSnapshot locale now .sourceEntra snapshot) d = .ok (outcome locale .sourceEntra snapshot d
      groups users (drawnUsers locale snapshot (drawnGroups locale snapshot d.seq))) := by
  refine transact_ok.2 ⟨_, rfl, ?_⟩
  refine runStatements_cons_ok.2 ⟨_, _, bind_ok.2 ⟨groups, groupsOk, rfl⟩, ?_⟩
  refine runStatements_cons_ok.2 ⟨_, _, rfl, runStatements_cons_ok.2 ⟨_, _, rfl, ?_⟩⟩
  refine runStatements_cons_ok.2 ⟨_, _, bind_ok.2 ⟨users, usersOk, rfl⟩, ?_⟩
  exact runStatements_cons_ok.2 ⟨_, _, rfl, runStatements_cons_ok.2 ⟨_, _, rfl, rfl⟩⟩

theorem usersDrawn_drawnGroups (keyed : Keyed d) (id : ID) (u : UserRow) (present : d.users.row id = some u) :
    id < (drawnGroups locale snapshot d.seq).users ∧ u.appID < (drawnGroups locale snapshot d.seq).uuid :=
  ⟨(keyed.usersDrawn id u present).1, Nat.lt_add_right _ (keyed.usersDrawn id u present).2⟩

/-- **When a snapshot commits**: when its entries do not contradict one another. -/
theorem transact_snapshot_ok_iff (keyed : Keyed d) :
    (∃ d', transact (applyProviderSnapshot locale now .sourceEntra snapshot) d = .ok d') ↔ ¬ Contradictory snapshot := by
  constructor
  · rintro ⟨d', committed⟩ contradictory
    obtain ⟨_, groups, users, _, usersOk, _⟩ := applyProviderSnapshot_ok committed
    exact users_contradict keyed.users contradictory usersOk
  · intro sound
    obtain ⟨groups, groupsOk, _⟩ := @groups_apply locale now snapshot _ _ keyed.groups keyed.groupsDrawn
    obtain ⟨users, usersOk, _⟩ := @users_apply locale now _ _ _ keyed.users (usersDrawn_drawnGroups keyed) sound
    exact ⟨_, transact_of_applied groupsOk usersOk⟩

/-- The indexes and the sequences hold for the next snapshot. -/
theorem Keyed.after_snapshot (keyed : Keyed d)
    (h : transact (applyProviderSnapshot locale now .sourceEntra snapshot) d = .ok d') : Keyed d' := by
  have sound := (transact_snapshot_ok_iff keyed).1 ⟨d', h⟩
  obtain ⟨_, groups, users, groupsOk, usersOk, rfl⟩ := applyProviderSnapshot_ok h
  obtain ⟨_, groupsOk', groupProgress⟩ := @groups_apply locale now snapshot _ _ keyed.groups keyed.groupsDrawn
  obtain ⟨_, usersOk', progress⟩ := @users_apply locale now _ _ _ keyed.users (usersDrawn_drawnGroups keyed) sound
  cases groupsOk.symm.trans groupsOk'
  cases usersOk.symm.trans usersOk'
  constructor
  · exact progress.separate
  · exact groupProgress.separate.filter
  · exact progress.drawn
  · intro id g present
    obtain ⟨id_lt, appID_lt⟩ := groupProgress.drawn id g (keptGroups_eq_some.1 present).1
    exact ⟨id_lt, Nat.lt_add_right _ appID_lt⟩

end Transaction

section Run

variable {libs : Libraries} {snapshot : ProviderSnapshot}

/-- What the transaction's body comes to. -/
theorem comesTo_snapshots (statements : List (Time → Sql)) (now : Time) (d : Db) :
    ∃ d', (forEach (fun statement => send (.snapshot statement)) statements : Service libs Unit).comesTo now d =
        some ((runStatements (statements.map fun statement => statement now) d).map fun _ => (), d') ∧
      ∀ after, runStatements (statements.map fun statement => statement now) d = .ok after → d' = after := by
  induction statements generalizing d with
  | nil => exact ⟨d, rfl, fun after done => Except.ok.inj done⟩
  | cons statement statements ih =>
    have performs : (calls libs).perform now (Call.snapshot statement) d =
        Call.returning (some ()) (statement now) d := rfl
    rw [List.map_cons, runStatements]
    cases result : statement now d with
    | error e =>
      refine ⟨d, comesTo_send_bind.trans ?_, fun after done => ?_⟩
      · rw [performs, Call.returning, result]
        rfl
      · cases done
    | ok sent =>
      obtain ⟨d', comes, last⟩ := ih sent.2
      refine ⟨d', comesTo_send_bind.trans ?_, last⟩
      rw [performs, Call.returning, result]
      exact comes

/-- **When a snapshot fails, and that it then changes nothing.** With no fault and nobody else
at work, `Store.ApplyProviderSnapshot` fails exactly when two enabled entries that count, of
different objects, claim one non-empty address or user principal name. -/
theorem applyProviderSnapshot_fails_iff (libs : Libraries) (env : Environment (calls libs)) (w : World (calls libs) Notice)
    (snapshot : ProviderSnapshot) (calm : ∀ n, env.fault n = none) (keyed : Keyed w.db) :
    ((∃ e, (run env (Store.applyProviderSnapshot .sourceEntra snapshot : Service libs Unit) w).1 = .error e) ↔
      Contradictory snapshot) ∧
    ((∃ e, (run env (Store.applyProviderSnapshot .sourceEntra snapshot : Service libs Unit) w).1 = .error e) →
      ∀ k, Db.get k (run env (Store.applyProviderSnapshot .sourceEntra snapshot : Service libs Unit) w).2.db =
        Db.get k w.db) := by
  have program : (Store.applyProviderSnapshot .sourceEntra snapshot : Service libs Unit) = transaction (forEach
      (fun statement => send (.snapshot statement)) (snapshotStatements libs.locale .sourceEntra snapshot)) := rfl
  obtain ⟨d', comes, _⟩ := @comesTo_snapshots libs (snapshotStatements libs.locale .sourceEntra snapshot)
    (env.now w.calls) w.db
  obtain ⟨returned, _, rows, _⟩ := run_transaction_calm calm comes
  rw [program, returned]
  have commits : (∃ d', runStatements ((snapshotStatements libs.locale .sourceEntra snapshot).map fun statement =>
      statement (env.now w.calls)) w.db = .ok d') ↔ ¬ Contradictory snapshot := transact_snapshot_ok_iff keyed
  refine ⟨?_, fun ⟨e, failed⟩ => rows e failed⟩
  cases ran : runStatements ((snapshotStatements libs.locale .sourceEntra snapshot).map fun statement =>
    statement (env.now w.calls)) w.db with
  | error e =>
    have contradictory : Contradictory snapshot := by
      by_contra sound
      obtain ⟨after, done⟩ := commits.2 sound
      cases ran.symm.trans done
    exact iff_of_true ⟨e, rfl⟩ contradictory
  | ok after =>
    refine iff_of_false ?_ (commits.1 ⟨after, ran⟩)
    rintro ⟨e, failed⟩
    cases failed

end Run

/-- Two users, and the same two after they have exchanged their addresses. -/
def twoUsers : ProviderSnapshot where
  users := [
    { externalID := "alice", userPrincipalName := "a@example.invalid", displayName := "Alice", enabled := true },
    { externalID := "bob", userPrincipalName := "b@example.invalid", displayName := "Bob", enabled := true }]

def exchanged : ProviderSnapshot where
  users := [
    { externalID := "alice", userPrincipalName := "b@example.invalid", displayName := "Alice", enabled := true },
    { externalID := "bob", userPrincipalName := "a@example.invalid", displayName := "Bob", enabled := true }]

/-- No call fails, and the clock stands still. -/
def calmEnvironment : Environment (calls sampleLibraries) := ⟨fun _ => none, fun _ => (7 : Time)⟩

/-- The second snapshot, over the rows of the first. -/
theorem applyProviderSnapshot_fails_iff_exchanged :
    ∃ d, transact (applyProviderSnapshot .c 5 .sourceEntra twoUsers) {} = .ok d ∧
      ((∃ e, (run calmEnvironment (Store.applyProviderSnapshot .sourceEntra exchanged : Service sampleLibraries Unit)
        { db := d }).1 = .error e) ↔ Contradictory exchanged) ∧
      ((∃ e, (run calmEnvironment (Store.applyProviderSnapshot .sourceEntra exchanged : Service sampleLibraries Unit)
        { db := d }).1 = .error e) → ∀ k, Db.get k (run calmEnvironment
          (Store.applyProviderSnapshot .sourceEntra exchanged : Service sampleLibraries Unit) { db := d }).2.db = Db.get k d) := by
  have commits : (transact (applyProviderSnapshot .c 5 .sourceEntra twoUsers) {}).toOption.isSome = true := by decide +kernel
  obtain ⟨d, ran⟩ := Option.isSome_iff_exists.1 commits
  have first := toOption_eq_some.1 ran
  exact ⟨d, first, applyProviderSnapshot_fails_iff sampleLibraries calmEnvironment { db := d } exchanged (fun _ => rfl)
    (Keyed.empty.after_snapshot first)⟩

end Woodgate.Directory
