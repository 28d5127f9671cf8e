import Woodgate.Stations.Sessions

/-!
# The session table is the lease

The locks carry the argument. A claim holds `FOR SHARE` on its station from the check
of the credential to its commit, an update or a new key holds a write lock on it from
its `UPDATE`; the two exclude each other, so what a claim has checked is still so when
it commits, and no session appears between the `DELETE` of a revocation and its commit.
`Progress` says how far a call has got in these terms, `Progress.of_undisturbed` that
the steps of the others leave it alone.
-/

namespace Woodgate.Stations

open Library Library.ReadCommitted Library.Runs

section Progress

variable (sha256Hex : String → String)

/-- A claim of `k` that has run `executed` statements. -/
structure Claiming (s : Store Nat Db) (t : Nat) (k : ID) (claimant : Claimant) (executed : Nat) : Prop where
  touched : ∀ key ∈ s.touched t, key = RowKey.session k ∨ key = RowKey.rejection k
  locked : 1 ≤ executed → s.Holds t (RowKey.station k) .share
  checked : 1 ≤ executed → Credential sha256Hex claimant.secret (s.committed.stations.row k)
  written : 2 ≤ executed → s.Holds t (RowKey.session k) .noKeyUpdate ∧
    ∃ row, (s.view t).sessions.row k = some row ∧ claimant.Wrote row

/-- An `UPDATE` of station `k` has run and keeps every other writer out. -/
def Rewriting (s : Store Nat Db) (t : Nat) (k : ID) : Prop :=
  ∃ mode, s.Holds t (RowKey.station k) mode ∧ mode.writes = true

/-- A disabling update or a new key for `k`. -/
structure Revoking (s : Store Nat Db) (t : Nat) (k : ID) (executed : Nat) : Prop where
  touched : ∀ key ∈ s.touched t, key = RowKey.station k ∨ key = RowKey.session k ∨ key = RowKey.rejection k
  locked : 1 ≤ executed → Rewriting s t k
  cleared : 2 ≤ executed → (s.view t).sessions.row k = none

/-- An update of `k` that leaves it enabled. -/
structure Editing (s : Store Nat Db) (t : Nat) (k : ID) (executed : Nat) : Prop where
  touched : ∀ key ∈ s.touched t, 1 ≤ executed ∧ key = RowKey.station k
  locked : 1 ≤ executed → Rewriting s t k
  edited : 1 ≤ executed → ∀ old, s.committed.stations.row k = some old →
    ∃ new, (s.view t).stations.row k = some new ∧ new.enabled = true ∧ new.secretHash = old.secretHash

/-- What is known of a call in progress. -/
def Progress (s : Store Nat Db) (t : Nat) (call : Call) : Prop :=
  match call.op with
  | .claimClientSession k secret c v version => Claiming sha256Hex s t k ⟨secret, c, v, version⟩ call.executed
  | .observeRejectedClient k _ _ _ => ∀ key ∈ s.touched t, key = RowKey.rejection k
  | .update k mutation =>
    if mutation.enabled then Editing s t k call.executed else Revoking s t k call.executed
  | .rotateKey k _ => Revoking s t k call.executed
  | .renewClientSession _ _ | .releaseClientSession _ _ | .delete _ => s.touched t = []

end Progress

section Others

variable {sha256Hex : String → String} {s s' : Store Nat Db} {t : Nat} {k : ID}

/-- No session appears under a transaction that is rewriting the station. -/
def KeepsCleared (s s' : Store Nat Db) (t : Nat) : Prop :=
  ∀ k, Rewriting s t k → (s.view t).sessions.row k = none → (s'.view t).sessions.row k = none

theorem Rewriting.mono (others : Store.Undisturbed s s' t) (h : Rewriting s t k) : Rewriting s' t k := by
  obtain ⟨mode, held, writes⟩ := h
  exact ⟨mode, others.holds _ _ held, writes⟩

theorem Rewriting.mode_ne {mode : LockMode} (writes : mode.writes = true) : mode ≠ .keyShare := by
  rintro rfl
  cases writes

theorem Claiming.of_undisturbed {claimant : Claimant} {executed : Nat} (others : Store.Undisturbed s s' t)
    (h : Claiming sha256Hex s t k claimant executed) : Claiming sha256Hex s' t k claimant executed where
  touched := by
    rw [others.touched]
    exact h.touched
  locked started := others.holds _ _ (h.locked started)
  checked started := by
    have same : s'.committed.stations.row k = s.committed.stations.row k :=
      others.committed _ _ (h.locked started) (by decide)
    rw [same]
    exact h.checked started
  written started := by
    obtain ⟨held, row, seen, own⟩ := h.written started
    have same : (s'.view t).sessions.row k = (s.view t).sessions.row k := others.view _ _ held (by decide)
    exact ⟨others.holds _ _ held, row, same.trans seen, own⟩

theorem Revoking.of_undisturbed {executed : Nat} (others : Store.Undisturbed s s' t) (quiet : KeepsCleared s s' t)
    (h : Revoking s t k executed) : Revoking s' t k executed where
  touched := by
    rw [others.touched]
    exact h.touched
  locked started := (h.locked started).mono others
  cleared deleted := quiet k (h.locked (by omega)) (h.cleared deleted)

theorem Editing.of_undisturbed {executed : Nat} (others : Store.Undisturbed s s' t)
    (h : Editing s t k executed) : Editing s' t k executed where
  touched := by
    rw [others.touched]
    exact h.touched
  locked started := (h.locked started).mono others
  edited started old found := by
    obtain ⟨mode, held, writes⟩ := h.locked started
    have committed : s'.committed.stations.row k = s.committed.stations.row k :=
      others.committed _ _ held (Rewriting.mode_ne writes)
    have view : (s'.view t).stations.row k = (s.view t).stations.row k :=
      others.view _ _ held (Rewriting.mode_ne writes)
    rw [view]
    exact h.edited started old (committed.symm.trans found)

/-- The steps of the others do not take a call back. -/
theorem Progress.of_undisturbed {call : Call} (others : Store.Undisturbed s s' t) (quiet : KeepsCleared s s' t)
    (h : Progress sha256Hex s t call) : Progress sha256Hex s' t call := by
  unfold Progress at h ⊢
  split
  · exact Claiming.of_undisturbed others (by simpa [*] using h)
  · simpa [*, others.touched] using h
  · rename_i same
    rw [same] at h
    split
    · exact Editing.of_undisturbed others (by simpa [*] using h)
    · exact Revoking.of_undisturbed others quiet (by simpa [*] using h)
  · exact Revoking.of_undisturbed others quiet (by simpa [*] using h)
  all_goals simpa [*, others.touched] using h

end Others

section Own

variable {sha256Hex : String → String} {s s' : Store Nat Db} {t : Nat} {k : ID} {executed : Nat}
  {statements : List Sql} {statement : Sql} {asked : List (RowKey × LockMode)} {after : Db} {now : Time}

/-- A statement adds the rows it changes to the written rows. -/
theorem touched_of_changesOnly {p q : RowKey → Prop} (granted : s.exec t asked after = some s')
    (changes : Db.ChangesOnly (s.view t) after p) (before : ∀ key ∈ s.touched t, q key)
    (within : ∀ key, p key → q key) : ∀ key ∈ s'.touched t, q key := by
  intro key mem
  rcases (Store.exec_touched granted).1 mem with differ | mem
  · exact within key (changes key differ)
  · exact before key mem

theorem Claiming.exec {secret c version : String} {protocolVersion : Int}
    (h : Claiming sha256Hex s t k ⟨secret, c, protocolVersion, version⟩ executed)
    (accepted : claimClientSession sha256Hex now k secret c protocolVersion version = .ok statements)
    (next : statements[executed]? = some statement) (ran : statement (s.view t) = .ok (asked, after))
    (granted : s.exec t asked after = some s') :
    Claiming sha256Hex s' t k ⟨secret, c, protocolVersion, version⟩ (executed + 1) := by
  unfold claimClientSession at accepted
  split at accepted
  · cases accepted
  cases accepted
  have stations : s'.committed.stations.row k = s.committed.stations.row k :=
    Store.exec_committed granted (RowKey.station k)
  have sessions : (s'.view t).sessions.row k = after.sessions.row k :=
    Store.exec_view granted (RowKey.session k)
  match executed, next with
  | 0, next =>
    cases next
    obtain ⟨current, rfl, rfl⟩ := lockStationCredential_ok ran
    -- the row is read unlocked; the lock it now has is what keeps the answer true
    have unwritten : RowKey.station k ∉ s.touched t := fun mem => by
      rcases h.touched _ mem with same | same <;> cases same
    have seen : (s.view t).stations.row k = s.committed.stations.row k :=
      Store.get_view_of_not_touched unwritten
    exact {
      touched := touched_of_changesOnly granted (Db.ChangesOnly.refl _ fun _ => False) h.touched (by simp)
      locked := fun _ => Store.exec_holds_asked granted List.mem_cons_self
      checked := fun _ => by rwa [stations, ← seen]
      written := by omega }
  | 1, next =>
    cases next
    obtain ⟨asks, rfl⟩ := upsertSession_ok (encodeInteger_ok.1 ran).2
    exact {
      touched := touched_of_changesOnly granted (changesOnly_sessions_set _) h.touched fun _ => .inl
      locked := fun _ => Store.exec_holds_mono granted (h.locked (Nat.le_refl _))
      checked := fun _ => stations ▸ h.checked (Nat.le_refl _)
      written := fun _ => ⟨Store.exec_holds_asked granted asks, _, sessions.trans (Table.row_set_self _ _ _), rfl, rfl, rfl⟩ }
  | 2, next =>
    cases next
    cases ran
    obtain ⟨held, row, seen, own⟩ := h.written (Nat.le_refl _)
    exact {
      touched := touched_of_changesOnly granted changesOnly_rejections_erase h.touched fun _ => .inr
      locked := fun _ => Store.exec_holds_mono granted (h.locked (by omega))
      checked := fun _ => stations ▸ h.checked (by omega)
      written := fun _ => ⟨Store.exec_holds_mono granted held, row, sessions.trans seen, own⟩ }

/-- The statements after the `UPDATE` of a revocation. -/
theorem Revoking.exec {f : StationRow → StationRow} (h : Revoking s t k executed)
    (next : (writeStation k f :: clearClientStates k)[executed]? = some statement)
    (ran : statement (s.view t) = .ok (asked, after)) (granted : s.exec t asked after = some s') :
    Revoking s' t k (executed + 1) := by
  have sessions : (s'.view t).sessions.row k = after.sessions.row k :=
    Store.exec_view granted (RowKey.session k)
  have still : Rewriting s t k → Rewriting s' t k := fun ⟨mode, held, writes⟩ =>
    ⟨mode, Store.exec_holds_mono granted held, writes⟩
  match executed, next with
  | 0, next =>
    cases next
    obtain ⟨old, mode, _, asks, writes, rfl⟩ := writeStation_ok ran
    exact {
      touched := touched_of_changesOnly granted (changesOnly_stations_set _) h.touched fun _ => .inl
      locked := fun _ => ⟨mode, Store.exec_holds_asked granted asks, writes⟩
      cleared := by omega }
  | 1, next =>
    cases next
    cases ran
    exact {
      touched := touched_of_changesOnly granted changesOnly_sessions_erase h.touched fun _ own => .inr (.inl own)
      locked := fun _ => still (h.locked (Nat.le_refl _))
      cleared := fun _ => sessions.trans (Table.row_erase_self _ _) }
  | 2, next =>
    cases next
    cases ran
    exact {
      touched := touched_of_changesOnly granted changesOnly_rejections_erase h.touched fun _ own => .inr (.inr own)
      locked := fun _ => still (h.locked (by omega))
      cleared := fun _ => sessions.trans (h.cleared (Nat.le_refl _)) }

theorem Editing.exec {mutation : StationMutation} (enabled : mutation.enabled = true) (h : Editing s t k executed)
    (next : [updateStation now k mutation][executed]? = some statement)
    (ran : statement (s.view t) = .ok (asked, after)) (granted : s.exec t asked after = some s') :
    Editing s' t k (executed + 1) := by
  match executed, next with
  | 0, next =>
    cases next
    obtain ⟨old, mode, found, asks, writes, rfl⟩ := writeStation_ok ran
    have unwritten : RowKey.station k ∉ s.touched t := fun mem => by
      have := (h.touched _ mem).1
      omega
    have seen : (s.view t).stations.row k = s.committed.stations.row k :=
      Store.get_view_of_not_touched unwritten
    have kept : s'.committed.stations.row k = s.committed.stations.row k :=
      Store.exec_committed granted (RowKey.station k)
    have stations : (s'.view t).stations.row k = _ := Store.exec_view granted (RowKey.station k)
    exact {
      touched := touched_of_changesOnly granted (changesOnly_stations_set _)
        (fun key mem => ⟨Nat.le_refl _, (h.touched key mem).2⟩) fun _ own => ⟨Nat.le_refl _, own⟩
      locked := fun _ => ⟨mode, Store.exec_holds_asked granted asks, writes⟩
      edited := fun _ was before => by
        have : was = old := by simpa [← kept, before] using seen.symm.trans found
        subst this
        exact ⟨_, stations.trans (Table.row_set_self _ _ _), enabled, rfl⟩ }

theorem Progress.start {op : Op} (untouched : s.touched t = []) : Progress sha256Hex s t ⟨op, now, 0⟩ := by
  cases op with
  | claimClientSession =>
    simp only [Progress]
    exact ⟨by simp [untouched], by omega, by omega, by omega⟩
  | update k mutation =>
    simp only [Progress]
    split
    · exact ⟨by simp [untouched], by omega, by omega⟩
    · exact ⟨by simp [untouched], by omega, by omega⟩
  | rotateKey =>
    simp only [Progress]
    exact ⟨by simp [untouched], by omega, by omega⟩
  | _ => simp [Progress, untouched]

theorem Progress.untouched {call : Call} (h : Progress sha256Hex s t call)
    (outside : call.op.transaction = false) : s.touched t = [] := by
  obtain ⟨op, now, executed⟩ := call
  cases op with
  | renewClientSession | releaseClientSession | delete => exact h
  | _ => cases outside

/-- One more statement of a transaction. -/
theorem Progress.exec {call : Call} (h : Progress sha256Hex s t call)
    (accepted : call.statements sha256Hex = some statements) (inside : call.op.transaction = true)
    (next : statements[call.executed]? = some statement) (ran : statement (s.view t) = .ok (asked, after))
    (granted : s.exec t asked after = some s') :
    Progress sha256Hex s' t { call with executed := call.executed + 1 } := by
  obtain ⟨op, now, executed⟩ := call
  rw [Call.statements_eq_some] at accepted
  cases op with
  | claimClientSession k secret c v version => exact Claiming.exec h accepted next ran granted
  | renewClientSession | releaseClientSession | delete => cases inside
  | observeRejectedClient k secret v version =>
    cases accepted
    match executed, next with
    | 0, next =>
      cases next
      obtain ⟨_, rfl, rfl⟩ := lockStationCredential_ok ran
      exact touched_of_changesOnly granted (Db.ChangesOnly.refl _ fun _ => False) h (by simp)
    | 1, next =>
      cases next
      cases upsertRejection_ok (encodeInteger_ok.1 ran).2
      exact touched_of_changesOnly granted (changesOnly_rejections_set _) h fun _ => id
  | update k mutation =>
    cases accepted
    unfold Progress at h ⊢
    cases enabled : mutation.enabled with
    | true =>
      simp only [enabled, if_true, update] at h next ⊢
      exact Editing.exec enabled h next ran granted
    | false =>
      simp only [enabled, update] at h next ⊢
      exact Revoking.exec h next ran granted
  | rotateKey k secretHash =>
    cases accepted
    exact Revoking.exec h next ran granted

end Own

section Authorized

variable (sha256Hex : String → String)

/-- The rows of `station_sessions` are the leases, and every lease is held with the
current key of an enabled station. -/
structure Authorized (d : Db) (log : List Op) : Prop where
  sessions : ∀ k, Option.Rel Claimant.Wrote (leaseholder log k) (d.sessions.row k)
  credential : ∀ k claimant, leaseholder log k = some claimant →
    Credential sha256Hex claimant.secret (d.stations.row k)

variable {sha256Hex : String → String} {d d' : Db} {log : List Op} {op : Op}

theorem leaseholder_cons_of_none (none : op.lease = none) (j : ID) :
    leaseholder (op :: log) j = leaseholder log j := by
  rw [leaseholder, List.filterMap_cons_none none, leaseholder]

theorem leaseholder_cons {e : Lease.Event ID Claimant} (some : op.lease = some e) (j : ID) :
    leaseholder (op :: log) j = Lease.holder (e :: log.filterMap Op.lease) j := by
  rw [leaseholder, List.filterMap_cons_some some]

theorem Authorized.congr (h : Authorized sha256Hex d log) (sessions : ∀ k, d'.sessions.row k = d.sessions.row k)
    (stations : ∀ k, d'.stations.row k = d.stations.row k) : Authorized sha256Hex d' log where
  sessions k := sessions k ▸ h.sessions k
  credential k claimant held := stations k ▸ h.credential k claimant held

/-- A call on station `k` has to answer for `k` only. -/
theorem Authorized.at_station (k : ID) (h : Authorized sha256Hex d log)
    (others : ∀ j, j ≠ k → leaseholder (op :: log) j = leaseholder log j)
    (sessions : ∀ j, j ≠ k → d'.sessions.row j = d.sessions.row j)
    (stations : ∀ j, j ≠ k → d'.stations.row j = d.stations.row j)
    (own : Option.Rel Claimant.Wrote (leaseholder (op :: log) k) (d'.sessions.row k))
    (current : ∀ claimant, leaseholder (op :: log) k = some claimant →
      Credential sha256Hex claimant.secret (d'.stations.row k)) : Authorized sha256Hex d' (op :: log) where
  sessions j := by
    by_cases same : j = k
    · exact same ▸ own
    · rw [others j same, sessions j same]
      exact h.sessions j
  credential j claimant held := by
    by_cases same : j = k
    · subst same
      exact current claimant held
    · rw [stations j same]
      exact h.credential j claimant (others j same ▸ held)

/-- A call that changes no lease and no station. -/
theorem Authorized.of_same (h : Authorized sha256Hex d log) (quiet : op.lease = none)
    (sessions : ∀ j, Option.Rel Claimant.Wrote (leaseholder log j) (d'.sessions.row j))
    (stations : ∀ j, d'.stations.row j = d.stations.row j) : Authorized sha256Hex d' (op :: log) where
  sessions j := by
    rw [leaseholder_cons_of_none quiet]
    exact sessions j
  credential j claimant held := by
    rw [stations j]
    exact h.credential j claimant (leaseholder_cons_of_none quiet j ▸ held)

/-- A call that takes the lease of `k` away and leaves no session row there. -/
theorem Authorized.revoke {k : ID} (h : Authorized sha256Hex d log)
    (ends : op.lease = some (.revoke k fun _ => true)) (cleared : d'.sessions.row k = none)
    (sessions : ∀ j, j ≠ k → d'.sessions.row j = d.sessions.row j)
    (stations : ∀ j, j ≠ k → d'.stations.row j = d.stations.row j) : Authorized sha256Hex d' (op :: log) := by
  have gone : leaseholder (op :: log) k = none := by
    rw [leaseholder_cons ends, Lease.holder_revoke_self]
    simp
  refine h.at_station k (fun j ne => ?_) sessions stations ?_ fun claimant held => ?_
  · rw [leaseholder_cons ends, Lease.holder_revoke_ne _ _ (Ne.symm ne), leaseholder]
  · rw [gone, cleared]
    exact .none
  · rw [gone] at held
    cases held

end Authorized

section Commit

variable {sha256Hex : String → String} {s : Store Nat Db} {t u : Nat} {log : List Op} {k : ID}

theorem view_stations (j : ID) (untouched : RowKey.station j ∉ s.touched t) :
    (s.view t).stations.row j = s.committed.stations.row j :=
  Store.get_view_of_not_touched untouched

theorem view_sessions (j : ID) (untouched : RowKey.session j ∉ s.touched t) :
    (s.view t).sessions.row j = s.committed.sessions.row j :=
  Store.get_view_of_not_touched untouched

theorem Claiming.commit {secret c version : String} {protocolVersion : Int}
    (h : Claiming sha256Hex s t k ⟨secret, c, protocolVersion, version⟩ 3)
    (before : Authorized sha256Hex s.committed log) :
    Authorized sha256Hex (s.view t) (.claimClientSession k secret c protocolVersion version :: log) := by
  have untouched : ∀ j, RowKey.station j ∉ s.touched t := fun j mem => by
    rcases h.touched _ mem with same | same <;> cases same
  obtain ⟨_, row, seen, wrote⟩ := h.written (by omega)
  have granted : leaseholder (.claimClientSession k secret c protocolVersion version :: log) k =
      some ⟨secret, c, protocolVersion, version⟩ := by
    rw [leaseholder_cons rfl, Lease.holder_grant_self]
  refine before.at_station k (fun j ne => ?_) (fun j ne => view_sessions j fun mem => ?_)
    (fun j _ => view_stations j (untouched j)) ?_ fun claimant held => ?_
  · rw [leaseholder_cons rfl, Lease.holder_grant_ne _ _ (Ne.symm ne), leaseholder]
  · rcases h.touched _ mem with same | same <;> cases same
    exact ne rfl
  · rw [granted, seen]
    exact .some wrote
  · rw [granted, Option.some.injEq] at held
    rw [view_stations k (untouched k), ← held]
    exact h.checked (by omega)

theorem Revoking.commit {op : Op} (h : Revoking s t k 3) (ends : op.lease = some (.revoke k fun _ => true))
    (before : Authorized sha256Hex s.committed log) : Authorized sha256Hex (s.view t) (op :: log) := by
  refine before.revoke ends (h.cleared (by omega)) (fun j ne => view_sessions j fun mem => ?_)
    fun j ne => view_stations j fun mem => ?_
  · rcases h.touched _ mem with same | same | same <;> cases same
    exact ne rfl
  · rcases h.touched _ mem with same | same | same <;> cases same
    exact ne rfl

theorem Editing.commit {op : Op} (h : Editing s t k 1) (quiet : op.lease = none)
    (before : Authorized sha256Hex s.committed log) : Authorized sha256Hex (s.view t) (op :: log) where
  sessions j := by
    rw [leaseholder_cons_of_none quiet, view_sessions j fun mem => nomatch (h.touched _ mem).2]
    exact before.sessions j
  credential j claimant held := by
    rw [leaseholder_cons_of_none quiet] at held
    have current := before.credential j claimant held
    by_cases same : j = k
    · subst same
      obtain ⟨old, found, _, key⟩ := current
      obtain ⟨new, seen, enabled, kept⟩ := h.edited (Nat.le_refl _) old found
      exact ⟨new, seen, enabled, kept.trans key⟩
    · rw [view_stations j fun mem => same (by injection (h.touched _ mem).2)]
      exact current

/-- **A commit is its lease event.** -/
theorem Progress.commit {call : Call} {statements : List Sql} (h : Progress sha256Hex s t call)
    (accepted : call.statements sha256Hex = some statements) (inside : call.op.transaction = true)
    (finished : call.executed = statements.length) (before : Authorized sha256Hex s.committed log) :
    Authorized sha256Hex (s.view t) (call.op :: log) := by
  obtain ⟨op, now, executed⟩ := call
  rw [Call.statements_eq_some] at accepted
  cases op with
  | claimClientSession k secret c v version =>
    have three : statements.length = 3 := by
      simp only [Op.statements, claimClientSession] at accepted
      split at accepted
      · cases accepted
      · cases accepted
        rfl
    rw [three] at finished
    cases finished
    exact Claiming.commit h before
  | renewClientSession | releaseClientSession | delete => cases inside
  | observeRejectedClient k secret v version =>
    refine before.of_same rfl (fun j => ?_) fun j => view_stations j fun mem => nomatch h _ mem
    rw [view_sessions j fun mem => nomatch h _ mem]
    exact before.sessions j
  | update k mutation =>
    cases accepted
    unfold Progress at h
    cases enabled : mutation.enabled with
    | true =>
      simp only [enabled, if_true, update] at h finished
      cases finished
      exact Editing.commit h (by simp [Op.lease, enabled]) before
    | false =>
      simp only [enabled, update] at h finished
      cases finished
      exact Revoking.commit h (by simp [Op.lease, enabled]) before
  | rotateKey k secretHash =>
    cases accepted
    cases finished
    exact Revoking.commit h rfl before

/-- A transaction about to commit a session holds its station, or has removed the session. -/
theorem Progress.locks_session {call : Call} {statements : List Sql} (h : Progress sha256Hex s t call)
    (accepted : call.statements sha256Hex = some statements) (inside : call.op.transaction = true)
    (finished : call.executed = statements.length) (mem : RowKey.session k ∈ s.touched t) :
    s.Holds t (RowKey.station k) .share ∨ (s.view t).sessions.row k = none := by
  obtain ⟨op, now, executed⟩ := call
  rw [Call.statements_eq_some] at accepted
  cases op with
  | claimClientSession j secret c v version =>
    have started : 1 ≤ executed := by
      simp only [Op.statements, claimClientSession] at accepted
      split at accepted
      · cases accepted
      · cases accepted
        simp_all
    rcases h.touched _ mem with same | same <;> cases same
    exact .inl (h.locked started)
  | renewClientSession | releaseClientSession | delete => cases inside
  | observeRejectedClient j secret v version => cases h _ mem
  | update j mutation =>
    cases accepted
    unfold Progress at h
    cases enabled : mutation.enabled with
    | true =>
      simp only [enabled, if_true] at h
      cases (h.touched _ mem).2
    | false =>
      simp only [enabled, update] at h finished
      cases finished
      rcases h.touched _ mem with same | same | same <;> cases same
      exact .inr (h.cleared (Nat.le_add_left 2 _))
  | rotateKey j secretHash =>
    cases accepted
    cases finished
    rcases h.touched _ mem with same | same | same <;> cases same
    exact .inr (h.cleared (Nat.le_add_left 2 _))

/-- No commit brings a session back under a transaction that is rewriting its station. -/
theorem Progress.keepsCleared {call : Call} {statements : List Sql} (h : Progress sha256Hex s t call)
    (accepted : call.statements sha256Hex = some statements) (inside : call.op.transaction = true)
    (finished : call.executed = statements.length) (other : u ≠ t) :
    KeepsCleared s (s.commit t) u := by
  rintro j ⟨mode, held, writes⟩ absent
  have own : ((s.commit t).view u).sessions.row j = _ := Store.commit_view s other (RowKey.session j)
  have before : (s.view u).sessions.row j = _ := Store.get_view s u (RowKey.session j)
  rw [own]
  by_cases wrote : RowKey.session j ∈ s.touched u
  · rw [if_pos wrote] at before ⊢
    exact before.symm.trans absent
  · rw [if_neg wrote] at before ⊢
    by_cases mem : RowKey.session j ∈ s.touched t
    · refine (h.locks_session accepted inside finished mem).resolve_left fun share => ?_
      have clash : LockMode.share.conflicts mode = true := LockMode.conflicts_of_writes (by decide) writes
      rw [s.compatible _ share _ held (Ne.symm other) rfl] at clash
      cases clash
    · exact (Store.get_view_of_not_touched mem).trans (before.symm.trans absent)

end Commit

section Autocommit

variable {sha256Hex : String → String} {d after : Db} {log : List Op} {call : Call} {statements : List Sql}
  {statement : Sql} {asked : List (RowKey × LockMode)}

/-- A session row under a filter on its connection is the lease under the same filter. -/
theorem rel_filter {holder : Option Claimant} {session : Option SessionRow} (c : String)
    (h : Option.Rel Claimant.Wrote holder session) :
    Option.Rel Claimant.Wrote (holder.filter fun claimant => !decide (claimant.connectionID = c))
      (session.filter fun row => !decide (row.connectionID = c)) := by
  cases h with
  | none => exact .none
  | some wrote =>
    simp only [Option.filter, wrote.1]
    split
    · exact .some wrote
    · exact .none

/-- **A statement on its own is its lease event**, and none of them creates a session. -/
theorem authorized_autocommit (accepted : call.statements sha256Hex = some statements)
    (outside : call.op.transaction = false) (only : statements.head? = some statement)
    (ran : statement d = .ok (asked, after)) (before : Authorized sha256Hex d log) :
    Authorized sha256Hex after (call.op :: log) ∧
      ∀ j, d.sessions.row j = none → after.sessions.row j = none := by
  obtain ⟨op, now, executed⟩ := call
  rw [Call.statements_eq_some] at accepted
  cases op with
  | claimClientSession | observeRejectedClient | update | rotateKey => cases outside
  | renewClientSession k c =>
    cases accepted
    cases only
    obtain ⟨session, found, _, _, rfl⟩ := renewSession_ok ran
    refine ⟨before.of_same rfl (fun j => ?_) fun _ => rfl, fun j absent => ?_⟩
    · have owned := before.sessions j
      by_cases same : j = k
      · subst same
        rw [found] at owned
        rw [Table.row_set_self]
        generalize leaseholder log j = holder at owned ⊢
        cases owned with
        | some wrote => exact .some wrote
      · rwa [Table.row_set_ne _ _ same]
    · rw [Table.row_set_ne _ _ fun same => by simp [same, found] at absent]
      exact absent
  | releaseClientSession k c =>
    cases accepted
    cases only
    obtain ⟨stations, sessions⟩ := releaseSession_ok ran
    refine ⟨before.at_station k (fun j ne => ?_) (fun j ne => ?_) (fun j _ => by rw [stations]) ?_
      fun claimant held => ?_, fun j absent => ?_⟩
    · rw [leaseholder_cons rfl, Lease.holder_revoke_ne _ _ (Ne.symm ne), leaseholder]
    · rw [sessions j, if_neg ne]
    · rw [leaseholder_cons rfl, Lease.holder_revoke_self, sessions k, if_pos rfl]
      exact rel_filter c (before.sessions k)
    · rw [leaseholder_cons rfl, Lease.holder_revoke_self, Option.filter_eq_some_iff] at held
      rw [stations]
      exact before.credential k claimant held.1
    · rw [sessions j, absent]
      split <;> rfl
  | delete k =>
    cases accepted
    cases only
    obtain ⟨stations, sessions⟩ := deleteStation_ok ran
    refine ⟨before.revoke rfl ?_ (fun j ne => ?_) (fun j ne => ?_), fun j absent => ?_⟩
    · rw [sessions, Table.row_erase_self]
    · rw [sessions, Table.row_erase_ne _ ne]
    · rw [stations, Table.row_erase_ne _ ne]
    · rw [sessions, Table.row_erase, absent]
      split <;> rfl

end Autocommit

section Invariant

variable (sha256Hex : String → String)

/-- What holds between any two steps. -/
structure Inv (s : System) : Prop where
  idle : ∀ t, s.calls t = none → s.store.touched t = []
  progress : ∀ t call, s.calls t = some call → Progress sha256Hex s.store t call
  authorized : Authorized sha256Hex s.store.committed s.log

variable {sha256Hex : String → String} {s s' : System}

/-- A step of call `t` has to answer for `t`, the committed rows and the log; for the
other calls it is enough that it leaves them alone. -/
theorem Inv.acted {t : Nat} (h : Inv sha256Hex s) (calls : ∀ u, u ≠ t → s'.calls u = s.calls u)
    (others : ∀ u, u ≠ t → Store.Undisturbed s.store s'.store u)
    (quiet : ∀ u, u ≠ t → KeepsCleared s.store s'.store u)
    (idle : s'.calls t = none → s'.store.touched t = [])
    (own : ∀ call, s'.calls t = some call → Progress sha256Hex s'.store t call)
    (authorized : Authorized sha256Hex s'.store.committed s'.log) : Inv sha256Hex s' where
  idle u none := by
    by_cases same : u = t
    · subst same
      exact idle none
    · rw [(others u same).touched]
      exact h.idle u (calls u same ▸ none)
  progress u call started := by
    by_cases same : u = t
    · subst same
      exact own call started
    · exact (h.progress u call (calls u same ▸ started)).of_undisturbed (others u same) (quiet u same)
  authorized := authorized

theorem Inv.drop (h : Inv sha256Hex s) (t : Nat) : Inv sha256Hex (s.drop t) := by
  refine h.acted (t := t) (fun u ne => Function.update_of_ne ne _ _) (fun u ne => Store.abort_undisturbed ne)
    (fun u ne k _ absent => ?_) (fun _ => Store.abort_touched_self) (fun call started => ?_) h.authorized
  · have same : ((s.store.abort t).view u).sessions.row k = (s.store.view u).sessions.row k :=
      Store.abort_view s.store ne (RowKey.session k)
    exact same.trans absent
  · simp [System.drop] at started

theorem Inv.step {l : Label} (h : Inv sha256Hex s) (stepped : System.step sha256Hex s l = some s') :
    Inv sha256Hex s' := by
  cases l with
  | tick => cases stepped; exact ⟨h.idle, h.progress, h.authorized⟩
  | fail t => cases System.step_fail stepped; exact h.drop t
  | start t op =>
    obtain ⟨free, rfl⟩ := System.step_start stepped
    refine h.acted (t := t) (fun u ne => Function.update_of_ne ne _ _) (fun u _ => Store.Undisturbed.refl _ u)
      (fun u _ _ _ => id) (fun none => ?_) (fun call started => ?_) h.authorized
    · simp at none
    · simp only [Function.update_self, Option.some.injEq] at started
      subst started
      exact Progress.start (h.idle t free)
  | exec t =>
    obtain ⟨call, statements, statement, started, inside, accepted, next, rfl | ran⟩ := System.step_exec stepped
    · exact h.drop t
    obtain ⟨asked, after, store, ran, granted, rfl⟩ := ran
    refine h.acted (t := t) (fun u ne => Function.update_of_ne ne _ _)
      (fun u ne => Store.exec_undisturbed granted ne) (fun u ne k _ absent => ?_) (fun none => ?_)
      (fun call' started' => ?_) (h.authorized.congr (fun k => ?_) fun k => ?_)
    · exact (Store.exec_view_other granted ne (RowKey.session k)).trans absent
    · simp at none
    · simp only [Function.update_self, Option.some.injEq] at started'
      subst started'
      exact (h.progress t call started).exec accepted inside next ran granted
    · exact Store.exec_committed granted (RowKey.session k)
    · exact Store.exec_committed granted (RowKey.station k)
  | commit t =>
    obtain ⟨call, statements, started, inside, accepted, finished, rfl⟩ := System.step_commit stepped
    have progress := h.progress t call started
    refine h.acted (t := t) (fun u ne => Function.update_of_ne ne _ _) (fun u ne => Store.commit_undisturbed ne)
      (fun u ne => progress.keepsCleared accepted inside finished ne) (fun _ => Store.commit_touched_self)
      (fun call' started' => ?_) (progress.commit accepted inside finished h.authorized)
    simp at started'
  | autocommit t =>
    obtain ⟨call, statements, statement, started, outside, accepted, only, rfl | ran⟩ :=
      System.step_autocommit stepped
    · exact h.drop t
    obtain ⟨asked, after, store, ran, granted, rfl⟩ := ran
    obtain ⟨authorized, creates⟩ := authorized_autocommit accepted outside only ran h.authorized
    have untouched := (h.progress t call started).untouched outside
    refine h.acted (t := t) (fun u ne => Function.update_of_ne ne _ _)
      (fun u _ => Store.autocommit_undisturbed granted) (fun u _ k _ absent => ?_) (fun _ => ?_)
      (fun call' started' => ?_) ?_
    · have own : (store.view u).sessions.row k = _ := Store.autocommit_view granted u (RowKey.session k)
      have before : (s.store.view u).sessions.row k = _ := Store.get_view s.store u (RowKey.session k)
      rw [own]
      by_cases wrote : RowKey.session k ∈ s.store.touched u
      · rw [if_pos wrote] at before ⊢
        exact before.symm.trans absent
      · rw [if_neg wrote] at before ⊢
        exact creates k (before.symm.trans absent)
    · rw [Store.autocommit_touched granted]
      exact untouched
    · simp at started'
    · rw [Store.autocommit_committed granted]
      exact authorized

theorem Inv.init {d : Db} (clock : Time) (empty : ∀ k, d.sessions.row k = none) :
    Inv sha256Hex (System.init d clock) where
  idle _ _ := rfl
  progress _ _ started := by cases started
  authorized := {
    sessions := fun k => by
      have none : (System.init d clock).store.committed.sessions.row k = .none := empty k
      rw [none]
      exact .none
    credential := fun _ _ held => by cases held }

theorem Inv.reached {d : Db} {clock : Time} (empty : ∀ k, d.sessions.row k = none) {labels : List Label}
    (run : run (System.step sha256Hex) (System.init d clock) labels = some s) : Inv sha256Hex s :=
  run_invariant (Inv sha256Hex) (fun _ _ _ => Inv.step) (Inv.init clock empty) run

end Invariant

section Main

variable {log : List Op} {k : ID}

theorem Op.lease_of_ends {op : Op} {claimant : Claimant} (ends : op.Ends k claimant.connectionID) :
    ∃ e, op.lease = some e ∧ e.Ends k claimant := by
  cases op with
  | claimClientSession j secret c v version => exact ⟨_, rfl, ends⟩
  | releaseClientSession j c => exact ⟨_, rfl, ends.1, decide_eq_true ends.2.symm⟩
  | update j mutation => exact ⟨.revoke j fun _ => true, by simp [Op.lease, ends.2], ends.1, rfl⟩
  | rotateKey j secretHash => exact ⟨_, rfl, ends, rfl⟩
  | delete j => exact ⟨_, rfl, ends, rfl⟩
  | renewClientSession | observeRejectedClient => cases ends

theorem Op.eq_claim_of_lease {op : Op} {claimant : Claimant} (grant : op.lease = some (.grant k claimant)) :
    op = .claimClientSession k claimant.secret claimant.connectionID claimant.protocolVersion claimant.version := by
  cases op with
  | claimClientSession => cases grant; rfl
  | update j mutation =>
    simp only [Op.lease] at grant
    split at grant <;> cases grant
  | _ => cases grant

/-- The holder of `k` is the last claim of `k`, and nothing after it ended it. -/
theorem claim_of_leaseholder {claimant : Claimant} (held : leaseholder log k = some claimant) :
    ∃ newer older, log = newer ++ .claimClientSession k claimant.secret claimant.connectionID
        claimant.protocolVersion claimant.version :: older ∧
      ∀ op ∈ newer, ¬ op.Ends k claimant.connectionID := by
  obtain ⟨events, past, split, quiet⟩ := Lease.holder_eq_some_iff.1 held
  obtain ⟨front, rest, rfl, rfl, tail⟩ := List.filterMap_eq_append_iff.1 split
  obtain ⟨gap, op, older, rfl, silent, grant, -⟩ := List.filterMap_eq_cons_iff.1 tail
  rw [Op.eq_claim_of_lease grant]
  refine ⟨front ++ gap, older, (List.append_assoc _ _ _).symm, fun op mem ends => ?_⟩
  obtain ⟨e, event, ended⟩ := Op.lease_of_ends ends
  rcases List.mem_append.1 mem with mem | mem
  · exact quiet e (List.mem_filterMap.2 ⟨op, mem, event⟩) ended
  · rw [silent op mem] at event
    cases event

/-- **Session authority.** From a database without sessions, after any steps of any
calls: a session row belongs to an enabled station and was written by a claim made with
the key the station has now, which no takeover, release, disabling update, new key or
deletion has followed. A renewal that succeeds finds the session of its own connection,
unexpired at the renewal's `now()`; that connection made the last claim of the station
and nothing has ended it; and no renewal adds a session row. -/
theorem session_authority (sha256Hex : String → String) (d : Db) (clock : Time) (labels : List Label) (s : System)
    (empty : ∀ k, d.sessions.row k = none)
    (reached : run (System.step sha256Hex) (System.init d clock) labels = some s) :
    (∀ k session, s.store.committed.sessions.row k = some session →
      ∃ (claimant : Claimant) (newer older : List Op), claimant.Wrote session ∧
        Credential sha256Hex claimant.secret (s.store.committed.stations.row k) ∧
        s.log = newer ++ .claimClientSession k claimant.secret claimant.connectionID
          claimant.protocolVersion claimant.version :: older ∧
        ∀ op ∈ newer, ¬ op.Ends k session.connectionID) ∧
    (∀ t call k c s', s.calls t = some call → call.op = .renewClientSession k c →
      System.step sha256Hex s (.autocommit t) = some s' → s'.log = call.op :: s.log →
        (∃ session, s.store.committed.sessions.row k = some session ∧ session.connectionID = c ∧
          call.now < session.expiresAt) ∧
        (∃ secret v version newer older,
          s.log = newer ++ .claimClientSession k secret c v version :: older ∧ ∀ op ∈ newer, ¬ op.Ends k c) ∧
        ∀ j, s.store.committed.sessions.row j = none → s'.store.committed.sessions.row j = none) := by
  have inv := Inv.reached empty reached
  have owned : ∀ k session, s.store.committed.sessions.row k = some session →
      ∃ claimant, leaseholder s.log k = some claimant ∧ claimant.Wrote session := by
    intro k session found
    have rel := inv.authorized.sessions k
    rw [found] at rel
    generalize leaseholder s.log k = holder at rel
    cases rel with
    | some wrote => exact ⟨_, rfl, wrote⟩
  constructor
  · intro k session found
    obtain ⟨claimant, held, wrote⟩ := owned k session found
    obtain ⟨newer, older, split, quiet⟩ := claim_of_leaseholder held
    refine ⟨claimant, newer, older, wrote, inv.authorized.credential k claimant held, split, ?_⟩
    rwa [wrote.1]
  · intro t call k c s' started isRenewal stepped succeeded
    obtain ⟨op, now, executed⟩ := call
    subst isRenewal
    obtain ⟨call', statements, statement, same, outside, accepted, only, rfl | ran⟩ :=
      System.step_autocommit stepped
    · exact absurd succeeded.symm (List.cons_ne_self _ _)
    rw [started, Option.some.injEq] at same
    subst same
    obtain ⟨asked, after, store, ran, granted, rfl⟩ := ran
    have creates := (authorized_autocommit accepted outside only ran inv.authorized).2
    rw [Call.statements_eq_some] at accepted
    cases accepted
    cases only
    obtain ⟨session, found, own, unexpired, -⟩ := renewSession_ok ran
    obtain ⟨claimant, held, wrote⟩ := owned k session found
    obtain ⟨newer, older, split, quiet⟩ := claim_of_leaseholder held
    rw [← wrote.1, own] at split quiet
    refine ⟨⟨session, found, own, unexpired⟩, ⟨_, _, _, newer, older, split, quiet⟩, fun j absent => ?_⟩
    rw [Store.autocommit_committed granted]
    exact creates j absent

/-- A claim and a renewal. -/
def sampleRun : List Label :=
  [.start 0 (.claimClientSession 1 " wgst_a" "c" 1 "1.0"), .exec 0, .exec 0, .exec 0, .commit 0,
    .start 1 (.renewClientSession 1 "c"), .autocommit 1]

theorem session_authority_sample :
    ∃ s session, run (System.step sampleHash) (System.init sampleDb 0) sampleRun = some s ∧
      s.store.committed.sessions.row 1 = some session ∧
      ∃ claimant : Claimant, claimant.Wrote session ∧
        Credential sampleHash claimant.secret (s.store.committed.stations.row 1) := by
  have reached : ((run (System.step sampleHash) (System.init sampleDb 0) sampleRun).bind
      fun s => s.store.committed.sessions.row 1).isSome = true := by decide
  obtain ⟨session, found⟩ := Option.isSome_iff_exists.1 reached
  obtain ⟨s, reached, found⟩ := Option.bind_eq_some_iff.1 found
  obtain ⟨claimant, _, _, wrote, current, _⟩ :=
    (session_authority sampleHash sampleDb 0 sampleRun s (fun _ => rfl) reached).1 1 session found
  exact ⟨s, session, reached, found, claimant, wrote, current⟩

end Main

end Woodgate.Stations
