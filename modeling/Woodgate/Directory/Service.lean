import Woodgate.Calls

/-!
# The directory's operations as programs

`Store.deleteUser` and `Store.ApplyProviderSnapshot`, one call a statement, for runs in
which others act in between.
-/

namespace Woodgate.Directory

open Library
open Library.Program hiding send
open Postgres Woodgate.Service

variable {libs : Libraries}

namespace Store

/-- `Store.deleteUser` -/
def deleteUser (id : ID) : Service libs Unit := transaction do
  let source : Source ← mapError getError (send (.lockUser id))
  mapError mutationError (send (.removeUser source id))

/-- `Store.ApplyProviderSnapshot` -/
def applyProviderSnapshot (source : Source) (snapshot : ProviderSnapshot) : Service libs Unit :=
  if source = .sourceLocal then throw (.failure "directory: local source cannot apply provider snapshot")
  else transaction (forEach (fun statement => send (.snapshot statement)) (snapshotStatements libs.locale source snapshot))

end Store

section Snapshot

variable {locale : DbLocale} {source : Source} {snapshot : ProviderSnapshot} {statement : Time → Sql}

/-- A snapshot leaves the check-ins. -/
theorem checkins_snapshotStatements (mem : statement ∈ snapshotStatements locale source snapshot) {now : Time} {d after : Db}
    {asked : List (RowKey × ReadCommitted.LockMode)} (h : statement now d = .ok (asked, after)) :
    after.checkins = d.checkins := by
  simp only [snapshotStatements, List.mem_cons, List.not_mem_nil, or_false] at mem
  rcases mem with rfl | rfl | rfl | rfl | rfl | rfl
  · obtain ⟨groups, _, stored⟩ := Results.bind_ok.1 h
    cases stored
    rfl
  · cases h
    rfl
  · cases h
    rfl
  · obtain ⟨users, _, stored⟩ := Results.bind_ok.1 h
    cases stored
    rfl
  · cases h
    rfl
  · cases h
    rfl

/-- The loop of the transaction sends the statements one after the other. -/
theorem snapshots_yield {statements : List (Time → Sql)} {now : Time} {d d' : Db}
    (h : (forEach (fun statement => send (.snapshot statement)) statements : Service libs Unit).Yields now () d' d) :
    ReadCommitted.runStatements (statements.map fun statement => statement now) d = .ok d' := by
  induction statements generalizing d with
  | nil =>
    cases (Yields.pure h).2
    rfl
  | cons statement statements ih =>
    obtain ⟨_, mid, first, rest⟩ := Yields.bind h
    obtain ⟨asked, first⟩ := Yields.send first
    have sent : Call.returning (some ()) (statement now) d = .ok ((), asked, mid) := first
    exact ReadCommitted.runStatements_cons_ok.2 ⟨asked, mid, (Call.returning_ok.1 sent).2, ih rest⟩

/-- What the transaction of `Store.ApplyProviderSnapshot` commits is what `transact` says. -/
theorem applyProviderSnapshot_yields {now : Time} {d d' : Db} (provided : source ≠ .sourceLocal)
    (h : (forEach (fun statement => send (.snapshot statement)) (snapshotStatements libs.locale source snapshot) :
      Service libs Unit).Yields now () d' d) : transact (applyProviderSnapshot libs.locale now source snapshot) d = .ok d' := by
  rw [applyProviderSnapshot, if_neg provided]
  exact snapshots_yield h

end Snapshot

/-- The same of `Store.deleteUser`. -/
theorem deleteUser_yields {id : ID} {now : Time} {d d' : Db} (h : (do
      let source : Source ← mapError getError (send (.lockUser id))
      mapError mutationError (send (.removeUser source id)) : Service libs Unit).Yields now () d' d) :
    transact (deleteUser now id d) d = .ok d' := by
  obtain ⟨source, mid, first, second⟩ := Yields.bind h
  obtain ⟨asked, first⟩ := request_yields (c := .lockUser id) first
  obtain ⟨asked', second⟩ := request_yields (c := .removeUser source id) second
  have locked : Call.returning ((d.users.row id).map UserRow.source) (lockUser id isActive) d = .ok (source, asked, mid) := first
  have removed : Call.returning (some ()) (removeUser now source id) mid = .ok ((), asked', d') := second
  obtain ⟨read, sent⟩ := Call.returning_ok.1 locked
  obtain ⟨same, u, found, active⟩ := lockUser_ok sent
  rw [found] at read
  cases read
  rw [transact_ok]
  refine ⟨[(lockUser id isActive).mapError getError, (removeUser now u.source id).mapError mutationError], ?_, ?_⟩
  · rw [deleteUser, found, Option.filter_some, if_pos active]
  · refine ReadCommitted.runStatements_cons_ok.2 ⟨asked, mid, Sql.mapError_ok.2 sent, ?_⟩
    exact ReadCommitted.runStatements_cons_ok.2 ⟨asked', d', Sql.mapError_ok.2 (Call.returning_ok.1 removed).2, rfl⟩

end Woodgate.Directory
