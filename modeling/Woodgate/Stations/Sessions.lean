import Mathlib.Data.Option.Basic
import Woodgate.Library.Runs
import Woodgate.Library.Lease
import Woodgate.Stations.Store

/-!
# Station sessions under concurrency

Any number of store calls run at once against one database. A call fixes `now` when
it begins; a transaction then runs its statements one by one and commits, a call of a
single statement is that statement. Every call can fail at any point before it
commits. `System.log` lists the committed calls, newest first.

What a device may rely on is stated on the log alone: a claim is a lease on the
station, which the next claim, a disabling update, a new key, the deletion of the
station and the claimant's release end (`Op.lease`). The rows of `station_sessions`
are exactly these leases.
-/

namespace Woodgate.Stations

open Library Library.ReadCommitted

/-- A call of the store. -/
inductive Op where
  | claimClientSession (stationID : ID) (secret connectionID : String) (protocolVersion : Int) (version : String)
  | renewClientSession (stationID : ID) (connectionID : String)
  | releaseClientSession (stationID : ID) (connectionID : String)
  | observeRejectedClient (stationID : ID) (secret : String) (protocolVersion : Option Int) (version : String)
  | update (id : ID) (mutation : StationMutation)
  | rotateKey (id : ID) (secretHash : String)
  | delete (id : ID)
  deriving DecidableEq, Repr

/-- Who holds a station: what a claim was made with. -/
structure Claimant where
  secret : String
  connectionID : String
  protocolVersion : Int
  version : String
  deriving DecidableEq, Repr

/-- A row of `station_sessions` that the claim wrote; renewals move its expiry. -/
def Claimant.Wrote (claimant : Claimant) (session : SessionRow) : Prop :=
  session.connectionID = claimant.connectionID ∧ session.protocolVersion = claimant.protocolVersion ∧
    session.version = claimant.version

namespace Op

/-- The statements of the call, or why it is refused beforehand. -/
def statements (sha256Hex : String → String) (now : Time) : Op → Except Err (List Sql)
  | claimClientSession k secret c v version => Stations.claimClientSession sha256Hex now k secret c v version
  | renewClientSession k c => .ok [renewSession now k c]
  | releaseClientSession k c => .ok [releaseSession k c]
  | observeRejectedClient k secret v version => .ok (Stations.observeRejectedClient sha256Hex now k secret v version)
  | update k mutation => .ok (Stations.update now k mutation)
  | rotateKey k secretHash => .ok (Stations.rotateKey now k secretHash)
  | delete k => .ok [deleteStation k]

/-- The call opens a transaction; the others send their one statement on its own. -/
def transaction : Op → Bool
  | renewClientSession _ _ | releaseClientSession _ _ | delete _ => false
  | _ => true

/-- What a committed call does to the lease of its station. -/
def lease : Op → Option (Lease.Event ID Claimant)
  | claimClientSession k secret c v version => some (.grant k ⟨secret, c, v, version⟩)
  | releaseClientSession k c => some (.revoke k fun holder => decide (holder.connectionID = c))
  | update k mutation => if mutation.enabled then none else some (.revoke k fun _ => true)
  | rotateKey k _ | delete k => some (.revoke k fun _ => true)
  | renewClientSession _ _ | observeRejectedClient _ _ _ _ => none

/-- The call takes the session of connection `c` away from station `k`: a takeover, a
release, a disabling update, a new key or the deletion of the station. -/
def Ends (k : ID) (c : String) : Op → Prop
  | claimClientSession j _ _ _ _ => j = k
  | releaseClientSession j c' => j = k ∧ c' = c
  | update j mutation => j = k ∧ mutation.enabled = false
  | rotateKey j _ | delete j => j = k
  | renewClientSession _ _ | observeRejectedClient _ _ _ _ => False

end Op

/-- Who holds station `k` after the committed calls, newest first. -/
def leaseholder (log : List Op) (k : ID) : Option Claimant := Lease.holder (log.filterMap Op.lease) k

/-- A call in progress. -/
structure Call where
  op : Op
  now : Time
  executed : Nat

/-- The statements of a call that was let in. -/
def Call.statements (sha256Hex : String → String) (call : Call) : Option (List Sql) :=
  (call.op.statements sha256Hex call.now).toOption

theorem Call.statements_eq_some {sha256Hex : String → String} {call : Call} {statements : List Sql} :
    call.statements sha256Hex = some statements ↔ call.op.statements sha256Hex call.now = .ok statements := by
  unfold Call.statements
  cases call.op.statements sha256Hex call.now <;> simp [Except.toOption]

structure System where
  store : Store Nat Db
  clock : Time
  calls : Nat → Option Call
  log : List Op

inductive Label where
  /-- call `t` starts -/
  | start (t : Nat) (op : Op)
  /-- the next statement of transaction `t`, once it gets its locks -/
  | exec (t : Nat)
  | commit (t : Nat)
  /-- a connection, a statement or a commit of call `t` fails -/
  | fail (t : Nat)
  /-- the statement of a call without a transaction -/
  | autocommit (t : Nat)
  | tick (elapsed : Nat)
  deriving DecidableEq, Repr

namespace System

/-- A server with an idle database. -/
def init (d : Db) (clock : Time) : System where
  store := .start d
  clock
  calls _ := none
  log := []

/-- `t` ends without an effect. -/
def drop (s : System) (t : Nat) : System :=
  { s with store := s.store.abort t, calls := Function.update s.calls t none }

variable (sha256Hex : String → String)

def step (s : System) : Label → Option System
  | .start t op =>
    match s.calls t, op.statements sha256Hex s.clock with
    | none, .ok _ => some { s with calls := Function.update s.calls t (some ⟨op, s.clock, 0⟩) }
    | _, _ => none
  | .exec t => do
    let call ← s.calls t
    guard (call.op.transaction = true)
    let statements ← call.statements sha256Hex
    let statement ← statements[call.executed]?
    match statement (s.store.view t) with
    | .error _ => some (s.drop t)
    | .ok (asked, after) =>
      let store ← s.store.exec t asked after
      some { s with
        store, calls := Function.update s.calls t (some { call with executed := call.executed + 1 }) }
  | .commit t => do
    let call ← s.calls t
    guard (call.op.transaction = true)
    let statements ← call.statements sha256Hex
    guard (call.executed = statements.length)
    some { s with
      store := s.store.commit t, calls := Function.update s.calls t none, log := call.op :: s.log }
  | .fail t => do
    let _ ← s.calls t
    some (s.drop t)
  | .autocommit t => do
    let call ← s.calls t
    guard (call.op.transaction = false)
    let statements ← call.statements sha256Hex
    let statement ← statements.head?
    match statement s.store.committed with
    | .error _ => some (s.drop t)
    | .ok (asked, after) =>
      let store ← s.store.autocommit asked after
      some { s with store, calls := Function.update s.calls t none, log := call.op :: s.log }
  | .tick elapsed => some { s with clock := s.clock + elapsed }

section Inversion

variable {sha256Hex : String → String} {s s' : System} {t : Nat}

/-- A call begins with an unused number and nothing done. -/
theorem step_start {op : Op} (h : step sha256Hex s (.start t op) = some s') :
    s.calls t = none ∧ s' = { s with calls := Function.update s.calls t (some ⟨op, s.clock, 0⟩) } := by
  simp only [step] at h
  split at h
  · rename_i free _
    cases h
    exact ⟨free, rfl⟩
  · cases h

/-- A statement fails and ends its transaction, or leaves its rows and locks. -/
theorem step_exec (h : step sha256Hex s (.exec t) = some s') :
    ∃ call statements statement, s.calls t = some call ∧ call.op.transaction = true ∧
      call.statements sha256Hex = some statements ∧ statements[call.executed]? = some statement ∧
      (s' = s.drop t ∨ ∃ asked after store, statement (s.store.view t) = .ok (asked, after) ∧
        s.store.exec t asked after = some store ∧
        s' = { s with
          store, calls := Function.update s.calls t (some { call with executed := call.executed + 1 }) }) := by
  simp only [step, Option.bind_eq_bind, Option.bind_eq_some_iff, Option.guard_eq_some'] at h
  obtain ⟨call, started, _, inside, statements, accepted, statement, next, ran⟩ := h
  refine ⟨call, statements, statement, started, inside, accepted, next, ?_⟩
  split at ran
  · cases ran
    exact .inl rfl
  · rename_i asked after ok
    obtain ⟨store, granted, done⟩ := Option.bind_eq_some_iff.1 ran
    cases done
    exact .inr ⟨asked, after, store, ok, granted, rfl⟩

theorem step_commit (h : step sha256Hex s (.commit t) = some s') :
    ∃ call statements, s.calls t = some call ∧ call.op.transaction = true ∧
      call.statements sha256Hex = some statements ∧ call.executed = statements.length ∧
      s' = { s with
        store := s.store.commit t, calls := Function.update s.calls t none, log := call.op :: s.log } := by
  simp only [step, Option.bind_eq_bind, Option.bind_eq_some_iff, Option.guard_eq_some'] at h
  obtain ⟨call, started, _, inside, statements, accepted, _, finished, done⟩ := h
  cases done
  exact ⟨call, statements, started, inside, accepted, finished, rfl⟩

theorem step_fail (h : step sha256Hex s (.fail t) = some s') : s' = s.drop t := by
  simp only [step, Option.bind_eq_bind, Option.bind_eq_some_iff] at h
  obtain ⟨_, _, done⟩ := h
  cases done
  rfl

theorem step_autocommit (h : step sha256Hex s (.autocommit t) = some s') :
    ∃ call statements statement, s.calls t = some call ∧ call.op.transaction = false ∧
      call.statements sha256Hex = some statements ∧ statements.head? = some statement ∧
      (s' = s.drop t ∨ ∃ asked after store, statement s.store.committed = .ok (asked, after) ∧
        s.store.autocommit asked after = some store ∧
        s' = { s with store, calls := Function.update s.calls t none, log := call.op :: s.log }) := by
  simp only [step, Option.bind_eq_bind, Option.bind_eq_some_iff, Option.guard_eq_some'] at h
  obtain ⟨call, started, _, outside, statements, accepted, statement, only, ran⟩ := h
  refine ⟨call, statements, statement, started, outside, accepted, only, ?_⟩
  split at ran
  · cases ran
    exact .inl rfl
  · rename_i asked after ok
    obtain ⟨store, granted, done⟩ := Option.bind_eq_some_iff.1 ran
    cases done
    exact .inr ⟨asked, after, store, ok, granted, rfl⟩

end Inversion

end System

end Woodgate.Stations
