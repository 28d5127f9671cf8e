import Mathlib.Logic.Function.Basic
import Mathlib.Data.List.Basic
import Woodgate.Library.Results

/-!
# Transactions at READ COMMITTED with row locks

A database is a `RowStore`: something with rows at row keys. A `Store` is the
committed database together with, for every open transaction, its working copy, the
rows it has written and the row locks it holds until it ends.

* A statement sees the committed rows overlaid with the rows its own transaction
  wrote (`Store.view`): each statement takes a new snapshot.
* `Store.exec` runs one statement. It needs the locks the statement asks for and a
  write lock on every row it changes; while another transaction holds a conflicting
  one it waits, which is `none`. The step taken after the wait works on the rows as
  they are then, as PostgreSQL re-reads the rows it waited for.
* `Store.commit` publishes the written rows, `Store.abort` drops them.
* `Store.autocommit` is a statement outside any transaction.

The two facts a row lock stands for, that writers of one row exclude each other and
that a transaction has a write lock on every row it wrote, are fields of `Store`, so
every operation below proves them once. What a client uses is `Store.commit_of_holds`
and `Store.autocommit_of_holds`: a row locked by one transaction is left alone by
every other.
-/

namespace Library.ReadCommitted

/-- PostgreSQL's four row lock modes. -/
inductive LockMode where
  | keyShare
  | share
  | noKeyUpdate
  | update
  deriving DecidableEq, Repr

/-- PostgreSQL's table of conflicting row locks. -/
def LockMode.conflicts : LockMode → LockMode → Bool
  | .keyShare, .update | .update, .keyShare => true
  | .share, .noKeyUpdate | .noKeyUpdate, .share => true
  | .share, .update | .update, .share => true
  | .noKeyUpdate, .noKeyUpdate | .noKeyUpdate, .update | .update, .noKeyUpdate => true
  | .update, .update => true
  | _, _ => false

/-- The modes an `UPDATE` or a `DELETE` takes. -/
def LockMode.writes : LockMode → Bool
  | .noKeyUpdate | .update => true
  | .keyShare | .share => false

theorem LockMode.conflicts_comm (a b : LockMode) : a.conflicts b = b.conflicts a := by
  cases a <;> cases b <;> rfl

/-- Every mode but `FOR KEY SHARE` keeps writers out. -/
theorem LockMode.conflicts_of_writes {a b : LockMode} (ha : a ≠ .keyShare) (hb : b.writes = true) :
    a.conflicts b = true := by
  cases a <;> cases b <;> simp_all [conflicts, writes]

/-- A database seen as rows at row keys. `carry a b` is `b` with what `a` keeps outside
its rows: sequences move on whether or not the transaction commits. -/
class RowStore (D : Type) where
  Key : Type
  decKey : DecidableEq Key
  Row : Key → Type
  get : (k : Key) → D → Option (Row k)
  merge : (Key → Bool) → D → D → D
  get_merge : ∀ k sel a b, get k (merge sel a b) = if sel k then get k a else get k b
  changed : D → D → List Key
  mem_changed : ∀ k a b, k ∈ changed a b ↔ get k a ≠ get k b
  carry : D → D → D
  get_carry : ∀ k a b, get k (carry a b) = get k b

open RowStore

attribute [reducible, instance] RowStore.decKey

variable {T D E : Type}

/-- A statement on the rows it sees: the locks it asks for by name (rows it inserts,
updates or deletes are locked anyway) and the rows as it leaves them. -/
abbrev Statement (D E : Type) [RowStore D] := D → Except E (List (Key D × LockMode) × D)

/-- A transaction that runs alone. -/
def runStatements [RowStore D] : List (Statement D E) → D → Except E D
  | [], d => .ok d
  | s :: ss, d => do runStatements ss (← s d).2

@[simp] theorem runStatements_nil [RowStore D] (d : D) :
    runStatements ([] : List (Statement D E)) d = .ok d := rfl

theorem runStatements_cons_ok [RowStore D] {s : Statement D E} {ss : List (Statement D E)} {d d' : D} :
    runStatements (s :: ss) d = .ok d' ↔
      ∃ asked next, s d = .ok (asked, next) ∧ runStatements ss next = .ok d' := by
  rw [runStatements, Results.bind_ok]
  constructor
  · rintro ⟨⟨asked, next⟩, first, rest⟩
    exact ⟨asked, next, first, rest⟩
  · rintro ⟨asked, next, first, rest⟩
    exact ⟨(asked, next), first, rest⟩

theorem runStatements_append_ok [RowStore D] {ss ts : List (Statement D E)} {d d' : D} :
    runStatements (ss ++ ts) d = .ok d' ↔ ∃ mid, runStatements ss d = .ok mid ∧ runStatements ts mid = .ok d' := by
  induction ss generalizing d with
  | nil => simp
  | cons s ss ih =>
    rw [List.cons_append, runStatements_cons_ok]
    constructor
    · rintro ⟨asked, next, first, rest⟩
      obtain ⟨mid, before, after⟩ := ih.1 rest
      exact ⟨mid, runStatements_cons_ok.2 ⟨asked, next, first, before⟩, after⟩
    · rintro ⟨mid, before, after⟩
      obtain ⟨asked, next, first, rest⟩ := runStatements_cons_ok.1 before
      exact ⟨asked, next, first, ih.2 ⟨mid, rest, after⟩⟩

theorem runStatements_append [RowStore D] {ss ts : List (Statement D E)} {d : D} :
    runStatements (ss ++ ts) d = runStatements ss d >>= runStatements ts := by
  induction ss generalizing d with
  | nil => rfl
  | cons s ss ih =>
    rw [List.cons_append, runStatements, runStatements]
    cases s d with
    | error e => rfl
    | ok r => exact ih

/-- A lock held by a transaction until it ends. -/
structure RowLock (T K : Type) where
  owner : T
  key : K
  mode : LockMode

/-- The committed database and the open transactions. -/
structure Store (T D : Type) [RowStore D] where
  committed : D
  work : T → D
  touched : T → List (Key D)
  locks : List (RowLock T (Key D))
  compatible : ∀ a ∈ locks, ∀ b ∈ locks, a.owner ≠ b.owner → a.key = b.key →
    a.mode.conflicts b.mode = false
  covered : ∀ t, ∀ k ∈ touched t, ∃ m, ⟨t, k, m⟩ ∈ locks ∧ m.writes = true

namespace Store

variable [RowStore D]

/-- No transaction is open. -/
def start (d : D) : Store T D where
  committed := d
  work _ := d
  touched _ := []
  locks := []
  compatible _ h := by simp at h
  covered _ _ h := by simp at h

/-- `t` holds a lock on `k`. -/
def Holds (s : Store T D) (t : T) (k : Key D) (m : LockMode) : Prop := ⟨t, k, m⟩ ∈ s.locks

/-- What the next statement of `t` sees. -/
def view (s : Store T D) (t : T) : D := merge (fun k => decide (k ∈ s.touched t)) (s.work t) s.committed

/-- The locks a statement that turns `before` into `after` has to get. -/
def required (asked : List (Key D × LockMode)) (before after : D) : List (Key D × LockMode) :=
  asked ++ ((changed before after).filter fun k => asked.all fun r => !(decide (r.1 = k) && r.2.writes)).map
    fun k => (k, .update)

theorem required_covers (asked : List (Key D × LockMode)) {before after : D} {k : Key D}
    (h : k ∈ changed before after) : ∃ m, (k, m) ∈ required asked before after ∧ m.writes = true := by
  by_cases asks : ∃ r ∈ asked, r.1 = k ∧ r.2.writes = true
  · obtain ⟨⟨j, m⟩, mem, rfl, writes⟩ := asks
    exact ⟨m, List.mem_append_left _ mem, writes⟩
  · refine ⟨.update, List.mem_append_right _ (List.mem_map.2 ⟨k, List.mem_filter.2 ⟨h, ?_⟩, rfl⟩), rfl⟩
    rw [List.all_eq_true]
    intro r mem
    have := fun same => not_and.1 (not_exists.1 asks r) mem ∘ And.intro same
    by_cases same : r.1 = k <;> simp_all

/-- The requested locks conflict with no lock of a transaction that is not `own`. -/
def grants (s : Store T D) (own : T → Bool) (req : List (Key D × LockMode)) : Bool :=
  s.locks.all fun l => own l.owner || req.all fun r => !(decide (r.1 = l.key) && r.2.conflicts l.mode)

theorem grants_iff {s : Store T D} {own : T → Bool} {req : List (Key D × LockMode)} :
    s.grants own req = true ↔ ∀ l ∈ s.locks, own l.owner = false → ∀ m, (l.key, m) ∈ req →
      m.conflicts l.mode = false := by
  simp only [grants, List.all_eq_true, Bool.or_eq_true, Bool.not_eq_true', Bool.and_eq_false_iff,
    decide_eq_false_iff_not, Prod.forall]
  constructor
  · intro free l mem foreign m asks
    rcases free l mem with own | free
    · simp [own] at foreign
    · exact (free _ _ asks).resolve_left (fun ne => ne rfl)
  · intro free l mem
    cases foreign : own l.owner with
    | true => exact .inl rfl
    | false =>
      refine .inr fun k m asks => ?_
      by_cases same : k = l.key
      · exact .inr (free l mem foreign m (same ▸ asks))
      · exact .inl same

variable [DecidableEq T]

/-- Run one statement of `t`, or wait. -/
def exec (s : Store T D) (t : T) (asked : List (Key D × LockMode)) (after : D) : Option (Store T D) :=
  let req := required asked (s.view t) after
  if free : s.grants (fun o => decide (o = t)) req = true then
    some {
      committed := carry after s.committed
      work := Function.update s.work t after
      touched := Function.update s.touched t (changed (s.view t) after ++ s.touched t)
      locks := req.map (fun r => ⟨t, r.1, r.2⟩) ++ s.locks
      compatible := by
        rw [grants_iff] at free
        intro a ha b hb other same
        rcases List.mem_append.1 ha with ha | ha <;> rcases List.mem_append.1 hb with hb | hb
        · obtain ⟨_, _, rfl⟩ := List.mem_map.1 ha
          obtain ⟨_, _, rfl⟩ := List.mem_map.1 hb
          exact absurd rfl other
        · obtain ⟨⟨k, m⟩, asks, rfl⟩ := List.mem_map.1 ha
          exact free b hb (by simpa using Ne.symm other) m (by simpa [← same] using asks)
        · obtain ⟨⟨k, m⟩, asks, rfl⟩ := List.mem_map.1 hb
          rw [LockMode.conflicts_comm]
          exact free a ha (by simpa using other) m (by simpa [same] using asks)
        · exact s.compatible a ha b hb other same
      covered := by
        intro u k mem
        by_cases mine : u = t
        · subst mine
          rw [Function.update_self] at mem
          rcases List.mem_append.1 mem with mem | mem
          · obtain ⟨m, asks, writes⟩ := required_covers asked mem
            exact ⟨m, List.mem_append_left _ (List.mem_map.2 ⟨(k, m), asks, rfl⟩), writes⟩
          · obtain ⟨m, held, writes⟩ := s.covered u k mem
            exact ⟨m, List.mem_append_right _ held, writes⟩
        · rw [Function.update_of_ne mine] at mem
          obtain ⟨m, held, writes⟩ := s.covered u k mem
          exact ⟨m, List.mem_append_right _ held, writes⟩ }
  else none

/-- The locks and the written rows of `t` are gone. -/
def close (s : Store T D) (t : T) (d : D) : Store T D where
  committed := d
  work := s.work
  touched := Function.update s.touched t []
  locks := s.locks.filter fun l => l.owner ≠ t
  compatible a ha b hb := s.compatible a (List.mem_filter.1 ha).1 b (List.mem_filter.1 hb).1
  covered u k mem := by
    by_cases mine : u = t
    · subst mine
      simp at mem
    · rw [Function.update_of_ne mine] at mem
      obtain ⟨m, held, writes⟩ := s.covered u k mem
      exact ⟨m, List.mem_filter.2 ⟨held, by simpa using mine⟩, writes⟩

/-- Publish the rows `t` wrote and release its locks. -/
def commit (s : Store T D) (t : T) : Store T D := s.close t (s.view t)

/-- Drop the rows `t` wrote and release its locks. -/
def abort (s : Store T D) (t : T) : Store T D := s.close t s.committed

omit [DecidableEq T] in
/-- A statement outside any transaction, or a wait. -/
def autocommit (s : Store T D) (asked : List (Key D × LockMode)) (after : D) : Option (Store T D) :=
  if s.grants (fun _ => false) (required asked s.committed after) = true then
    some { s with committed := after }
  else none

section View

variable {s s' : Store T D} {t u : T} {k : Key D} {m : LockMode}

omit [DecidableEq T] in
theorem get_view (s : Store T D) (t : T) (k : Key D) :
    get k (s.view t) = if k ∈ s.touched t then get k (s.work t) else get k s.committed := by
  rw [view, get_merge]
  by_cases mem : k ∈ s.touched t <;> simp [mem]

omit [DecidableEq T] in
/-- A transaction sees the committed version of a row it has not written. -/
theorem get_view_of_not_touched (untouched : k ∉ s.touched t) :
    get k (s.view t) = get k s.committed := by
  rw [get_view, if_neg untouched]

omit [DecidableEq T] in
/-- A row on which another transaction holds more than `FOR KEY SHARE` is not written. -/
theorem not_touched_of_holds (held : s.Holds u k m) (mode : m ≠ .keyShare) (other : t ≠ u) :
    k ∉ s.touched t := by
  intro mem
  obtain ⟨w, writing, writes⟩ := s.covered t k mem
  have clash := s.compatible _ held _ writing (Ne.symm other) rfl
  rw [LockMode.conflicts_of_writes mode writes] at clash
  cases clash

end View

section Start

omit [DecidableEq T] in
@[simp] theorem start_committed (d : D) : (start d : Store T D).committed = d := rfl

omit [DecidableEq T] in
@[simp] theorem start_touched (d : D) (t : T) : (start d : Store T D).touched t = [] := rfl

end Start

section Exec

variable {s s' : Store T D} {t u : T} {k : Key D} {m : LockMode}
  {asked : List (Key D × LockMode)} {after : D}

theorem exec_eq_some (h : s.exec t asked after = some s') :
    s.grants (fun o => decide (o = t)) (required asked (s.view t) after) = true ∧
    s'.committed = carry after s.committed ∧ s'.work = Function.update s.work t after ∧
    s'.touched = Function.update s.touched t (changed (s.view t) after ++ s.touched t) ∧
    s'.locks = (required asked (s.view t) after).map (fun r => ⟨t, r.1, r.2⟩) ++ s.locks := by
  dsimp only [exec] at h
  split at h
  · cases h
    exact ⟨‹_›, rfl, rfl, rfl, rfl⟩
  · cases h

/-- Running a statement commits nothing. -/
theorem exec_committed (h : s.exec t asked after = some s') (k : Key D) :
    get k s'.committed = get k s.committed := by
  rw [(exec_eq_some h).2.1, get_carry]

theorem exec_touched (h : s.exec t asked after = some s') :
    k ∈ s'.touched t ↔ get k (s.view t) ≠ get k after ∨ k ∈ s.touched t := by
  rw [(exec_eq_some h).2.2.2.1, Function.update_self, List.mem_append, mem_changed]

theorem exec_touched_other (h : s.exec t asked after = some s') (other : u ≠ t) :
    s'.touched u = s.touched u := by
  rw [(exec_eq_some h).2.2.2.1, Function.update_of_ne other]

/-- The next statement sees what this one left. -/
theorem exec_view (h : s.exec t asked after = some s') (k : Key D) :
    get k (s'.view t) = get k after := by
  rw [get_view]
  by_cases mem : k ∈ s'.touched t
  · rw [if_pos mem, (exec_eq_some h).2.2.1, Function.update_self]
  · rw [if_neg mem, exec_committed h]
    rw [exec_touched h, not_or, not_not] at mem
    rw [← get_view_of_not_touched mem.2, mem.1]

theorem exec_view_other (h : s.exec t asked after = some s') (other : u ≠ t) (k : Key D) :
    get k (s'.view u) = get k (s.view u) := by
  rw [get_view, get_view, exec_touched_other h other, exec_committed h, (exec_eq_some h).2.2.1,
    Function.update_of_ne other]

/-- Locks are kept until the transaction ends. -/
theorem exec_holds_mono (h : s.exec t asked after = some s') (held : s.Holds u k m) :
    s'.Holds u k m := by
  rw [Holds, (exec_eq_some h).2.2.2.2]
  exact List.mem_append_right _ held

/-- A statement gets the locks it asks for. -/
theorem exec_holds_asked (h : s.exec t asked after = some s') (asks : (k, m) ∈ asked) :
    s'.Holds t k m := by
  rw [Holds, (exec_eq_some h).2.2.2.2]
  exact List.mem_append_left _ (List.mem_map.2 ⟨(k, m), List.mem_append_left _ asks, rfl⟩)

end Exec

section Close

variable {s : Store T D} {t u : T} {k : Key D} {m : LockMode}

theorem close_holds (d : D) : (s.close t d).Holds u k m ↔ s.Holds u k m ∧ u ≠ t := by
  simp only [Holds, close, List.mem_filter, decide_eq_true_eq]

theorem commit_holds : (s.commit t).Holds u k m ↔ s.Holds u k m ∧ u ≠ t := close_holds _

theorem abort_holds : (s.abort t).Holds u k m ↔ s.Holds u k m ∧ u ≠ t := close_holds _

@[simp] theorem commit_committed : (s.commit t).committed = s.view t := rfl

@[simp] theorem abort_committed : (s.abort t).committed = s.committed := rfl

@[simp] theorem commit_touched_self : (s.commit t).touched t = [] := by simp [commit, close]

@[simp] theorem abort_touched_self : (s.abort t).touched t = [] := by simp [abort, close]

theorem commit_touched (other : u ≠ t) : (s.commit t).touched u = s.touched u := by
  simp [commit, close, other]

theorem abort_touched (other : u ≠ t) : (s.abort t).touched u = s.touched u := by
  simp [abort, close, other]

/-- A commit leaves alone every row another transaction has locked. -/
theorem commit_of_holds (held : s.Holds u k m) (mode : m ≠ .keyShare) (other : u ≠ t) :
    get k (s.commit t).committed = get k s.committed :=
  get_view_of_not_touched (not_touched_of_holds held mode (Ne.symm other))

/-- A transaction sees the rows it wrote and the newly committed versions of the others. -/
theorem commit_view (s : Store T D) (other : u ≠ t) (k : Key D) :
    get k ((s.commit t).view u) =
      if k ∈ s.touched u then get k (s.work u) else get k (s.view t) := by
  rw [get_view, commit_touched other, commit_committed]
  rfl

/-- What a transaction sees of a row it has locked does not change under a commit. -/
theorem commit_view_of_holds (held : s.Holds u k m) (mode : m ≠ .keyShare) (other : u ≠ t) :
    get k ((s.commit t).view u) = get k (s.view u) := by
  have foreign := not_touched_of_holds held mode (Ne.symm other)
  rw [commit_view s other, get_view_of_not_touched foreign, ← get_view]

theorem abort_view (s : Store T D) (other : u ≠ t) (k : Key D) : get k ((s.abort t).view u) = get k (s.view u) := by
  rw [get_view, get_view, abort_touched other, abort_committed]
  rfl

end Close

section Autocommit

omit [DecidableEq T]

variable {s s' : Store T D} {u : T} {k : Key D} {m : LockMode}
  {asked : List (Key D × LockMode)} {after : D}

theorem autocommit_eq_some (h : s.autocommit asked after = some s') :
    s.grants (fun _ => false) (required asked s.committed after) = true ∧
      s' = { s with committed := after } := by
  unfold autocommit at h
  split at h
  · cases h
    exact ⟨‹_›, rfl⟩
  · cases h

theorem autocommit_committed (h : s.autocommit asked after = some s') : s'.committed = after := by
  rw [(autocommit_eq_some h).2]

theorem autocommit_touched (h : s.autocommit asked after = some s') : s'.touched u = s.touched u := by
  rw [(autocommit_eq_some h).2]

theorem autocommit_holds (h : s.autocommit asked after = some s') :
    s'.Holds u k m ↔ s.Holds u k m := by
  rw [(autocommit_eq_some h).2]
  rfl

/-- A statement outside any transaction leaves alone every row a transaction has locked. -/
theorem autocommit_of_holds (h : s.autocommit asked after = some s') (held : s.Holds u k m)
    (mode : m ≠ .keyShare) : get k after = get k s.committed := by
  by_contra differ
  obtain ⟨w, asks, writes⟩ :=
    required_covers asked ((mem_changed k s.committed after).2 (Ne.symm differ))
  have free := grants_iff.1 (autocommit_eq_some h).1 _ held rfl w asks
  rw [LockMode.conflicts_comm, LockMode.conflicts_of_writes mode writes] at free
  cases free

theorem autocommit_view (h : s.autocommit asked after = some s') (u : T) (k : Key D) :
    get k (s'.view u) = if k ∈ s.touched u then get k (s.work u) else get k after := by
  rw [get_view, (autocommit_eq_some h).2]

theorem autocommit_view_of_holds (h : s.autocommit asked after = some s') (held : s.Holds u k m)
    (mode : m ≠ .keyShare) : get k (s'.view u) = get k (s.view u) := by
  rw [autocommit_view h, get_view, autocommit_of_holds h held mode]

end Autocommit

section Undisturbed

/-- What a step of anybody else leaves to transaction `t`: the rows it wrote, its locks,
and both versions of every row on which it holds more than `FOR KEY SHARE`. -/
structure Undisturbed (s s' : Store T D) (t : T) : Prop where
  touched : s'.touched t = s.touched t
  holds : ∀ k m, s.Holds t k m → s'.Holds t k m
  committed : ∀ k m, s.Holds t k m → m ≠ .keyShare → get k s'.committed = get k s.committed
  view : ∀ k m, s.Holds t k m → m ≠ .keyShare → get k (s'.view t) = get k (s.view t)

variable {s s' : Store T D} {t u : T} {asked : List (Key D × LockMode)} {after : D}

omit [DecidableEq T] in
theorem Undisturbed.refl (s : Store T D) (t : T) : Undisturbed s s t :=
  ⟨rfl, fun _ _ => id, fun _ _ _ _ => rfl, fun _ _ _ _ => rfl⟩

theorem exec_undisturbed (h : s.exec t asked after = some s') (other : u ≠ t) : Undisturbed s s' u where
  touched := exec_touched_other h other
  holds _ _ held := exec_holds_mono h held
  committed k _ _ _ := exec_committed h k
  view k _ _ _ := exec_view_other h other k

theorem commit_undisturbed (other : u ≠ t) : Undisturbed s (s.commit t) u where
  touched := commit_touched other
  holds _ _ held := commit_holds.2 ⟨held, other⟩
  committed _ _ held mode := commit_of_holds held mode other
  view _ _ held mode := commit_view_of_holds held mode other

theorem abort_undisturbed (other : u ≠ t) : Undisturbed s (s.abort t) u where
  touched := abort_touched other
  holds _ _ held := abort_holds.2 ⟨held, other⟩
  committed _ _ _ _ := rfl
  view k _ _ _ := abort_view s other k

omit [DecidableEq T] in
theorem autocommit_undisturbed (h : s.autocommit asked after = some s') : Undisturbed s s' u where
  touched := autocommit_touched h
  holds _ _ held := (autocommit_holds h).2 held
  committed _ _ held mode := by rw [autocommit_committed h, autocommit_of_holds h held mode]
  view _ _ held mode := autocommit_view_of_holds h held mode

end Undisturbed

section Relates

/-- Every row the transaction sees is related to its committed version. -/
def Relates (R : ∀ k : Key D, Option (Row k) → Option (Row k) → Prop) (s : Store T D) (t : T) : Prop :=
  ∀ k, R k (get k s.committed) (get k (s.view t))

variable {R : ∀ k : Key D, Option (Row k) → Option (Row k) → Prop} {s s' : Store T D} {t u : T}
  {asked : List (Key D × LockMode)} {after : D}

omit [DecidableEq T] in
/-- A transaction that has written nothing. -/
theorem relates_of_untouched (same : ∀ k r, R k r r) (untouched : ∀ k, k ∉ s.touched t) : Relates R s t := by
  intro k
  rw [get_view_of_not_touched (untouched k)]
  exact same k _

omit [DecidableEq T] in
/-- The rows a transaction wrote are locked, so nobody else moves either version. -/
theorem Undisturbed.relates (same : ∀ k r, R k r r) (h : Undisturbed s s' u) (before : Relates R s u) : Relates R s' u := by
  intro k
  by_cases mem : k ∈ s'.touched u
  · obtain ⟨m, held, writes⟩ := s.covered u k (h.touched ▸ mem)
    have mode : m ≠ .keyShare := by
      rintro rfl
      cases writes
    rw [h.committed k m held mode, h.view k m held mode]
    exact before k
  · rw [get_view_of_not_touched mem]
    exact same k _

theorem exec_relates (trans : ∀ k {a b c}, R k a b → R k b c → R k a c) (h : s.exec t asked after = some s')
    (before : Relates R s t) (statement : ∀ k, R k (get k (s.view t)) (get k after)) : Relates R s' t := by
  intro k
  rw [exec_committed h, exec_view h]
  exact trans k (before k) (statement k)

theorem commit_relates (same : ∀ k r, R k r r) : Relates R (s.commit t) t :=
  relates_of_untouched same fun k mem => by simp at mem

theorem abort_relates (same : ∀ k r, R k r r) : Relates R (s.abort t) t :=
  relates_of_untouched same fun k mem => by simp at mem

end Relates

end Store

end Library.ReadCommitted
