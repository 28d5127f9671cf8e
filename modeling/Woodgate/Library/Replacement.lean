import Woodgate.Library.ReadCommitted
import Woodgate.Library.Runs

/-!
# Sets that are replaced as a whole

Some rows of a database make up sets, each of one owner: the roles of a user, the lines of
an order. A call replaces the set of one owner in a transaction of several statements: it
deletes the rows and inserts others. `System` runs any number of such calls side by side.

`Replaces` is what a call has to meet for itself: its first statement takes a write lock on
the owner's own row, no statement touches another owner's set, and in a transaction whose
view of its own set nobody changes the statements end with the set asked for. Then every
commit leaves every set as its last committed replacement has it (`run_sets`), and no
statement of a run fails otherwise than it may alone (`run_tolerable`).

A statement may rest on more than the set of its owner. `Good` says what every row, wherever
it is, is relied on to be; it may depend on what a database keeps outside its rows, and on a
ghost value that grows.
-/

namespace Library.Replacement

open ReadCommitted RowStore Runs

variable {D E T O C G : Type} [RowStore D]

/-- The calls: what one asks for at its start, in the database it sees then, the row that
guards an owner's set, the set a row belongs to, and the rows a call asks for. -/
structure Calls (D E O C : Type) [RowStore D] where
  start : C → D → Except E (O × List (Statement D E))
  lock : O → Key D
  owner : Key D → Option O
  requested : C → (k : Key D) → Option (Row k)

/-- A call under way: whose set it replaces, and the statements it has not sent. -/
structure Running (D E O C : Type) [RowStore D] where
  call : C
  owner : O
  rest : List (Statement D E)

/-- The database, the open transactions, and the calls that have committed, latest first. -/
structure System (D E T O C : Type) [RowStore D] where
  store : Store T D
  running : T → Option (Running D E O C)
  log : List (O × C) := []

inductive Label (T C : Type) where
  | start (t : T) (c : C)
  | exec (t : T)
  | commit (t : T)
  | fail (t : T)

namespace System

variable [DecidableEq T]

/-- The transaction of `t` is over. -/
def drop (s : System D E T O C) (t : T) : System D E T O C :=
  { s with store := s.store.abort t, running := Function.update s.running t none }

def step (R : Calls D E O C) (s : System D E T O C) : Label T C → Option (System D E T O C)
  | .start t c =>
    match s.running t, R.start c s.store.committed with
    | none, .ok (owner, rest) => some { s with running := Function.update s.running t (some ⟨c, owner, rest⟩) }
    | _, _ => none
  | .exec t =>
    match s.running t with
    | some ⟨c, owner, statement :: rest⟩ =>
      match statement (s.store.view t) with
      | .error _ => some (s.drop t)
      | .ok (asked, after) => (s.store.exec t asked after).map fun store =>
        { s with store, running := Function.update s.running t (some ⟨c, owner, rest⟩) }
    | _ => none
  | .commit t =>
    match s.running t with
    | some ⟨c, owner, []⟩ => some {
        store := s.store.commit t, running := Function.update s.running t none, log := (owner, c) :: s.log }
    | _ => none
  | .fail t => (s.running t).map fun _ => s.drop t

/-- No call has started. -/
def init (d : D) : System D E T O C := { store := .start d, running := fun _ => none }

end System

section Conditions

variable (R : Calls D E O C) (Good : G → D → (k : Key D) → Option (Row k) → Prop) (tolerable : E → Prop)

/-- Every row is good. -/
def Sound (g : G) (d : D) : Prop := ∀ k, Good g d k (get k d)

/-- Two views of the set of one owner. -/
def SameSet (o : O) (a b : D) : Prop := ∀ k, R.owner k = some o → get k a = get k b

/-- The statements, sent one after the other on a view whose set of `o` nobody else changes,
end with the rows `want`; none touches another owner's set, each leaves good rows and fails
with tolerable errors only. -/
def Reaches (o : O) (want : (k : Key D) → Option (Row k)) : List (Statement D E) → D → Prop
  | [], d => ∀ k, R.owner k = some o → get k d = want k
  | statement :: rest, d => ∀ g e, SameSet R o e d → Sound Good g e →
      (∀ err, statement e = .error err → tolerable err) ∧
      ∀ asked after, statement e = .ok (asked, after) →
        (∀ k, R.owner k ≠ none → R.owner k ≠ some o → get k after = get k e) ∧
        (∃ g', (∀ k r, Good g e k r → Good g' after k r) ∧ Sound Good g' after) ∧ Reaches o want rest after

/-- The statement takes a write lock on the row of `o`. -/
def Locks (o : O) (statement : Statement D E) : Prop :=
  ∀ d asked after, statement d = .ok (asked, after) → ∃ m, (R.lock o, m) ∈ asked ∧ m.writes = true

/-- What a call has to meet. -/
def Replaces (c : C) (o : O) : List (Statement D E) → Prop
  | [] => False
  | statement :: rest => Locks R o statement ∧
      ∀ d, Reaches R Good tolerable o (R.requested c) (statement :: rest) d

/-- `Good` depends on what a database keeps outside its rows only. -/
structure Outside : Prop where
  merge : ∀ g sel a b k r, Good g (merge sel a b) k r ↔ Good g b k r
  carry : ∀ g a b k r, Good g (carry a b) k r ↔ Good g a k r

end Conditions

section Invariant

variable {R : Calls D E O C} {Good : G → D → (k : Key D) → Option (Row k) → Prop} {tolerable : E → Prop}
  {s s' : System D E T O C} {d : D} {o : O} {c : C} {t u : T} {want : (k : Key D) → Option (Row k)}

/-- Only the set of the owner matters. -/
theorem Reaches.congr {rest : List (Statement D E)} {a b : D} (h : Reaches R Good tolerable o want rest a)
    (same : SameSet R o b a) : Reaches R Good tolerable o want rest b := by
  cases rest with
  | nil =>
    intro k own
    rw [same k own]
    exact h k own
  | cons statement rest =>
    intro g e view sound
    exact h g e (fun k own => (view k own).trans (same k own)) sound

/-- The last committed replacement of the set of `o`. -/
def lastFor [DecidableEq O] (log : List (O × C)) (o : O) : Option C := (log.find? fun p => decide (p.1 = o)).map Prod.snd

/-- The rows of the set of `o` after the calls of the log. -/
def expected [DecidableEq O] (R : Calls D E O C) (initial : D) (log : List (O × C)) (o : O) (k : Key D) : Option (Row k) :=
  match lastFor log o with
  | some c => R.requested c k
  | none => get k initial

/-- A call that has not sent a statement, or holds its owner. -/
inductive Stage (R : Calls D E O C) (Good : G → D → (k : Key D) → Option (Row k) → Prop) (tolerable : E → Prop)
    (store : Store T D) (t : T) (r : Running D E O C) : Prop where
  | waiting (untouched : store.touched t = []) (replaces : Replaces R Good tolerable r.call r.owner r.rest)
  | holding (m : LockMode) (held : store.Holds t (R.lock r.owner) m) (writes : m.writes = true)
      (own : ∀ k ∈ store.touched t, R.owner k = none ∨ R.owner k = some r.owner)
      (reaches : Reaches R Good tolerable r.owner (R.requested r.call) r.rest (store.view t))

/-- What holds between any two steps. -/
structure Inv [DecidableEq O] (R : Calls D E O C) (Good : G → D → (k : Key D) → Option (Row k) → Prop)
    (tolerable : E → Prop) (initial : D) (s : System D E T O C) : Prop where
  idle : ∀ t, s.running t = none → s.store.touched t = []
  stage : ∀ t r, s.running t = some r → Stage R Good tolerable s.store t r
  good : ∃ g, (∀ k, Good g s.store.committed k (get k s.store.committed)) ∧
    ∀ t k, Good g s.store.committed k (get k (s.store.view t))
  sets : ∀ k o, R.owner k = some o → get k s.store.committed = expected R initial s.log o k

theorem mode_ne {m : LockMode} (writes : m.writes = true) : m ≠ .keyShare := by
  rintro rfl
  cases writes

/-- Two transactions do not hold one row for writing. -/
theorem holder_unique {store : Store T D} {k : Key D} {m m' : LockMode} (held : store.Holds t k m)
    (held' : store.Holds u k m') (writes : m.writes = true) (writes' : m'.writes = true) : t = u := by
  by_contra other
  have clash := store.compatible _ held _ held' other rfl
  rw [LockMode.conflicts_of_writes (mode_ne writes) writes'] at clash
  cases clash

/-- The rows of a set are touched by its holder only. -/
theorem Stage.not_touched {store : Store T D} {r : Running D E O C} (h : Stage R Good tolerable store u r) (other : t ≠ u)
    {m : LockMode} (held : store.Holds t (R.lock o) m) (writes : m.writes = true) {k : Key D} (own : R.owner k = some o) :
    k ∉ store.touched u := by
  intro touched
  cases h with
  | waiting untouched =>
    rw [untouched] at touched
    cases touched
  | holding m' held' writes' own' =>
    rcases own' k touched with none | same
    · exact absurd (own.symm.trans none) nofun
    · cases own.symm.trans same
      exact other (holder_unique held held' writes writes')

/-- A call is left where it is, if its locks and its view of its set are. -/
theorem Stage.of_undisturbed {store store' : Store T D} {r : Running D E O C} (h : Stage R Good tolerable store u r)
    (others : Store.Undisturbed store store' u)
    (view : ∀ m, store.Holds u (R.lock r.owner) m → m.writes = true → SameSet R r.owner (store'.view u) (store.view u)) :
    Stage R Good tolerable store' u r := by
  cases h with
  | waiting untouched replaces => exact .waiting (others.touched.trans untouched) replaces
  | holding m held writes own reaches =>
    refine .holding m (others.holds _ _ held) writes ?_ (reaches.congr (view m held writes))
    rw [others.touched]
    exact own

variable [DecidableEq T] [DecidableEq O] {initial : D}

omit [DecidableEq T] in
/-- Whoever runs has touched only its own set. -/
theorem Inv.touched (h : Inv R Good tolerable initial s) (other : t ≠ u) {m : LockMode}
    (held : s.store.Holds t (R.lock o) m) (writes : m.writes = true) {k : Key D} (own : R.owner k = some o) :
    k ∉ s.store.touched u := by
  cases running : s.running u with
  | none =>
    rw [h.idle u running]
    nofun
  | some r => exact (h.stage u r running).not_touched other held writes own

theorem Inv.drop (h : Inv R Good tolerable initial s) (t : T) : Inv R Good tolerable initial (s.drop t) where
  idle u none := by
    by_cases own : u = t
    · rw [own]
      exact Store.abort_touched_self
    · change Function.update s.running t Option.none u = Option.none at none
      rw [Function.update_of_ne own] at none
      exact (Store.abort_touched own).trans (h.idle u none)
  stage u r running := by
    have other : u ≠ t := by
      rintro rfl
      change Function.update s.running u none u = some r at running
      rw [Function.update_self] at running
      cases running
    change Function.update s.running t none u = some r at running
    rw [Function.update_of_ne other] at running
    refine (h.stage u r running).of_undisturbed (Store.abort_undisturbed other) fun _ _ _ k _ => ?_
    exact Store.abort_view s.store other k
  good := by
    obtain ⟨g, committed, views⟩ := h.good
    refine ⟨g, committed, fun u k => ?_⟩
    by_cases own : u = t
    · have untouched : k ∉ (s.store.abort t).touched u := by simp [own]
      have same := Store.get_view_of_not_touched untouched
      show Good g s.store.committed k (get k ((s.store.abort t).view u))
      rw [same]
      exact committed k
    · have same := Store.abort_view s.store own k
      show Good g s.store.committed k (get k ((s.store.abort t).view u))
      rw [same]
      exact views u k
  sets := h.sets

theorem Inv.exec (outside : Outside Good) (h : Inv R Good tolerable initial s) {statement : Statement D E}
    {rest : List (Statement D E)} (running : s.running t = some ⟨c, o, statement :: rest⟩)
    {asked : List (Key D × LockMode)} {after : D} (sent : statement (s.store.view t) = .ok (asked, after))
    {store : Store T D} (granted : s.store.exec t asked after = some store) :
    Inv R Good tolerable initial { s with store, running := Function.update s.running t (some ⟨c, o, rest⟩) } := by
  obtain ⟨g, committed, views⟩ := h.good
  have at_view : ∀ k r, Good g (s.store.view t) k r ↔ Good g s.store.committed k r := fun k r =>
    outside.merge g _ _ _ k r
  have sound : Sound Good g (s.store.view t) := fun k => (at_view k _).2 (views t k)
  -- the statement of a call that waits has to lock its owner
  obtain ⟨m, held, writes, own, reaches⟩ : ∃ m, store.Holds t (R.lock o) m ∧ m.writes = true ∧
      (∀ k ∈ s.store.touched t, R.owner k = none ∨ R.owner k = some o) ∧
      Reaches R Good tolerable o (R.requested c) (statement :: rest) (s.store.view t) := by
    cases h.stage t _ running with
    | waiting untouched replaces =>
      obtain ⟨locks, reaches⟩ := replaces
      obtain ⟨m, asks, writes⟩ := locks _ asked after sent
      refine ⟨m, Store.exec_holds_asked granted asks, writes, ?_, reaches _⟩
      rw [untouched]
      nofun
    | holding m held writes own reaches => exact ⟨m, Store.exec_holds_mono granted held, writes, own, reaches⟩
  obtain ⟨_, succeeds⟩ := reaches g _ (fun _ _ => rfl) sound
  obtain ⟨frame, ⟨g', grows, sound'⟩, reaches'⟩ := succeeds asked after sent
  have kept : ∀ k r, Good g s.store.committed k r → Good g' store.committed k r := by
    intro k r good
    rw [(Store.exec_eq_some granted).2.1, outside.carry]
    exact grows k r ((at_view k r).2 good)
  refine ⟨fun u none => ?_, fun u r isRunning => ?_, ⟨g', fun k => ?_, fun u k => ?_⟩, fun k o' owned => ?_⟩
  · have other : u ≠ t := by
      rintro rfl
      change Function.update s.running u _ u = Option.none at none
      rw [Function.update_self] at none
      cases none
    change Function.update s.running t _ u = Option.none at none
    rw [Function.update_of_ne other] at none
    exact (Store.exec_touched_other granted other).trans (h.idle u none)
  · change Function.update s.running t (some ⟨c, o, rest⟩) u = some r at isRunning
    by_cases same : u = t
    · subst same
      rw [Function.update_self] at isRunning
      cases isRunning
      refine .holding m held writes (fun k touched => ?_) (reaches'.congr fun k _ => Store.exec_view granted k)
      rcases (Store.exec_touched granted).1 touched with changed | before
      · by_contra foreign
        rw [not_or] at foreign
        exact changed (frame k foreign.1 foreign.2).symm
      · exact own k before
    · rw [Function.update_of_ne same] at isRunning
      refine (h.stage u r isRunning).of_undisturbed (Store.exec_undisturbed granted same) fun _ _ _ k _ => ?_
      exact Store.exec_view_other granted same k
  · show Good g' store.committed k (get k store.committed)
    rw [Store.exec_committed granted k]
    exact kept k _ (committed k)
  · show Good g' store.committed k (get k (store.view u))
    by_cases same : u = t
    · subst same
      rw [Store.exec_view granted k, (Store.exec_eq_some granted).2.1, outside.carry]
      exact sound' k
    · rw [Store.exec_view_other granted same k]
      exact kept k _ (views u k)
  · show get k store.committed = _
    rw [Store.exec_committed granted k]
    exact h.sets k o' owned

theorem Inv.commit (outside : Outside Good) (h : Inv R Good tolerable initial s)
    (running : s.running t = some ⟨c, o, []⟩) : Inv R Good tolerable initial
      { store := s.store.commit t, running := Function.update s.running t none, log := (o, c) :: s.log } := by
  obtain ⟨g, committed, views⟩ := h.good
  have at_view : ∀ k r, Good g (s.store.view t) k r ↔ Good g s.store.committed k r := fun k r =>
    outside.merge g _ _ _ k r
  -- a call without statements holds its owner: one that waits has some left
  obtain ⟨m, held, writes, own, reaches⟩ : ∃ m, s.store.Holds t (R.lock o) m ∧ m.writes = true ∧
      (∀ k ∈ s.store.touched t, R.owner k = none ∨ R.owner k = some o) ∧
      ∀ k, R.owner k = some o → get k (s.store.view t) = R.requested c k := by
    cases h.stage t _ running with
    | waiting _ replaces => exact replaces.elim
    | holding m held writes own reaches => exact ⟨m, held, writes, own, reaches⟩
  refine ⟨fun u none => ?_, fun u r isRunning => ?_, ⟨g, fun k => ?_, fun u k => ?_⟩, fun k o' owned => ?_⟩
  · by_cases same : u = t
    · rw [same]
      exact Store.commit_touched_self
    · change Function.update s.running t Option.none u = Option.none at none
      rw [Function.update_of_ne same] at none
      exact (Store.commit_touched same).trans (h.idle u none)
  · have other : u ≠ t := by
      rintro rfl
      change Function.update s.running u none u = some r at isRunning
      rw [Function.update_self] at isRunning
      cases isRunning
    change Function.update s.running t none u = some r at isRunning
    rw [Function.update_of_ne other] at isRunning
    have stage := h.stage u r isRunning
    refine stage.of_undisturbed (Store.commit_undisturbed other) fun m' held' writes' k owned => ?_
    have free : k ∉ s.store.touched t := h.touched other held' writes' owned
    rw [Store.commit_view s.store other, Store.get_view_of_not_touched free, ← Store.get_view]
  · exact (at_view k _).2 (views t k)
  · show Good g (s.store.view t) k (get k ((s.store.commit t).view u))
    rw [at_view]
    by_cases same : u = t
    · have untouched : k ∉ (s.store.commit t).touched u := by simp [same]
      rw [Store.get_view_of_not_touched untouched]
      exact views t k
    · rw [Store.commit_view s.store same]
      split
      · rename_i touched
        have seen := views u k
        rwa [Store.get_view, if_pos touched] at seen
      · exact views t k
  · show get k (s.store.view t) = _
    by_cases same : o' = o
    · subst same
      rw [reaches k owned, expected, lastFor, List.find?_cons_of_pos (by simp)]
      rfl
    · have free : k ∉ s.store.touched t := by
        intro touched
        rcases own k touched with none | mine
        · exact absurd (owned.symm.trans none) nofun
        · exact same (Option.some.inj (owned.symm.trans mine))
      rw [Store.get_view_of_not_touched free, h.sets k o' owned]
      have skipped : lastFor ((o, c) :: s.log) o' = lastFor s.log o' := by
        rw [lastFor, List.find?_cons_of_neg (by simpa using Ne.symm same)]
        rfl
      rw [expected, expected, skipped]

/-- The calls that are started meet their conditions. -/
def Label.Meets (R : Calls D E O C) (Good : G → D → (k : Key D) → Option (Row k) → Prop) (tolerable : E → Prop) :
    Label T C → Prop
  | .start _ c => ∀ d o rest, R.start c d = .ok (o, rest) → Replaces R Good tolerable c o rest
  | _ => True

theorem Inv.step (outside : Outside Good) {l : Label T C} (h : Inv R Good tolerable initial s)
    (meets : l.Meets R Good tolerable) (stepped : s.step R l = some s') : Inv R Good tolerable initial s' := by
  cases l with
  | start t c =>
    simp only [System.step] at stepped
    split at stepped
    · rename_i owner rest free started
      cases stepped
      refine ⟨fun u none => ?_, fun u r running => ?_, h.good, h.sets⟩
      · have other : u ≠ t := by
          rintro rfl
          change Function.update s.running u _ u = Option.none at none
          rw [Function.update_self] at none
          cases none
        change Function.update s.running t _ u = Option.none at none
        rw [Function.update_of_ne other] at none
        exact h.idle u none
      · change Function.update s.running t (some ⟨c, owner, rest⟩) u = some r at running
        by_cases same : u = t
        · subst same
          rw [Function.update_self] at running
          cases running
          exact .waiting (h.idle u free) (meets _ _ _ started)
        · rw [Function.update_of_ne same] at running
          exact h.stage u r running
    · cases stepped
  | exec t =>
    simp only [System.step] at stepped
    split at stepped
    · rename_i c owner statement rest running
      split at stepped
      · cases stepped
        exact h.drop t
      · rename_i asked after sent
        obtain ⟨store, granted, rfl⟩ := Option.map_eq_some_iff.1 stepped
        exact h.exec outside running sent granted
    · cases stepped
  | commit t =>
    simp only [System.step] at stepped
    split at stepped
    · rename_i c owner running
      cases stepped
      exact h.commit outside running
    · cases stepped
  | fail t =>
    obtain ⟨_, _, rfl⟩ := Option.map_eq_some_iff.1 stepped
    exact h.drop t

omit [DecidableEq T] in
theorem Inv.init {g : G} (good : Sound Good g initial) : Inv R Good tolerable initial (System.init initial : System D E T O C) where
  idle _ _ := rfl
  stage _ _ := nofun
  good := by
    refine ⟨g, good, fun t k => ?_⟩
    have untouched : k ∉ (Store.start initial : Store T D).touched t := by simp
    show Good g initial k (get k ((Store.start initial : Store T D).view t))
    rw [Store.get_view_of_not_touched untouched]
    exact good k
  sets _ _ _ := rfl

theorem Inv.run (outside : Outside Good) {g : G} (good : Sound Good g initial) {labels : List (Label T C)}
    (meets : ∀ l ∈ labels, l.Meets R Good tolerable) (reached : Runs.run (System.step R) (System.init initial) labels = some s) :
    Inv R Good tolerable initial s := by
  have start : Inv R Good tolerable initial (System.init initial : System D E T O C) := Inv.init good
  generalize System.init initial = s₀ at reached start
  induction labels generalizing s₀ with
  | nil =>
    cases reached
    exact start
  | cons l labels ih =>
    obtain ⟨s₁, first, rest⟩ := run_cons_iff.1 reached
    exact ih (fun l mem => meets l (List.mem_cons_of_mem _ mem)) s₁ rest
      (start.step outside (meets l List.mem_cons_self) first)

end Invariant

section Building

variable {R : Calls D E O C} {Good : G → D → (k : Key D) → Option (Row k) → Prop} {tolerable : E → Prop} {d : D}
  {o : O} {want : (k : Key D) → Option (Row k)} {statement : Statement D E} {rest : List (Statement D E)}

/-- What was good stays good, with a later ghost value. -/
def StaysGood (Good : G → D → (k : Key D) → Option (Row k) → Prop) (statement : Statement D E) : Prop :=
  ∀ g e asked after, Sound Good g e → statement e = .ok (asked, after) →
    ∃ g', (∀ k r, Good g e k r → Good g' after k r) ∧ Sound Good g' after

/-- The statement empties the set of `o`. -/
structure Clears (R : Calls D E O C) (Good : G → D → (k : Key D) → Option (Row k) → Prop) (tolerable : E → Prop) (o : O)
    (statement : Statement D E) : Prop where
  fails : ∀ g e err, Sound Good g e → statement e = .error err → tolerable err
  good : StaysGood Good statement
  gone : ∀ e asked after, statement e = .ok (asked, after) → ∀ k, R.owner k = some o → get k after = none
  others : ∀ e asked after, statement e = .ok (asked, after) →
    ∀ k, R.owner k ≠ none → R.owner k ≠ some o → get k after = get k e

/-- The statement stores the rows of `want` at the keys, if there are none yet. -/
structure Inserts (R : Calls D E O C) (Good : G → D → (k : Key D) → Option (Row k) → Prop) (tolerable : E → Prop)
    (want : (k : Key D) → Option (Row k)) (statement : Statement D E) (ks : List (Key D)) : Prop where
  fails : ∀ g e err, Sound Good g e → (∀ k ∈ ks, get k e = none) → statement e = .error err → tolerable err
  good : StaysGood Good statement
  stored : ∀ e asked after, statement e = .ok (asked, after) → ∀ k ∈ ks, get k after = want k
  others : ∀ e asked after, statement e = .ok (asked, after) → ∀ k, R.owner k ≠ none → k ∉ ks → get k after = get k e

theorem Reaches.clear (clears : Clears R Good tolerable o statement)
    (later : ∀ d', (∀ k, R.owner k = some o → get k d' = none) → Reaches R Good tolerable o want rest d') :
    Reaches R Good tolerable o want (statement :: rest) d := by
  intro g e _ sound
  refine ⟨fun err => clears.fails g e err sound, fun asked after sent => ⟨?_, clears.good g e asked after sound sent, ?_⟩⟩
  · exact clears.others e asked after sent
  · exact later after (clears.gone e asked after sent)

/-- **Rows inserted batch by batch**: each batch finds its keys free, and what is missing at
any point are the keys of the batches to come. -/
theorem Reaches.insert {batches : List (Statement D E × List (Key D))}
    (inserts : ∀ b ∈ batches, Inserts R Good tolerable want b.1 b.2) (owned : ∀ b ∈ batches, ∀ k ∈ b.2, R.owner k = some o)
    (nodup : (batches.flatMap Prod.snd).Nodup)
    (free : ∀ k, R.owner k = some o → k ∈ batches.flatMap Prod.snd → get k d = none)
    (rows : ∀ k, R.owner k = some o → k ∉ batches.flatMap Prod.snd → get k d = want k)
    (later : ∀ d', (∀ k, R.owner k = some o → get k d' = want k) → Reaches R Good tolerable o want rest d') :
    Reaches R Good tolerable o want (batches.map Prod.fst ++ rest) d := by
  induction batches generalizing d with
  | nil => exact later d fun k own => rows k own List.not_mem_nil
  | cons b batches ih =>
    obtain ⟨statement, ks⟩ := b
    have inserts_b := inserts _ List.mem_cons_self
    rw [List.flatMap_cons] at nodup free rows
    obtain ⟨-, nodup', apart⟩ := List.nodup_append.1 nodup
    intro g e same sound
    have vacant : ∀ k ∈ ks, get k e = none := by
      intro k mem
      have own := owned _ List.mem_cons_self k mem
      rw [same k own]
      exact free k own (List.mem_append_left _ mem)
    refine ⟨fun err => inserts_b.fails g e err sound vacant, fun asked after sent =>
      ⟨?_, inserts_b.good g e asked after sound sent, ?_⟩⟩
    · intro k someone foreign
      refine inserts_b.others e asked after sent k someone fun mem => ?_
      exact foreign (owned _ List.mem_cons_self k mem)
    · refine ih (fun b mem => inserts b (List.mem_cons_of_mem _ mem)) (fun b mem => owned b (List.mem_cons_of_mem _ mem))
        nodup' (fun k own mem => ?_) fun k own absent => ?_
      · have other : k ∉ ks := fun mine => apart k mine k mem rfl
        rw [inserts_b.others e asked after sent k (by simp [own]) other, same k own]
        exact free k own (List.mem_append_right _ mem)
      · by_cases mine : k ∈ ks
        · exact inserts_b.stored e asked after sent k mine
        · rw [inserts_b.others e asked after sent k (by simp [own]) mine, same k own]
          refine rows k own fun mem => ?_
          rcases List.mem_append.1 mem with mem | mem
          · exact mine mem
          · exact absent mem

end Building

end Library.Replacement
