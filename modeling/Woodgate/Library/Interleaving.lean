import Woodgate.Library.Programs
import Woodgate.Library.Runs

/-!
# Programs side by side

Any number of threads run programs on one database, a call at a time, in transactions or
outside (`step`). Between two calls of a thread the others may commit, and every thread
keeps a log of what it has learned outside transactions.

The rule at the end is one of rely and guarantee. A thread relies on something about the
committed rows, which its log determines (`Discipline.relies`); every commit is to meet a
guarantee. If each program alone meets its guarantees while it can rely on its log, then in
every run in which nobody commits away what another thread relies on, every commit meets
the guarantee.
-/

namespace Library.Interleaving

open ReadCommitted RowStore Runs

variable {D E : Type} [RowStore D] {I : Interface D E} {N A Op T : Type}

/-- What a call has returned. -/
abbrev Entry (I : Interface D E) : Type := (c : I.Call) × Except E (I.Answer c)

/-- An operation under way: what is left of it, since when it has been in a transaction, and
its log. -/
structure Thread (I : Interface D E) (N A Op : Type) where
  op : Op
  rest : Program I N A
  began : Option I.Time := none
  log : List (Entry I) := []

/-- There is something left to do. -/
def Thread.Running (th : Thread I N A Op) : Prop := ∀ result, th.rest ≠ .done result

/-- What a thread learns inside a transaction is not logged. -/
def Thread.learn (th : Thread I N A Op) (entry : Entry I) : List (Entry I) :=
  match th.began with
  | some _ => th.log
  | none => entry :: th.log

/-- The database and the threads. -/
structure System (I : Interface D E) (N A Op T : Type) where
  store : Store T D
  threads : T → Option (Thread I N A Op)

/-- A thread starts an operation, takes its next step at a time, or has that step fail. -/
inductive Label (I : Interface D E) (Op T : Type) where
  | start (t : T) (op : Op)
  | next (t : T) (now : I.Time)
  | fail (t : T) (e : E)

def Label.thread : Label I Op T → T
  | .start t _ => t
  | .next t _ => t
  | .fail t _ => t

namespace System

/-- The rows the next call of the thread sees. -/
def view (s : System I N A Op T) (t : T) (th : Thread I N A Op) : D :=
  match th.began with
  | some _ => s.store.view t
  | none => s.store.committed

variable [DecidableEq T]

/-- The thread is now `th`. -/
def set (s : System I N A Op T) (t : T) (th : Thread I N A Op) : System I N A Op T :=
  { s with threads := Function.update s.threads t (some th) }

theorem set_self (s : System I N A Op T) (t : T) (th : Thread I N A Op) : (s.set t th).threads t = some th :=
  Function.update_self ..

theorem set_other {u t : T} (other : u ≠ t) (s : System I N A Op T) (th : Thread I N A Op) :
    (s.set t th).threads u = s.threads u := Function.update_of_ne other ..

/-- The rows of a call that succeeds; `none` is a wait for locks. -/
def write (s : System I N A Op T) (t : T) (th : Thread I N A Op) (asked : List (Key D × LockMode)) (after : D) :
    Option (Store T D) :=
  match th.began with
  | some _ => s.store.exec t asked after
  | none => s.store.autocommit asked after

def call (s : System I N A Op T) (t : T) (th : Thread I N A Op) (now : I.Time) (c : I.Call)
    (next : Except E (I.Answer c) → Program I N A) : Option (System I N A Op T) :=
  match I.perform (th.began.getD now) c (s.view t th) with
  | .error e => some (s.set t { th with rest := next (.error e), log := th.learn ⟨c, .error e⟩ })
  | .ok (x, asked, after) => (s.write t th asked after).map fun store =>
    { s with store }.set t { th with rest := next (.ok x), log := th.learn ⟨c, .ok x⟩ }

/-- The next step of a thread. -/
def advance (s : System I N A Op T) (t : T) (th : Thread I N A Op) (now : I.Time) : Option (System I N A Op T) :=
  match th.rest, th.began with
  | .call c next, _ => s.call t th now c next
  | .begin next, none => some (s.set t { th with rest := next (.ok ()), began := some now })
  | .commit next, some _ => some ({ s with store := s.store.commit t }.set t { th with rest := next (.ok ()), began := none })
  | .rollback next, some _ => some ({ s with store := s.store.abort t }.set t { th with rest := next, began := none })
  | .notify _ next, _ => some (s.set t { th with rest := next })
  | _, _ => none

/-- The next step of a thread fails; a commit that fails aborts. -/
def failNext (s : System I N A Op T) (t : T) (th : Thread I N A Op) (e : E) : Option (System I N A Op T) :=
  match th.rest, th.began with
  | .call c next, _ => some (s.set t { th with rest := next (.error e), log := th.learn ⟨c, .error e⟩ })
  | .begin next, none => some (s.set t { th with rest := next (.error e) })
  | .commit next, some _ =>
    some ({ s with store := s.store.abort t }.set t { th with rest := next (.error e), began := none })
  | _, _ => none

variable (program : Op → Program I N A)

def step (s : System I N A Op T) : Label I Op T → Option (System I N A Op T)
  | .start t op =>
    match s.threads t with
    | none => some (s.set t { op, rest := program op })
    | some _ => none
  | .next t now => (s.threads t).bind fun th => s.advance t th now
  | .fail t e => (s.threads t).bind fun th => s.failNext t th e

/-- No operation has started. -/
def init (d : D) : System I N A Op T := ⟨.start d, fun _ => none⟩

end System

section Rule

/-- What threads rely on, what a commit guarantees, and what a statement inside a
transaction may do to a row. -/
structure Discipline (I : Interface D E) (Op : Type) where
  relies : Op → List (Entry I) → D → Prop
  guarantee : D → D → Prop
  change : ∀ k : Key D, Option (Row k) → Option (Row k) → Prop
  relies_congr : ∀ {op log a b}, (∀ k, get k a = get k b) → relies op log a → relies op log b
  guarantee_of_change : ∀ {a b}, (∀ k, change k (get k a) (get k b)) → guarantee a b
  change_same : ∀ k r, change k r r
  change_trans : ∀ k {a b c}, change k a b → change k b c → change k a c

variable {R : Discipline I Op} {op : Op}

theorem Discipline.guarantee_of_rows (R : Discipline I Op) {a b : D} (same : ∀ k, get k a = get k b) : R.guarantee a b := by
  refine R.guarantee_of_change fun k => ?_
  rw [same k]
  exact R.change_same k _

/-- The program keeps to the discipline, inside or outside a transaction and with a log:
whatever it does outside a transaction while it can rely on the log meets the guarantee.
What it returns meets `Q`. -/
def Meets (R : Discipline I Op) (op : Op) (Q : Except E A → Bool → List (Entry I) → Prop) :
    Program I N A → Bool → List (Entry I) → Prop
  | .done result, inside, log => Q result inside log
  | .call c next, true, log =>
    (∀ now d x asked after, I.perform now c d = .ok (x, asked, after) → ∀ k, R.change k (get k d) (get k after)) ∧
      ∀ x, Meets R op Q (next x) true log
  | .call c next, false, log =>
    (∀ now d x asked after, R.relies op log d → I.perform now c d = .ok (x, asked, after) →
      R.guarantee d after ∧ R.relies op (⟨c, .ok x⟩ :: log) after) ∧
      (∀ e d, R.relies op log d → R.relies op (⟨c, .error e⟩ :: log) d) ∧ ∀ x, Meets R op Q (next x) false (⟨c, x⟩ :: log)
  | .begin next, inside, log =>
    inside = false ∧ Meets R op Q (next (.ok ())) true log ∧ ∀ e, Meets R op Q (next (.error e)) false log
  | .commit next, inside, log =>
    inside = true ∧ (∀ a b, (∀ k, R.change k (get k a) (get k b)) → R.relies op log a → R.relies op log b) ∧
      Meets R op Q (next (.ok ())) false log ∧ ∀ e, Meets R op Q (next (.error e)) false log
  | .rollback next, inside, log => inside = true ∧ Meets R op Q next false log
  | .notify _ next, inside, log => Meets R op Q next inside log

section Compose

variable {B : Type} {inside : Bool} {log : List (Entry I)}

/-- First the program, then what is made of its result. -/
theorem Meets.handle {Q : Except E B → Bool → List (Entry I) → Prop} {p : Program I N A} {f : Except E A → Program I N B}
    (h : Meets R op (fun r inside log => Meets R op Q (f r) inside log) p inside log) :
    Meets R op Q (p.handle f) inside log := by
  induction p generalizing inside log with
  | done => exact h
  | call c next ih =>
    cases inside with
    | true => exact ⟨h.1, fun x => ih x (h.2 x)⟩
    | false => exact ⟨h.1, h.2.1, fun x => ih x (h.2.2 x)⟩
  | begin next ih => exact ⟨h.1, ih _ h.2.1, fun e => ih _ (h.2.2 e)⟩
  | commit next ih => exact ⟨h.1, h.2.1, ih _ h.2.2.1, fun e => ih _ (h.2.2.2 e)⟩
  | rollback next ih => exact ⟨h.1, ih h.2⟩
  | notify n next ih => exact ih h

theorem Meets.bind {Q : Except E B → Bool → List (Entry I) → Prop} {p : Program I N A} {f : A → Program I N B}
    (h : Meets R op (fun r inside log => Meets R op Q (Program.onSuccess f r) inside log) p inside log) :
    Meets R op Q (p >>= f) inside log := Meets.handle h

/-- Calls that only make allowed changes, inside a transaction. -/
theorem Meets.within {P : I.Call → Prop} {p : Program I N A} (plain : p.Plain P)
    (keeps : ∀ c, P c → ∀ now d x asked after, I.perform now c d = .ok (x, asked, after) → ∀ k, R.change k (get k d) (get k after)) :
    Meets R op (fun _ inside log' => inside = true ∧ log' = log) p true log := by
  induction p with
  | done => exact ⟨rfl, rfl⟩
  | call c next ih => exact ⟨keeps c plain.1, fun x => ih x (plain.2 x)⟩
  | begin | commit | rollback | notify => exact plain.elim

/-- Calls that only make allowed changes, in an operation that relies on nothing. -/
theorem Meets.plain {P : I.Call → Prop} {p : Program I N A} (plain : p.Plain P) (carefree : ∀ log d, R.relies op log d)
    (keeps : ∀ c, P c → ∀ now d x asked after, I.perform now c d = .ok (x, asked, after) → ∀ k, R.change k (get k d) (get k after)) :
    Meets R op (fun _ inside _ => inside = false) p false log := by
  induction p generalizing log with
  | done => rfl
  | call c next ih =>
    refine ⟨fun now d x asked after _ performed => ⟨?_, carefree _ _⟩, fun _ _ _ => carefree _ _, fun x => ih x (plain.2 x)⟩
    exact R.guarantee_of_change (keeps c plain.1 now d x asked after performed)
  | begin | commit | rollback | notify => exact plain.elim

theorem Meets.mono {Q Q' : Except E A → Bool → List (Entry I) → Prop} (weaker : ∀ r inside log, Q r inside log → Q' r inside log)
    {p : Program I N A} (h : Meets R op Q p inside log) : Meets R op Q' p inside log := by
  induction p generalizing inside log with
  | done => exact weaker _ _ _ h
  | call c next ih =>
    cases inside with
    | true => exact ⟨h.1, fun x => ih x (h.2 x)⟩
    | false => exact ⟨h.1, h.2.1, fun x => ih x (h.2.2 x)⟩
  | begin next ih => exact ⟨h.1, ih _ h.2.1, fun e => ih _ (h.2.2 e)⟩
  | commit next ih => exact ⟨h.1, h.2.1, ih _ h.2.2.1, fun e => ih _ (h.2.2.2 e)⟩
  | rollback next ih => exact ⟨h.1, ih h.2⟩
  | notify n next ih => exact ih h

/-- One program, then another. -/
theorem Meets.seq {Q : Except E A → Bool → List (Entry I) → Prop} {Q' : Except E B → Bool → List (Entry I) → Prop}
    {p : Program I N A} {f : A → Program I N B} (first : Meets R op Q p inside log)
    (fails : ∀ e inside log, Q (.error e) inside log → Q' (.error e) inside log)
    (rest : ∀ a inside log, Q (.ok a) inside log → Meets R op Q' (f a) inside log) : Meets R op Q' (p >>= f) inside log := by
  apply Meets.bind
  apply Meets.mono _ first
  intro r inside log returned
  cases r with
  | error e => exact fails e inside log returned
  | ok a => exact rest a inside log returned

/-- A computation without calls. -/
theorem Meets.lift (result : Except E A) :
    Meets R op (fun r inside' log' => r = result ∧ inside' = inside ∧ log' = log) (Program.lift result : Program I N A) inside log :=
  ⟨rfl, rfl, rfl⟩

/-- A transaction of such calls, in an operation that relies on nothing. -/
theorem Meets.transaction {P : I.Call → Prop} {body : Program I N A} (plain : body.Plain P)
    (carefree : ∀ log d, R.relies op log d)
    (keeps : ∀ c, P c → ∀ now d x asked after, I.perform now c d = .ok (x, asked, after) → ∀ k, R.change k (get k d) (get k after)) :
    Meets R op (fun _ inside _ => inside = false) (Program.transaction body) false log := by
  refine ⟨rfl, ?_, fun e => rfl⟩
  apply Meets.handle
  refine Meets.mono ?_ (Meets.within plain keeps)
  rintro r _ _ ⟨rfl, rfl⟩
  cases r with
  | error e => exact ⟨rfl, rfl⟩
  | ok a => exact ⟨rfl, fun _ _ _ _ => carefree _ _, rfl, fun _ => rfl⟩

end Compose

/-- A thread that keeps to the discipline, and can rely on its log while it is running. -/
structure Thread.Sound (R : Discipline I Op) (d : D) (th : Thread I N A Op) : Prop where
  meets : Meets R th.op (fun _ _ _ => True) th.rest th.began.isSome th.log
  relies : th.Running → R.relies th.op th.log d

/-- The invariant of the runs. -/
structure Sound (R : Discipline I Op) (s : System I N A Op T) : Prop where
  relates : ∀ t, Store.Relates R.change s.store t
  threads : ∀ t th, s.threads t = some th → th.Sound R s.store.committed

variable [DecidableEq T] {program : Op → Program I N A} {s s' : System I N A Op T} {t : T} {th : Thread I N A Op}
  {l : Label I Op T}

/-- The step takes from no other running thread what it relies on. -/
def Considerate (R : Discipline I Op) (program : Op → Program I N A) (s : System I N A Op T) (l : Label I Op T) : Prop :=
  ∀ s', s.step program l = some s' → ∀ u th, u ≠ l.thread → s.threads u = some th → th.Running →
    R.relies th.op th.log s.store.committed → R.relies th.op th.log s'.store.committed

/-- What a step of thread `t` has to establish. -/
structure Progress (R : Discipline I Op) (s : System I N A Op T) (t : T) (s' : System I N A Op T) : Prop where
  guarantee : R.guarantee s.store.committed s'.store.committed
  others : ∀ u, u ≠ t → s'.threads u = s.threads u
  undisturbed : ∀ u, u ≠ t → Store.Undisturbed s.store s'.store u
  relates : Store.Relates R.change s'.store t
  own : ∀ th, s'.threads t = some th → th.Sound R s'.store.committed

/-- A step that moves only the thread. -/
theorem progress_set (sound : Sound R s) (meets : th.Sound R s.store.committed) : Progress R s t (s.set t th) where
  guarantee := R.guarantee_of_rows fun _ => rfl
  others u other := System.set_other other ..
  undisturbed u _ := .refl s.store u
  relates := sound.relates t
  own th' now := by
    rw [System.set_self] at now
    cases now
    exact meets

/-- A step of thread `t` that leaves the store `store`. -/
theorem progress_store {store : Store T D} (guarantee : R.guarantee s.store.committed store.committed)
    (undisturbed : ∀ u, u ≠ t → Store.Undisturbed s.store store u) (relates : Store.Relates R.change store t)
    (meets : th.Sound R store.committed) : Progress R s t ({ s with store }.set t th) where
  guarantee := guarantee
  others u other := System.set_other other ..
  undisturbed := undisturbed
  relates := relates
  own th' now := by
    rw [System.set_self] at now
    cases now
    exact meets

/-- A call that fails leaves the store. -/
theorem progress_refused (sound : Sound R s) (found : s.threads t = some th) {c : I.Call} {e : E}
    {next : Except E (I.Answer c) → Program I N A} (rest : th.rest = .call c next) :
    Progress R s t (s.set t { th with rest := next (.error e), log := th.learn ⟨c, .error e⟩ }) := by
  obtain ⟨meets, relies⟩ := sound.threads t th found
  have relies : R.relies th.op th.log s.store.committed := relies fun _ done => by cases rest.symm.trans done
  rw [rest] at meets
  cases inside : th.began with
  | some began =>
    rw [inside] at meets
    refine progress_set sound ⟨?_, fun _ => ?_⟩
    · simp only [Thread.learn, inside]
      exact meets.2 _
    · simp only [Thread.learn, inside]
      exact relies
  | none =>
    rw [inside] at meets
    refine progress_set sound ⟨?_, fun _ => ?_⟩
    · simp only [Thread.learn, inside]
      exact meets.2.2 _
    · simp only [Thread.learn, inside]
      exact meets.2.1 e _ relies

theorem progress_call (sound : Sound R s) (found : s.threads t = some th) {c : I.Call} {now : I.Time}
    {next : Except E (I.Answer c) → Program I N A} (rest : th.rest = .call c next) (h : s.call t th now c next = some s') :
    Progress R s t s' := by
  obtain ⟨meets, relies⟩ := sound.threads t th found
  have relies : R.relies th.op th.log s.store.committed := relies fun _ done => by cases rest.symm.trans done
  rw [rest] at meets
  unfold System.call at h
  split at h
  · cases h
    exact progress_refused sound found rest
  · rename_i x asked after performed
    obtain ⟨store, written, rfl⟩ := Option.map_eq_some_iff.1 h
    cases inside : th.began with
    | some began =>
      rw [inside] at meets
      simp only [System.write, inside] at written
      simp only [System.view, inside] at performed
      have committed : ∀ k, get k store.committed = get k s.store.committed := Store.exec_committed written
      refine progress_store (R.guarantee_of_rows fun k => (committed k).symm)
        (fun u other => Store.exec_undisturbed written other)
        (Store.exec_relates R.change_trans written (sound.relates t) (meets.1 _ _ x asked after performed)) ⟨?_, fun _ => ?_⟩
      · simp only [Thread.learn, inside]
        exact meets.2 _
      · simp only [Thread.learn, inside]
        exact R.relies_congr (fun k => (committed k).symm) relies
    | none =>
      rw [inside] at meets
      simp only [System.write, inside] at written
      simp only [System.view, inside] at performed
      have kept := meets.1 _ _ x asked after relies performed
      have committed : store.committed = after := Store.autocommit_committed written
      refine progress_store (committed ▸ kept.1) (fun u _ => Store.autocommit_undisturbed written)
        ((Store.autocommit_undisturbed written).relates R.change_same (sound.relates t)) ⟨?_, fun _ => ?_⟩
      · simp only [Thread.learn, inside]
        exact meets.2.2 _
      · simp only [Thread.learn, inside]
        exact committed ▸ kept.2

theorem progress_advance (sound : Sound R s) (found : s.threads t = some th) {now : I.Time}
    (h : s.advance t th now = some s') : Progress R s t s' := by
  obtain ⟨meets, relies⟩ := sound.threads t th found
  unfold System.advance at h
  split at h
  · rename_i c next rest
    exact progress_call sound found rest h
  · rename_i next rest outside
    cases h
    have relies := relies fun _ done => by cases rest.symm.trans done
    rw [rest, outside] at meets
    exact progress_set sound ⟨meets.2.1, fun _ => relies⟩
  · rename_i next began rest inside
    cases h
    have relies := relies fun _ done => by cases rest.symm.trans done
    rw [rest] at meets
    have changes : ∀ k, R.change k (get k s.store.committed) (get k (s.store.commit t).committed) := sound.relates t
    exact progress_store (R.guarantee_of_change changes) (fun u other => Store.commit_undisturbed other)
      (Store.commit_relates R.change_same) ⟨meets.2.2.1, fun _ => meets.2.1 _ _ changes relies⟩
  · rename_i next began rest inside
    cases h
    have relies := relies fun _ done => by cases rest.symm.trans done
    rw [rest] at meets
    exact progress_store (R.guarantee_of_rows fun _ => rfl) (fun u other => Store.abort_undisturbed other)
      (Store.abort_relates R.change_same) ⟨meets.2, fun _ => relies⟩
  · rename_i next rest
    cases h
    have relies := relies fun _ done => by cases rest.symm.trans done
    rw [rest] at meets
    exact progress_set sound ⟨meets, fun _ => relies⟩
  · cases h

theorem progress_failNext (sound : Sound R s) (found : s.threads t = some th) {e : E}
    (h : s.failNext t th e = some s') : Progress R s t s' := by
  obtain ⟨meets, relies⟩ := sound.threads t th found
  unfold System.failNext at h
  split at h
  · rename_i c next rest
    cases h
    exact progress_refused sound found rest
  · rename_i next rest outside
    cases h
    have relies := relies fun _ done => by cases rest.symm.trans done
    rw [rest] at meets
    refine progress_set sound ⟨?_, fun _ => relies⟩
    rw [outside]
    exact meets.2.2 e
  · rename_i next began rest inside
    cases h
    have relies := relies fun _ done => by cases rest.symm.trans done
    rw [rest] at meets
    exact progress_store (R.guarantee_of_rows fun _ => rfl) (fun u other => Store.abort_undisturbed other)
      (Store.abort_relates R.change_same) ⟨meets.2.2.2 e, fun _ => relies⟩
  · cases h

/-- Every step meets the guarantee and moves only its own thread. -/
theorem progress_step (programs : ∀ op, Meets R op (fun _ _ _ => True) (program op) false []) (trusting : ∀ op d, R.relies op [] d)
    (sound : Sound R s) (h : s.step program l = some s') : Progress R s l.thread s' := by
  cases l with
  | start t op =>
    simp only [System.step] at h
    split at h
    · cases h
      exact progress_set sound ⟨programs op, fun _ => trusting op _⟩
    · cases h
  | next t now =>
    obtain ⟨th, found, h⟩ := Option.bind_eq_some_iff.1 h
    exact progress_advance sound found h
  | fail t e =>
    obtain ⟨th, found, h⟩ := Option.bind_eq_some_iff.1 h
    exact progress_failNext sound found h

/-- A considerate step keeps the invariant. -/
theorem sound_step (programs : ∀ op, Meets R op (fun _ _ _ => True) (program op) false []) (trusting : ∀ op d, R.relies op [] d)
    (sound : Sound R s) (considerate : Considerate R program s l) (h : s.step program l = some s') : Sound R s' := by
  have progress := progress_step programs trusting sound h
  constructor
  · intro u
    by_cases own : u = l.thread
    · exact own ▸ progress.relates
    · exact (progress.undisturbed u own).relates R.change_same (sound.relates u)
  · intro u th found
    by_cases own : u = l.thread
    · subst own
      exact progress.own th found
    · have before : s.threads u = some th := (progress.others u own).symm.trans found
      obtain ⟨meets, relies⟩ := sound.threads u th before
      exact ⟨meets, fun running => considerate s' h u th own before running (relies running)⟩

omit [DecidableEq T] in
theorem sound_init (R : Discipline I Op) (d : D) : Sound R (System.init d : System I N A Op T) where
  relates t := Store.relates_of_untouched R.change_same fun k mem => by cases mem
  threads t th absent := by cases absent

/-- **The rule.** In a run of considerate steps every step meets the guarantee. -/
theorem guarantees (programs : ∀ op, Meets R op (fun _ _ _ => True) (program op) false []) (trusting : ∀ op d, R.relies op [] d) {d : D}
    {ls : List (Label I Op T)}
    (guarded : Guarded (System.step program) (Considerate R program) (System.init d) ls)
    (reached : run (System.step program) (System.init d) ls = some s) (h : s.step program l = some s') :
    R.guarantee s.store.committed s'.store.committed := by
  have sound : Sound R s := guarded.run_invariant (Sound R)
    (fun _ _ _ sound considerate => sound_step programs trusting sound considerate) (sound_init R d) reached
  exact (progress_step programs trusting sound h).guarantee

end Rule

end Library.Interleaving
