import Woodgate.Library.ReadCommitted

/-!
# Programs that call a database

A function of a service is a tree of the calls it makes: `Program`. What a call answers
and does is an `Interface`, so one program can be run in several ways. Here it runs alone,
in an environment that may fail any call (`Program.run`).

* `Program.handle` continues with whatever a program returns, an error included; `bind`
  and `throw` are special cases, so programs are written in `do` notation.
* `transaction` begins, runs a body and commits, or rolls back when the body fails.
* `Program.wp` is the weakest precondition of a program in every environment, `wp_run` its
  soundness, and `wp_call`, `wp_handle` and `wp_transaction` its rules.
* `run_within` carries a relation every call respects to the committed rows of a run.
-/

namespace Library

open ReadCommitted RowStore

/-- The calls a service can make. `perform` is a statement on the rows the call sees: it
also returns the answer. -/
structure Interface (D E : Type) [RowStore D] where
  Call : Type
  Answer : Call → Type
  Time : Type
  perform : (now : Time) → (c : Call) → D → Except E (Answer c × List (Key D × LockMode) × D)

/-- A function that makes calls, gives notices of type `N` and returns an `A`. -/
inductive Program {D E : Type} [RowStore D] (I : Interface D E) (N A : Type) where
  | done (result : Except E A)
  | call (c : I.Call) (next : Except E (I.Answer c) → Program I N A)
  | begin (next : Except E Unit → Program I N A)
  | commit (next : Except E Unit → Program I N A)
  | rollback (next : Program I N A)
  | notify (n : N) (next : Program I N A)

namespace Program

variable {D E : Type} [RowStore D] {I : Interface D E} {N A B : Type}

section Compose

/-- Continue with what the program returns. -/
def handle : Program I N A → (Except E A → Program I N B) → Program I N B
  | .done result, f => f result
  | .call c next, f => .call c fun x => (next x).handle f
  | .begin next, f => .begin fun x => (next x).handle f
  | .commit next, f => .commit fun x => (next x).handle f
  | .rollback next, f => .rollback (next.handle f)
  | .notify n next, f => .notify n (next.handle f)

/-- Continue with the value, and return an error as it is. -/
def onSuccess (f : A → Program I N B) : Except E A → Program I N B
  | .ok a => f a
  | .error e => .done (.error e)

/-- Return the value, and continue with an error. -/
def onError (f : E → Program I N A) : Except E A → Program I N A
  | .ok a => .done (.ok a)
  | .error e => f e

instance : Monad (Program I N) where
  pure a := .done (.ok a)
  bind p f := p.handle (onSuccess f)

instance : MonadExcept E (Program I N) where
  throw e := .done (.error e)
  tryCatch p f := p.handle (onError f)

/-- Make one call. -/
def send (c : I.Call) : Program I N (I.Answer c) := .call c .done

/-- Give one notice. -/
def announce (n : N) : Program I N Unit := .notify n (.done (.ok ()))

/-- A computation without calls. -/
def lift (result : Except E A) : Program I N A := .done result

/-- Commit, and return `a`. -/
def finish (a : A) : Program I N A := .commit (onSuccess fun _ => .done (.ok a))

/-- `pgx.BeginFunc` -/
def transaction (body : Program I N A) : Program I N A :=
  .begin (onSuccess fun _ => body.handle fun
    | .ok a => finish a
    | .error e => .rollback (.done (.error e)))

end Compose

end Program

/-- The rows, those of the open transaction with its `now()`, the number of calls so far,
the notices given, and what the environment has made fail with the rows at that time:
a call, or the begin or commit of a transaction. -/
structure World {D E : Type} [RowStore D] (I : Interface D E) (N : Type) where
  db : D
  work : Option (I.Time × D) := none
  calls : Nat := 0
  notices : List N := []
  faults : List (D × Option I.Call) := []

/-- Which calls fail, counted from the first one on, and the clock at each call. -/
structure Environment {D E : Type} [RowStore D] (I : Interface D E) where
  fault : Nat → Option E
  now : Nat → I.Time

namespace World

variable {D E : Type} [RowStore D] {I : Interface D E} {N : Type}

/-- The rows a call sees. -/
def view (w : World I N) : D := (w.work.map Prod.snd).getD w.db

/-- `now()`, when the clock says `now`: inside a transaction, the time it began. -/
def clock (w : World I N) (now : I.Time) : I.Time := (w.work.map Prod.fst).getD now

/-- One more call is made. -/
def tick (w : World I N) : World I N := { w with calls := w.calls + 1 }

/-- The environment makes it fail. -/
def failing (w : World I N) (c : Option I.Call) : World I N := { w.tick with faults := (w.db, c) :: w.faults }

/-- The rows after a call. -/
def apply (w : World I N) (after : D) : World I N :=
  match w.work with
  | none => { w with db := after }
  | some (now, _) => { w with db := carry after w.db, work := some (now, after) }

theorem view_idle {w : World I N} (idle : w.work = none) : w.view = w.db := by
  simp [view, idle]

theorem apply_idle {w : World I N} (idle : w.work = none) (after : D) : w.apply after = { w with db := after } := by
  unfold apply
  split
  · rfl
  · rename_i inside
    cases idle.symm.trans inside

/-- A call, in an environment. -/
def request (w : World I N) (env : Environment I) (c : I.Call) : Except E (I.Answer c) × World I N :=
  match env.fault w.calls with
  | some e => (.error e, w.failing (some c))
  | none =>
    match I.perform (w.clock (env.now w.calls)) c w.view with
    | .error e => (.error e, w.tick)
    | .ok (x, _, after) => (.ok x, (w.apply after).tick)

def beginTransaction (w : World I N) (env : Environment I) : Except E Unit × World I N :=
  match env.fault w.calls with
  | some e => (.error e, w.failing none)
  | none => (.ok (), { w.tick with work := some (env.now w.calls, w.db) })

/-- A commit that fails leaves nothing of its transaction. -/
def commitTransaction (w : World I N) (env : Environment I) : Except E Unit × World I N :=
  match env.fault w.calls with
  | some e => (.error e, { w.failing none with work := none })
  | none => (.ok (), { w.tick with db := w.view, work := none })

def rollbackTransaction (w : World I N) : World I N := { w.tick with work := none }

/-- The environment makes a call fail, the call is refused, or it does what `perform` says. -/
theorem request_cases (w : World I N) (env : Environment I) (c : I.Call) :
    (∃ e, w.request env c = (.error e, w.failing (some c))) ∨
      (∃ now e, I.perform (w.clock now) c w.view = .error e ∧ w.request env c = (.error e, w.tick)) ∨
      ∃ now x asked after, I.perform (w.clock now) c w.view = .ok (x, asked, after) ∧
        w.request env c = (.ok x, (w.apply after).tick) := by
  unfold request
  split
  · exact .inl ⟨_, rfl⟩
  · split
    · rename_i refused
      exact .inr (.inl ⟨_, _, refused, rfl⟩)
    · rename_i performed
      exact .inr (.inr ⟨_, _, _, _, performed, rfl⟩)

end World

namespace Program

variable {D E : Type} [RowStore D] {I : Interface D E} {N A B : Type}

/-- The program, alone in an environment. -/
def run (env : Environment I) : Program I N A → World I N → Except E A × World I N
  | .done result, w => (result, w)
  | .call c next, w => run env (next (w.request env c).1) (w.request env c).2
  | .begin next, w => run env (next (w.beginTransaction env).1) (w.beginTransaction env).2
  | .commit next, w => run env (next (w.commitTransaction env).1) (w.commitTransaction env).2
  | .rollback next, w => run env next w.rollbackTransaction
  | .notify n next, w => run env next { w with notices := w.notices ++ [n] }

/-- First the program, then what is made of its result. -/
theorem run_handle (env : Environment I) (p : Program I N A) (f : Except E A → Program I N B) (w : World I N) :
    run env (p.handle f) w = run env (f (run env p w).1) (run env p w).2 := by
  induction p generalizing w with
  | done => rfl
  | call c next ih => exact ih _ _
  | begin next ih => exact ih _ _
  | commit next ih => exact ih _ _
  | rollback next ih => exact ih _
  | notify n next ih => exact ih _

theorem run_bind_ok {env : Environment I} {p : Program I N A} {f : A → Program I N B} {w w' : World I N} {a : A}
    (first : run env p w = (.ok a, w')) : run env (p >>= f) w = run env (f a) w' := by
  show run env (p.handle (onSuccess f)) w = _
  rw [run_handle, first]
  rfl

theorem run_bind_error {env : Environment I} {p : Program I N A} {f : A → Program I N B} {w w' : World I N} {e : E}
    (first : run env p w = (.error e, w')) : run env (p >>= f) w = (.error e, w') := by
  show run env (p.handle (onSuccess f)) w = _
  rw [run_handle, first]
  rfl

/-- What a program meets in every environment, one that may change at each call included. -/
def wp (Q : Except E A → World I N → Prop) : Program I N A → World I N → Prop
  | .done result, w => Q result w
  | .call c next, w => ∀ env, wp Q (next (w.request env c).1) (w.request env c).2
  | .begin next, w => ∀ env, wp Q (next (w.beginTransaction env).1) (w.beginTransaction env).2
  | .commit next, w => ∀ env, wp Q (next (w.commitTransaction env).1) (w.commitTransaction env).2
  | .rollback next, w => wp Q next w.rollbackTransaction
  | .notify n next, w => wp Q next { w with notices := w.notices ++ [n] }

section Rules

variable {Q : Except E A → World I N → Prop}

/-- **Soundness.** -/
theorem wp_run (env : Environment I) {p : Program I N A} {w : World I N} (h : wp Q p w) :
    Q (run env p w).1 (run env p w).2 := by
  induction p generalizing w with
  | done => exact h
  | call c next ih => exact ih _ (h env)
  | begin next ih => exact ih _ (h env)
  | commit next ih => exact ih _ (h env)
  | rollback next ih => exact ih h
  | notify n next ih => exact ih h

theorem wp_mono {Q' : Except E A → World I N → Prop} (weaker : ∀ r w, Q r w → Q' r w) {p : Program I N A}
    {w : World I N} (h : wp Q p w) : wp Q' p w := by
  induction p generalizing w with
  | done => exact weaker _ _ h
  | call c next ih => exact fun env => ih _ (h env)
  | begin next ih => exact fun env => ih _ (h env)
  | commit next ih => exact fun env => ih _ (h env)
  | rollback next ih => exact ih h
  | notify n next ih => exact ih h

theorem wp_handle {R : Except E B → World I N → Prop} {p : Program I N A} {f : Except E A → Program I N B}
    {w : World I N} (h : wp (fun r w' => wp R (f r) w') p w) : wp R (p.handle f) w := by
  induction p generalizing w with
  | done => exact h
  | call c next ih => exact fun env => ih _ (h env)
  | begin next ih => exact fun env => ih _ (h env)
  | commit next ih => exact fun env => ih _ (h env)
  | rollback next ih => exact ih h
  | notify n next ih => exact ih h

theorem wp_bind {R : Except E B → World I N → Prop} {p : Program I N A} {f : A → Program I N B} {w : World I N}
    (h : wp (fun r w' => wp R (onSuccess f r) w') p w) : wp R (p >>= f) w :=
  wp_handle h

/-- The three ways a call can go. -/
theorem wp_call {c : I.Call} {next : Except E (I.Answer c) → Program I N A} {w : World I N}
    (fails : ∀ e, wp Q (next (.error e)) (w.failing (some c)))
    (refuses : ∀ now e, I.perform (w.clock now) c w.view = .error e → wp Q (next (.error e)) w.tick)
    (succeeds : ∀ now x asked after, I.perform (w.clock now) c w.view = .ok (x, asked, after) →
      wp Q (next (.ok x)) (w.apply after).tick) : wp Q (.call c next) w := by
  intro env
  rcases w.request_cases env c with ⟨e, failed⟩ | ⟨now, e, refused, answered⟩ | ⟨now, x, asked, after, performed, answered⟩
  · rw [failed]
    exact fails e
  · rw [answered]
    exact refuses now e refused
  · rw [answered]
    exact succeeds now x asked after performed

/-- A computation without calls, and what comes next. -/
theorem wp_lift_bind {R : Except E B → World I N → Prop} {result : Except E A} {f : A → Program I N B} {w : World I N}
    (fails : ∀ e, result = .error e → R (.error e) w) (rest : ∀ a, result = .ok a → wp R (f a) w) :
    wp R (lift result >>= f) w := by
  apply wp_bind
  cases result with
  | error e => exact fails e rfl
  | ok a => exact rest a rfl

end Rules

section Plain

/-- The program only makes calls, and only those that meet `P`. -/
def Plain (P : I.Call → Prop) : Program I N A → Prop
  | .done _ => True
  | .call c next => P c ∧ ∀ x, (next x).Plain P
  | _ => False

variable {P : I.Call → Prop}

theorem Plain.handle {p : Program I N A} {f : Except E A → Program I N B} (plain : p.Plain P)
    (rest : ∀ r, (f r).Plain P) : (p.handle f).Plain P := by
  induction p with
  | done => exact rest _
  | call c next ih => exact ⟨plain.1, fun x => ih x (plain.2 x)⟩
  | begin | commit | rollback | notify => exact plain.elim

theorem Plain.bind {p : Program I N A} {f : A → Program I N B} (plain : p.Plain P) (rest : ∀ a, (f a).Plain P) :
    (p >>= f).Plain P := by
  refine plain.handle fun r => ?_
  cases r with
  | error e => trivial
  | ok a => exact rest a

theorem Plain.send {c : I.Call} (meets : P c) : (send c : Program I N _).Plain P := ⟨meets, fun _ => trivial⟩

theorem Plain.mono {P' : I.Call → Prop} (weaker : ∀ c, P c → P' c) {p : Program I N A} (plain : p.Plain P) : p.Plain P' := by
  induction p with
  | done => trivial
  | call c next ih => exact ⟨weaker c plain.1, fun x => ih x (plain.2 x)⟩
  | begin | commit | rollback | notify => exact plain.elim

/-- Outside a transaction: what every call does to the rows, the program does, and has done
whenever one of its calls fails. -/
theorem wp_plain (R : D → D → Prop) (same : ∀ d, R d d) (trans : ∀ {a b c}, R a b → R b c → R a c)
    (keeps : ∀ c, P c → ∀ now d x asked after, I.perform now c d = .ok (x, asked, after) → R d after)
    {p : Program I N A} (plain : p.Plain P) {w : World I N} (idle : w.work = none) :
    wp (fun _ w' => w'.work = none ∧ w'.notices = w.notices ∧ R w.db w'.db ∧
      ∀ f ∈ w'.faults, f ∈ w.faults ∨ R w.db f.1) p w := by
  induction p generalizing w with
  | done => exact ⟨idle, rfl, same _, fun f mem => .inl mem⟩
  | call c next ih =>
    apply wp_call
    · intro e
      apply wp_mono _ (ih (.error e) (plain.2 _) (w := w.failing (some c)) idle)
      rintro r w' ⟨idle', notices, rest, faults⟩
      refine ⟨idle', notices, rest, fun f mem => ?_⟩
      rcases faults f mem with old | later
      · rcases List.mem_cons.1 old with rfl | old
        · exact .inr (same _)
        · exact .inl old
      · exact .inr later
    · intro now e _
      exact ih (.error e) (plain.2 _) (w := w.tick) idle
    · intro now x asked after performed
      rw [World.view_idle idle] at performed
      rw [World.apply_idle idle]
      have first : R w.db after := keeps c plain.1 _ _ x asked after performed
      apply wp_mono _ (ih (.ok x) (plain.2 _) (w := World.tick { w with db := after }) idle)
      rintro r w' ⟨idle', notices, rest, faults⟩
      exact ⟨idle', notices, trans first rest, fun f mem => (faults f mem).imp_right (trans first)⟩
  | begin | commit | rollback | notify => exact plain.elim

/-- The program may return `a` and turn the rows `d` into `d'`, in a transaction that began
at `now`. -/
def Yields (now : I.Time) (a : A) (d' : D) : Program I N A → D → Prop
  | .done result, d => result = .ok a ∧ d' = d
  | .call c next, d => (∃ e, (next (.error e)).Yields now a d' d) ∨
      ∃ x asked after, I.perform now c d = .ok (x, asked, after) ∧ (next (.ok x)).Yields now a d' after
  | _, _ => False

theorem Yields.bind {now : I.Time} {p : Program I N A} {f : A → Program I N B} {b : B} {d d' : D}
    (h : (p >>= f).Yields now b d' d) : ∃ a mid, p.Yields now a mid d ∧ (f a).Yields now b d' mid := by
  change (p.handle (onSuccess f)).Yields now b d' d at h
  induction p generalizing d with
  | done result =>
    cases result with
    | error e => cases h.1
    | ok a => exact ⟨a, d, ⟨rfl, rfl⟩, h⟩
  | call c next ih =>
    rcases h with ⟨e, later⟩ | ⟨x, asked, after, performed, later⟩
    · obtain ⟨a, mid, first, rest⟩ := ih _ later
      exact ⟨a, mid, .inl ⟨e, first⟩, rest⟩
    · obtain ⟨a, mid, first, rest⟩ := ih _ later
      exact ⟨a, mid, .inr ⟨x, asked, after, performed, first⟩, rest⟩
  | begin | commit | rollback | notify => exact h.elim

theorem Yields.lift {now : I.Time} {result : Except E A} {a : A} {d d' : D}
    (h : (lift result : Program I N A).Yields now a d' d) : result = .ok a ∧ d' = d := h

theorem Yields.pure {now : I.Time} {a b : A} {d d' : D} (h : (pure b : Program I N A).Yields now a d' d) : b = a ∧ d' = d :=
  ⟨Except.ok.inj h.1, h.2⟩

theorem Yields.send {now : I.Time} {c : I.Call} {x : I.Answer c} {d d' : D}
    (h : (send c : Program I N _).Yields now x d' d) : ∃ asked, I.perform now c d = .ok (x, asked, d') := by
  rcases h with ⟨e, failed⟩ | ⟨y, asked, after, performed, returned⟩
  · cases failed.1
  · cases returned.1
    rw [returned.2]
    exact ⟨asked, performed⟩

/-- What every call does to the rows, the program does. -/
theorem Yields.relates (R : D → D → Prop) (same : ∀ d, R d d) (trans : ∀ {a b c}, R a b → R b c → R a c)
    (keeps : ∀ c, P c → ∀ now d x asked after, I.perform now c d = .ok (x, asked, after) → R d after)
    {now : I.Time} {p : Program I N A} (plain : p.Plain P) {a : A} {d d' : D} (h : p.Yields now a d' d) : R d d' := by
  induction p generalizing d with
  | done =>
    rw [h.2]
    exact same d
  | call c next ih =>
    rcases h with ⟨e, later⟩ | ⟨x, asked, after, performed, later⟩
    · exact ih _ (plain.2 _) later
    · exact trans (keeps c plain.1 now d x asked after performed) (ih _ (plain.2 _) later)
  | begin | commit | rollback | notify => exact h.elim

/-- The rows outside the open transaction are those of `w`, now and whenever a call failed. -/
structure Suspended (w w' : World I N) : Prop where
  rows : ∀ k, get k w'.db = get k w.db
  notices : w'.notices = w.notices
  faults : ∀ f ∈ w'.faults, f ∈ w.faults ∨ ∀ k, get k f.1 = get k w.db

theorem Suspended.trans {a b c : World I N} (first : Suspended a b) (second : Suspended b c) : Suspended a c where
  rows k := (second.rows k).trans (first.rows k)
  notices := second.notices.trans first.notices
  faults f mem := by
    rcases second.faults f mem with old | rows
    · exact first.faults f old
    · exact .inr fun k => (rows k).trans (first.rows k)

theorem Suspended.failing (w : World I N) (c : Option I.Call) : Suspended w (w.failing c) where
  rows _ := rfl
  notices := rfl
  faults f mem := by
    rcases List.mem_cons.1 mem with rfl | old
    · exact .inr fun _ => rfl
    · exact .inl old

/-- Inside a transaction. -/
theorem wp_inside {p : Program I N A} (plain : p.Plain P) {w : World I N} {now : I.Time} {d : D}
    (inside : w.work = some (now, d)) :
    wp (fun r w' => Suspended w w' ∧ ∃ d', w'.work = some (now, d') ∧ ∀ a, r = .ok a → p.Yields now a d' d) p w := by
  induction p generalizing w d with
  | done => exact ⟨⟨fun _ => rfl, rfl, fun f mem => .inl mem⟩, d, inside, fun a returned => ⟨returned, rfl⟩⟩
  | call c next ih =>
    apply wp_call
    · intro e
      apply wp_mono _ (ih (.error e) (plain.2 _) (w := w.failing (some c)) inside)
      rintro r w' ⟨suspended, d', work, yields⟩
      exact ⟨(Suspended.failing w _).trans suspended, d', work, fun a returned => .inl ⟨e, yields a returned⟩⟩
    · intro _ e _
      apply wp_mono _ (ih (.error e) (plain.2 _) (w := w.tick) inside)
      rintro r w' ⟨suspended, d', work, yields⟩
      exact ⟨⟨suspended.rows, suspended.notices, suspended.faults⟩, d', work, fun a returned => .inl ⟨e, yields a returned⟩⟩
    · intro now' x asked after performed
      have sees : w.view = d := by simp [World.view, inside]
      have clock : w.clock now' = now := by simp [World.clock, inside]
      have stored : w.apply after = { w with db := carry after w.db, work := some (now, after) } := by
        simp [World.apply, inside]
      have carried : Suspended w (World.tick { w with db := carry after w.db, work := some (now, after) }) :=
        ⟨fun k => get_carry k _ _, rfl, fun f mem => .inl mem⟩
      rw [sees, clock] at performed
      rw [stored]
      apply wp_mono _ (ih (.ok x) (plain.2 _) rfl)
      rintro r w' ⟨suspended, d', work, yields⟩
      exact ⟨carried.trans suspended, d', work, fun a returned => .inr ⟨x, asked, after, performed, yields a returned⟩⟩
  | begin | commit | rollback | notify => exact plain.elim

/-- **A transaction**: it returns an error and leaves the rows, or it commits what its body
yields. Whatever fails in it fails before the commit. -/
theorem wp_transaction {body : Program I N A} (plain : body.Plain P) {w : World I N} (idle : w.work = none) :
    wp (fun r w' => w'.work = none ∧ ((∃ e, r = .error e ∧ Suspended w w') ∨
      ∃ a now before, r = .ok a ∧ Suspended w before ∧ w' = { before with db := w'.db, work := none, calls := w'.calls } ∧
        body.Yields now a w'.db w.db)) (transaction body) w := by
  intro env
  unfold World.beginTransaction
  split
  · exact ⟨idle, .inl ⟨_, rfl, Suspended.failing w none⟩⟩
  · apply wp_handle
    apply wp_mono _ (wp_inside plain (w := { w.tick with work := some (env.now w.calls, w.db) }) rfl)
    rintro r w' ⟨suspended, d', work, yields⟩
    have suspended : Suspended w w' := ⟨suspended.rows, suspended.notices, suspended.faults⟩
    cases r with
    | error e => exact ⟨rfl, .inl ⟨e, rfl, ⟨suspended.rows, suspended.notices, suspended.faults⟩⟩⟩
    | ok a =>
      intro env'
      unfold World.commitTransaction
      split
      · have failed := suspended.trans (Suspended.failing w' none)
        exact ⟨rfl, .inl ⟨_, rfl, ⟨failed.rows, failed.notices, failed.faults⟩⟩⟩
      · have written : w'.view = d' := by simp [World.view, work]
        exact ⟨rfl, .inr ⟨a, env.now w.calls, w', rfl, suspended, rfl, written.symm ▸ yields a rfl⟩⟩

end Plain

section Calm

/-- What a program that only makes calls comes to when none of them fails: its result and the
rows, in a transaction that began at `now`. -/
def comesTo (now : I.Time) : Program I N A → D → Option (Except E A × D)
  | .done result, d => some (result, d)
  | .call c next, d =>
    match I.perform now c d with
    | .error e => (next (.error e)).comesTo now d
    | .ok (x, _, after) => (next (.ok x)).comesTo now after
  | _, _ => none

theorem comesTo_send {now : I.Time} {c : I.Call} {d : D} : (send c : Program I N (I.Answer c)).comesTo now d =
    match I.perform now c d with
    | .error e => some (.error e, d)
    | .ok (x, _, after) => some (.ok x, after) := by
  rw [send, comesTo]
  cases I.perform now c d <;> rfl

/-- One call, and what comes next. -/
theorem comesTo_send_bind {now : I.Time} {c : I.Call} {f : I.Answer c → Program I N A} {d : D} :
    (send c >>= f).comesTo now d = match I.perform now c d with
      | .error e => some (.error e, d)
      | .ok (x, _, after) => (f x).comesTo now after := by
  show comesTo now (.call c fun x => (Program.done x).handle (onSuccess f)) d = _
  rw [comesTo]
  cases I.perform now c d <;> rfl

theorem comesTo_handle {now : I.Time} {p : Program I N A} {f : Except E A → Program I N B} {d d' : D} {result : Except E A}
    (h : p.comesTo now d = some (result, d')) : (p.handle f).comesTo now d = (f result).comesTo now d' := by
  induction p generalizing d with
  | done =>
    cases h
    rfl
  | call c next ih =>
    rw [handle, comesTo]
    rw [comesTo] at h
    split at h
    · exact ih _ h
    · exact ih _ h
  | begin | commit | rollback | notify => cases h

/-- The program sends just these statements: it ends with the rows they leave, or with the
error of the one that fails. -/
def Sends (now : I.Time) (p : Program I N A) (statements : List (Statement D E)) : Prop :=
  ∀ d, (∀ d', runStatements statements d = .ok d' → ∃ a, p.comesTo now d = some (.ok a, d')) ∧
    ∀ e, runStatements statements d = .error e → ∃ d', p.comesTo now d = some (.error e, d')

theorem Sends.pure (now : I.Time) (a : A) : Sends now (Pure.pure a : Program I N A) [] := by
  intro d
  constructor
  · intro d' ran
    cases ran
    exact ⟨a, rfl⟩
  · intro e ran
    cases ran

theorem Sends.one {now : I.Time} {p : Program I N A} {statement : Statement D E}
    (ok : ∀ d asked d', statement d = .ok (asked, d') → ∃ a, p.comesTo now d = some (.ok a, d'))
    (error : ∀ d e, statement d = .error e → ∃ d', p.comesTo now d = some (.error e, d')) : Sends now p [statement] := by
  intro d
  constructor
  · intro d' ran
    obtain ⟨asked, next, sent, rest⟩ := runStatements_cons_ok.1 ran
    cases rest
    exact ok d asked _ sent
  · intro e ran
    obtain failed | ⟨_, _, rest⟩ := Results.bind_error.1 ran
    · exact error d e failed
    · cases rest

theorem Sends.bind {now : I.Time} {p : Program I N A} {f : A → Program I N B} {statements rest : List (Statement D E)}
    (first : Sends now p statements) (later : ∀ a, Sends now (f a) rest) : Sends now (p >>= f) (statements ++ rest) := by
  intro d
  constructor
  · intro d' ran
    obtain ⟨mid, before, after⟩ := runStatements_append_ok.1 ran
    obtain ⟨a, comes⟩ := (first d).1 mid before
    obtain ⟨b, ends⟩ := (later a mid).1 d' after
    exact ⟨b, (comesTo_handle comes).trans ends⟩
  · intro e ran
    cases before : runStatements statements d with
    | error e' =>
      obtain ⟨mid, comes⟩ := (first d).2 e' before
      rw [runStatements_append, before] at ran
      cases ran
      exact ⟨mid, comesTo_handle comes⟩
    | ok mid =>
      rw [runStatements_append, before] at ran
      obtain ⟨a, comes⟩ := (first d).1 mid before
      obtain ⟨d', ends⟩ := (later a mid).2 e ran
      exact ⟨d', (comesTo_handle comes).trans ends⟩

variable {env : Environment I} (calm : ∀ n, env.fault n = none)

include calm

theorem run_inside_calm {p : Program I N A} {w : World I N} {now : I.Time} {d d' : D} {result : Except E A}
    (inside : w.work = some (now, d)) (h : p.comesTo now d = some (result, d')) :
    ∃ w', run env p w = (result, w') ∧ w'.work = some (now, d') ∧ ∀ k, get k w'.db = get k w.db := by
  induction p generalizing w d with
  | done =>
    cases h
    exact ⟨w, rfl, inside, fun _ => rfl⟩
  | call c next ih =>
    have sees : w.view = d := by simp [World.view, inside]
    have clock : w.clock (env.now w.calls) = now := by simp [World.clock, inside]
    rw [comesTo] at h
    simp only [run, World.request, calm, sees, clock]
    split at h
    · exact ih _ (w := w.tick) inside h
    · rename_i x asked after performed
      have stored : w.apply after = { w with db := carry after w.db, work := some (now, after) } := by
        simp [World.apply, inside]
      obtain ⟨w', ran, work, rows⟩ := ih _ (w := (w.apply after).tick) (by rw [stored]; rfl) h
      refine ⟨w', ran, work, fun k => (rows k).trans ?_⟩
      rw [stored]
      exact get_carry k _ _
  | begin | commit | rollback | notify => cases h

/-- **A transaction when nothing fails** and nobody else is there: what its body leaves is
committed, unless the body returns an error. -/
theorem run_transaction_calm {body : Program I N A} {w : World I N} {d' : D} {result : Except E A}
    (h : body.comesTo (env.now w.calls) w.db = some (result, d')) :
    (run env (transaction body) w).1 = result ∧ (run env (transaction body) w).2.work = none ∧
      (∀ e, result = .error e → ∀ k, get k (run env (transaction body) w).2.db = get k w.db) ∧
      ∀ a, result = .ok a → (run env (transaction body) w).2.db = d' := by
  obtain ⟨w', ran, work, rows⟩ :=
    run_inside_calm calm (w := { w.tick with work := some (env.now w.calls, w.db) }) rfl h
  cases result with
  | error e =>
    have ended : run env (transaction body) w = (.error e, w'.rollbackTransaction) := by
      simp only [transaction, run, World.beginTransaction, calm]
      show run env (body.handle _) _ = _
      rw [run_handle, ran]
      rfl
    rw [ended]
    exact ⟨rfl, rfl, fun _ _ => rows, nofun⟩
  | ok a =>
    have ended : run env (transaction body) w = (.ok a, { w'.tick with db := w'.view, work := none }) := by
      simp only [transaction, run, World.beginTransaction, calm]
      show run env (body.handle _) _ = _
      rw [run_handle, ran]
      simp only [finish, run, World.commitTransaction, calm, onSuccess]
    have written : w'.view = d' := by simp [World.view, work]
    rw [ended]
    exact ⟨rfl, rfl, nofun, fun _ _ => written⟩

end Calm

section Within

/-- Every call of the program meets `P`, inside its transactions and outside. -/
def Within (P : I.Call → Prop) : Program I N A → Prop
  | .done _ => True
  | .call c next => P c ∧ ∀ x, (next x).Within P
  | .begin next | .commit next => ∀ x, (next x).Within P
  | .rollback next | .notify _ next => next.Within P

variable {P : I.Call → Prop}

theorem Plain.within {p : Program I N A} (plain : p.Plain P) : p.Within P := by
  induction p with
  | done => trivial
  | call c next ih => exact ⟨plain.1, fun x => ih x (plain.2 x)⟩
  | begin | commit | rollback | notify => exact plain.elim

theorem Within.mono {P' : I.Call → Prop} (weaker : ∀ c, P c → P' c) {p : Program I N A} (within : p.Within P) :
    p.Within P' := by
  induction p with
  | done => trivial
  | call c next ih => exact ⟨weaker c within.1, fun x => ih x (within.2 x)⟩
  | begin next ih => exact fun x => ih x (within x)
  | commit next ih => exact fun x => ih x (within x)
  | rollback next ih => exact ih within
  | notify n next ih => exact ih within

theorem Within.handle {p : Program I N A} {f : Except E A → Program I N B} (within : p.Within P)
    (rest : ∀ r, (f r).Within P) : (p.handle f).Within P := by
  induction p with
  | done => exact rest _
  | call c next ih => exact ⟨within.1, fun x => ih x (within.2 x)⟩
  | begin next ih => exact fun x => ih x (within x)
  | commit next ih => exact fun x => ih x (within x)
  | rollback next ih => exact ih within
  | notify n next ih => exact ih within

theorem Within.bind {p : Program I N A} {f : A → Program I N B} (within : p.Within P) (rest : ∀ a, (f a).Within P) :
    (p >>= f).Within P := by
  refine within.handle fun r => ?_
  cases r with
  | error e => trivial
  | ok a => exact rest a

theorem Within.transaction {body : Program I N A} (within : body.Within P) : (transaction body).Within P := by
  intro begun
  cases begun with
  | error e => trivial
  | ok _ =>
    refine within.handle fun r => ?_
    cases r with
    | error e => trivial
    | ok a =>
      intro committed
      cases committed <;> trivial

/-- What every call does to the rows it sees, the program does to the committed rows, also from inside a transaction. -/
theorem run_relates (R : D → D → Prop) (trans : ∀ {a b c}, R a b → R b c → R a c)
    (carries : ∀ {a b} c, R a b → R a (carry c b))
    (keeps : ∀ c, P c → ∀ now d x asked after, I.perform now c d = .ok (x, asked, after) → R d after)
    (env : Environment I) {p : Program I N A} (within : p.Within P) {d : D} {w : World I N} (rows : R d w.db)
    (work : ∀ now rows, w.work = some (now, rows) → R d rows) : R d (run env p w).2.db := by
  induction p generalizing w with
  | done => exact rows
  | call c next ih =>
    refine ih _ (within.2 _) ?_ ?_
    all_goals
      rcases w.request_cases env c with ⟨e, failed⟩ | ⟨now, e, _, answered⟩ | ⟨now, x, asked, after, performed, answered⟩
    · rw [failed]
      exact rows
    · rw [answered]
      exact rows
    · rw [answered]
      cases inside : w.work with
      | none =>
        rw [World.view_idle inside] at performed
        rw [World.apply_idle inside]
        exact trans rows (keeps c within.1 _ _ _ _ _ performed)
      | some transaction =>
        simp only [World.apply, inside]
        exact carries _ rows
    · rw [failed]
      exact work
    · rw [answered]
      exact work
    · rw [answered]
      intro began seen open_
      cases inside : w.work with
      | none =>
        rw [World.apply_idle inside] at open_
        exact absurd (inside.symm.trans open_) nofun
      | some transaction =>
        simp only [World.apply, inside, World.tick, Option.some.injEq, Prod.mk.injEq] at open_
        have sees : w.view = transaction.2 := by simp [World.view, inside]
        rw [sees] at performed
        rw [← open_.2]
        exact trans (work _ _ inside) (keeps c within.1 _ _ _ _ _ performed)
  | begin next ih =>
    refine ih _ (within _) ?_ ?_
    all_goals
      unfold World.beginTransaction
      split
    · exact rows
    · exact rows
    · exact work
    · intro began seen open_
      cases open_
      exact rows
  | commit next ih =>
    refine ih _ (within _) ?_ ?_
    all_goals
      unfold World.commitTransaction
      split
    · exact rows
    · show R d w.view
      cases inside : w.work with
      | none =>
        rw [World.view_idle inside]
        exact rows
      | some transaction =>
        have sees : w.view = transaction.2 := by simp [World.view, inside]
        rw [sees]
        exact work _ _ inside
    · exact nofun
    · exact nofun
  | rollback next ih => exact ih within rows nofun
  | notify n next ih => exact ih within rows work

theorem run_within (R : D → D → Prop) (same : ∀ d, R d d) (trans : ∀ {a b c}, R a b → R b c → R a c)
    (carries : ∀ {a b} c, R a b → R a (carry c b))
    (keeps : ∀ c, P c → ∀ now d x asked after, I.perform now c d = .ok (x, asked, after) → R d after)
    (env : Environment I) {p : Program I N A} (within : p.Within P) {w : World I N} (idle : w.work = none) :
    R w.db (run env p w).2.db := by
  refine run_relates R trans carries keeps env within (same w.db) fun now rows inside => ?_
  rw [idle] at inside
  cases inside

end Within

end Program

end Library
