import Woodgate.Library.Results
import Woodgate.Library.Table

/-!
# `INSERT ... ON CONFLICT (key) DO UPDATE`

A list of proposed rows is applied to a table one by one: a proposed row whose natural
key a stored row has updates that row in place, any other is inserted at the next primary
key. `Applied` is what the whole statement does to each row of the table, as long as no
key is proposed twice: it does not depend on the order of the proposed rows, save for the
primary keys the inserted rows get.
-/

namespace Library

open Results

/-- How proposed rows `P` meet stored rows `V`. A stored row may have no natural key. -/
structure Upsert (K V P κ : Type) where
  key : V → Option κ
  keyOf : P → κ
  /-- the primary key of the n-th proposed row, should it be inserted -/
  fresh : Nat → K
  insert : Nat → P → V
  update : V → P → V
  insert_key : ∀ n p, key (insert n p) = some (keyOf p)
  update_key : ∀ v p, key v = some (keyOf p) → key (update v p) = some (keyOf p)

namespace Upsert

variable {K V P κ E : Type} [DecidableEq K] [DecidableEq κ]

/-- The stored row that `p` conflicts with. -/
def conflict (q : Upsert K V P κ) (t : Table K V) (p : P) : Option (K × V) :=
  t.lookup? fun _ v => decide (q.key v = some (q.keyOf p))

/-- Apply the n-th proposed row. `check` holds the constraints of the table, `duplicate` is
the error of a primary key in use. -/
def applyRow (q : Upsert K V P κ) (check : Table K V → K → V → Except E Unit) (duplicate : E) (t : Table K V) (n : Nat)
    (p : P) : Except E (Table K V) :=
  match q.conflict t p with
  | some (k, old) => do
    check t k (q.update old p)
    .ok (t.set k (q.update old p))
  | none =>
    if (t.row (q.fresh n)).isSome then .error duplicate
    else do
      check t (q.fresh n) (q.insert n p)
      .ok (t.set (q.fresh n) (q.insert n p))

def applyRows (q : Upsert K V P κ) (check : Table K V → K → V → Except E Unit) (duplicate : E) (t : Table K V) (n : Nat) :
    List P → Except E (Table K V)
  | [] => .ok t
  | p :: ps => do applyRows q check duplicate (← q.applyRow check duplicate t n p) (n + 1) ps

/-- What the rows `ps`, numbered from `n`, turn `t` into. -/
structure Applied (q : Upsert K V P κ) (t : Table K V) (n : Nat) (ps : List P) (t' : Table K V) : Prop where
  kept : ∀ k v, t.row k = some v → (∀ p ∈ ps, q.key v ≠ some (q.keyOf p)) → t'.row k = some v
  updated : ∀ k v p, p ∈ ps → t.row k = some v → q.key v = some (q.keyOf p) → t'.row k = some (q.update v p)
  inserted : ∀ k v, t.row k = none → t'.row k = some v →
    ∃ p ∈ ps, ∃ m, n ≤ m ∧ m < n + ps.length ∧ k = q.fresh m ∧ v = q.insert m p ∧
      ∀ j w, t.row j = some w → q.key w ≠ some (q.keyOf p)
  present : ∀ p ∈ ps, ∃ k v, t'.row k = some v ∧ q.key v = some (q.keyOf p)
  unique : t'.Unique q.key

variable {q : Upsert K V P κ} {check : Table K V → K → V → Except E Unit} {duplicate : E} {t t' : Table K V} {n : Nat}
  {p : P} {ps : List P}

/-- One proposed row updates the row it conflicts with, or is inserted. -/
theorem applyRow_ok (h : q.applyRow check duplicate t n p = .ok t') :
    (∃ k old, t.row k = some old ∧ q.key old = some (q.keyOf p) ∧ check t k (q.update old p) = .ok () ∧
      t' = t.set k (q.update old p)) ∨
    ((∀ j w, t.row j = some w → q.key w ≠ some (q.keyOf p)) ∧ t.row (q.fresh n) = none ∧
      check t (q.fresh n) (q.insert n p) = .ok () ∧ t' = t.set (q.fresh n) (q.insert n p)) := by
  unfold applyRow at h
  split at h
  · rename_i k old found
    obtain ⟨present, own⟩ := Table.lookup?_eq_some found
    obtain ⟨_, checked, stored⟩ := bind_ok.1 h
    cases stored
    exact .inl ⟨k, old, present, of_decide_eq_true own, checked, rfl⟩
  · rename_i absent
    have free := Table.lookup?_eq_none.1 absent
    split at h
    · cases h
    · rename_i vacant
      obtain ⟨_, checked, stored⟩ := bind_ok.1 h
      cases stored
      refine .inr ⟨fun j w present => of_decide_eq_false (free j w present), ?_, checked, rfl⟩
      simpa using vacant

theorem applyRows_cons_ok : q.applyRows check duplicate t n (p :: ps) = .ok t' ↔
    ∃ next, q.applyRow check duplicate t n p = .ok next ∧ q.applyRows check duplicate next (n + 1) ps = .ok t' := by
  rw [applyRows, bind_ok]

/-- A row that no proposed row is about is not touched by one. -/
theorem row_of_applyRow (h : q.applyRow check duplicate t n p = .ok t') {k : K} {v : V} (present : t.row k = some v)
    (other : q.key v ≠ some (q.keyOf p)) : t'.row k = some v := by
  rcases applyRow_ok h with ⟨j, old, found, own, _, rfl⟩ | ⟨_, vacant, _, rfl⟩
  · have ne : k ≠ j := by
      rintro rfl
      cases present.symm.trans found
      exact other own
    rwa [Table.row_set_ne _ _ ne]
  · have ne : k ≠ q.fresh n := by
      rintro rfl
      rw [vacant] at present
      cases present
    rwa [Table.row_set_ne _ _ ne]

/-- Natural keys survive a proposed row: every row of `t` is a row of `t'` with its key. -/
theorem key_of_applyRow (h : q.applyRow check duplicate t n p = .ok t') {k : K} {v : V} (present : t.row k = some v) :
    ∃ v', t'.row k = some v' ∧ (q.key v = some (q.keyOf p) → q.key v' = some (q.keyOf p)) ∧
      (q.key v ≠ some (q.keyOf p) → v' = v) := by
  rcases applyRow_ok h with ⟨j, old, found, own, _, rfl⟩ | ⟨_, vacant, _, rfl⟩
  · by_cases same : k = j
    · subst same
      cases present.symm.trans found
      exact ⟨_, Table.row_set_self .., fun _ => q.update_key v p own, fun other => absurd own other⟩
    · exact ⟨v, (Table.row_set_ne _ _ same).trans present, fun own => own, fun _ => rfl⟩
  · have ne : k ≠ q.fresh n := by
      rintro rfl
      rw [vacant] at present
      cases present
    exact ⟨v, (Table.row_set_ne _ _ ne).trans present, fun own => own, fun _ => rfl⟩

theorem unique_applyRow (unique : t.Unique q.key) (h : q.applyRow check duplicate t n p = .ok t') : t'.Unique q.key := by
  -- the row that is written has the key of `p`, and no other row had it
  obtain ⟨k₀, v₀, own₀, none_else, rfl⟩ : ∃ k₀ v₀, q.key v₀ = some (q.keyOf p) ∧
      (∀ j w, t.row j = some w → q.key w = some (q.keyOf p) → j = k₀) ∧ t' = t.set k₀ v₀ := by
    rcases applyRow_ok h with ⟨k, old, found, own, _, rfl⟩ | ⟨free, _, _, rfl⟩
    · exact ⟨k, _, q.update_key old p own, fun j w there of => unique j k w old _ there found of own, rfl⟩
    · exact ⟨_, _, q.insert_key n p, fun j w there of => absurd of (free j w there), rfl⟩
  intro i j v w k here there ownI ownJ
  rw [Table.row_set] at here there
  split at here <;> split at there
  · rename_i sameI sameJ
    exact sameI.trans sameJ.symm
  · rename_i sameI _
    cases here
    cases ownI.symm.trans own₀
    exact sameI.trans (none_else j w there ownJ).symm
  · rename_i _ sameJ
    cases there
    cases ownJ.symm.trans own₀
    exact (none_else i v here ownI).trans sameJ.symm
  · exact unique i j v w k here there ownI ownJ

/-- **The statement row by row.** The induction is on the proposed rows, over any table
whose natural key is unique. -/
theorem applied (unique : t.Unique q.key) (distinct : (ps.map q.keyOf).Nodup)
    (h : q.applyRows check duplicate t n ps = .ok t') : Applied q t n ps t' := by
  induction ps generalizing t n with
  | nil =>
    cases h
    constructor
    · exact fun _ _ present _ => present
    · intro _ _ _ mem
      cases mem
    · intro k v absent present
      rw [absent] at present
      cases present
    · intro _ mem
      cases mem
    · exact unique
  | cons p ps ih =>
    obtain ⟨t₁, first, rest⟩ := applyRows_cons_ok.1 h
    rw [List.map_cons, List.nodup_cons] at distinct
    have later := ih (unique_applyRow unique first) distinct.2 rest
    have other : ∀ p' ∈ ps, q.keyOf p ≠ q.keyOf p' := fun p' mem same =>
      distinct.1 (same ▸ List.mem_map_of_mem mem)
    have last : ∀ k v, t₁.row k = some v → q.key v = some (q.keyOf p) → t'.row k = some v := by
      intro k v present own
      refine later.kept k v present fun p' mem same => ?_
      exact other p' mem (Option.some.inj (own.symm.trans same))
    constructor
    · intro k v present free
      exact later.kept k v (row_of_applyRow first present (free p List.mem_cons_self))
        fun p' mem => free p' (List.mem_cons_of_mem _ mem)
    · intro k v p' mem present own
      rcases List.mem_cons.1 mem with rfl | mem
      · rcases applyRow_ok first with ⟨j, old, found, ownOld, _, rfl⟩ | ⟨free, _, _, _⟩
        · cases unique k j v old _ present found own ownOld
          cases present.symm.trans found
          exact last k _ (Table.row_set_self ..) (q.update_key v p' own)
        · exact absurd own (free k v present)
      · refine later.updated k v p' mem (row_of_applyRow first present fun same => ?_) own
        exact other p' mem (Option.some.inj (same.symm.trans own))
    · intro k v absent present
      cases before : t₁.row k with
      | none =>
        obtain ⟨p', mem, m, low, high, at_, rfl, free⟩ := later.inserted k v before present
        refine ⟨p', List.mem_cons_of_mem _ mem, m, by omega, by simp only [List.length_cons]; omega, at_, rfl, ?_⟩
        intro j w there own
        obtain ⟨w', there', moves, stays⟩ := key_of_applyRow first there
        by_cases same : q.key w = some (q.keyOf p)
        · exact free j w' there' ((moves same).trans (same.symm.trans own))
        · exact free j w' there' ((congrArg q.key (stays same)).trans own)
      | some v₁ =>
        rcases applyRow_ok first with ⟨j, old, found, _, _, rfl⟩ | ⟨free, vacant, _, rfl⟩
        · have ne : k ≠ j := by
            rintro rfl
            rw [absent] at found
            cases found
          rw [Table.row_set_ne _ _ ne, absent] at before
          cases before
        · by_cases same : k = q.fresh n
          · subst same
            have stored := last _ _ (Table.row_set_self ..) (q.insert_key n p)
            cases stored.symm.trans present
            exact ⟨p, List.mem_cons_self, n, Nat.le_refl n, by simp only [List.length_cons]; omega, rfl, rfl, free⟩
          · rw [Table.row_set_ne _ _ same, absent] at before
            cases before
    · intro p' mem
      rcases List.mem_cons.1 mem with rfl | mem
      · rcases applyRow_ok first with ⟨j, old, found, own, _, rfl⟩ | ⟨_, _, _, rfl⟩
        · exact ⟨j, _, last _ _ (Table.row_set_self ..) (q.update_key old p' own), q.update_key old p' own⟩
        · exact ⟨_, _, last _ _ (Table.row_set_self ..) (q.insert_key n p'), q.insert_key n p'⟩
      · exact later.present p' mem
    · exact later.unique

section Rows

variable {k : K} {v : V} (applied : Applied q t n ps t')

omit [DecidableEq K]
include applied

/-- A row of the outcome that no proposed row is about was there before. -/
theorem Applied.of_other (present : t'.row k = some v) (free : ∀ p ∈ ps, q.key v ≠ some (q.keyOf p)) :
    t.row k = some v := by
  cases before : t.row k with
  | none =>
    obtain ⟨p, mem, m, _, _, _, rfl, _⟩ := applied.inserted k v before present
    exact absurd (q.insert_key m p) (free p mem)
  | some old =>
    by_cases proposed : ∃ p ∈ ps, q.key old = some (q.keyOf p)
    · obtain ⟨p, mem, own⟩ := proposed
      cases (applied.updated k old p mem before own).symm.trans present
      exact absurd (q.update_key old p own) (free p mem)
    · have stays := applied.kept k old before fun p mem own => proposed ⟨p, mem, own⟩
      exact congrArg some (Option.some.inj (stays.symm.trans present))

/-- A row of the outcome with the key of a proposed row is that row, stored in place of an
old one or inserted. -/
theorem Applied.of_key (distinct : (ps.map q.keyOf).Nodup) (mem : p ∈ ps) (present : t'.row k = some v)
    (own : q.key v = some (q.keyOf p)) :
    (∃ old, t.row k = some old ∧ q.key old = some (q.keyOf p) ∧ v = q.update old p) ∨
      (t.row k = none ∧ (∀ j w, t.row j = some w → q.key w ≠ some (q.keyOf p)) ∧
        ∃ m, n ≤ m ∧ m < n + ps.length ∧ k = q.fresh m ∧ v = q.insert m p) := by
  have only : ∀ p' ∈ ps, q.key v = some (q.keyOf p') → p' = p := fun p' mem' own' =>
    List.inj_on_of_nodup_map distinct mem' mem (Option.some.inj (own'.symm.trans own))
  cases before : t.row k with
  | none =>
    obtain ⟨p', mem', m, low, high, at_, rfl, free⟩ := applied.inserted k v before present
    cases only p' mem' (q.insert_key m p')
    exact .inr ⟨rfl, free, m, low, high, at_, rfl⟩
  | some old =>
    left
    by_cases proposed : ∃ p ∈ ps, q.key old = some (q.keyOf p)
    · obtain ⟨p', mem', ownOld⟩ := proposed
      cases (applied.updated k old p' mem' before ownOld).symm.trans present
      cases only p' mem' (q.update_key old p' ownOld)
      exact ⟨old, rfl, ownOld, rfl⟩
    · cases (applied.kept k old before fun p mem own => proposed ⟨p, mem, own⟩).symm.trans present
      exact absurd ⟨p, mem, own⟩ proposed

/-- A stored row keeps its primary key, and its columns up to an update. -/
theorem Applied.of_row (present : t.row k = some v) :
    t'.row k = some v ∨ ∃ p ∈ ps, q.key v = some (q.keyOf p) ∧ t'.row k = some (q.update v p) := by
  by_cases proposed : ∃ p ∈ ps, q.key v = some (q.keyOf p)
  · obtain ⟨p, mem, own⟩ := proposed
    exact .inr ⟨p, mem, own, applied.updated k v p mem present own⟩
  · exact .inl (applied.kept k v present fun p mem own => proposed ⟨p, mem, own⟩)

end Rows

section Loop

/-- What every proposed row keeps, the statement keeps. -/
theorem applyRows_keeps {I : Table K V → Prop} (h : q.applyRows check duplicate t n ps = .ok t') (start : I t)
    (step : ∀ n p t t', I t → q.applyRow check duplicate t n p = .ok t' → I t') : I t' := by
  induction ps generalizing t n with
  | nil =>
    cases h
    exact start
  | cons p ps ih =>
    obtain ⟨next, first, rest⟩ := applyRows_cons_ok.1 h
    exact ih rest (step n p t next start first)

/-- The statement succeeds when each proposed row does, after whichever rows came before. -/
theorem applyRows_total {I : List P → Table K V → Prop} (start : I [] t)
    (step : ∀ earlier p later t, ps = earlier ++ p :: later → I earlier t →
      ∃ t', q.applyRow check duplicate t (n + earlier.length) p = .ok t' ∧ I (earlier ++ [p]) t') :
    ∃ t', q.applyRows check duplicate t n ps = .ok t' ∧ I ps t' := by
  induction ps generalizing t n I with
  | nil => exact ⟨t, rfl, start⟩
  | cons p ps ih =>
    obtain ⟨next, first, kept⟩ := step [] p ps t rfl start
    obtain ⟨t', rest, end_⟩ := ih (n := n + 1) (I := fun earlier => I (p :: earlier)) kept fun earlier p' later t split before => by
      obtain ⟨t', applied, after⟩ := step (p :: earlier) p' later t (congrArg (p :: ·) split) before
      have index : n + (p :: earlier).length = n + 1 + earlier.length := by
        rw [List.length_cons]
        omega
      rw [index] at applied
      exact ⟨t', applied, after⟩
    exact ⟨t', applyRows_cons_ok.2 ⟨next, first, rest⟩, end_⟩

end Loop

section Indexes

/-- The check lets a row through when it is sound and collides with no other row. -/
def Separates (check : Table K V → K → V → Except E Unit) (sound : V → Prop) (collides : V → V → Bool) : Prop :=
  ∀ t k v, check t k v = .ok () ↔ sound v ∧ ∀ j w, j ≠ k → t.row j = some w → collides w v = false

variable {sound : V → Prop} {collides : V → V → Bool}

/-- The unique indexes hold after a statement that succeeds. -/
theorem separate_applyRows (separates : Separates check sound collides) (symm : ∀ v w, collides v w = collides w v)
    (separate : t.Separate collides) (h : q.applyRows check duplicate t n ps = .ok t') : t'.Separate collides := by
  refine applyRows_keeps (I := fun t => t.Separate collides) h separate fun n p t t' separate stored => ?_
  rcases applyRow_ok stored with ⟨k, old, _, _, checked, rfl⟩ | ⟨_, _, checked, rfl⟩
  · exact separate.set symm ((separates _ _ _).1 checked).2
  · exact separate.set symm ((separates _ _ _).1 checked).2

/-- A proposed row is stored if the row it makes, in place or at an unused key, is sound and
collides with no other. -/
theorem applyRow_total (separates : Separates check sound collides)
    (updates : ∀ k old, t.row k = some old → q.key old = some (q.keyOf p) → sound (q.update old p) ∧
      ∀ j w, j ≠ k → t.row j = some w → collides w (q.update old p) = false)
    (inserts : (∀ j w, t.row j = some w → q.key w ≠ some (q.keyOf p)) → t.row (q.fresh n) = none ∧
      sound (q.insert n p) ∧ ∀ j w, t.row j = some w → collides w (q.insert n p) = false) :
    ∃ t', q.applyRow check duplicate t n p = .ok t' := by
  unfold applyRow
  cases found : q.conflict t p with
  | some stored =>
    obtain ⟨k, old⟩ := stored
    obtain ⟨present, own⟩ := Table.lookup?_eq_some found
    have passes : check t k (q.update old p) = .ok () := (separates _ _ _).2 (updates k old present (of_decide_eq_true own))
    exact ⟨_, bind_ok.2 ⟨(), passes, rfl⟩⟩
  | none =>
    have absent := Table.lookup?_eq_none.1 found
    obtain ⟨vacant, valid, free⟩ := inserts fun j w present => of_decide_eq_false (absent j w present)
    have passes : check t (q.fresh n) (q.insert n p) = .ok () :=
      (separates _ _ _).2 ⟨valid, fun j w _ present => free j w present⟩
    refine ⟨t.set (q.fresh n) (q.insert n p), ?_⟩
    rw [vacant]
    exact bind_ok.2 ⟨(), passes, rfl⟩

end Indexes

end Upsert

end Library
