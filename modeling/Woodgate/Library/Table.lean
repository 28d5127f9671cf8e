import Mathlib.Data.List.Dedup
import Mathlib.Logic.Function.Basic

/-!
# Finite keyed tables

A `Table K V` holds at most one row per key, so a primary key needs no invariant of
its own. It is a function from keys to rows together with a list in which every
occupied key occurs, which makes `EXISTS`, a search by another column and a scan
computable. Two tables are compared row by row (`Table.row`); the key list is only
an enumeration and no statement should depend on it.
-/

namespace Library

/-- A finite map from primary keys to rows. -/
structure Table (K V : Type) where
  row : K → Option V
  keys : List K
  mem_keys : ∀ k, (row k).isSome → k ∈ keys

namespace Table

variable {K V : Type}

/-- The table without rows. -/
def empty : Table K V := ⟨fun _ => none, [], fun _ h => by simp at h⟩

instance : Inhabited (Table K V) := ⟨empty⟩

@[simp] theorem row_empty (k : K) : (empty : Table K V).row k = none := rfl

theorem mem_keys_of_row {t : Table K V} {k : K} {v : V} (h : t.row k = some v) : k ∈ t.keys :=
  t.mem_keys k (by simp [h])

section Update

variable [DecidableEq K]

/-- Insert or replace the row at `k`. -/
def set (t : Table K V) (k : K) (v : V) : Table K V where
  row j := if j = k then some v else t.row j
  keys := k :: t.keys
  mem_keys j h := by
    by_cases same : j = k
    · simp [same]
    · simp only [same, if_false] at h
      exact List.mem_cons_of_mem _ (t.mem_keys j h)

/-- Remove the row at `k`. -/
def erase (t : Table K V) (k : K) : Table K V where
  row j := if j = k then none else t.row j
  keys := t.keys
  mem_keys j h := by
    by_cases same : j = k
    · simp [same] at h
    · simp only [same, if_false] at h
      exact t.mem_keys j h

/-- The table with exactly the listed rows; a later row replaces an earlier one. -/
def ofList (rows : List (K × V)) : Table K V :=
  rows.foldl (fun t r => t.set r.1 r.2) empty

@[simp] theorem row_set_self (t : Table K V) (k : K) (v : V) : (t.set k v).row k = some v := by
  simp [set]

theorem row_set_ne (t : Table K V) {j k : K} (v : V) (ne : j ≠ k) : (t.set k v).row j = t.row j := by
  simp [set, ne]

theorem row_set (t : Table K V) (j k : K) (v : V) :
    (t.set k v).row j = if j = k then some v else t.row j := rfl

theorem row_set_eq (t : Table K V) (k : K) (v : V) : (t.set k v).row = Function.update t.row k (some v) := by
  funext j
  rw [row_set, Function.update_apply]

theorem row_erase_eq (t : Table K V) (k : K) : (t.erase k).row = Function.update t.row k none := by
  funext j
  rw [Function.update_apply]
  rfl

@[simp] theorem row_erase_self (t : Table K V) (k : K) : (t.erase k).row k = none := by
  simp [erase]

theorem row_erase_ne (t : Table K V) {j k : K} (ne : j ≠ k) : (t.erase k).row j = t.row j := by
  simp [erase, ne]

theorem row_erase (t : Table K V) (j k : K) :
    (t.erase k).row j = if j = k then none else t.row j := rfl

end Update

section Bulk

/-- `DELETE ... WHERE NOT p`: keep the rows that satisfy `p`. -/
def filter (t : Table K V) (p : K → V → Bool) : Table K V where
  row k := (t.row k).filter (p k)
  keys := t.keys
  mem_keys k h := by
    cases present : t.row k with
    | none => simp [present] at h
    | some v => exact mem_keys_of_row present

/-- `UPDATE ... SET`: rewrite every row in place. -/
def map (t : Table K V) (f : K → V → V) : Table K V where
  row k := (t.row k).map (f k)
  keys := t.keys
  mem_keys k h := t.mem_keys k (by simpa using h)

@[simp] theorem row_filter (t : Table K V) (p : K → V → Bool) (k : K) :
    (t.filter p).row k = (t.row k).filter (p k) := rfl

theorem row_filter_eq_some {t : Table K V} {p : K → V → Bool} {k : K} {v : V} :
    (t.filter p).row k = some v ↔ t.row k = some v ∧ p k v = true := by
  simp [Option.filter_eq_some_iff]

/-- A condition on the key alone keeps whole rows. -/
theorem row_filter_key (t : Table K V) (p : K → Bool) (k : K) :
    (t.filter fun k _ => p k).row k = if p k then t.row k else none := by
  cases present : t.row k <;> cases holds : p k <;> simp [present, holds, Option.filter]

/-- Every key of `ks` gets a row without columns; a row that is there stays. -/
def insertKeys [DecidableEq K] (t : Table K Unit) (ks : List K) : Table K Unit := ks.foldl (fun t k => t.set k ()) t

theorem row_insertKeys [DecidableEq K] (t : Table K Unit) (ks : List K) (k : K) :
    (t.insertKeys ks).row k = if k ∈ ks then some () else t.row k := by
  unfold insertKeys
  induction ks generalizing t with
  | nil => simp
  | cons j ks ih =>
    rw [List.foldl_cons, ih, row_set]
    by_cases same : k = j <;> by_cases later : k ∈ ks <;> simp [same, later]

@[simp] theorem row_map (t : Table K V) (f : K → V → V) (k : K) :
    (t.map f).row k = (t.row k).map (f k) := rfl

end Bulk

section Scan

/-- Some key whose row satisfies `p`. -/
def find? (t : Table K V) (p : K → V → Bool) : Option K :=
  t.keys.find? fun k => (t.row k).any (p k)

/-- `EXISTS (SELECT 1 FROM t WHERE p)`. -/
def exists? (t : Table K V) (p : K → V → Bool) : Bool :=
  t.keys.any fun k => (t.row k).any (p k)

theorem exists?_iff {t : Table K V} {p : K → V → Bool} :
    t.exists? p = true ↔ ∃ k v, t.row k = some v ∧ p k v = true := by
  simp only [exists?, List.any_eq_true, Option.any_eq_true_iff_get]
  constructor
  · rintro ⟨k, _, present, holds⟩
    exact ⟨k, _, (Option.some_get present).symm, holds⟩
  · rintro ⟨k, v, present, holds⟩
    exact ⟨k, mem_keys_of_row present, by simp [present], by simpa [present] using holds⟩

theorem exists?_eq_false_iff {t : Table K V} {p : K → V → Bool} :
    t.exists? p = false ↔ ∀ k v, t.row k = some v → p k v = false := by
  rw [← Bool.not_eq_true, exists?_iff]
  simp

theorem find?_eq_some {t : Table K V} {p : K → V → Bool} {k : K} (h : t.find? p = some k) :
    ∃ v, t.row k = some v ∧ p k v = true := by
  have holds := List.find?_some h
  rw [Option.any_eq_true_iff_get] at holds
  obtain ⟨present, holds⟩ := holds
  exact ⟨_, (Option.some_get present).symm, holds⟩

theorem find?_eq_none {t : Table K V} {p : K → V → Bool} :
    t.find? p = none ↔ ∀ k v, t.row k = some v → p k v = false := by
  rw [find?, List.find?_eq_none]
  constructor
  · intro none k v present
    have := none k (mem_keys_of_row present)
    simpa [present] using this
  · intro none k _
    cases present : t.row k with
    | none => simp
    | some v => simpa using none k v present

/-- Some row that satisfies `p`, with its key. -/
def lookup? (t : Table K V) (p : K → V → Bool) : Option (K × V) :=
  (t.find? p).bind fun k => (t.row k).map (Prod.mk k)

theorem lookup?_eq_some {t : Table K V} {p : K → V → Bool} {k : K} {v : V} (h : t.lookup? p = some (k, v)) :
    t.row k = some v ∧ p k v = true := by
  obtain ⟨j, found, present⟩ := Option.bind_eq_some_iff.1 h
  obtain ⟨w, holds, picked⟩ := find?_eq_some found
  obtain ⟨w', here, same⟩ := Option.map_eq_some_iff.1 present
  cases same
  cases holds.symm.trans here
  exact ⟨here, picked⟩

theorem lookup?_eq_none {t : Table K V} {p : K → V → Bool} :
    t.lookup? p = none ↔ ∀ k v, t.row k = some v → p k v = false := by
  rw [← find?_eq_none]
  constructor
  · intro absent
    cases found : t.find? p with
    | none => rfl
    | some k =>
      obtain ⟨v, present, _⟩ := find?_eq_some found
      simp [lookup?, found, present] at absent
  · intro absent
    simp [lookup?, absent]

variable [DecidableEq K]

/-- Every row with its key, each key once. -/
def toList (t : Table K V) : List (K × V) :=
  t.keys.dedup.filterMap fun k => (t.row k).map (Prod.mk k)

theorem mem_toList {t : Table K V} {k : K} {v : V} : (k, v) ∈ t.toList ↔ t.row k = some v := by
  simp only [toList, List.mem_filterMap, List.mem_dedup, Option.map_eq_some_iff, Prod.mk.injEq]
  constructor
  · rintro ⟨j, _, w, present, rfl, rfl⟩
    exact present
  · intro present
    exact ⟨k, mem_keys_of_row present, v, present, rfl, rfl⟩

theorem isSome_row_iff {t : Table K V} {k : K} : (t.row k).isSome = true ↔ ∃ v, (k, v) ∈ t.toList := by
  simp only [mem_toList, Option.isSome_iff_exists]

/-- A scan returns each primary key once. -/
theorem nodup_keys_toList (t : Table K V) : (t.toList.map Prod.fst).Nodup := by
  have fst : t.toList.map Prod.fst = t.keys.dedup.filter fun k => (t.row k).isSome := by
    unfold toList
    induction t.keys.dedup with
    | nil => rfl
    | cons k ks ih =>
      cases present : t.row k <;> simp [present, ih]
  rw [fst]
  exact (List.nodup_dedup _).filter _

theorem nodup_toList (t : Table K V) : t.toList.Nodup :=
  List.Nodup.of_map _ t.nodup_keys_toList

/-- Rows with different keys, stored one after the other. -/
theorem row_foldl_set {rows : List (K × V)} (nodup : (rows.map Prod.fst).Nodup) {t : Table K V} {k : K} {v : V} :
    (rows.foldl (fun t r => t.set r.1 r.2) t).row k = some v ↔
      (k, v) ∈ rows ∨ k ∉ rows.map Prod.fst ∧ t.row k = some v := by
  induction rows generalizing t with
  | nil => simp
  | cons r rows ih =>
    obtain ⟨j, w⟩ := r
    obtain ⟨fresh, nodup⟩ := List.nodup_cons.1 nodup
    rw [List.foldl_cons, ih nodup, row_set]
    by_cases same : k = j
    · subst same
      have absent : (k, v) ∉ rows := fun mem => fresh (List.mem_map.2 ⟨(k, v), mem, rfl⟩)
      simp [absent, fresh, eq_comm]
    · simp [same]

theorem row_ofList {rows : List (K × V)} (nodup : (rows.map Prod.fst).Nodup) {k : K} {v : V} :
    (ofList rows).row k = some v ↔ (k, v) ∈ rows := by
  rw [ofList, row_foldl_set nodup]
  simp

/-- A table without columns beside its key. -/
theorem isSome_ofList_keys {ks : List K} (nodup : ks.Nodup) {k : K} :
    ((ofList (ks.map fun k => (k, ()))).row k).isSome = true ↔ k ∈ ks := by
  have keys : ((ks.map fun k => (k, ())).map Prod.fst).Nodup := by
    rw [List.map_map]
    exact (List.map_id ks).symm ▸ nodup
  rw [Option.isSome_iff_exists]
  simp [row_ofList keys]

/-- A scan finds the rows that were stored, in some order. -/
theorem toList_ofList {rows : List (K × V)} (nodup : (rows.map Prod.fst).Nodup) : (ofList rows).toList.Perm rows := by
  refine (List.perm_ext_iff_of_nodup (nodup_toList _) (List.Nodup.of_map _ nodup)).2 fun ⟨k, v⟩ => ?_
  rw [mem_toList, row_ofList nodup]

end Scan

section Tabulate

/-- The rows `f 1, ..., f n` at the keys `1, ..., n`. -/
def tabulate (n : Nat) (f : Nat → V) : Table Int V where
  row k := if 0 < k ∧ k ≤ (n : Int) then some (f k.toNat) else none
  keys := (List.range' 1 n).map Int.ofNat
  mem_keys k there := by
    by_cases present : 0 < k ∧ k ≤ (n : Int)
    · exact List.mem_map.2 ⟨k.toNat, List.mem_range'_1.2 (by omega), Int.toNat_of_nonneg (Int.le_of_lt present.1)⟩
    · simp [present] at there

theorem row_tabulate {n : Nat} {f : Nat → V} {k : Int} {v : V} :
    (tabulate n f).row k = some v ↔ (0 < k ∧ k ≤ n) ∧ v = f k.toNat := by
  show (if 0 < k ∧ k ≤ (n : Int) then some (f k.toNat) else none) = some v ↔ _
  by_cases present : 0 < k ∧ k ≤ (n : Int) <;> simp [present, eq_comm]

theorem length_tabulate (n : Nat) (f : Nat → V) : (tabulate n f).toList.length = n := by
  have keys : ((tabulate n f).toList.map Prod.fst).Perm ((List.range' 1 n).map Int.ofNat) := by
    refine (List.perm_ext_iff_of_nodup (nodup_keys_toList _) ?_).2 fun k => ?_
    · exact (List.nodup_range' 1).map fun _ _ same => Int.ofNat.inj same
    constructor
    · intro listed
      obtain ⟨⟨_, v⟩, stored, rfl⟩ := List.mem_map.1 listed
      exact (tabulate n f).mem_keys _ (isSome_row_iff.2 ⟨v, stored⟩)
    · intro named
      obtain ⟨i, between, rfl⟩ := List.mem_map.1 named
      have between := List.mem_range'_1.1 between
      have stored : (tabulate n f).row (i : Int) = some (f i) := row_tabulate.2 ⟨by omega, rfl⟩
      exact List.mem_map.2 ⟨_, mem_toList.2 stored, rfl⟩
  simpa using keys.length_eq

end Tabulate

/-- The column `key` is a key; rows in which it is `NULL` do not count. -/
def Unique {κ : Type} (t : Table K V) (key : V → Option κ) : Prop :=
  ∀ i j v w k, t.row i = some v → t.row j = some w → key v = some k → key w = some k → i = j

/-- Rewriting rows in place leaves a key one, if it leaves the column. -/
theorem Unique.map {κ : Type} {t : Table K V} {key : V → Option κ} {f : K → V → V} (unique : t.Unique key)
    (keeps : ∀ k v, key (f k v) = key v) : (t.map f).Unique key := by
  intro i j v w k here there ownI ownJ
  obtain ⟨v₀, before, rfl⟩ := Option.map_eq_some_iff.1 here
  obtain ⟨w₀, before', rfl⟩ := Option.map_eq_some_iff.1 there
  rw [keeps] at ownI ownJ
  exact unique i j v₀ w₀ k before before' ownI ownJ

theorem Unique.filter {κ : Type} {t : Table K V} {key : V → Option κ} {p : K → V → Bool} (unique : t.Unique key) :
    (t.filter p).Unique key := by
  intro i j v w k here there ownI ownJ
  exact unique i j v w k (row_filter_eq_some.1 here).1 (row_filter_eq_some.1 there).1 ownI ownJ

/-- No two rows of the table collide, as its unique indexes see it together. -/
def Separate (t : Table K V) (collides : V → V → Bool) : Prop :=
  ∀ i j v w, i ≠ j → t.row i = some v → t.row j = some w → collides v w = false

/-- Rows that are rewritten in place may collide less, not more. -/
theorem Separate.map {t : Table K V} {collides : V → V → Bool} {f : K → V → V} (separate : t.Separate collides)
    (fewer : ∀ i j v w, collides v w = false → collides (f i v) (f j w) = false) : (t.map f).Separate collides := by
  intro i j v w ne here there
  obtain ⟨v₀, before, rfl⟩ := Option.map_eq_some_iff.1 here
  obtain ⟨w₀, before', rfl⟩ := Option.map_eq_some_iff.1 there
  exact fewer i j v₀ w₀ (separate i j v₀ w₀ ne before before')

theorem Separate.filter {t : Table K V} {collides : V → V → Bool} {p : K → V → Bool} (separate : t.Separate collides) :
    (t.filter p).Separate collides := by
  intro i j v w ne here there
  exact separate i j v w ne (row_filter_eq_some.1 here).1 (row_filter_eq_some.1 there).1

/-- A row that collides with no other one can be stored. -/
theorem Separate.set [DecidableEq K] {t : Table K V} {collides : V → V → Bool} {k : K} {v : V}
    (separate : t.Separate collides) (symm : ∀ a b, collides a b = collides b a)
    (free : ∀ j w, j ≠ k → t.row j = some w → collides w v = false) : (t.set k v).Separate collides := by
  intro i j a b ne here there
  rw [row_set] at here there
  split at here <;> split at there
  · rename_i sameI sameJ
    exact absurd (sameI.trans sameJ.symm) ne
  · rename_i _ other
    cases here
    rw [symm]
    exact free j b other there
  · rename_i other _
    cases there
    exact free i a other here
  · exact separate i j a b ne here there

section Check

variable [DecidableEq K] {t : Table K V}

/-- What is said of every row can be checked by a scan. -/
theorem forall_row_iff {P : K → V → Prop} : (∀ k v, t.row k = some v → P k v) ↔ ∀ e ∈ t.toList, P e.1 e.2 := by
  constructor
  · intro rows e listed
    exact rows e.1 e.2 (mem_toList.1 listed)
  · intro listed k v stored
    exact listed (k, v) (mem_toList.2 stored)

theorem forall_key_iff {P : K → Prop} : (∀ k, (t.row k).isSome → P k) ↔ ∀ e ∈ t.toList, P e.1 := by
  refine Iff.trans ?_ (forall_row_iff (P := fun k _ => P k))
  constructor
  · intro keys k v stored
    exact keys k (by rw [stored, Option.isSome_some])
  · intro rows k there
    obtain ⟨v, stored⟩ := Option.isSome_iff_exists.1 there
    exact rows k v stored

instance {P : K → V → Prop} [∀ k v, Decidable (P k v)] : Decidable (∀ k v, t.row k = some v → P k v) :=
  decidable_of_iff _ forall_row_iff.symm

instance {P : K → Prop} [∀ k, Decidable (P k)] : Decidable (∀ k, (t.row k).isSome → P k) :=
  decidable_of_iff _ forall_key_iff.symm

/-- The same over the two columns of a key. -/
instance {I J : Type} [DecidableEq I] [DecidableEq J] {t : Table (I × J) V} {P : I → J → Prop}
    [∀ i j, Decidable (P i j)] : Decidable (∀ i j, (t.row (i, j)).isSome → P i j) :=
  decidable_of_iff (∀ k, (t.row k).isSome → P k.1 k.2) Prod.forall

instance {I J : Type} [DecidableEq I] [DecidableEq J] {t : Table (I × J) V} {P : I → J → V → Prop}
    [∀ i j v, Decidable (P i j v)] : Decidable (∀ i j v, t.row (i, j) = some v → P i j v) :=
  decidable_of_iff (∀ k v, t.row k = some v → P k.1 k.2 v) Prod.forall

theorem unique_iff {κ : Type} {key : V → Option κ} : t.Unique key ↔
    ∀ e ∈ t.toList, ∀ f ∈ t.toList, key e.2 = key f.2 → (key e.2).isSome → e.1 = f.1 := by
  constructor
  · intro unique e listed f listed' same there
    obtain ⟨k, own⟩ := Option.isSome_iff_exists.1 there
    exact unique e.1 f.1 e.2 f.2 k (mem_toList.1 listed) (mem_toList.1 listed') own (same ▸ own)
  · intro rows i j v w k here there own own'
    exact rows (i, v) (mem_toList.2 here) (j, w) (mem_toList.2 there) (own.trans own'.symm) (by rw [own, Option.isSome_some])

instance {κ : Type} [DecidableEq κ] {key : V → Option κ} : Decidable (t.Unique key) :=
  decidable_of_iff _ unique_iff.symm

theorem separate_iff {collides : V → V → Bool} : t.Separate collides ↔
    ∀ e ∈ t.toList, ∀ f ∈ t.toList, e.1 ≠ f.1 → collides e.2 f.2 = false := by
  constructor
  · intro separate e listed f listed' ne
    exact separate e.1 f.1 e.2 f.2 ne (mem_toList.1 listed) (mem_toList.1 listed')
  · intro rows i j v w ne here there
    exact rows (i, v) (mem_toList.2 here) (j, w) (mem_toList.2 there) ne

instance {collides : V → V → Bool} : Decidable (t.Separate collides) :=
  decidable_of_iff _ separate_iff.symm

end Check

section Merge

/-- The rows of `a` at the selected keys and those of `b` at the others. -/
def merge (sel : K → Bool) (a b : Table K V) : Table K V where
  row k := if sel k then a.row k else b.row k
  keys := a.keys ++ b.keys
  mem_keys k h := by
    cases chosen : sel k with
    | true => exact List.mem_append_left _ (a.mem_keys k (by simpa [chosen] using h))
    | false => exact List.mem_append_right _ (b.mem_keys k (by simpa [chosen] using h))

@[simp] theorem row_merge (sel : K → Bool) (a b : Table K V) (k : K) :
    (merge sel a b).row k = if sel k then a.row k else b.row k := rfl

variable [DecidableEq V]

/-- The keys at which two tables differ. -/
def changed (a b : Table K V) : List K :=
  (a.keys ++ b.keys).filter fun k => a.row k ≠ b.row k

theorem mem_changed {a b : Table K V} {k : K} : k ∈ changed a b ↔ a.row k ≠ b.row k := by
  simp only [changed, List.mem_filter, List.mem_append, decide_eq_true_eq, and_iff_right_iff_imp]
  intro differ
  cases here : a.row k with
  | some v => exact .inl (mem_keys_of_row here)
  | none =>
    cases there : b.row k with
    | some w => exact .inr (mem_keys_of_row there)
    | none => exact absurd (here.trans there.symm) differ

end Merge

end Table

end Library
