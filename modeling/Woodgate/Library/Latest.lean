import Mathlib.Data.List.Basic
import Mathlib.Data.List.Pairwise
import Mathlib.Data.List.Nodup
import Mathlib.Data.List.Sort

/-!
# The latest entry of each key

A list in which a key may occur several times stands for a map: the entry at the
highest position wins (`latest`). A database gets at the winners with `SELECT DISTINCT
ON (key) ... ORDER BY key, position DESC` over numbered rows (`distinctOn`).
`latest_of_mem_distinctOn` and `mem_distinctOn_of_latest` say that the two agree.
-/

namespace Library.Latest

variable {A R κ : Type} [DecidableEq κ]

/-- The entry with key `k` at the highest position. -/
def latest (key : A → κ) (k : κ) (entries : List A) : Option A :=
  (entries.filter fun a => decide (key a = k)).getLast?

section Latest

variable {key : A → κ} {k : κ} {a x : A} {xs entries : List A}

@[simp] theorem latest_nil : latest key k [] = none := rfl

theorem latest_cons : latest key k (x :: xs) = (latest key k xs).or (if key x = k then some x else none) := by
  unfold latest
  by_cases own : key x = k
  · rw [List.filter_cons_of_pos (by simpa using own), List.getLast?_cons, if_pos own]
    cases (xs.filter fun a => decide (key a = k)).getLast? <;> rfl
  · rw [List.filter_cons_of_neg (by simpa using own), if_neg own, Option.or_none]

/-- The winner has the key and stands at the highest position that has it. -/
theorem latest_eq_some_iff : latest key k entries = some a ↔
    ∃ i : Nat, entries[i]? = some a ∧ key a = k ∧ ∀ j b, entries[j]? = some b → key b = k → j ≤ i := by
  induction entries with
  | nil => simp
  | cons x xs ih =>
    rw [latest_cons, Option.or_eq_some_iff, ih]
    constructor
    · rintro (⟨i, found, own, last⟩ | ⟨absent, first⟩)
      · refine ⟨i + 1, by simpa using found, own, fun j b at_ of => ?_⟩
        cases j with
        | zero => omega
        | succ j => exact Nat.succ_le_succ (last j b (by simpa using at_) of)
      · split at first
        · rename_i own
          cases first
          refine ⟨0, rfl, own, fun j b at_ of => ?_⟩
          cases j with
          | zero => exact Nat.le_refl _
          | succ j =>
            have mem : b ∈ xs.filter fun a => decide (key a = k) :=
              List.mem_filter.2 ⟨List.mem_of_getElem? at_, by simpa using of⟩
            rw [latest, List.getLast?_eq_none_iff] at absent
            rw [absent] at mem
            cases mem
        · cases first
    · rintro ⟨i, found, own, last⟩
      cases i with
      | zero =>
        cases found
        refine .inr ⟨?_, if_pos own⟩
        rw [latest, List.getLast?_eq_none_iff, List.filter_eq_nil_iff]
        intro b mem of
        obtain ⟨j, at_⟩ := List.mem_iff_getElem?.1 mem
        have := last (j + 1) b (by simpa using at_) (by simpa using of)
        omega
      | succ i =>
        refine .inl ⟨i, by simpa using found, own, fun j b at_ of => ?_⟩
        exact Nat.le_of_succ_le_succ (last (j + 1) b (by simpa using at_) of)

theorem key_of_latest (found : latest key k entries = some a) : key a = k := by
  obtain ⟨_, _, own, _⟩ := latest_eq_some_iff.1 found
  exact own

theorem mem_of_latest (found : latest key k entries = some a) : a ∈ entries := by
  obtain ⟨_, at_, _⟩ := latest_eq_some_iff.1 found
  exact List.mem_of_getElem? at_

/-- Every key that occurs has a winner. -/
theorem exists_latest_iff : (∃ a, latest key k entries = some a) ↔ ∃ a ∈ entries, key a = k := by
  constructor
  · rintro ⟨a, found⟩
    exact ⟨a, mem_of_latest found, key_of_latest found⟩
  · rintro ⟨a, mem, own⟩
    cases found : latest key k entries with
    | some w => exact ⟨w, rfl⟩
    | none =>
      rw [latest, List.getLast?_eq_none_iff, List.filter_eq_nil_iff] at found
      exact absurd (by simpa using own) (found a mem)

end Latest

section DistinctOn

/-- `SELECT DISTINCT ON (key) ... ORDER BY key, position DESC` -/
def distinctOn (key : R → κ) (position : R → Nat) (le : κ → κ → Bool) (rows : List R) : List R :=
  (rows.filter fun r => rows.all fun s => !decide (key s = key r) || decide (position s ≤ position r)).insertionSort
    fun r s => le (key r) (key s) = true

/-- The rows of a list, each with its position. -/
def numbered (row : A → Nat → R) (entries : List A) : List R := entries.zipIdx.map fun p => row p.1 p.2

variable {key : R → κ} {position : R → Nat} {le : κ → κ → Bool} {r : R} {rows : List R}

theorem mem_distinctOn : r ∈ distinctOn key position le rows ↔
    r ∈ rows ∧ ∀ s ∈ rows, key s = key r → position s ≤ position r := by
  simp only [distinctOn, List.mem_insertionSort, List.mem_filter, List.all_eq_true, Bool.or_eq_true,
    Bool.not_eq_true', decide_eq_false_iff_not, decide_eq_true_eq, imp_iff_not_or]

/-- Each key is selected once. -/
theorem nodup_keys_distinctOn (positions : (rows.map position).Nodup) :
    ((distinctOn key position le rows).map key).Nodup := by
  refine ((List.perm_insertionSort _ _).map key).nodup_iff.2 ?_
  rw [List.Nodup, List.pairwise_map] at positions ⊢
  refine List.Pairwise.imp_of_mem ?_ (positions.filter _)
  intro r s memR memS differ same
  simp only [List.mem_filter, List.all_eq_true, Bool.or_eq_true, Bool.not_eq_true', decide_eq_false_iff_not,
    decide_eq_true_eq] at memR memS
  have below := (memS.2 r memR.1).resolve_left (not_not_intro same)
  have above := (memR.2 s memS.1).resolve_left (not_not_intro same.symm)
  exact differ (Nat.le_antisymm below above)

variable {row : A → Nat → R} {entries : List A}

theorem mem_numbered : r ∈ numbered row entries ↔ ∃ i a, entries[i]? = some a ∧ r = row a i := by
  simp only [numbered, List.mem_map, Prod.exists, List.mem_zipIdx_iff_getElem?]
  constructor
  · rintro ⟨a, i, at_, rfl⟩
    exact ⟨i, a, at_, rfl⟩
  · rintro ⟨i, a, at_, rfl⟩
    exact ⟨a, i, at_, rfl⟩

theorem nodup_positions_numbered (at_position : ∀ a i, position (row a i) = i) :
    ((numbered row entries).map position).Nodup := by
  have positions : (numbered row entries).map position = List.range' 0 entries.length := by
    rw [← List.zipIdx_map_snd 0 entries, numbered, List.map_map]
    exact List.map_congr_left fun p _ => at_position p.1 p.2
  rw [positions]
  exact List.nodup_range'

section Winners

variable {entryKey : A → κ} {a : A} {k : κ} (keys : ∀ a i, key (row a i) = entryKey a)
  (at_position : ∀ a i, position (row a i) = i)

include keys at_position

/-- **The winners.** What `DISTINCT ON` selects are rows of winning entries ... -/
theorem latest_of_mem_distinctOn (selected : r ∈ distinctOn key position le (numbered row entries)) :
    ∃ a i, latest entryKey (entryKey a) entries = some a ∧ r = row a i := by
  obtain ⟨mem, last⟩ := mem_distinctOn.1 selected
  obtain ⟨i, a, at_, rfl⟩ := mem_numbered.1 mem
  refine ⟨a, i, latest_eq_some_iff.2 ⟨i, at_, rfl, fun j b there own => ?_⟩, rfl⟩
  have below := last (row b j) (mem_numbered.2 ⟨j, b, there, rfl⟩) (by rw [keys, keys, own])
  rwa [at_position, at_position] at below

/-- ... and every winning entry has its row selected. -/
theorem mem_distinctOn_of_latest (found : latest entryKey k entries = some a) :
    ∃ i, row a i ∈ distinctOn key position le (numbered row entries) := by
  obtain ⟨i, at_, own, last⟩ := latest_eq_some_iff.1 found
  refine ⟨i, mem_distinctOn.2 ⟨mem_numbered.2 ⟨i, a, at_, rfl⟩, fun s mem same => ?_⟩⟩
  obtain ⟨j, b, there, rfl⟩ := mem_numbered.1 mem
  rw [at_position, at_position]
  rw [keys, keys] at same
  exact last j b there (same.trans own)

end Winners

end DistinctOn

end Library.Latest
