import Mathlib.Data.List.Nodup

/-!
# Joins on a unique column

An `INSERT ... SELECT` numbers the rows it is given, and a later one finds them again by a column
of their own. Where that column is unique, a join finds one row or none (`idsOf_of_mem`,
`idsOf_absent`), so that a `JOIN` on a column that refers to it neither drops nor repeats a row
(`length_flatMap_one`).
-/

namespace Library.Joins

variable {A B K R : Type}

section Serial

variable {rows : List R}

/-- The rows with the values of a serial column. -/
def serial (rows : List R) : List (Int × R) := rows.zipIdx.map fun row => ((row.2 : Int) + 1, row.1)

theorem serial_rows : (serial rows).map Prod.snd = rows := by
  have first : (Prod.snd : Int × R → R) ∘ (fun row : R × Nat => ((row.2 : Int) + 1, row.1)) = Prod.fst := rfl
  rw [serial, List.map_map, first, List.zipIdx_map_fst]

theorem serial_ids : ((serial rows).map Prod.fst).Nodup := by
  have ids : (serial rows).map Prod.fst = (rows.zipIdx.map Prod.snd).map fun n : Nat => (n : Int) + 1 := by
    rw [serial, List.map_map, List.map_map]
    rfl
  rw [ids, List.zipIdx_map_snd]
  refine List.Nodup.map ?_ List.nodup_range'
  intro m n same
  dsimp only at same
  omega

theorem length_serial : (serial rows).length = rows.length := by simp [serial]

/-- A key has one row. -/
theorem row_unique {table : List (Int × R)} {id : Int} {row row' : R} (nodup : (table.map Prod.fst).Nodup)
    (mem : (id, row) ∈ table) (mem' : (id, row') ∈ table) : row = row' :=
  congrArg Prod.snd (List.inj_on_of_nodup_map nodup mem mem' rfl)

end Serial

section Match

variable [DecidableEq K] {key : R → K} {table : List (Int × R)} {id : Int} {row : R} {k : K}

/-- The rows that `JOIN ... ON key = k` finds. -/
def idsOf (key : R → K) (table : List (Int × R)) (k : K) : List Int :=
  (table.filter fun row => decide (key row.2 = k)).map Prod.fst

/-- What a `LEFT JOIN` finds. -/
def orNull (ids : List Int) : List (Option Int) := if ids = [] then [none] else ids.map some

theorem mem_idsOf : id ∈ idsOf key table k ↔ ∃ row, (id, row) ∈ table ∧ key row = k := by
  simp [idsOf]

theorem idsOf_absent (absent : k ∉ table.map fun row => key row.2) : idsOf key table k = [] := by
  rw [idsOf, List.map_eq_nil_iff, List.filter_eq_nil_iff]
  intro row mem same
  exact absent (List.mem_map.2 ⟨row, mem, of_decide_eq_true same⟩)

/-- A unique column finds the one row. -/
theorem idsOf_of_mem (unique : (table.map fun row => key row.2).Nodup) (mem : (id, row) ∈ table) :
    idsOf key table (key row) = [id] := by
  induction table with
  | nil => cases mem
  | cons first rest ih =>
    obtain ⟨fresh, unique⟩ := List.nodup_cons.1 unique
    obtain rfl | mem := List.mem_cons.1 mem
    · have later := idsOf_absent fresh
      simp only [idsOf, List.map_eq_nil_iff] at later
      simp [idsOf, later]
    · have other : key first.2 ≠ key row := by
        intro same
        exact fresh (List.mem_map.2 ⟨(id, row), mem, same.symm⟩)
      have found := ih unique mem
      simp only [idsOf] at found
      simp [idsOf, other, found]

/-- A `LEFT JOIN` on a unique column keeps each row once. -/
theorem length_orNull (unique : (table.map fun row => key row.2).Nodup) : (orNull (idsOf key table k)).length = 1 := by
  by_cases present : k ∈ table.map fun row => key row.2
  · obtain ⟨⟨id, row⟩, mem, rfl⟩ := List.mem_map.1 present
    rw [idsOf_of_mem unique mem]
    rfl
  · rw [idsOf_absent present]
    rfl

end Match

section Product

variable {l : List A} {f : A → List B}

theorem length_flatMap_one (each : ∀ a ∈ l, (f a).length = 1) : (l.flatMap f).length = l.length := by
  induction l with
  | nil => rfl
  | cons a rest ih =>
    obtain ⟨first, later⟩ := List.forall_mem_cons.1 each
    rw [List.flatMap_cons, List.length_append, first, ih later, List.length_cons, Nat.add_comm]

/-- The results in the order of what they were made from. -/
theorem map_flatMap_one {key : B → K} {own : A → K} (each : ∀ a ∈ l, (f a).length = 1)
    (made : ∀ a ∈ l, ∀ b ∈ f a, key b = own a) : (l.flatMap f).map key = l.map own := by
  induction l with
  | nil => rfl
  | cons a rest ih =>
    obtain ⟨first, later⟩ := List.forall_mem_cons.1 each
    obtain ⟨madeFirst, madeLater⟩ := List.forall_mem_cons.1 made
    obtain ⟨b, single⟩ := List.length_eq_one_iff.1 first
    have own : key b = own a := madeFirst b (by rw [single]; exact List.mem_singleton_self b)
    rw [List.flatMap_cons, List.map_append, ih later madeLater, single, List.map_singleton, own, List.map_cons,
      List.singleton_append]

/-- What two rows have in common tells that they are the same, so nothing is there twice. -/
theorem nodup_flatMap {own : A → K} (nodup : (l.map own).Nodup) (each : ∀ a ∈ l, (f a).Nodup)
    (apart : ∀ a ∈ l, ∀ a' ∈ l, ∀ b, b ∈ f a → b ∈ f a' → own a = own a') : (l.flatMap f).Nodup := by
  induction l with
  | nil => exact List.nodup_nil
  | cons a rest ih =>
    obtain ⟨fresh, nodup⟩ := List.nodup_cons.1 nodup
    obtain ⟨first, later⟩ := List.forall_mem_cons.1 each
    rw [List.flatMap_cons]
    refine List.nodup_append.2 ⟨first, ?_, ?_⟩
    · exact ih nodup later fun a mem a' mem' => apart a (List.mem_cons_of_mem _ mem) a' (List.mem_cons_of_mem _ mem')
    · intro b mem c mem' same
      subst same
      obtain ⟨a', there, mem'⟩ := List.mem_flatMap.1 mem'
      have own := apart a List.mem_cons_self a' (List.mem_cons_of_mem _ there) b mem mem'
      exact fresh (List.mem_map.2 ⟨a', there, own.symm⟩)

end Product

end Library.Joins
