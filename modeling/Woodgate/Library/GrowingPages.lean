import Mathlib.Data.List.Range
import Woodgate.Library.Paging

/-!
# Reading a growing list in pages

A reader asks for the pages `0, 1, ..., requests - 1` one after the other; the list may have
grown before each request. An element that was there at the first one is read once if nothing
pushes it over the end of what was asked for so far, and `read_once_iff` says that this is the
only way in which all of them are read once.
-/

namespace Library.Paging

section Tiles

variable {a b : Nat → Nat} {n requests : Nat}

/-- Intervals without a gap between them cover what is below the last. -/
theorem tiles_cover {i : Nat} (start : a 0 = 0) (tiles : ∀ j, j < i → a (j + 1) ≤ b j) {k : Nat} (below : k < b i) :
    ∃ j, j ≤ i ∧ a j ≤ k ∧ k < b j := by
  induction i with
  | zero => exact ⟨0, Nat.le_refl 0, by omega, below⟩
  | succ i ih =>
    by_cases last : a (i + 1) ≤ k
    · exact ⟨i + 1, Nat.le_refl _, last, below⟩
    · have next := tiles i (Nat.lt_succ_self i)
      obtain ⟨j, le, here⟩ := ih (fun j lt => tiles j (Nat.lt_succ_of_lt lt)) (by omega)
      exact ⟨j, Nat.le_succ_of_le le, here⟩

/-- Intervals without an overlap end before the next begins. -/
theorem tiles_apart {i j : Nat} (le : ∀ i, a i ≤ b i) (tiles : ∀ k, k < j → b k ≤ a (k + 1)) (before : i < j) : b i ≤ a j := by
  induction before with
  | refl => exact tiles i (Nat.lt_succ_self i)
  | step before ih =>
    have earlier := ih fun k lt => tiles k (Nat.lt_succ_of_lt lt)
    exact earlier.trans ((le _).trans (tiles _ (Nat.lt_succ_self _)))

/-- Intervals that each begin no later than the one before ends hold every number below `n`
once exactly if each begins where the one before ends. -/
theorem tiles_iff (positive : 0 < requests) (start : a 0 = 0) (le : ∀ i, a i ≤ b i) (back : ∀ i, a (i + 1) ≤ b i)
    (short : ∀ i, i + 1 < requests → b i < n) :
    (∀ k, k < n → ∃! i, i < requests ∧ a i ≤ k ∧ k < b i) ↔
      (∀ i, i + 1 < requests → b i ≤ a (i + 1)) ∧ n ≤ b (requests - 1) := by
  constructor
  · intro once
    have tiles : ∀ i, i + 1 < requests → b i ≤ a (i + 1) := by
      intro i
      induction i using Nat.strong_induction_on with
      | _ i earlier =>
        intro within
        by_contra gap
        have before : ∀ j, j < i → b j ≤ a (j + 1) := fun j lt => earlier j lt (by omega)
        -- a later interval that begins below `b i` would hold numbers again
        have empty : ∀ j, i < j → j < requests → a j < b i → b j ≤ a j := by
          intro j after inside low
          refine Nat.le_of_not_lt fun overlap => ?_
          have below : a j < n := low.trans (short i within)
          obtain ⟨j', le_i, here⟩ := tiles_cover (i := i) start (fun j _ => back j) low
          obtain ⟨_, _, unique⟩ := once (a j) below
          have same := (unique j' ⟨by omega, here⟩).trans (unique j ⟨inside, Nat.le_refl _, overlap⟩).symm
          omega
        have later : ∀ j, i < j → j < requests → a j < b i ∧ b j ≤ a j := by
          intro j after
          induction after with
          | refl =>
            intro inside
            have low : a (i + 1) < b i := Nat.lt_of_not_le gap
            exact ⟨low, empty (i + 1) (Nat.lt_succ_self i) inside low⟩
          | @step j after ih =>
            intro inside
            obtain ⟨low, done⟩ := ih (Nat.lt_of_succ_lt inside)
            have low : a (j + 1) < b i := (back j).trans_lt (done.trans_lt low)
            exact ⟨low, empty (j + 1) (Nat.lt_succ_of_lt after) inside low⟩
        obtain ⟨j, ⟨inside, low, high⟩, _⟩ := once (b i) (short i within)
        rcases Nat.lt_trichotomy j i with earlier | rfl | after
        · have := tiles_apart le before earlier
          have := le i
          omega
        · omega
        · have := later j after inside
          omega
    refine ⟨tiles, Nat.le_of_not_lt fun missing => ?_⟩
    obtain ⟨j, ⟨inside, low, high⟩, _⟩ := once _ missing
    rcases Nat.lt_or_ge j (requests - 1) with before | last
    · have := tiles_apart le (fun k lt => tiles k (by omega)) before
      have := le (requests - 1)
      omega
    · have : j = requests - 1 := by omega
      subst this
      omega
  · rintro ⟨tiles, all⟩ k below
    obtain ⟨i, last, here⟩ := tiles_cover (i := requests - 1) start (fun j _ => back j) (k := k) (by omega)
    refine ⟨i, ⟨by omega, here⟩, ?_⟩
    rintro j ⟨inside, there⟩
    rcases Nat.lt_trichotomy j i with before | same | after
    · have := tiles_apart le (fun k lt => tiles k (by omega)) before
      omega
    · exact same
    · have := tiles_apart le (fun k lt => tiles k (by omega)) after
      omega

end Tiles

section Kept

variable {A : Type} [DecidableEq A] {l l' l'' : List A} {m m' k size i : Nat}

theorem filter_mem_of_sublist (sub : l.Sublist l') (nodup : l'.Nodup) : l'.filter (fun x => decide (x ∈ l)) = l := by
  induction sub with
  | slnil => rfl
  | @cons l l' x sub ih =>
    obtain ⟨fresh, nodup⟩ := List.nodup_cons.1 nodup
    rw [List.filter_cons_of_neg (by simpa using fun mem => fresh (sub.subset mem)), ih nodup]
  | @cons_cons l l' x sub ih =>
    obtain ⟨fresh, nodup⟩ := List.nodup_cons.1 nodup
    rw [List.filter_cons_of_pos (by simp)]
    have same : l'.filter (fun y => decide (y ∈ x :: l)) = l'.filter fun y => decide (y ∈ l) := by
      refine List.filter_congr fun y mem => ?_
      have ne : y ≠ x := fun same => fresh (same ▸ mem)
      simp [ne]
    rw [same, ih nodup]

/-- How many elements of `l` are at the first `m` places of `l'`. -/
def kept (l l' : List A) (m : Nat) : Nat := ((l'.take m).filter fun x => decide (x ∈ l)).length

theorem kept_le : kept l l' m ≤ m :=
  (List.length_filter_le _ _).trans (List.length_take_le _ _)

theorem kept_mono (le : m ≤ m') : kept l l' m ≤ kept l l' m' :=
  ((List.take_sublist_take_left le).filter _).length_le

/-- They are its first ones. -/
theorem filter_take (sub : l.Sublist l') (nodup : l'.Nodup) :
    (l'.take m).filter (fun x => decide (x ∈ l)) = l.take (kept l l' m) := by
  have split := filter_mem_of_sublist sub nodup
  rw [← List.take_append_drop m l', List.filter_append] at split
  have first := congrArg (List.take (kept l l' m)) split
  rw [kept, List.take_left] at first
  exact first

theorem getElem_mem_take (sub : l.Sublist l') (nodup : l'.Nodup) (inside : k < l.length) :
    l[k] ∈ l'.take m ↔ k < kept l l' m := by
  have mem : l[k] ∈ l'.take m ↔ l[k] ∈ l.take (kept l l' m) := by
    rw [← filter_take sub nodup, List.mem_filter]
    simp
  rw [mem]
  constructor
  · intro there
    obtain ⟨j, below, same⟩ := List.mem_take_iff_getElem.1 there
    have : j = k := (sub.nodup nodup).getElem_inj_iff.1 same
    omega
  · intro below
    exact List.mem_take_iff_getElem.2 ⟨k, by omega, rfl⟩

omit [DecidableEq A] in
theorem mem_slice (nodup : l.Nodup) {x : A} : x ∈ slice size l i ↔ x ∈ l.take ((i + 1) * size) ∧ x ∉ l.take (i * size) := by
  have split : l.take ((i + 1) * size) = l.take (i * size) ++ slice size l i := by
    rw [Nat.succ_mul, List.take_add]
    rfl
  rw [split, List.mem_append]
  have apart : (l.take (i * size) ++ slice size l i).Nodup := split ▸ nodup.sublist (List.take_sublist _ _)
  have disjoint := (List.nodup_append.1 apart).2.2
  constructor
  · intro here
    exact ⟨.inr here, fun before => disjoint x before x here rfl⟩
  · rintro ⟨before | here, not_before⟩
    · exact absurd before not_before
    · exact here

/-- Growing does not bring an element forward. -/
theorem mem_take_of_sublist (sub : l'.Sublist l'') (nodup : l''.Nodup) {x : A} (mem : x ∈ l') (there : x ∈ l''.take m) :
    x ∈ l'.take m := by
  obtain ⟨k, inside, rfl⟩ := List.getElem_of_mem mem
  have early := (getElem_mem_take sub nodup inside).1 there
  exact List.mem_take_iff_getElem.2 ⟨k, Nat.lt_min.2 ⟨early.trans_le kept_le, inside⟩, rfl⟩

theorem kept_sublist (sub : l.Sublist l') (sub' : l'.Sublist l'') (nodup : l''.Nodup) : kept l l'' m ≤ kept l l' m := by
  refine Nat.le_of_not_lt fun more => ?_
  have nodup' := sub'.nodup nodup
  have some_kept : kept l l' m < l.length := by
    have bound : kept l l'' m ≤ l.length := by
      have whole := filter_take (m := m) (sub.trans sub') nodup
      have := congrArg List.length whole
      rw [List.length_take] at this
      unfold kept
      omega
    omega
  have there := (getElem_mem_take (sub.trans sub') nodup some_kept).2 more
  have here := mem_take_of_sublist sub' nodup (sub.subset (List.getElem_mem _)) there
  have := (getElem_mem_take sub nodup' some_kept).1 here
  omega

/-- The sorted list grows as the set of its elements does. -/
theorem sorted_sublist {cmp : A → A → Ordering} [Std.TransCmp cmp] (separates : Separates cmp l') (nodup : l.Nodup)
    (nodup' : l'.Nodup) (sub : l ⊆ l') : (sorted cmp l).Sublist (sorted cmp l') := by
  have kept : ((sorted cmp l').filter fun x => decide (x ∈ l)).Perm l := by
    refine (List.perm_ext_iff_of_nodup ((sorted_perm.nodup_iff.2 nodup').filter _) nodup).2 fun x => ?_
    rw [List.mem_filter, decide_eq_true_eq, sorted_perm.mem_iff]
    exact ⟨And.right, fun mem => ⟨sub mem, mem⟩⟩
  have pairwise := (@sorted_pairwise _ cmp l' _).filter fun x => decide (x ∈ l)
  rw [← sorted_unique (fun x mem y mem' => separates x (sub mem) y (sub mem')) kept pairwise]
  exact List.filter_sublist

end Kept

section Read

variable {A : Type} [DecidableEq A] {lists : Nat → List A} {size requests : Nat}

/-- Nothing is repeated, nothing goes away and nothing changes its place to another's. -/
structure Growing (lists : Nat → List A) : Prop where
  nodup : ∀ i, (lists i).Nodup
  grows : ∀ i, (lists i).Sublist (lists (i + 1))

omit [DecidableEq A] in
theorem Growing.sublist (growing : Growing lists) {i j : Nat} (le : i ≤ j) : (lists i).Sublist (lists j) := by
  induction le with
  | refl => exact List.Sublist.refl _
  | step _ ih => exact ih.trans (growing.grows _)

/-- What the reader has in the end. -/
def readPages (size : Nat) (lists : Nat → List A) (requests : Nat) : List A :=
  ((List.range requests).map fun i => slice size (lists i) i).flatten

/-- No element of the first list is pushed over the end of the pages asked for so far, and all
of them are before the end of the last page. -/
structure Undisturbed (size : Nat) (lists : Nat → List A) (requests : Nat) : Prop where
  steady : ∀ i, i + 1 < requests → ∀ x ∈ lists 0, x ∈ (lists i).take ((i + 1) * size) →
    x ∈ (lists (i + 1)).take ((i + 1) * size)
  inside : ∀ x ∈ lists 0, x ∈ (lists (requests - 1)).take (requests * size)

/-- An element is read as often as it is on a page. -/
theorem count_readPages (growing : Growing lists) {x : A} :
    (readPages size lists requests).count x = 1 ↔ ∃! i, i < requests ∧ x ∈ slice size (lists i) i := by
  have once : ∀ i, (slice size (lists i) i).count x = if x ∈ slice size (lists i) i then 1 else 0 := by
    intro i
    have sub : (slice size (lists i) i).Sublist (lists i) := (List.take_sublist _ _).trans (List.drop_sublist _ _)
    exact List.Nodup.count (sub.nodup (growing.nodup i))
  have total : (readPages size lists requests).count x =
      ((List.range requests).filter fun i => decide (x ∈ slice size (lists i) i)).length := by
    unfold readPages
    rw [List.count_flatten, List.map_map]
    induction List.range requests with
    | nil => rfl
    | cons i is ih =>
      rw [List.map_cons, List.sum_cons, ih, List.filter_cons]
      show (slice size (lists i) i).count x + _ = _
      rw [once]
      by_cases here : x ∈ slice size (lists i) i
      · simp [here, Nat.add_comm]
      · simp [here]
  have nodup : ((List.range requests).filter fun i => decide (x ∈ slice size (lists i) i)).Nodup := List.nodup_range.filter _
  have mem : ∀ i, i ∈ ((List.range requests).filter fun i => decide (x ∈ slice size (lists i) i)) ↔
      i < requests ∧ x ∈ slice size (lists i) i := by simp
  rw [total, List.length_eq_one_iff]
  constructor
  · rintro ⟨i, single⟩
    simp only [single, List.mem_singleton] at mem
    exact ⟨i, (mem i).1 rfl, fun j there => (mem j).2 there⟩
  · rintro ⟨i, here, unique⟩
    refine ⟨i, List.perm_singleton.1 ((List.perm_ext_iff_of_nodup nodup (List.nodup_singleton i)).2 fun j => ?_)⟩
    rw [mem, List.mem_singleton]
    constructor
    · exact unique j
    · rintro rfl
      exact here

/-- **When everything is read once.** The reader knows the number of pages from the first list. -/
theorem read_once_iff (growing : Growing lists) (positive : 0 < requests)
    (needed : ∀ i, i + 1 < requests → (i + 1) * size < (lists 0).length) :
    (∀ x ∈ lists 0, (readPages size lists requests).count x = 1) ↔ Undisturbed size lists requests := by
  let a i := kept (lists 0) (lists i) (i * size)
  let b i := kept (lists 0) (lists i) ((i + 1) * size)
  have place : ∀ (i m k : Nat) (inside : k < (lists 0).length),
      (lists 0)[k] ∈ (lists i).take m ↔ k < kept (lists 0) (lists i) m :=
    fun i m k inside => getElem_mem_take (growing.sublist (Nat.zero_le i)) (growing.nodup i) inside
  have bounded : ∀ i m, kept (lists 0) (lists i) m ≤ (lists 0).length := by
    intro i m
    have whole := congrArg List.length (filter_take (m := m) (growing.sublist (Nat.zero_le i)) (growing.nodup i))
    rw [List.length_take] at whole
    unfold kept
    omega
  have onPage : ∀ (k : Nat) (inside : k < (lists 0).length),
      (readPages size lists requests).count (lists 0)[k] = 1 ↔ ∃! i, i < requests ∧ a i ≤ k ∧ k < b i := by
    intro k inside
    rw [count_readPages growing]
    refine existsUnique_congr fun i => ?_
    rw [mem_slice (growing.nodup i), place, place, Nat.not_lt, and_comm (a := k < _)]
  have tiles := tiles_iff (a := a) (b := b) (n := (lists 0).length) positive (by simp [a, kept])
    (fun i => kept_mono (Nat.mul_le_mul_right size (Nat.le_succ i)))
    (fun i => kept_sublist (growing.sublist (Nat.zero_le i)) (growing.grows i) (growing.nodup _))
    (fun i within => kept_le.trans_lt (needed i within))
  constructor
  · intro once
    obtain ⟨next, all⟩ := tiles.1 fun k inside => (onPage k inside).1 (once _ (List.getElem_mem inside))
    refine ⟨fun i within x mem here => ?_, fun x mem => ?_⟩
    · obtain ⟨k, inside, rfl⟩ := List.getElem_of_mem mem
      have := next i within
      exact (place _ _ _ inside).2 (((place _ _ _ inside).1 here).trans_le this)
    · obtain ⟨k, inside, rfl⟩ := List.getElem_of_mem mem
      have last : requests - 1 + 1 = requests := Nat.sub_add_cancel positive
      refine (place _ _ _ inside).2 (inside.trans_le (all.trans ?_))
      show kept _ _ ((requests - 1 + 1) * size) ≤ _
      rw [last]
  · intro undisturbed x mem
    obtain ⟨k, inside, rfl⟩ := List.getElem_of_mem mem
    refine (onPage k inside).2 (tiles.2 ⟨fun i within => Nat.le_of_not_lt fun gap => ?_, Nat.le_of_not_lt fun gap => ?_⟩ k inside)
    · have early : a (i + 1) < (lists 0).length := gap.trans_le (bounded _ _)
      have there := undisturbed.steady i within _ (List.getElem_mem early) ((place i _ _ early).2 gap)
      exact Nat.lt_irrefl _ ((place (i + 1) _ _ early).1 there)
    · have last : requests - 1 + 1 = requests := Nat.sub_add_cancel positive
      have there := undisturbed.inside _ (List.getElem_mem gap)
      have below := (place (requests - 1) _ _ gap).1 there
      have same : b (requests - 1) = kept (lists 0) (lists (requests - 1)) (requests * size) := by
        show kept _ _ ((requests - 1 + 1) * size) = _
        rw [last]
      omega

end Read

end Library.Paging
