import Mathlib.Data.List.Sort

/-!
# Sorted lists in pages

A list is sorted by a comparison and read in pages of one size. If the comparison tells any
two elements apart, there is one sorted list (`sorted_unique`), whatever sorts it, and the
pages up to the last put together are this list (`flatten_slices`).

The first section builds comparisons: from a `Bool`-valued order, with a place for a missing
value, the other way round, and through a function.
-/

namespace Library.Paging

open Std

section Compare

variable {A V : Type}

/-- The comparison of a total preorder. -/
def ofLE (le : V → V → Bool) (a b : V) : Ordering :=
  if le a b then if le b a then .eq else .lt else .gt

theorem ofLE_isLE {le : V → V → Bool} {a b : V} : (ofLE le a b).isLE = le a b := by
  unfold ofLE
  cases le a b <;> cases le b a <;> rfl

theorem ofLE_transCmp {le : V → V → Bool} (total : ∀ a b, le a b = true ∨ le b a = true)
    (trans : ∀ a b c, le a b = true → le b c = true → le a c = true) : TransCmp (ofLE le) where
  eq_swap {a b} := by
    unfold ofLE
    rcases total a b with here | here <;> cases there : le a b <;> cases back : le b a <;> simp_all
  isLE_trans {a b c} here there := by
    rw [ofLE_isLE] at *
    exact trans a b c here there

/-- A missing value stands before all others, or after them. -/
def withNone (first : Bool) (cmp : V → V → Ordering) : Option V → Option V → Ordering
  | none, none => .eq
  | none, some _ => if first then .lt else .gt
  | some _, none => if first then .gt else .lt
  | some a, some b => cmp a b

instance (first : Bool) (cmp : V → V → Ordering) [TransCmp cmp] : TransCmp (withNone first cmp) where
  eq_swap {a b} := by
    cases a <;> cases b <;> cases first <;> first | rfl | exact OrientedCmp.eq_swap (α := V)
  isLE_trans {a b c} here there := by
    have values : ∀ x y z : V, (cmp x y).isLE = true → (cmp y z).isLE = true → (cmp x z).isLE = true :=
      fun _ _ _ => TransCmp.isLE_trans
    cases a <;> cases b <;> cases c <;> cases first <;> simp_all [withNone]
    · exact values _ _ _ here there
    · exact values _ _ _ here there

/-- The comparison, or the reverse. -/
def directed (desc : Bool) (cmp : V → V → Ordering) (a b : V) : Ordering := if desc then (cmp a b).swap else cmp a b

instance (desc : Bool) (cmp : V → V → Ordering) [TransCmp cmp] : TransCmp (directed desc cmp) where
  eq_swap {a b} := by
    have swap : cmp a b = (cmp b a).swap := OrientedCmp.eq_swap
    cases desc
    · exact swap
    · show (cmp a b).swap = (cmp b a).swap.swap
      rw [swap]
  isLE_trans {a b c} here there := by
    cases desc
    · change (cmp a b).isLE = true at here
      change (cmp b c).isLE = true at there
      show (cmp a c).isLE = true
      exact TransCmp.isLE_trans here there
    · change (cmp a b).swap.isLE = true at here
      change (cmp b c).swap.isLE = true at there
      show (cmp a c).swap.isLE = true
      rw [← OrientedCmp.eq_swap] at *
      exact TransCmp.isLE_trans there here

/-- Compare by the values of a function. -/
def through (f : A → V) (cmp : V → V → Ordering) (a b : A) : Ordering := cmp (f a) (f b)

instance (f : A → V) (cmp : V → V → Ordering) [TransCmp cmp] : TransCmp (through f cmp) where
  eq_swap := OrientedCmp.eq_swap (α := V)
  isLE_trans := TransCmp.isLE_trans (α := V)

end Compare

section Sorted

variable {A : Type} {cmp : A → A → Ordering} {l l' : List A}

/-- Different elements of the list are not equal in the order. -/
def Separates (cmp : A → A → Ordering) (l : List A) : Prop := ∀ a ∈ l, ∀ b ∈ l, cmp a b = .eq → a = b

def sorted (cmp : A → A → Ordering) (l : List A) : List A := l.insertionSort fun a b => (cmp a b).isLE = true

theorem sorted_perm : (sorted cmp l).Perm l := List.perm_insertionSort _ _

theorem sorted_pairwise [TransCmp cmp] : (sorted cmp l).Pairwise fun a b => (cmp a b).isLE = true := by
  have total : Std.Total fun a b => (cmp a b).isLE = true := ⟨fun a b => by
    have swap : cmp b a = (cmp a b).swap := OrientedCmp.eq_swap
    rw [swap]
    cases cmp a b <;> simp⟩
  have trans : IsTrans A fun a b => (cmp a b).isLE = true := ⟨fun _ _ _ => TransCmp.isLE_trans⟩
  exact List.pairwise_insertionSort _ _

/-- **One sorted list**: however the elements are sorted, if the order tells them apart. -/
theorem sorted_unique [TransCmp cmp] (separates : Separates cmp l) (perm : l'.Perm l)
    (pairwise : l'.Pairwise fun a b => (cmp a b).isLE = true) : l' = sorted cmp l := by
  refine (perm.trans sorted_perm.symm).eq_of_pairwise (fun a b mem mem' here there => ?_) pairwise sorted_pairwise
  exact separates a (perm.mem_iff.1 mem) b (sorted_perm.mem_iff.1 mem') (OrientedCmp.isLE_antisymm here there)

/-- A function that keeps the order can be applied before or after. -/
theorem sorted_map {B : Type} {cmp' : B → B → Ordering} {f : A → B} (keeps : ∀ a ∈ l, ∀ b ∈ l, cmp' (f a) (f b) = cmp a b) :
    sorted cmp' (l.map f) = (sorted cmp l).map f := by
  unfold sorted
  rw [List.map_insertionSort _ (fun a b => (cmp' a b).isLE = true)]
  intro a mem b mem'
  rw [keeps a mem b mem']

end Sorted

section Pages

variable {A : Type} {l : List A} {size i n : Nat}

/-- Page `i`, counted from 0. -/
def slice (size : Nat) (l : List A) (i : Nat) : List A := (l.drop (i * size)).take size

/-- The number of pages: `n / size`, rounded up. -/
def pageCount (n size : Nat) : Nat := (n + (size - 1)) / size

theorem le_pageCount_mul (positive : 0 < size) : n ≤ pageCount n size * size := by
  have rest := Nat.mod_lt (n + (size - 1)) positive
  have split := Nat.div_add_mod' (n + (size - 1)) size
  unfold pageCount
  omega

theorem pageCount_le (positive : 0 < size) : pageCount n size ≤ n := by
  cases n with
  | zero => exact Nat.le_of_eq (Nat.div_eq_of_lt (by omega))
  | succ n =>
    refine Nat.div_le_of_le_mul ?_
    have : n ≤ size * n := Nat.le_mul_of_pos_left n positive
    have : size * (n + 1) = size * n + size := Nat.mul_succ size n
    omega

/-- The first pages, put together. -/
theorem flatten_slices_take : ((List.range n).map (slice size l)).flatten = l.take (n * size) := by
  induction n with
  | zero => simp
  | succ n ih =>
    rw [List.range_succ, List.map_append, List.flatten_append, ih, Nat.succ_mul, List.take_add]
    simp [slice]

/-- **The pages are the list.** -/
theorem flatten_slices (positive : 0 < size) : ((List.range (pageCount l.length size)).map (slice size l)).flatten = l := by
  rw [flatten_slices_take]
  exact List.take_of_length_le (le_pageCount_mul positive)

/-- There is nothing on the pages beyond. -/
theorem slice_beyond (positive : 0 < size) (beyond : pageCount l.length size ≤ i) : slice size l i = [] := by
  have last : l.length ≤ i * size := Nat.le_trans (le_pageCount_mul positive) (Nat.mul_le_mul_right size beyond)
  rw [slice, List.drop_eq_nil_of_le last, List.take_nil]

theorem slice_map {B : Type} (f : A → B) : (slice size l i).map f = slice size (l.map f) i := by
  rw [slice, slice, List.map_take, List.map_drop]

end Pages

end Library.Paging
