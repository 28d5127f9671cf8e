import Mathlib.Data.List.Flatten
import Mathlib.Data.List.Perm.Basic

/-!
# Following up in rounds

A request is answered with some elements and perhaps with a request for more, of the same
owner. A round answers all that is pending, in any order, hands each owner the elements and
leaves the follow-ups. `round_perm` is the rule: what an owner has, with what is still to come
for it, stays the same from round to round; an owner with one request gets its elements in
order (`round_eq`), and a chain of `n` answers is at its end after `n` rounds
(`followups_within`).
-/

namespace Library.Worklist

variable {R K A : Type} {answer : R → List A × Option R}

/-- The answers from a request on. -/
inductive Chain (answer : R → List A × Option R) : R → List (List A) → Prop where
  | last {r : R} {xs : List A} (answered : answer r = (xs, none)) : Chain answer r [xs]
  | more {r next : R} {xs : List A} {pages : List (List A)} (answered : answer r = (xs, some next))
      (later : Chain answer next pages) : Chain answer r (xs :: pages)

/-- The elements of the next `n` answers. -/
def elements (answer : R → List A × Option R) : Nat → R → List A
  | 0, _ => []
  | n + 1, r => (answer r).1 ++ (answer r).2.elim [] (elements answer n)

/-- At most `n` answers are to come. -/
def Within (answer : R → List A × Option R) (n : Nat) (r : R) : Prop := ∃ pages, Chain answer r pages ∧ pages.length ≤ n

theorem elements_of_chain {n : Nat} {r : R} {pages : List (List A)} (chain : Chain answer r pages) (le : pages.length ≤ n) :
    elements answer n r = pages.flatten := by
  induction chain generalizing n with
  | last answered =>
    obtain ⟨n, rfl⟩ := Nat.exists_eq_succ_of_ne_zero (Nat.ne_of_gt le)
    simp [elements, answered]
  | more answered later ih =>
    obtain ⟨n, rfl⟩ := Nat.exists_eq_succ_of_ne_zero (Nat.ne_of_gt (Nat.lt_of_lt_of_le (Nat.succ_pos _) le))
    simp [elements, answered, ih (Nat.le_of_succ_le_succ le)]

theorem not_within_zero {r : R} : ¬ Within answer 0 r := by
  rintro ⟨pages, chain, le⟩
  cases chain <;> simp at le

theorem Within.next {n : Nat} {r next : R} (within : Within answer (n + 1) r) (more : (answer r).2 = some next) :
    Within answer n next := by
  obtain ⟨pages, chain, le⟩ := within
  cases chain with
  | last answered =>
    rw [answered] at more
    cases more
  | more answered later =>
    rw [answered] at more
    cases more
    exact ⟨_, later, Nat.le_of_succ_le_succ le⟩

/-- What a round leaves to do. -/
def followups (answer : R → List A × Option R) (order : List R) : List R := order.filterMap fun r => (answer r).2

theorem followups_within {n : Nat} {pending order : List R} (perm : order.Perm pending)
    (within : ∀ r ∈ pending, Within answer (n + 1) r) : ∀ r ∈ followups answer order, Within answer n r := by
  intro next mem
  obtain ⟨r, asked, more⟩ := List.mem_filterMap.1 mem
  exact (within r (perm.subset asked)).next more

section Owners

variable [DecidableEq K] {owner : R → K} {k : K} {pending order : List R} {n : Nat}

/-- What the owners have after a round. -/
def collect (answer : R → List A × Option R) (owner : R → K) (order : List R) (got : K → List A) (k : K) : List A :=
  got k ++ (order.filter fun r => owner r = k).flatMap fun r => (answer r).1

/-- What `k` has and what `n` more rounds bring. -/
def total (answer : R → List A × Option R) (owner : R → K) (n : Nat) (pending : List R) (got : K → List A) (k : K) : List A :=
  got k ++ (pending.filter fun r => owner r = k).flatMap (elements answer n)

/-- Follow-ups have the owner of the request. -/
def KeepsOwner (answer : R → List A × Option R) (owner : R → K) : Prop :=
  ∀ r next, (answer r).2 = some next → owner next = owner r

theorem filter_followups (keeps : KeepsOwner answer owner) :
    (followups answer order).filter (fun r => owner r = k) =
      (order.filter fun r => owner r = k).filterMap fun r => (answer r).2 := by
  unfold followups
  induction order with
  | nil => rfl
  | cons r order ih =>
    cases more : (answer r).2 with
    | none => by_cases own : owner r = k <;> simp [more, own, ih]
    | some next =>
      have same := keeps r next more
      by_cases own : owner r = k <;> simp [more, own, same, ih]

theorem flatMap_followups (rs : List R) :
    (rs.filterMap fun r => (answer r).2).flatMap (elements answer n) =
      rs.flatMap fun r => (answer r).2.elim [] (elements answer n) := by
  induction rs with
  | nil => rfl
  | cons r rs ih => cases more : (answer r).2 <;> simp [more, ih]

/-- **The round rule.** -/
theorem round_perm (keeps : KeepsOwner answer owner) (perm : order.Perm pending) (got : K → List A) :
    (total answer owner n (followups answer order) (collect answer owner order got) k).Perm
      (total answer owner (n + 1) pending got k) := by
  unfold total collect
  rw [filter_followups keeps, flatMap_followups, List.append_assoc]
  refine List.Perm.append_left _ ?_
  have both := List.flatMap_append_perm (order.filter fun r => owner r = k) (fun r => (answer r).1)
    fun r => (answer r).2.elim [] (elements answer n)
  exact both.trans ((perm.filter _).flatMap_right _)

/-- The elements of an owner with one request stay in order. -/
theorem round_eq (keeps : KeepsOwner answer owner) (perm : order.Perm pending) (got : K → List A)
    (alone : (pending.filter fun r => owner r = k).length ≤ 1) :
    total answer owner n (followups answer order) (collect answer owner order got) k =
      total answer owner (n + 1) pending got k := by
  have own := perm.filter fun r => decide (owner r = k)
  unfold total collect
  rw [filter_followups keeps, flatMap_followups, List.append_assoc]
  generalize (pending.filter fun r => decide (owner r = k)) = rs at own alone
  rcases rs with _ | ⟨r, _ | ⟨r', rs⟩⟩
  · rw [List.perm_nil.1 own]
    rfl
  · rw [List.perm_singleton.1 own]
    simp [elements]
  · simp at alone

/-- One request stays one. -/
theorem round_alone (keeps : KeepsOwner answer owner) (perm : order.Perm pending)
    (alone : (pending.filter fun r => owner r = k).length ≤ 1) :
    ((followups answer order).filter fun r => owner r = k).length ≤ 1 := by
  rw [filter_followups keeps]
  have same := (perm.filter fun r => decide (owner r = k)).length_eq
  exact Nat.le_trans (List.length_filterMap_le ..) (same ▸ alone)

end Owners

end Library.Worklist
