import Mathlib.Data.List.Basic

/-!
# Leases

What a history says about who holds what. A grant of a resource ends the grant before
it; a revocation ends the grant of its resource when its condition is met. `holder`
reads the answer off a history (newest event first), and `holder_eq_some_iff` is its
meaning: some grant with nothing after it that ends it.
-/

namespace Library.Lease

variable {K H : Type}

inductive Event (K H : Type) where
  | grant (key : K) (holder : H)
  | revoke (key : K) (condition : H → Bool)

/-- The event ends a grant of `k` to `h`. -/
def Event.Ends (k : K) (h : H) : Event K H → Prop
  | .grant j _ => j = k
  | .revoke j condition => j = k ∧ condition h = true

variable [DecidableEq K]

/-- Who holds `k` after the history. -/
def holder : List (Event K H) → K → Option H
  | [], _ => none
  | .grant j h :: past, k => if j = k then some h else holder past k
  | .revoke j condition :: past, k =>
    if j = k then (holder past k).filter fun h => !condition h else holder past k

theorem holder_grant_self (k : K) (h : H) (past : List (Event K H)) :
    holder (.grant k h :: past) k = some h := by
  simp [holder]

theorem holder_grant_ne {j k : K} (h : H) (past : List (Event K H)) (ne : j ≠ k) :
    holder (.grant j h :: past) k = holder past k := by
  simp [holder, ne]

theorem holder_revoke_self (k : K) (condition : H → Bool) (past : List (Event K H)) :
    holder (.revoke k condition :: past) k = (holder past k).filter fun h => !condition h := by
  simp [holder]

theorem holder_revoke_ne {j k : K} (condition : H → Bool) (past : List (Event K H)) (ne : j ≠ k) :
    holder (.revoke j condition :: past) k = holder past k := by
  simp [holder, ne]

/-- The holder is the one granted last, unless something ended that grant. -/
theorem holder_eq_some_iff {log : List (Event K H)} {k : K} {h : H} :
    holder log k = some h ↔
      ∃ newer older, log = newer ++ .grant k h :: older ∧ ∀ e ∈ newer, ¬ e.Ends k h := by
  induction log with
  | nil => simp [holder]
  | cons e past ih =>
    have skip : (¬ e.Ends k h) → (holder past k = some h ↔
        ∃ newer older, e :: past = newer ++ .grant k h :: older ∧ ∀ e ∈ newer, ¬ e.Ends k h) := by
      intro stays
      rw [ih]
      constructor
      · rintro ⟨newer, older, rfl, quiet⟩
        exact ⟨e :: newer, older, rfl, List.forall_mem_cons.2 ⟨stays, quiet⟩⟩
      · rintro ⟨_ | ⟨_, newer⟩, older, split, quiet⟩
        · cases split
          exact absurd rfl stays
        · cases split
          exact ⟨newer, older, rfl, (List.forall_mem_cons.1 quiet).2⟩
    cases e with
    | grant j g =>
      by_cases same : j = k
      · subst same
        rw [holder_grant_self, Option.some.injEq]
        constructor
        · rintro rfl
          exact ⟨[], past, rfl, by simp⟩
        · rintro ⟨_ | ⟨_, newer⟩, older, split, quiet⟩
          · cases split
            rfl
          · cases split
            exact absurd rfl (quiet _ List.mem_cons_self)
      · rw [holder_grant_ne _ _ same]
        exact skip same
    | revoke j condition =>
      by_cases same : j = k
      · subst same
        rw [holder_revoke_self, Option.filter_eq_some_iff]
        cases ended : condition h with
        | false =>
          simp only [Bool.not_eq_true', and_true]
          exact skip (by simp [Event.Ends, ended])
        | true =>
          simp only [Bool.not_eq_true', Bool.true_eq_false, and_false, false_iff]
          rintro ⟨_ | ⟨_, newer⟩, older, split, quiet⟩
          · cases split
          · cases split
            exact quiet _ List.mem_cons_self ⟨rfl, ended⟩
      · rw [holder_revoke_ne _ _ same]
        exact skip (by simp [Event.Ends, same])

end Library.Lease
