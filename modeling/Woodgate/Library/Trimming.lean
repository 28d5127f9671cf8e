import Mathlib.Data.List.DropRight

/-!
# Trimming

A text is trimmed by cutting its leading and trailing characters of a kind. It is trimmed
already when neither its first nor its last character is of that kind (`trim_eq_self_iff`), and
trimming twice is trimming once (`trim_trim`).
-/

namespace Library.Trimming

variable {α : Type} {p q : α → Bool} {l : List α}

/-- Cut what is of the kind `p` at both ends. -/
def trim (p : α → Bool) (l : List α) : List α := ((l.dropWhile p).reverse.dropWhile p).reverse

theorem dropWhile_eq_self_iff : l.dropWhile p = l ↔ ∀ a ∈ l.head?, p a = false := by
  cases l with
  | nil => simp
  | cons a l =>
    rw [List.dropWhile_cons]
    split
    · rename_i cut
      constructor
      · intro same
        have shorter := (List.dropWhile_suffix p (l := l)).length_le
        rw [same, List.length_cons] at shorter
        omega
      · intro kept
        rw [kept a rfl] at cut
        cases cut
    · rename_i kept
      simpa using kept

/-- Nothing is cut exactly when neither end is of the kind. -/
theorem trim_eq_self_iff : trim p l = l ↔ (∀ a ∈ l.head?, p a = false) ∧ ∀ a ∈ l.getLast?, p a = false := by
  have right : (l.reverse.dropWhile p).reverse = l ↔ ∀ a ∈ l.getLast?, p a = false := by
    rw [List.reverse_eq_iff, dropWhile_eq_self_iff, List.head?_reverse]
  unfold trim
  constructor
  · intro same
    have left : l.dropWhile p = l := by
      have inner := (List.dropWhile_suffix p (l := (l.dropWhile p).reverse)).length_le
      have outer : l.length ≤ (l.dropWhile p).length := by
        have length := congrArg List.length same
        simp only [List.length_reverse] at length inner
        omega
      exact (List.dropWhile_suffix p).eq_of_length_le outer
    rw [left] at same
    exact ⟨dropWhile_eq_self_iff.1 left, right.1 same⟩
  · rintro ⟨first, last⟩
    rw [dropWhile_eq_self_iff.2 first]
    exact right.2 last

/-- Trimming twice is trimming once. -/
theorem trim_trim : trim p (trim p l) = trim p l := by
  refine trim_eq_self_iff.2 ⟨fun a first => ?_, fun a last => ?_⟩
  · have cut : trim p l <+: l.dropWhile p := by
      have suffix := List.dropWhile_suffix p (l := (l.dropWhile p).reverse)
      rw [← List.reverse_prefix] at suffix
      simpa [trim] using suffix
    have head : a ∈ (l.dropWhile p).head? := by
      obtain ⟨rest, whole⟩ := cut
      rw [← whole, List.head?_append]
      simp [Option.mem_def.1 first]
    have kept := List.head?_dropWhile_not p l
    rw [Option.mem_def.1 head] at kept
    simpa using kept
  · rw [trim, List.getLast?_reverse] at last
    have kept := List.head?_dropWhile_not p (l.dropWhile p).reverse
    rw [Option.mem_def.1 last] at kept
    simpa using kept

end Library.Trimming
