import Mathlib.Data.List.Basic

/-!
# Runs of a labelled step function

A system is a function `step : S → L → Option S`. A label names who acts and what
the environment answers, so the step itself is deterministic and a run is a list of
labels; `none` means the label is not enabled. Everything below is about an arbitrary
`step`:

* `run` folds the labels, `run_append` cuts a run in two;
* `run_invariant` turns a step lemma into a run lemma;
* `Somewhere` says that a step of a run meets a condition;
* `Guarded` restricts a run to steps that meet a condition on the state they are
  taken from, and `Guarded.run_invariant` is the run lemma for such runs.
-/

namespace Library.Runs

variable {S L : Type}

/-- The state after the labels, or `none` when one of them is not enabled. -/
def run (step : S → L → Option S) : S → List L → Option S
  | s, [] => some s
  | s, l :: ls => (step s l).bind fun s' => run step s' ls

/-- Every step the run takes meets `good` in the state it is taken from. -/
def Guarded (step : S → L → Option S) (good : S → L → Prop) : S → List L → Prop
  | _, [] => True
  | s, l :: ls => good s l ∧ ∀ s', step s l = some s' → Guarded step good s' ls

/-- Some step the run takes meets `p` in the state it is taken from. -/
def Somewhere (step : S → L → Option S) (p : S → L → Prop) : S → List L → Prop
  | _, [] => False
  | s, l :: ls => p s l ∨ ∃ s', step s l = some s' ∧ Somewhere step p s' ls

section Run

variable {step : S → L → Option S}

@[simp] theorem run_nil (s : S) : run step s [] = some s := rfl

/-- A run from its first step. -/
theorem run_cons_iff {s t : S} {l : L} {ls : List L} :
    run step s (l :: ls) = some t ↔ ∃ s', step s l = some s' ∧ run step s' ls = some t := by
  simp only [run, Option.bind_eq_some_iff]

theorem run_append (s : S) (ks ls : List L) :
    run step s (ks ++ ls) = (run step s ks).bind fun s' => run step s' ls := by
  induction ks generalizing s with
  | nil => rfl
  | cons k ks ih =>
    simp only [List.cons_append, run]
    cases step s k with
    | none => rfl
    | some s' => exact ih s'

/-- A run followed by one more step. -/
theorem run_snoc_iff {s t : S} {l : L} {ls : List L} :
    run step s (ls ++ [l]) = some t ↔ ∃ s', run step s ls = some s' ∧ step s' l = some t := by
  rw [run_append, Option.bind_eq_some_iff]
  refine exists_congr fun s' => and_congr_right fun _ => ?_
  rw [run_cons_iff]
  simp only [run_nil, Option.some.injEq, exists_eq_right]

/-- **The run rule**: what every step keeps, every run keeps. -/
theorem run_invariant (inv : S → Prop)
    (keeps : ∀ s l s', inv s → step s l = some s' → inv s')
    {s t : S} {ls : List L} (start : inv s) (h : run step s ls = some t) : inv t := by
  induction ls generalizing s with
  | nil =>
    cases h
    exact start
  | cons l ls ih =>
    obtain ⟨s', first, rest⟩ := run_cons_iff.1 h
    exact ih (keeps s l s' start first) rest

/-- A relation between the ends of a run, from a reflexive and transitive relation
every step respects while `inv` holds. -/
theorem run_relates (inv : S → Prop) (rel : S → S → Prop)
    (keeps : ∀ s l s', inv s → step s l = some s' → inv s')
    (same : ∀ s, rel s s) (trans : ∀ {a b c}, rel a b → rel b c → rel a c)
    (respects : ∀ s l s', inv s → step s l = some s' → rel s s')
    {s t : S} {ls : List L} (start : inv s) (h : run step s ls = some t) : rel s t := by
  induction ls generalizing s with
  | nil =>
    cases h
    exact same _
  | cons l ls ih =>
    obtain ⟨s', first, rest⟩ := run_cons_iff.1 h
    exact trans (respects s l s' start first) (ih (keeps s l s' start first) rest)

end Run

section Guarded

variable {step : S → L → Option S} {good : S → L → Prop}

/-- The run rule for runs whose steps all meet `good`. -/
theorem Guarded.run_invariant (inv : S → Prop)
    (keeps : ∀ s l s', inv s → good s l → step s l = some s' → inv s')
    {s t : S} {ls : List L} (guarded : Guarded step good s ls) (start : inv s)
    (h : run step s ls = some t) : inv t := by
  induction ls generalizing s with
  | nil =>
    cases h
    exact start
  | cons l ls ih =>
    obtain ⟨s', first, rest⟩ := run_cons_iff.1 h
    exact ih (guarded.2 s' first) (keeps s l s' start guarded.1 first) rest

instance Guarded.decidable [∀ s l, Decidable (good s l)] : (s : S) → (ls : List L) → Decidable (Guarded step good s ls)
  | _, [] => .isTrue trivial
  | s, l :: ls =>
    match taken : step s l with
    | none => decidable_of_iff (good s l) ⟨fun h => ⟨h, by simp [taken]⟩, fun h => h.1⟩
    | some s' =>
      have : Decidable (Guarded step good s' ls) := Guarded.decidable s' ls
      decidable_of_iff (good s l ∧ Guarded step good s' ls) (by simp [Guarded, taken])

/-- A guarded run from its first step. -/
theorem Guarded.cons_iff {s s' : S} {l : L} {ls : List L} (taken : step s l = some s') :
    Guarded step good s (l :: ls) ↔ good s l ∧ Guarded step good s' ls := by
  refine and_congr_right fun _ => ⟨fun after => after s' taken, fun after t taken' => ?_⟩
  cases taken.symm.trans taken'
  exact after

/-- A run whose steps meet two conditions. -/
theorem Guarded.and {good' : S → L → Prop} {s : S} {ls : List L} (guarded : Guarded step good s ls)
    (guarded' : Guarded step good' s ls) : Guarded step (fun s l => good s l ∧ good' s l) s ls := by
  induction ls generalizing s with
  | nil => trivial
  | cons l ls ih => exact ⟨⟨guarded.1, guarded'.1⟩, fun s' first => ih (guarded.2 s' first) (guarded'.2 s' first)⟩

/-- The steps before a cut of a guarded run are guarded. -/
theorem Guarded.left {s : S} {ks ls : List L} (guarded : Guarded step good s (ks ++ ls)) :
    Guarded step good s ks := by
  induction ks generalizing s with
  | nil => trivial
  | cons k ks ih => exact ⟨guarded.1, fun s' first => ih (guarded.2 s' first)⟩

/-- The steps after a cut of a guarded run are guarded. -/
theorem Guarded.right {s t : S} {ks ls : List L} (guarded : Guarded step good s (ks ++ ls))
    (h : run step s ks = some t) : Guarded step good t ls := by
  induction ks generalizing s with
  | nil =>
    cases h
    exact guarded
  | cons k ks ih =>
    obtain ⟨s', first, rest⟩ := run_cons_iff.1 h
    exact ih (guarded.2 s' first) rest

end Guarded

end Library.Runs
