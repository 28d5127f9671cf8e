import Mathlib.Data.List.Forall2

/-!
# Numbered placeholders

A query text refers to its arguments by `$1`, `$2` and so on. `numbers` are the numbers in the
order of the text, and `Refers` says which values they stand for. A text is put together from
pieces: `Refers.append` and `Refers.intercalate` need no more than that no piece after a
placeholder begins with a digit.
-/

namespace Library.Placeholders

variable {V : Type}

/-- The placeholder for an argument; the first is `$1`. -/
def placeholder (n : Nat) : String := "$" ++ Nat.repr n

/-- The numbers of the placeholders, in one of which `digits` have been read. -/
def numbersAfter : Option (List Char) → List Char → List Nat
  | none, [] => []
  | some digits, [] => [Nat.ofDigitChars 10 digits 0]
  | none, c :: rest => if c = '$' then numbersAfter (some []) rest else numbersAfter none rest
  | some digits, c :: rest =>
    if c.isDigit then numbersAfter (some (digits ++ [c])) rest
    else Nat.ofDigitChars 10 digits 0 :: if c = '$' then numbersAfter (some []) rest else numbersAfter none rest

def numbers (sql : String) : List Nat := numbersAfter none sql.toList

/-- The placeholders of the text stand for these values, in the order of the text. -/
def Refers (args : List V) (sql : String) (values : List V) : Prop :=
  List.Forall₂ (fun n v => 1 ≤ n ∧ args[n - 1]? = some v) (numbers sql) values

/-- The text does not go on with a digit. -/
def Breaks (sql : String) : Prop := ∀ c ∈ sql.toList.head?, c.isDigit = false

theorem breaks_of_head {sql : String} (other : (sql.toList.head?.all fun c => !c.isDigit) = true) : Breaks sql := by
  intro c first
  rw [first] at other
  simpa using other

theorem notMem_literal {text : List Char} (known : '$' ∉ text) : '$' ∉ (String.ofList text).toList := by
  rwa [String.toList_ofList]

theorem notMem_append {s t : String} (first : '$' ∉ s.toList) (second : '$' ∉ t.toList) : '$' ∉ (s ++ t).toList := by
  rw [String.toList_append, List.mem_append, not_or]
  exact ⟨first, second⟩

theorem notMem_intercalate {sep : String} {parts : List String} (between : '$' ∉ sep.toList)
    (each : ∀ part ∈ parts, '$' ∉ part.toList) : '$' ∉ (sep.intercalate parts).toList := by
  induction parts with
  | nil => simp
  | cons part rest ih =>
    obtain ⟨first, later⟩ := List.forall_mem_cons.1 each
    cases rest with
    | nil => simpa using first
    | cons next rest =>
      rw [String.intercalate_cons_cons]
      exact notMem_append (notMem_append first between) (ih later)

section Numbers

variable {digits xs ys : List Char} {state : Option (List Char)}

theorem numbersAfter_break (breaks : ∀ c ∈ ys.head?, c.isDigit = false) :
    numbersAfter (some digits) ys = Nat.ofDigitChars 10 digits 0 :: numbersAfter none ys := by
  cases ys with
  | nil => simp [numbersAfter]
  | cons c rest => simp [numbersAfter, breaks c rfl]

theorem numbersAfter_append (breaks : ∀ c ∈ ys.head?, c.isDigit = false) :
    numbersAfter state (xs ++ ys) = numbersAfter state xs ++ numbersAfter none ys := by
  induction xs generalizing state with
  | nil =>
    cases state with
    | none => simp [numbersAfter]
    | some digits => simp [numbersAfter, numbersAfter_break breaks]
  | cons c rest ih =>
    rw [List.cons_append]
    cases state with
    | none =>
      simp only [numbersAfter]
      split <;> exact ih
    | some digits =>
      simp only [numbersAfter]
      split
      · exact ih
      · split <;> simp [ih]

theorem numbersAfter_plain (plain : '$' ∉ xs) : numbersAfter none (xs ++ ys) = numbersAfter none ys := by
  induction xs with
  | nil => rfl
  | cons c rest ih =>
    simp only [List.mem_cons, not_or] at plain
    simp [numbersAfter, Ne.symm plain.1, ih plain.2]

theorem numbersAfter_digits (all : ∀ c ∈ xs, c.isDigit = true) :
    numbersAfter (some digits) xs = [Nat.ofDigitChars 10 (digits ++ xs) 0] := by
  induction xs generalizing digits with
  | nil => simp [numbersAfter]
  | cons c rest ih =>
    simp only [List.forall_mem_cons] at all
    simp [numbersAfter, all.1, ih all.2]

theorem numbers_placeholder (n : Nat) : numbers (placeholder n) = [n] := by
  have digits : ∀ c ∈ Nat.toDigits 10 n, c.isDigit = true := fun c mem =>
    Nat.isDigit_of_mem_toDigits (by omega) (by omega) mem
  have form : (placeholder n).toList = '$' :: Nat.toDigits 10 n := by simp [placeholder]
  rw [numbers, form]
  simp [numbersAfter, numbersAfter_digits digits, Nat.ofDigitChars_ten_toDigits]

end Numbers

namespace Refers

variable {args : List V} {sql sql' : String} {values values' : List V}

theorem append (first : Refers args sql values) (second : Refers args sql' values') (breaks : Breaks sql') :
    Refers args (sql ++ sql') (values ++ values') := by
  unfold Refers numbers
  rw [String.toList_append, numbersAfter_append breaks]
  exact List.rel_append first second

/-- A text without a placeholder before it changes nothing. -/
theorem after_plain (text : '$' ∉ sql.toList) (refers : Refers args sql' values') : Refers args (sql ++ sql') values' := by
  unfold Refers numbers
  rw [String.toList_append, numbersAfter_plain text]
  exact refers

theorem plain (text : '$' ∉ sql.toList) : Refers args sql [] := by
  have whole : Refers args (sql ++ "") [] := after_plain text .nil
  rwa [String.append_empty] at whole

theorem single {n : Nat} {v : V} (known : args[n]? = some v) : Refers args (placeholder (n + 1)) [v] := by
  unfold Refers
  rw [numbers_placeholder]
  exact .cons ⟨by omega, known⟩ .nil

theorem breaks_placeholder (n : Nat) (rest : String) : Breaks (placeholder n ++ rest) :=
  breaks_of_head (by simp [placeholder])

/-- A text of these characters; a literal is one. -/
theorem literal {text : List Char} (known : '$' ∉ text) : Refers args (String.ofList text) [] := plain (notMem_literal known)

/-- A text that goes on with a placeholder and a plain text. -/
theorem hole {n : Nat} {v : V} {after : List Char} (refers : Refers args sql values) (known : args[n]? = some v)
    (text : '$' ∉ after) (breaks : (after.head?.all fun c => !c.isDigit) = true) :
    Refers args (sql ++ placeholder (n + 1) ++ String.ofList after) (values ++ [v]) := by
  have middle : Refers args (placeholder (n + 1) ++ String.ofList after) ([v] ++ []) :=
    (single known).append (literal text) (breaks_of_head (by rwa [String.toList_ofList]))
  rw [String.append_assoc]
  exact refers.append middle (breaks_placeholder _ _)

/-- Later arguments change no reference. -/
theorem more (refers : Refers args sql values) (later : List V) : Refers (args ++ later) sql values := by
  refine List.Forall₂.imp (fun n v known => ⟨known.1, ?_⟩) refers
  obtain ⟨inside, _⟩ := List.getElem?_eq_some_iff.1 known.2
  rw [List.getElem?_append_left inside]
  exact known.2

/-- Every number is that of an argument. -/
theorem range (refers : Refers args sql values) : ∀ n ∈ numbers sql, 1 ≤ n ∧ n ≤ args.length := by
  unfold Refers at refers
  generalize numbers sql = ns at refers ⊢
  induction refers with
  | nil => simp
  | cons known _ ih =>
    refine List.forall_mem_cons.2 ⟨?_, ih⟩
    obtain ⟨inside, _⟩ := List.getElem?_eq_some_iff.1 known.2
    omega

/-- The placeholders of texts that are joined. -/
theorem intercalate {sep : String} {parts : List String} {valuess : List (List V)} (text : '$' ∉ sep.toList)
    (breaks : ∀ t, Breaks (sep ++ t)) (each : List.Forall₂ (Refers args) parts valuess) :
    Refers args (sep.intercalate parts) valuess.flatten := by
  induction each with
  | nil => exact plain (by simp)
  | cons first rest ih =>
    cases rest with
    | nil => simpa using first
    | cons second rest =>
      rw [String.intercalate_cons_cons, String.append_assoc]
      exact first.append (after_plain text ih) (breaks _)

/-- Every placeholder has its value among the arguments. -/
theorem inside (refers : Refers args sql values) :
    ∀ n ∈ numbers sql, 1 ≤ n ∧ n ≤ args.length := by
  have each : List.Forall₂ (fun n v => (1 ≤ n ∧ n ≤ args.length) ∧ args[n - 1]? = some v) (numbers sql) values := by
    refine refers.imp fun n v known => ?_
    have inside := (List.getElem?_eq_some_iff.1 known.2).1
    exact ⟨⟨known.1, by omega⟩, known.2⟩
  exact ((List.forall₂_and_left _ _).1 each).1

end Refers

end Library.Placeholders
