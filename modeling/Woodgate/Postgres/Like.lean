import Mathlib.Data.List.Infix
import Woodgate.Postgres.Listing

/-!
# Searching with `ILIKE`

A search puts its text between two `%` and hands it to `ILIKE` as a pattern. What matches is the
text itself, in any case, as long as it has none of the characters that a pattern gives a
meaning (`search_plain`), and for no other text (`search_literal_iff`).
-/

namespace Woodgate.Postgres

/-- The characters with a meaning in a pattern. -/
def isSpecial (c : Char) : Bool := c = '%' || c = '_' || c = '\\'

/-- `ILIKE` compares the characters after `fold`, which keeps the special ones apart. -/
structure DbLocale.Folds (locale : DbLocale) (fold : Char → Char) : Prop where
  ilike : ∀ value pattern, locale.ilike value pattern = like (pattern.toList.map fold) (value.toList.map fold)
  special : ∀ c s, isSpecial s = true → (fold c = s ↔ c = s)

/-- No character of the text has a meaning in a pattern. -/
def PlainText (q : List Char) : Prop := ∀ c ∈ q, isSpecial c = false

/-- The text is in the value, in any case. -/
def ContainsFolded (fold : Char → Char) (q value : String) : Prop := q.toList.map fold <:+: value.toList.map fold

instance (q : List Char) : Decidable (PlainText q) := inferInstanceAs (Decidable (∀ c ∈ q, _))

instance (fold : Char → Char) (q value : String) : Decidable (ContainsFolded fold q value) :=
  inferInstanceAs (Decidable (_ <:+: _))

section Patterns

variable {pattern value q : List Char} {c x : Char}

theorem like_percent : like ('%' :: pattern) value = true ↔ ∃ rest, rest <:+ value ∧ like pattern rest = true := by
  simp [like, List.any_eq_true, List.mem_tails]

theorem like_plain (plain : isSpecial c = false) :
    like (c :: pattern) value = true ↔ ∃ rest, value = c :: rest ∧ like pattern rest = true := by
  simp only [isSpecial, Bool.or_eq_false_iff, decide_eq_false_iff_not] at plain
  obtain ⟨⟨percent, any⟩, escape⟩ := plain
  cases value with
  | nil =>
    unfold like
    split <;> simp_all
  | cons x value =>
    have same : like (c :: pattern) (x :: value) = (decide (c = x) && like pattern value) := by
      rw [like]
      · exact percent
      · exact any
      · intro d rest escaped
        exact absurd escaped escape
    rw [same, Bool.and_eq_true, decide_eq_true_eq]
    constructor
    · rintro ⟨rfl, matched⟩
      exact ⟨value, rfl, matched⟩
    · rintro ⟨rest, same, matched⟩
      cases same
      exact ⟨rfl, matched⟩

theorem like_rest : like ['%'] value = true := like_percent.2 ⟨[], List.nil_suffix, rfl⟩

/-- A plain text in front of a pattern stands for itself. -/
theorem like_append (plain : PlainText q) :
    like (q ++ pattern) value = true ↔ ∃ rest, value = q ++ rest ∧ like pattern rest = true := by
  induction q generalizing value with
  | nil => simp
  | cons c q ih =>
    have rest : PlainText q := fun d mem => plain d (List.mem_cons_of_mem c mem)
    rw [List.cons_append, like_plain (plain c List.mem_cons_self)]
    constructor
    · rintro ⟨tail, rfl, matched⟩
      obtain ⟨last, rfl, further⟩ := (ih rest).1 matched
      exact ⟨last, rfl, further⟩
    · rintro ⟨last, same, matched⟩
      exact ⟨q ++ last, same, (ih rest).2 ⟨last, rfl, matched⟩⟩

/-- A plain text between two `%` matches where it is. -/
theorem like_infix (plain : PlainText q) : like ('%' :: (q ++ ['%'])) value = true ↔ q <:+: value := by
  rw [like_percent]
  constructor
  · rintro ⟨rest, suffix, matched⟩
    obtain ⟨last, rfl, _⟩ := (like_append plain).1 matched
    exact (List.prefix_append q last).isInfix.trans suffix.isInfix
  · rintro ⟨before, after, rfl⟩
    refine ⟨q ++ after, ?_, (like_append plain).2 ⟨after, rfl, like_rest⟩⟩
    rw [List.append_assoc]
    exact List.suffix_append before _

/-! ## What a text with special characters finds -/

/-- A text that the pattern matches. -/
def sample : List Char → List Char
  | [] => []
  | '%' :: pattern => sample pattern
  | '_' :: pattern => 'x' :: sample pattern
  | '\\' :: c :: pattern => c :: sample pattern
  | c :: pattern => c :: sample pattern

theorem sample_cons (percent : c = '%' → False) (any : c = '_' → False) (escape : c ≠ '\\') :
    sample (c :: pattern) = c :: sample pattern := by
  rw [sample]
  · exact percent
  · exact any
  · intro d rest same
    exact absurd same escape

end Patterns

section Search

variable {locale : DbLocale} {fold : Char → Char} {q value : String}

theorem special_percent (folds : locale.Folds fold) : fold '%' = '%' := (folds.special '%' '%' rfl).2 rfl

theorem special_any (folds : locale.Folds fold) : fold '_' = '_' := (folds.special '_' '_' rfl).2 rfl

theorem special_escape (folds : locale.Folds fold) : fold '\\' = '\\' := (folds.special '\\' '\\' rfl).2 rfl

theorem isSpecial_fold (folds : locale.Folds fold) (c : Char) : isSpecial (fold c) = isSpecial c := by
  simp only [isSpecial, folds.special c '%' rfl, folds.special c '_' rfl, folds.special c '\\' rfl]

theorem like_sample (folds : locale.Folds fold) (pattern : List Char) :
    like (pattern.map fold) ((sample pattern).map fold) = true := by
  fun_induction sample pattern with
  | case1 => rfl
  | case2 pattern ih =>
    rw [List.map_cons, special_percent folds]
    exact like_percent.2 ⟨_, List.suffix_rfl, ih⟩
  | case3 pattern ih =>
    rw [List.map_cons, special_any folds, List.map_cons]
    exact ih
  | case4 c pattern ih =>
    simp only [List.map_cons, special_escape folds, like, decide_true, Bool.true_and]
    exact ih
  | case5 c pattern percent any escape ih =>
    rw [List.map_cons, List.map_cons]
    by_cases last : c = '\\'
    · subst last
      cases pattern with
      | nil => simp [sample, special_escape folds, like]
      | cons d pattern => exact absurd rfl (escape d pattern rfl)
    · have plain : isSpecial c = false := by simp_all [isSpecial]
      exact (like_plain ((isSpecial_fold folds c).trans plain)).2 ⟨_, rfl, ih⟩

/-- It is not longer than the text, although the last `%` may be in it. -/
theorem length_sample (q : List Char) : (sample (q ++ ['%'])).length ≤ q.length := by
  fun_induction sample q with
  | case1 => exact Nat.le_refl _
  | case2 pattern ih => exact Nat.le_succ_of_le ih
  | case3 pattern ih => exact Nat.succ_le_succ ih
  | case4 c pattern ih => exact Nat.le_succ_of_le (Nat.succ_le_succ ih)
  | case5 c pattern percent any escape ih =>
    by_cases last : c = '\\'
    · subst last
      cases pattern with
      | nil => exact Nat.le_refl _
      | cons d pattern => exact absurd rfl (escape d pattern rfl)
    · have next : sample (c :: (pattern ++ ['%'])) = c :: sample (pattern ++ ['%']) := sample_cons percent any last
      rw [List.cons_append, next]
      exact Nat.succ_le_succ ih

/-- A text with a special character is not what its sample folds to. -/
theorem sample_ne (folds : locale.Folds fold) (q : List Char) (special : ¬ PlainText q) :
    (sample (q ++ ['%'])).map fold ≠ q.map fold := by
  intro same
  have length : (sample (q ++ ['%'])).length = q.length := by simpa using congrArg List.length same
  fun_induction sample q with
  | case1 => exact special fun c mem => by cases mem
  | case2 pattern ih =>
    have short := length_sample pattern
    have long : (sample (pattern ++ ['%'])).length = pattern.length + 1 := length
    omega
  | case3 pattern ih =>
    have first : fold 'x' = fold '_' := (List.cons.inj same).1
    rw [special_any folds, folds.special 'x' '_' rfl] at first
    cases first
  | case4 c pattern ih =>
    have short := length_sample pattern
    have long : (sample (pattern ++ ['%'])).length + 1 = pattern.length + 2 := length
    omega
  | case5 c pattern percent any escape ih =>
    by_cases last : c = '\\'
    · subst last
      cases pattern with
      | nil =>
        have first : fold '%' = fold '\\' := (List.cons.inj same).1
        rw [special_escape folds, folds.special '%' '\\' rfl] at first
        cases first
      | cons d pattern => exact absurd rfl (escape d pattern rfl)
    · have next : sample (c :: (pattern ++ ['%'])) = c :: sample (pattern ++ ['%']) := sample_cons percent any last
      rw [List.cons_append, next] at same length
      have plain : isSpecial c = false := by simp_all [isSpecial]
      refine ih (fun rest => special fun d mem => ?_) (List.cons.inj same).2 (Nat.succ.inj length)
      rcases List.mem_cons.1 mem with rfl | later
      · exact plain
      · exact rest d later

theorem search_chars (q : String) : ("%" ++ q ++ "%").toList = '%' :: (q.toList ++ ['%']) := by
  simp

/-- A search for a plain text is literal. -/
theorem search_plain (folds : locale.Folds fold) (plain : PlainText q.toList) :
    locale.ilike value ("%" ++ q ++ "%") = true ↔ ContainsFolded fold q value := by
  have folded : PlainText (q.toList.map fold) := by
    intro c mem
    obtain ⟨d, known, rfl⟩ := List.mem_map.1 mem
    exact (isSpecial_fold folds d).trans (plain d known)
  rw [folds.ilike, search_chars, List.map_cons, List.map_append, List.map_singleton, special_percent folds]
  exact like_infix folded

/-- A search is literal exactly for a plain text. -/
theorem search_literal_iff (folds : locale.Folds fold) :
    (∀ value, locale.ilike value ("%" ++ q ++ "%") = true ↔ ContainsFolded fold q value) ↔ PlainText q.toList := by
  constructor
  · intro literal
    by_contra special
    have matched : locale.ilike (String.ofList (sample (q.toList ++ ['%']))) ("%" ++ q ++ "%") = true := by
      rw [folds.ilike, search_chars, String.toList_ofList, List.map_cons, special_percent folds]
      exact like_percent.2 ⟨_, List.suffix_rfl, like_sample folds _⟩
    have contained := (literal _).1 matched
    rw [ContainsFolded, String.toList_ofList] at contained
    have short : ((sample (q.toList ++ ['%'])).map fold).length ≤ (q.toList.map fold).length := by
      simpa using length_sample q.toList
    exact sample_ne folds q.toList special (contained.eq_of_length_le short).symm
  · intro plain value
    exact search_plain folds plain

theorem toLower_special {c s : Char} (special : isSpecial s = true) : c.toLower = s ↔ c = s := by
  have mark : s.val.toNat < 65 ∨ 90 < s.val.toNat ∧ s.val.toNat < 97 := by
    simp only [isSpecial, Bool.or_eq_true, decide_eq_true_eq] at special
    rcases special with (rfl | rfl) | rfl <;> decide
  unfold Char.toLower
  split
  · rename_i upper
    have low : 65 ≤ c.val.toNat := UInt32.le_iff_toNat_le.1 upper.1
    have high : c.val.toNat ≤ 90 := UInt32.le_iff_toNat_le.1 upper.2
    constructor
    · intro same
      have lower : (c.val + ('a'.val - 'A'.val)).toNat = s.val.toNat := congrArg (fun d => d.val.toNat) same
      rw [UInt32.toNat_add, show ('a'.val - 'A'.val).toNat = 32 from rfl] at lower
      omega
    · rintro rfl
      omega
  · rfl

/-- The C locale folds the letters of ASCII. -/
theorem c_folds : DbLocale.c.Folds Char.toLower where
  ilike _ _ := rfl
  special _ _ special := toLower_special special

end Search

end Woodgate.Postgres
