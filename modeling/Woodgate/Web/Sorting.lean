import Mathlib.Data.List.TakeDrop
import Woodgate.Library.Trimming
import Woodgate.Postgres.Listing

/-!
# Sort tokens

A table keeps its sorting in the URL as a token, `serializeSortingState`, and the server gets
the same token as a query parameter. Both sides split it at its last dot;
`sort_tokens_agree` says that they read it alike.
-/

namespace Woodgate.Web.Sorting

open Library.Trimming Postgres

structure SortingItem where
  id : String
  desc : Bool
  deriving DecidableEq, Repr

/-- The characters that `String.prototype.trim` cuts. -/
def isTrimmed (c : Char) : Bool := (Go.isSpace c && c.toNat ≠ 0x85) || c.toNat = 0xFEFF

/-- `value.trim()` -/
def jsTrim (value : String) : String := String.ofList (trim isTrimmed value.toList)

example : jsTrim "\uFEFF name.asc " = "name.asc" := by decide

/-- `value.lastIndexOf(c)`, in characters; `none` for `-1`. -/
def lastIndexOf (c : Char) (value : List Char) : Option Nat :=
  (value.reverse.idxOf? c).map fun i => value.length - 1 - i

def serializeSortingState (value : List SortingItem) : String :=
  match value[0]? with
  | some sort => sort.id ++ "." ++ if sort.desc then "desc" else "asc"
  | none => ""

def parseSortToken (token : String) : Option SortingItem :=
  if token = "" then none
  else
    match lastIndexOf '.' token.toList with
    | none => some { id := token, desc := false }
    | some dot =>
      let id := String.ofList (token.toList.take dot)
      let direction := String.ofList (token.toList.drop (dot + 1))
      if direction = "asc" then if id ≠ "" then some { id, desc := false } else none
      else if direction = "desc" then if id ≠ "" then some { id, desc := true } else none
      else some { id := token, desc := false }

def parseSortingState : Option String → List SortingItem
  | none => []
  | some value =>
    let trimmed := jsTrim value
    if trimmed = "" then []
    else if trimmed.toList.contains ',' then []
    else (parseSortToken trimmed).toList

/-- Neither language's trim cuts anything. -/
def Trimmed (s : String) : Prop := jsTrim s = s ∧ Go.trimSpace s = s

section Split

variable {before after : List Char}

/-- A text has no dot, or a last one. -/
theorem last_dot (s : List Char) : '.' ∉ s ∨ ∃ before after, s = before ++ '.' :: after ∧ '.' ∉ after := by
  induction s with
  | nil => simp
  | cons c s ih =>
    rcases ih with none | ⟨before, after, rfl, none⟩
    · by_cases dot : c = '.'
      · exact .inr ⟨[], s, by rw [dot]; rfl, none⟩
      · left
        simp [none, Ne.symm dot]
    · exact .inr ⟨c :: before, after, rfl, none⟩

theorem lastIndexOf_eq_none (none : '.' ∉ after) : lastIndexOf '.' after = Option.none := by
  simpa [lastIndexOf, List.idxOf?_eq_none_iff] using none

theorem idxOf?_append (none : '.' ∉ before) : (before ++ '.' :: after).idxOf? '.' = some before.length := by
  induction before with
  | nil => simp [List.idxOf?_cons]
  | cons c before ih =>
    simp only [List.mem_cons, not_or] at none
    rw [List.cons_append, List.idxOf?_cons, ih none.2]
    simp [Ne.symm none.1]

theorem lastIndexOf_append (none : '.' ∉ after) : lastIndexOf '.' (before ++ '.' :: after) = some before.length := by
  have index : (before ++ '.' :: after).reverse.idxOf? '.' = some after.length := by
    have found := @idxOf?_append after.reverse before.reverse (by simpa using none)
    simpa using found
  rw [lastIndexOf, index]
  simp

theorem cutLast_eq_none (none : '.' ∉ after) : cutLast (String.ofList after) = Option.none := by
  have split : after.reverse.dropWhile (fun c => decide (c ≠ '.')) = [] := by
    rw [List.dropWhile_eq_nil_iff]
    intro c mem
    have different : c ≠ '.' := by
      rintro rfl
      exact none (List.mem_reverse.1 mem)
    simpa using different
  simp only [cutLast, String.toList_ofList, List.span_eq_takeWhile_dropWhile, split]

theorem cutLast_append (none : '.' ∉ after) :
    cutLast (String.ofList (before ++ '.' :: after)) = some (String.ofList before, String.ofList after) := by
  have letters : ∀ c ∈ after.reverse, decide (c ≠ '.') = true := by
    intro c mem
    have different : c ≠ '.' := by
      rintro rfl
      exact none (List.mem_reverse.1 mem)
    simpa using different
  have split : (before ++ '.' :: after).reverse.span (fun c => decide (c ≠ '.')) = (after.reverse, '.' :: before.reverse) := by
    rw [List.span_eq_takeWhile_dropWhile, List.reverse_append, List.reverse_cons, List.append_assoc,
      List.takeWhile_append_of_pos letters, List.dropWhile_append_of_pos letters]
    simp
  simp only [cutLast, String.toList_ofList, split, List.reverse_reverse]

end Split

section Tokens

variable {s id : String} {desc : Bool}

/-- The web client and the server split a token without a comma alike, but for one without a column. -/
theorem parseSortToken_eq (trimmed : Go.trimSpace s = s) (present : s ≠ "") (comma : ',' ∉ s.toList) :
    (∃ id desc, parseSortToken s = some ⟨id, desc⟩ ∧ parseSortColumn s = .ok (some (id, desc))) ∨
      parseSortToken s = none ∧ ∃ desc, parseSortColumn s = .ok (some ("", desc)) := by
  obtain ⟨chars, rfl⟩ : ∃ chars, s = String.ofList chars := ⟨s.toList, String.ofList_toList.symm⟩
  have single : ¬(chars.contains ',') = true := by simpa using comma
  unfold parseSortToken parseSortColumn
  simp only [trimmed, if_neg present, String.toList_ofList, if_neg single]
  rcases last_dot chars with none | ⟨before, after, rfl, none⟩
  · rw [lastIndexOf_eq_none none, cutLast_eq_none none]
    exact .inl ⟨_, _, rfl, rfl⟩
  rw [lastIndexOf_append none, cutLast_append none]
  have direction : (before ++ '.' :: after).drop (before.length + 1) = after := by simp
  simp only [List.take_left, direction]
  by_cases empty : String.ofList before = ""
  · by_cases asc : String.ofList after = "asc"
    · exact .inr ⟨by simp [asc, empty], false, by simp [asc, empty]⟩
    by_cases desc : String.ofList after = "desc"
    · exact .inr ⟨by simp [desc, empty], true, by simp [desc, empty]⟩
    · exact .inl ⟨_, _, by rw [if_neg asc, if_neg desc], by rw [if_neg asc, if_neg desc]⟩
  · left
    by_cases asc : String.ofList after = "asc"
    · exact ⟨_, false, by rw [if_pos asc, if_pos empty], by rw [if_pos asc]⟩
    by_cases desc : String.ofList after = "desc"
    · exact ⟨_, true, by rw [if_neg asc, if_pos desc, if_pos empty], by rw [if_neg asc, if_pos desc]⟩
    · exact ⟨_, _, by rw [if_neg asc, if_neg desc], by rw [if_neg asc, if_neg desc]⟩

/-- The token of a column is read as the column. -/
theorem parse_token (present : id ≠ "") (direction : String) (desc : Bool)
    (known : direction = if desc then "desc" else "asc") :
    parseSortToken (id ++ "." ++ direction) = some ⟨id, desc⟩ := by
  have chars : (id ++ "." ++ direction).toList = id.toList ++ '.' :: direction.toList := by simp
  have none : '.' ∉ direction.toList := by
    rw [known]
    cases desc <;> decide
  have some' : id ++ "." ++ direction ≠ "" := by
    intro empty
    have length := congrArg String.toList empty
    rw [chars] at length
    simp at length
  unfold parseSortToken
  rw [if_neg some', chars, lastIndexOf_append none]
  have split : (id.toList ++ '.' :: direction.toList).drop (id.toList.length + 1) = direction.toList := by simp
  simp only [List.take_left, split, String.ofList_toList]
  rw [known]
  cases desc <;> simp [present]

/-- What neither trim cuts at the ends of a column, neither cuts at the ends of its token. -/
theorem Trimmed.token (trimmed : Trimmed id) (present : id ≠ "") (desc : Bool) :
    Trimmed (id ++ "." ++ if desc then "desc" else "asc") := by
  have ends : ∀ p : Char → Bool, p 'c' = false → trim p id.toList = id.toList →
      trim p (id ++ "." ++ if desc then "desc" else "asc").toList = (id ++ "." ++ if desc then "desc" else "asc").toList := by
    intro p last same
    obtain ⟨first, _⟩ := trim_eq_self_iff.1 same
    refine trim_eq_self_iff.2 ⟨fun c head => ?_, fun c tail => ?_⟩
    · refine first c ?_
      cases chars : id.toList with
      | nil => exact absurd (String.toList_eq_nil_iff.1 chars) present
      | cons d ds => simpa [chars] using head
    · have same : c = 'c' := by
        cases desc <;> simpa [eq_comm] using tail
      rw [same]
      exact last
  obtain ⟨web, server⟩ := trimmed
  have toChars : ∀ p : Char → Bool, String.ofList (trim p id.toList) = id → trim p id.toList = id.toList := by
    intro p same
    have chars := congrArg String.toList same
    rwa [String.toList_ofList] at chars
  constructor
  · show String.ofList (trim isTrimmed _) = _
    rw [ends isTrimmed (by decide) (toChars _ web), String.ofList_toList]
  · show String.ofList (trim Go.isSpace _) = _
    rw [ends Go.isSpace (by decide) (toChars _ server), String.ofList_toList]

end Tokens

section Server

variable {R : Type} {params : Params} {orderKeys : List (String × OrderExpr R)} {defaultOrder : List (OrderExpr R)}

theorem orderBy_default (parsed : parseSortColumn params.sort = .ok none) :
    orderBy params orderKeys defaultOrder = .ok (defaultParts [] defaultOrder) := by
  unfold orderBy
  rw [parsed]
  rfl

theorem orderBy_refused {err : Err} (parsed : parseSortColumn params.sort = .error err) :
    orderBy params orderKeys defaultOrder = .error err := by
  unfold orderBy
  rw [parsed]
  rfl

/-- No table has a column without a name. -/
theorem orderBy_unnamed {desc : Bool} (parsed : parseSortColumn params.sort = .ok (some ("", desc)))
    (named : ∀ key ∈ orderKeys, key.1 ≠ "") :
    orderBy params orderKeys defaultOrder = .error (.invalidInput "unknown sort key \"\"") := by
  have absent : (orderKeys.find? fun entry => decide (entry.1 = "")) = none := by
    rw [List.find?_eq_none]
    intro key mem
    simpa using named key mem
  unfold orderBy
  rw [parsed]
  simp only [bind, Except.bind, absent]
  rfl

end Server

/-- **Sort tokens mean the same on both sides**: the token of a column and a direction is read back as these, by the web
client and by the server; whatever token the web client reads a sorting from, the server reads the same one from it; and
one it reads none from makes the server sort by default or refuse it. -/
theorem sort_tokens_agree :
    (∀ id desc rest, id ≠ "" → ',' ∉ id.toList → Trimmed id →
      parseSortingState (some (serializeSortingState (⟨id, desc⟩ :: rest))) = [⟨id, desc⟩] ∧
      parseSortColumn (serializeSortingState (⟨id, desc⟩ :: rest)) = .ok (some (id, desc))) ∧
    ∀ s, Trimmed s →
      (∀ sorting ∈ parseSortingState (some s), parseSortingState (some s) = [sorting] ∧
        parseSortColumn s = .ok (some (sorting.id, sorting.desc))) ∧
      (parseSortingState (some s) = [] → ∀ (R : Type) (params : Params) (orderKeys : List (String × OrderExpr R))
        (defaultOrder : List (OrderExpr R)), params.sort = s → (∀ key ∈ orderKeys, key.1 ≠ "") →
        orderBy params orderKeys defaultOrder = .ok (defaultParts [] defaultOrder) ∨
          ∃ message, orderBy params orderKeys defaultOrder = .error (.invalidInput message)) := by
  refine ⟨fun id desc rest present comma trimmed => ?_, fun s trimmed => ?_⟩
  · have whole : Trimmed (serializeSortingState (⟨id, desc⟩ :: rest)) := trimmed.token present desc
    have parsed : parseSortToken (serializeSortingState (⟨id, desc⟩ :: rest)) = some ⟨id, desc⟩ :=
      parse_token present _ desc rfl
    have some' : serializeSortingState (⟨id, desc⟩ :: rest) ≠ "" := by
      intro empty
      rw [empty] at parsed
      cases parsed
    have single : ',' ∉ (serializeSortingState (⟨id, desc⟩ :: rest)).toList := by
      cases desc <;> simpa [serializeSortingState] using comma
    constructor
    · simp [parseSortingState, whole.1, some', single, parsed]
    · rcases parseSortToken_eq whole.2 some' single with ⟨id', desc', web, server⟩ | ⟨web, _⟩
      · cases web.symm.trans parsed
        exact server
      · cases web.symm.trans parsed
  · by_cases empty : s = ""
    · subst empty
      have none : parseSortingState (some "") = [] := by simp [parseSortingState, trimmed.1]
      refine ⟨fun sorting mem => (by rw [none] at mem; cases mem), fun _ R params orderKeys defaultOrder sort named => ?_⟩
      have server : parseSortColumn params.sort = .ok Option.none := by simp [parseSortColumn, sort, trimmed.2]
      exact .inl (orderBy_default server)
    by_cases comma : ',' ∈ s.toList
    · have none : parseSortingState (some s) = [] := by simp [parseSortingState, trimmed.1, comma]
      refine ⟨fun sorting mem => (by rw [none] at mem; cases mem), fun _ R params orderKeys defaultOrder sort named => ?_⟩
      have server : parseSortColumn params.sort = .error (.invalidInput "multi-column sort is not supported") := by
        simp [parseSortColumn, sort, trimmed.2, empty, comma]
      exact .inr ⟨_, orderBy_refused server⟩
    have web : parseSortingState (some s) = (parseSortToken s).toList := by
      simp [parseSortingState, trimmed.1, empty, comma]
    rw [web]
    rcases parseSortToken_eq trimmed.2 empty comma with ⟨id, desc, parsed, server⟩ | ⟨parsed, desc, server⟩
    · rw [parsed]
      refine ⟨fun sorting mem => ?_, fun absent => (by cases absent)⟩
      cases List.mem_singleton.1 mem
      exact ⟨rfl, server⟩
    · rw [parsed]
      refine ⟨fun sorting mem => (by cases mem), fun _ R params orderKeys defaultOrder sort named => ?_⟩
      rw [← sort] at server
      exact .inr ⟨_, orderBy_unnamed server named⟩

def nameKey : OrderExpr String where
  sql := "lower(u.name)"
  value := .text

/-- A column whose name has dots is read back whole, and a direction without a column is refused. -/
theorem sort_tokens_agree_dotted :
    (parseSortingState (some (serializeSortingState [⟨"user.name.asc", true⟩])) = [⟨"user.name.asc", true⟩] ∧
      parseSortColumn (serializeSortingState [⟨"user.name.asc", true⟩]) = .ok (some ("user.name.asc", true))) ∧
    parseSortingState (some ".desc") = [] ∧
      ∃ message, orderBy { sort := ".desc" } [("user.name", nameKey)] [] = .error (.invalidInput message) := by
  obtain ⟨whole, read⟩ := sort_tokens_agree
  refine ⟨whole "user.name.asc" true [] (by decide) (by decide) ⟨by decide, by decide⟩, by decide, ?_⟩
  obtain ⟨-, unread⟩ := read ".desc" ⟨by decide, by decide⟩
  rcases unread (by decide) String { sort := ".desc" } [("user.name", nameKey)] [] rfl (by decide) with default | refused
  · cases default
  · exact refused

end Woodgate.Web.Sorting
