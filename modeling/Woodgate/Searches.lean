import Mathlib.Data.Bool.AllAny
import Woodgate.Library.Trimming
import Woodgate.Lists
import Woodgate.Postgres.Like

/-!
# Searching the lists

Each list has a text filter over some of its columns. `rows_search` says for all of them that a
search keeps the rows the other filters select, if one of these columns matches, and
`text_search` when a column does: `ILIKE` reads the searched text as a pattern.
-/

namespace Woodgate.Lists

open Library Library.Trimming Postgres

namespace ListCall

/-- The columns a search looks into. -/
def searched : (c : ListCall) → c.Row → List (Option String)
  | .users _ _ _ _ => fun u =>
    [some u.2.email, u.2.userPrincipalName, u.2.mailNickname, some u.2.name, u.2.givenName, u.2.familyName, u.2.department]
  | .groups _ => fun g => [some g.1.2.displayName, g.1.2.mailNickname, some g.1.2.externalID]
  | .locations _ => fun l => [some l.2.name, some l.2.description]
  | .checkins _ _ _ _ _ _ => fun c => [some c.user.name, some c.user.email, some c.location.name, some c.checkin.notes]
  | .stations _ _ => fun s => [some s.name, some s.location.name]
  | .eligiblePeople _ => fun u => [some u.2.name, some u.2.email, u.2.department]
  | .locationGroupChoices => fun g => [some g.2.displayName, g.2.mailNickname]
  | .stationLocationChoices | .availableLocations => fun l => [some l.2.name]

end ListCall

section Rows

variable {locale : DbLocale} {now : Time} {d : Db} {q : String}

theorem trimSpace_trimSpace (s : String) : Go.trimSpace (Go.trimSpace s) = Go.trimSpace s := by
  show String.ofList (trim Go.isSpace (String.ofList (trim Go.isSpace s.toList)).toList) = String.ofList (trim Go.isSpace s.toList)
  rw [String.toList_ofList, trim_trim]

theorem matchesSearch_empty (columns : List (Option String)) : matchesSearch locale "" columns = true := rfl

theorem dedup_filter {α : Type} [DecidableEq α] (p : α → Bool) (l : List α) : (l.filter p).dedup = l.dedup.filter p := by
  induction l with
  | nil => rfl
  | cons a l ih =>
    by_cases later : a ∈ l
    · rw [List.dedup_cons_of_mem later, ← ih, List.filter_cons]
      split
      · rename_i kept
        exact List.dedup_cons_of_mem (List.mem_filter.2 ⟨later, kept⟩)
      · rfl
    · rw [List.dedup_cons_of_notMem later, List.filter_cons, List.filter_cons, ← ih]
      split
      · exact List.dedup_cons_of_notMem fun mem => later (List.mem_of_mem_filter mem)
      · rfl

/-- A filter of the groups may come before or after they are counted. -/
theorem groupById_filter (p : ID × GroupRow → Bool) (joined : List ((ID × GroupRow) × Option ID)) :
    Directory.groupById (joined.filter fun row => p row.1) = (Directory.groupById joined).filter fun g => p g.1 := by
  have keys : (joined.filter fun row => p row.1).map Prod.fst = (joined.map Prod.fst).filter p := by
    rw [List.filter_map]
    rfl
  unfold Directory.groupById
  rw [keys, dedup_filter, List.filter_map]
  refine List.map_congr_left fun g mem => ?_
  have kept : p g = true := (List.mem_filter.1 mem).2
  rw [List.countP_filter]
  congr 1
  refine List.countP_congr fun row _ => ?_
  by_cases same : row.1 = g <;> simp [same, kept]

/-- A filter with a search in it is the filter without one, and then the search. -/
theorem filter_search {α : Type} {l : List α} {selects others : α → Bool} {columns : α → List (Option String)}
    (split : ∀ r, selects r = (matchesSearch locale (Go.trimSpace q) (columns r) && others r)) :
    l.filter selects = (l.filter others).filter fun r => matchesSearch locale (Go.trimSpace q) (columns r) := by
  rw [List.filter_filter]
  exact List.filter_congr fun r _ => split r

/-- **A search is one of the filters of its list.** -/
theorem rows_search (c : ListCall) : c.rows locale now d q =
    (c.rows locale now d "").filter fun r => matchesSearch locale (Go.trimSpace q) (c.searched r) := by
  have blank : Go.trimSpace "" = "" := by decide
  cases c with
  | users values roleValues source groupID =>
    refine filter_search fun u => ?_
    simp only [Directory.userWhere, ListQueryInput.params, Params.normalize, blank, matchesSearch_empty, ListCall.searched]
    cases matchesSearch locale (Go.trimSpace q) _ <;> simp
  | groups values =>
    have split := groupById_filter (fun g => matchesSearch locale (Go.trimSpace q) [some g.2.displayName, g.2.mailNickname,
      some g.2.externalID]) ((Directory.joinMembers d).filter fun row =>
        Directory.groupWhere locale { listParams := (ListQueryInput.params { }).normalize, values := normalizeValues values } row.1)
    refine Eq.trans ?_ split
    refine congrArg Directory.groupById (filter_search fun row => ?_)
    simp only [Directory.groupWhere, ListQueryInput.params, Params.normalize, blank, matchesSearch_empty, trimSpace_trimSpace]
    cases matchesSearch locale (Go.trimSpace q) _ <;> simp
  | locations enabled =>
    refine filter_search fun l => ?_
    simp only [Checkin.locationWhere, ListQueryInput.params, Params.normalize, blank, matchesSearch_empty, trimSpace_trimSpace,
      ListCall.searched]
    cases matchesSearch locale (Go.trimSpace q) _ <;> simp
  | checkins locationID userID direction departments occurredFrom occurredBefore =>
    refine filter_search fun c => ?_
    simp only [Checkin.checkinWhere, ListQueryInput.params, Params.normalize, blank, matchesSearch_empty, ListCall.searched]
    cases matchesSearch locale (Go.trimSpace q) _ <;> simp
  | stations locationID enabled =>
    refine filter_search fun s => ?_
    simp only [Stations.stationWhere, ListQueryInput.params, Params.normalize, blank, matchesSearch_empty, ListCall.searched]
    cases matchesSearch locale (Go.trimSpace q) _ <;> simp
  | eligiblePeople locationID =>
    refine filter_search fun u => ?_
    simp only [ListQueryInput.params, Params.normalize, blank, matchesSearch_empty, ListCall.searched]
    cases matchesSearch locale (Go.trimSpace q) _ <;> simp
  | locationGroupChoices =>
    refine filter_search fun g => ?_
    simp [ListQueryInput.params, Params.normalize, blank, matchesSearch_empty, ListCall.searched]
  | stationLocationChoices | availableLocations =>
    refine filter_search fun l => ?_
    simp only [ListQueryInput.params, Params.normalize, blank, matchesSearch_empty, ListCall.searched]
    cases matchesSearch locale (Go.trimSpace q) _ <;> simp

theorem matchesSearch_iff {columns : List (Option String)} (asked : q ≠ "") :
    matchesSearch locale q columns = true ↔ ∃ value, some value ∈ columns ∧ locale.ilike value ("%" ++ q ++ "%") = true := by
  rw [matchesSearch, decide_eq_false asked, Bool.false_or, List.any_eq_true]
  constructor
  · rintro ⟨column, mem, matched⟩
    obtain ⟨value, rfl, matched⟩ := (Option.any_eq_true _ _).1 matched
    exact ⟨value, mem, matched⟩
  · rintro ⟨value, mem, matched⟩
    exact ⟨some value, mem, matched⟩

end Rows

/-- **A search is a pattern.** A row is found exactly when one of its columns that are not `NULL` matches the searched text
between two `%`; that is the literal search for a text without `%`, `_` and `\`, and for no other. -/
theorem text_search {locale : DbLocale} {fold : Char → Char} (folds : locale.Folds fold) (now : Time) (d : Db) (q : String)
    (c : ListCall) (asked : Go.trimSpace q ≠ "") :
    (∀ r, r ∈ c.rows locale now d q ↔ r ∈ c.rows locale now d "" ∧ ∃ value, some value ∈ c.searched r ∧
      like ('%' :: ((Go.trimSpace q).toList.map fold ++ ['%'])) (value.toList.map fold) = true) ∧
    (PlainText (Go.trimSpace q).toList → ∀ r, r ∈ c.rows locale now d q ↔ r ∈ c.rows locale now d "" ∧
      ∃ value, some value ∈ c.searched r ∧ ContainsFolded fold (Go.trimSpace q) value) ∧
    ((∀ value : String, like ('%' :: ((Go.trimSpace q).toList.map fold ++ ['%'])) (value.toList.map fold) = true ↔
      ContainsFolded fold (Go.trimSpace q) value) ↔ PlainText (Go.trimSpace q).toList) := by
  have found : ∀ r, r ∈ c.rows locale now d q ↔ r ∈ c.rows locale now d "" ∧
      ∃ value, some value ∈ c.searched r ∧ locale.ilike value ("%" ++ Go.trimSpace q ++ "%") = true := by
    intro r
    rw [rows_search, List.mem_filter, matchesSearch_iff asked]
  have pattern : ∀ value, locale.ilike value ("%" ++ Go.trimSpace q ++ "%") =
      like ('%' :: ((Go.trimSpace q).toList.map fold ++ ['%'])) (value.toList.map fold) := by
    intro value
    rw [folds.ilike, search_chars, List.map_cons, List.map_append, List.map_singleton, special_percent folds]
  refine ⟨fun r => ?_, fun plain r => ?_, ?_⟩
  · rw [found]
    simp only [pattern]
  · rw [found]
    simp only [search_plain folds plain]
  · rw [← search_literal_iff folds]
    simp only [pattern]

/-! ## A search that is not literal -/

def desk (name : String) : LocationRow := { appID := 1, name, createdAt := 0, updatedAt := 0 }

/-- A location of each spelling. -/
def spelled : Db where
  locations := .ofList [(1, desk "front desk"), (2, desk "front_desk"), (3, desk "back\\desk")]

def spelledRows (q : String) : List (ID × LocationRow) := ListCall.rows DbLocale.c 0 spelled q (.locations none)

/-- A search in another case. -/
theorem text_search_desk : (1, desk "front desk") ∈ spelledRows " Desk " ∧
    ∃ value, some value ∈ ListCall.searched (.locations none) (1, desk "front desk") ∧
      ContainsFolded Char.toLower (Go.trimSpace " Desk ") value := by
  have found : (1, desk "front desk") ∈ spelledRows " Desk " := by decide
  obtain ⟨_, literal, _⟩ := text_search c_folds 0 spelled " Desk " (.locations none) (by decide)
  exact ⟨found, ((literal (List.all_iff_forall_prop.1 (by decide)) _).1 found).2⟩

/-- `_` finds a space, and `\` does not find itself. -/
theorem search_wildcard :
    (∃ r ∈ ListCall.rows DbLocale.c 0 spelled "front_desk" (.locations none),
      ¬ ∃ value, some value ∈ ListCall.searched (.locations none) r ∧ ContainsFolded Char.toLower "front_desk" value) ∧
    ∃ r ∈ ListCall.rows DbLocale.c 0 spelled "" (.locations none),
      (∃ value, some value ∈ ListCall.searched (.locations none) r ∧ ContainsFolded Char.toLower "\\" value) ∧
      r ∉ ListCall.rows DbLocale.c 0 spelled "\\" (.locations none) := by
  have other : (1, desk "front desk") ∈ spelledRows "front_desk" := by decide
  have own : (3, desk "back\\desk") ∈ spelledRows "" ∧ (3, desk "back\\desk") ∉ spelledRows "\\" := by decide
  refine ⟨⟨(1, desk "front desk"), other, ?_⟩, (3, desk "back\\desk"), own.1, ?_, own.2⟩
  · rintro ⟨value, mem, contained⟩
    have column : value = "front desk" ∨ value = "" := by simpa [ListCall.searched, desk] using mem
    rcases column with rfl | rfl
    · revert contained
      decide
    · revert contained
      decide
  · exact ⟨"back\\desk", List.mem_cons_self, by decide⟩

end Woodgate.Lists
