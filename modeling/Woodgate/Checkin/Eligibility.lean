import Woodgate.Checkin.Model
import Woodgate.Postgres.Listing

/-!
# Who may check in

`eligiblePeopleWhere` and the three queries built on it. `Eligible` says the same of one
person as a proposition: active, and in one of the location's groups when it has any.
-/

namespace Woodgate.Checkin

open Library Library.Results Postgres

/-- The location has a group. -/
def restricted (locationID : ID) (d : Db) : Bool := d.locationGroups.exists? fun k _ => decide (k.1 = locationID)

/-- The person is in one of the location's groups. -/
def inLocationGroup (locationID userID : ID) (d : Db) : Bool :=
  d.locationGroups.exists? fun k _ => decide (k.1 = locationID) && (d.memberships.row (userID, k.2)).isSome

/-- `eligiblePeopleWhere`, for one row of `users`. -/
def eligiblePeopleWhere (locationID : ID) (d : Db) (u : ID × UserRow) : Bool :=
  u.2.deletedAt.isNone && (!restricted locationID d || inLocationGroup locationID u.1 d)

/-- `Store.PersonEligible` -/
def personEligible (locationID userID : ID) (d : Db) : Bool :=
  (d.users.row userID).any fun u => eligiblePeopleWhere locationID d (userID, u)

/-- The columns `Store.ListEligiblePeople` selects. -/
def personSummary (u : ID × UserRow) : PersonSummary := ⟨u.1, u.2.name, u.2.email, u.2.department.getD ""⟩

/-- A `personRow`. -/
structure PersonRow where
  id : ID
  name : String
  email : String
  deriving DecidableEq, Repr

variable (locale : DbLocale)

def personOrder : List (OrderExpr (ID × UserRow)) := [
  { sql := "lower(u.name)", value := fun u => .text (locale.lower u.2.name) },
  { sql := "u.id", value := fun u => .int u.1 }]

/-- The query of `Store.ListEligiblePeople`. -/
def eligiblePeopleQuery (locationID : ID) (params : Params) (d : Db) : ListQuery (ID × UserRow) where
  rows := d.users.toList.filter fun u => eligiblePeopleWhere locationID d u &&
    matchesSearch locale params.q [some u.2.name, some u.2.email, u.2.department]
  orderKeys := [("name", { sql := "lower(u.name)", value := fun u => .text (locale.lower u.2.name) })]
  defaultOrder := personOrder locale
  params

/-- `Store.ListEligiblePeople` -/
def listEligiblePeople (locationID : ID) (params : Params) (d : Db) : Except Err (List PersonSummary × Nat) := do
  let (rows, count) ← (eligiblePeopleQuery locale locationID params d).listWithCount locale
  .ok (rows.map fun u => ⟨u.1, u.2.name, u.2.email, u.2.department.getD ""⟩, count)

/-- `Store.listPeople` -/
def listPeople (locationID : ID) (d : Db) : List PersonRow :=
  let rows := (d.users.toList.filter (eligiblePeopleWhere locationID d)).insertionSort fun u v =>
    (compareRows locale (defaultParts [] (personOrder locale)) u v).isLE = true
  rows.map fun u => ⟨u.1, u.2.name, u.2.email⟩

variable {locale} {l p : ID} {d : Db}

section Eligible

/-- One of the groups of location `l` has the member `p`. -/
def InGroupOf (d : Db) (l p : ID) : Prop := ∃ g, (d.locationGroups.row (l, g)).isSome ∧ (d.memberships.row (p, g)).isSome

def Restricted (d : Db) (l : ID) : Prop := ∃ g, (d.locationGroups.row (l, g)).isSome

/-- Active, and in one of the location's groups when it has any. -/
def Eligible (d : Db) (l p : ID) : Prop :=
  ∃ u, d.users.row p = some u ∧ u.deletedAt = none ∧ (Restricted d l → InGroupOf d l p)

theorem restricted_iff : restricted l d = true ↔ Restricted d l := by
  rw [restricted, Table.exists?_iff]
  constructor
  · rintro ⟨⟨l', g⟩, v, present, same⟩
    cases of_decide_eq_true same
    exact ⟨g, by simp [present]⟩
  · rintro ⟨g, present⟩
    obtain ⟨v, found⟩ := Option.isSome_iff_exists.1 present
    exact ⟨(l, g), v, found, by simp⟩

theorem inLocationGroup_iff : inLocationGroup l p d = true ↔ InGroupOf d l p := by
  rw [inLocationGroup, Table.exists?_iff]
  constructor
  · rintro ⟨⟨l', g⟩, v, present, holds⟩
    rw [Bool.and_eq_true, decide_eq_true_eq] at holds
    obtain ⟨rfl, member⟩ := holds
    exact ⟨g, by simp [present], member⟩
  · rintro ⟨g, present, member⟩
    obtain ⟨v, found⟩ := Option.isSome_iff_exists.1 present
    exact ⟨(l, g), v, found, by simpa using member⟩

theorem eligiblePeopleWhere_iff {u : UserRow} : eligiblePeopleWhere l d (p, u) = true ↔
    u.deletedAt = none ∧ (Restricted d l → InGroupOf d l p) := by
  simp only [eligiblePeopleWhere, Bool.and_eq_true, Bool.or_eq_true, Option.isNone_iff_eq_none, inLocationGroup_iff,
    Bool.not_eq_true', ← Bool.not_eq_true, restricted_iff, imp_iff_not_or]

theorem personEligible_iff : personEligible l p d = true ↔ Eligible d l p := by
  simp only [personEligible, Option.any_eq_true, eligiblePeopleWhere_iff, Eligible]

end Eligible

section Lists

/-- `listPeople` returns exactly the eligible people. -/
theorem mem_listPeople_iff : (∃ row ∈ listPeople locale l d, row.id = p) ↔ personEligible l p d = true := by
  simp only [listPeople, List.mem_map, List.mem_insertionSort, List.mem_filter, Prod.exists, Table.mem_toList,
    personEligible, Option.any_eq_true]
  constructor
  · rintro ⟨_, ⟨id, u, ⟨found, holds⟩, rfl⟩, rfl⟩
    exact ⟨u, found, holds⟩
  · rintro ⟨u, found, holds⟩
    exact ⟨_, ⟨p, u, ⟨found, holds⟩, rfl⟩, rfl⟩

theorem listEligiblePeople_ok {params : Params} {items : List PersonSummary} {count : Nat} :
    listEligiblePeople locale l params d = .ok (items, count) ↔
      ∃ rows, (eligiblePeopleQuery locale l params d).listWithCount locale = .ok (rows, count) ∧
        items = rows.map personSummary := by
  rw [listEligiblePeople, bind_ok]
  constructor
  · rintro ⟨⟨rows, count⟩, listed, shown⟩
    cases shown
    exact ⟨rows, listed, rfl⟩
  · rintro ⟨rows, listed, rfl⟩
    exact ⟨(rows, count), listed, rfl⟩

/-- So do the pages of `ListEligiblePeople`. -/
theorem mem_listEligiblePeople_iff (pageSize : Int) (small : 0 ≤ pageSize) (large : pageSize ≤ 1000) :
    (∃ pageIndex items count, 0 ≤ pageIndex ∧
      listEligiblePeople locale l { pageIndex, pageSize } d = .ok (items, count) ∧ ∃ item ∈ items, item.id = p) ↔
      personEligible l p d = true := by
  have selected : ∀ u, (p, u) ∈ (eligiblePeopleQuery locale l { pageSize } d).rows ↔
      d.users.row p = some u ∧ eligiblePeopleWhere l d (p, u) = true := by
    intro u
    simp [eligiblePeopleQuery, matchesSearch, Table.mem_toList]
  have pages := fun u => (selected u).symm.trans
    (@mem_some_page _ locale (eligiblePeopleQuery locale l { pageSize } d) rfl small large _)
  rw [personEligible, Option.any_eq_true]
  constructor
  · rintro ⟨pageIndex, items, count, nonneg, listed, item, mem, own⟩
    obtain ⟨rows, shown, rfl⟩ := listEligiblePeople_ok.1 listed
    obtain ⟨⟨id, u⟩, row, rfl⟩ := List.mem_map.1 mem
    cases own
    exact ⟨u, (pages u).2 ⟨pageIndex, rows, count, nonneg, shown, row⟩⟩
  · rintro ⟨u, holds⟩
    obtain ⟨pageIndex, rows, count, nonneg, shown, row⟩ := (pages u).1 holds
    exact ⟨pageIndex, _, count, nonneg, listEligiblePeople_ok.2 ⟨rows, shown, rfl⟩, _, List.mem_map_of_mem row, rfl⟩

end Lists

end Woodgate.Checkin
