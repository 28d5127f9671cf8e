import Woodgate.Checkin.Store
import Woodgate.Directory.GroupStore

/-!
# The lists of the check-in store

The queries behind the lists of locations and of check-ins, and behind the choices of
groups and locations that forms offer. A join on a primary key adds the one row of that
key, so a row of a list is its own row with those.
-/

namespace Woodgate.Checkin

open Library Postgres

variable (locale : DbLocale)

section Locations

structure LocationListParams where
  listParams : Params := {}
  enabled : Option Bool := none
  deriving DecidableEq, Repr

/-- The `WHERE` of `Store.ListLocations`. -/
def locationWhere (params : LocationListParams) (l : ID × LocationRow) : Bool :=
  matchesSearch locale params.listParams.q [some l.2.name, some l.2.description] &&
  params.enabled.all fun enabled => decide (l.2.enabled = enabled)

def locationQuery (params : LocationListParams) (d : Db) : ListQuery (ID × LocationRow) where
  rows := d.locations.toList.filter (locationWhere locale params)
  orderKeys := [
    ("id", { sql := "l.id", value := fun l => .int l.1 }),
    ("name", { sql := "lower(l.name)", value := fun l => .text (locale.lower l.2.name) }),
    ("enabled", { sql := "l.enabled", value := fun l => .bool l.2.enabled }),
    ("created_at", { sql := "l.created_at", value := fun l => .int l.2.createdAt }),
    ("updated_at", { sql := "l.updated_at", value := fun l => .int l.2.updatedAt })]
  defaultOrder := [
    { sql := "lower(l.name)", value := fun l => .text (locale.lower l.2.name) },
    { sql := "l.id", value := fun l => .int l.1 }]
  params := params.listParams

/-- The query of `Store.ListLocations`. -/
def listLocationsQuery (params : LocationListParams) (d : Db) : ListQuery (ID × LocationRow) :=
  locationQuery locale { params with listParams := params.listParams.normalize } d

/-- The query of `Store.ListLocationGroupChoices`. -/
def locationGroupChoicesQuery (params : Params) (d : Db) : ListQuery (ID × GroupRow) where
  rows := d.groups.toList.filter fun g => matchesSearch locale params.q [some g.2.displayName, g.2.mailNickname]
  orderKeys := [
    ("display_name", { sql := "lower(group_row.display_name)", value := fun g => .text (locale.lower g.2.displayName) }),
    ("mail_nickname", {
      sql := "lower(group_row.mail_nickname)", value := fun g => Directory.optionText (g.2.mailNickname.map locale.lower)
      nullOrder := .nullsLast }),
    ("source", { sql := "group_row.source", value := fun g => .int (Directory.sourcePosition g.2.source) })]
  defaultOrder := [
    { sql := "lower(group_row.display_name)", value := fun g => .text (locale.lower g.2.displayName) },
    { sql := "group_row.id", value := fun g => .int g.1 }]
  params

/-- A choice of locations by name. -/
def locationChoices (selects : LocationRow → Bool) (params : Params) (d : Db) : ListQuery (ID × LocationRow) where
  rows := d.locations.toList.filter fun l => selects l.2 && matchesSearch locale params.q [some l.2.name]
  orderKeys := [("name", { sql := "lower(name)", value := fun l => .text (locale.lower l.2.name) })]
  defaultOrder := [
    { sql := "lower(name)", value := fun l => .text (locale.lower l.2.name) },
    { sql := "id", value := fun l => .int l.1 }]
  params

/-- The query of `Store.ListStationLocationChoices`. -/
def stationLocationChoicesQuery : Params → Db → ListQuery (ID × LocationRow) := locationChoices locale fun _ => true

/-- The query of `Store.ListAvailableLocations`. -/
def availableLocationsQuery : Params → Db → ListQuery (ID × LocationRow) := locationChoices locale LocationRow.enabled

end Locations

section Checkins

/-- The filters of a list of check-ins; the API takes no other direction. -/
structure CheckinListParams where
  listParams : Params := {}
  locationID : ID := 0
  userID : ID := 0
  direction : Option Direction := none
  departments : List String := []
  occurredFrom : Option Time := none
  occurredBefore : Option Time := none
  deriving DecidableEq, Repr

/-- A check-in with the rows its inner joins add. -/
structure CheckinListRow where
  id : ID
  checkin : CheckinRow
  user : UserRow
  location : LocationRow
  deriving DecidableEq, Repr

/-- The `JOIN`s of `checkinSelectSQL`. -/
def joinCheckin (d : Db) (c : ID × CheckinRow) : Option CheckinListRow := do
  some { id := c.1, checkin := c.2, user := ← d.users.row c.2.userID, location := ← d.locations.row c.2.locationID }

/-- The `WHERE` of `Store.ListCheckins`. -/
def checkinWhere (params : CheckinListParams) (c : CheckinListRow) : Bool :=
  matchesSearch locale params.listParams.q [some c.user.name, some c.user.email, some c.location.name, some c.checkin.notes] &&
  (decide (params.locationID ≤ 0) || decide (c.checkin.locationID = params.locationID)) &&
  (decide (params.userID ≤ 0) || decide (c.checkin.userID = params.userID)) &&
  (params.direction.all fun direction => decide (c.checkin.direction = direction)) &&
  (params.departments.isEmpty || c.user.department.any params.departments.contains) &&
  (params.occurredFrom.all fun occurredFrom => decide (occurredFrom ≤ c.checkin.occurredAt)) &&
  params.occurredBefore.all fun occurredBefore => decide (c.checkin.occurredAt < occurredBefore)

/-- The position of a value in the enumeration, which is how PostgreSQL compares two. -/
def directionPosition : Direction → Int
  | .directionIn => 0
  | .directionOut => 1

def checkinOrder : List (OrderExpr CheckinListRow) := [
  { sql := "c.occurred_at", value := fun c => .int c.checkin.occurredAt, descending := true },
  { sql := "c.id", value := fun c => .int c.id, descending := true }]

/-- The query of `Store.ListCheckins`. -/
def listCheckinsQuery (params : CheckinListParams) (d : Db) : ListQuery CheckinListRow where
  rows := (d.checkins.toList.filterMap (joinCheckin d)).filter (checkinWhere locale params)
  orderKeys := [
    ("id", { sql := "c.id", value := fun c => .int c.id }),
    ("user", { sql := "lower(u.name)", value := fun c => .text (locale.lower c.user.name) }),
    ("department", {
      sql := "lower(u.department)", value := fun c => Directory.optionText (c.user.department.map locale.lower)
      nullOrder := .nullsLast }),
    ("location", { sql := "lower(l.name)", value := fun c => .text (locale.lower c.location.name) }),
    ("direction", { sql := "c.direction", value := fun c => .int (directionPosition c.checkin.direction) }),
    ("occurred_at", { sql := "c.occurred_at", value := fun c => .int c.checkin.occurredAt })]
  defaultOrder := checkinOrder
  params := params.listParams

end Checkins

section Rows

variable {locale} {d : Db}

theorem joinCheckin_eq_some {c : ID × CheckinRow} {row : CheckinListRow} : joinCheckin d c = some row ↔
    row.id = c.1 ∧ row.checkin = c.2 ∧ d.users.row c.2.userID = some row.user ∧
      d.locations.row c.2.locationID = some row.location := by
  obtain ⟨id, checkin, user, location⟩ := row
  rw [joinCheckin]
  simp only [Option.bind_eq_bind, Option.bind_eq_some_iff, Option.some.injEq, CheckinListRow.mk.injEq]
  constructor
  · rintro ⟨u, found, l, found', rfl, rfl, rfl, rfl⟩
    exact ⟨rfl, rfl, found, found'⟩
  · rintro ⟨rfl, rfl, found, found'⟩
    exact ⟨user, found, location, found', rfl, rfl, rfl, rfl⟩

/-- The row of a list is the check-in that `checkinSelect` shows. -/
theorem checkinSelect_of_join {c : ID × CheckinRow} {row : CheckinListRow} (stored : d.checkins.row c.1 = some c.2)
    (joined : joinCheckin d c = some row) : ∃ item, checkinSelect c.1 d = some item ∧ item.id = row.id := by
  obtain ⟨same, _, user, location⟩ := joinCheckin_eq_some.1 joined
  obtain ⟨item, shown⟩ := checkinSelect_some stored (by simp [user]) (by simp [location])
  refine ⟨item, shown, ?_⟩
  obtain ⟨_, _, shown⟩ := Option.bind_eq_some_iff.1 shown
  obtain ⟨_, _, shown⟩ := Option.bind_eq_some_iff.1 shown
  obtain ⟨_, _, shown⟩ := Option.bind_eq_some_iff.1 shown
  cases shown
  exact same.symm

end Rows

end Woodgate.Checkin
