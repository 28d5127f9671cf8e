import Woodgate.Checkin.Lists
import Woodgate.Postgres.Pages
import Woodgate.Stations.Store

/-!
# The lists of the service

Nine queries are read in pages. `ListCall` names them with their filters, and `pages_partition`
says of all of them what a client that walks through the pages gets.
-/

namespace Woodgate.Lists

open Library Library.Paging Postgres

section Model

inductive ListCall where
  | users (values roleValues : List String) (source : String) (groupID : ID)
  | groups (values : List String)
  | locations (enabled : Option Bool)
  | checkins (locationID userID : ID) (direction : Option Direction) (departments : List String)
      (occurredFrom occurredBefore : Option Time)
  | stations (locationID : ID) (enabled : Option Bool)
  | eligiblePeople (locationID : ID)
  | locationGroupChoices
  | stationLocationChoices
  | availableLocations
  deriving DecidableEq, Repr

namespace ListCall

def Row : ListCall → Type
  | .users _ _ _ _ | .eligiblePeople _ => ID × UserRow
  | .groups _ => Directory.GroupListRow
  | .locations _ | .stationLocationChoices | .availableLocations => ID × LocationRow
  | .checkins _ _ _ _ _ _ => Checkin.CheckinListRow
  | .stations _ _ => Stations.Station
  | .locationGroupChoices => ID × GroupRow

def id : (c : ListCall) → c.Row → ID
  | .users _ _ _ _ | .eligiblePeople _ => Prod.fst
  | .groups _ => fun g => g.1.1
  | .locations _ | .stationLocationChoices | .availableLocations => Prod.fst
  | .checkins _ _ _ _ _ _ => Checkin.CheckinListRow.id
  | .stations _ _ => Stations.Station.id
  | .locationGroupChoices => Prod.fst

/-- The SQL text of the id. -/
def idSQL : ListCall → String
  | .users _ _ _ _ | .eligiblePeople _ => "u.id"
  | .groups _ => "g.id"
  | .locations _ => "l.id"
  | .checkins _ _ _ _ _ _ => "c.id"
  | .stations _ _ => "s.id"
  | .locationGroupChoices => "group_row.id"
  | .stationLocationChoices | .availableLocations => "id"

/-- The query a request sends at `now`. -/
def query (locale : DbLocale) (now : Time) (d : Db) (listParams : Params) : (c : ListCall) → ListQuery c.Row
  | .users values roleValues source groupID =>
    Directory.userListQuery locale { listParams, values, roleValues, source, groupID } d
  | .groups values => Directory.listGroupsQuery locale { listParams, values } d
  | .locations enabled => Checkin.listLocationsQuery locale { listParams, enabled } d
  | .checkins locationID userID direction departments occurredFrom occurredBefore =>
    Checkin.listCheckinsQuery locale
      { listParams, locationID, userID, direction, departments, occurredFrom, occurredBefore } d
  | .stations locationID enabled => Stations.stationListQuery locale now { listParams, locationID, enabled } d
  | .eligiblePeople locationID => Checkin.eligiblePeopleQuery locale locationID listParams d
  | .locationGroupChoices => Checkin.locationGroupChoicesQuery locale listParams d
  | .stationLocationChoices => Checkin.stationLocationChoicesQuery locale listParams d
  | .availableLocations => Checkin.availableLocationsQuery locale listParams d

/-- The rows the `WHERE` selects at `now`. -/
def rows (locale : DbLocale) (now : Time) (d : Db) (q : String) (c : ListCall) : List c.Row :=
  (c.query locale now d (ListQueryInput.params { q })).rows

/-- What a request gets, its rows by their ids. -/
def answer (locale : DbLocale) (now : Time) (d : Db) (c : ListCall) (input : ListQueryInput) : Except Err (List ID × Nat) := do
  let (items, count) ← (c.query locale now d input.params).queryListWithCount locale
  .ok (items.map c.id, count)

/-- The `ORDER BY` for a sort token, if the token is accepted. -/
def order (locale : DbLocale) (c : ListCall) (sort : String) : Except Err (List (OrderExpr c.Row × Bool)) :=
  (c.query locale 0 {} (ListQueryInput.params { sort })).order

/-- Sorted by version, the stations show the same versions at both times: no session and no
rejection that matters expires in between. -/
def Settled (d : Db) (sort : String) (t t' : Time) : ListCall → Prop
  | .stations _ _ => (∃ desc, parseSortColumn (ListQueryInput.params { sort }).normalize.sort = .ok (some ("version", desc))) →
      ∀ id s s', Stations.stationSelect t id d = some s → Stations.stationSelect t' id d = some s' → s.version = s'.version
  | _ => True

end ListCall

/-- The pages of size `perPage`, put together from the first to the last, are `order`; there is
nothing beyond, and each of these pages can be asked for. -/
def Partitions (page : Int32 → Except Err (List ID × Nat)) (perPage : Nat) (order : List ID) : Prop :=
  pageCount order.length perPage ≤ maxInt32 ∧ ∃ pages : Nat → List ID,
    (∀ p : Int32, 1 ≤ p.toInt → page p = .ok (pages p.toInt.toNat, order.length)) ∧
    ((List.range (pageCount order.length perPage)).map fun i => pages (i + 1)).flatten = order ∧
    ∀ p : Int32, pageCount order.length perPage < p.toInt → pages p.toInt.toNat = []

end Model

section WellOrdered

variable {locale : DbLocale} {now : Time} {d : Db} {params : Params}

theorem optionText_kind (o : Option String) : (Directory.optionText o).HasKind .text := by
  cases o <;> trivial

theorem int_kind {R : Type} {sql own : String} {id f : R → Int} {d n} (other : own ≠ sql) :
    Column sql id ⟨own, fun r => .int (f r), d, n⟩ := .other .int (fun _ => trivial) other

theorem bool_kind {R : Type} {sql own : String} {id : R → Int} {f : R → Bool} {d n} (other : own ≠ sql) :
    Column sql id ⟨own, fun r => .bool (f r), d, n⟩ := .other .bool (fun _ => trivial) other

theorem text_kind {R : Type} {sql own : String} {id : R → Int} {f : R → String} {d n} (other : own ≠ sql) :
    Column sql id ⟨own, fun r => .text (f r), d, n⟩ := .other .text (fun _ => trivial) other

theorem optional_kind {R : Type} {sql own : String} {id : R → Int} {f : R → Option String} {d n} (other : own ≠ sql) :
    Column sql id ⟨own, fun r => Directory.optionText (f r), d, n⟩ := .other .text (fun _ => optionText_kind _) other

theorem users_columns {params : Directory.UserListParams} :
    ∀ expr ∈ (Directory.userListQuery locale params d).exprs, Column "u.id" Prod.fst expr := by
  simp only [ListQuery.exprs, Directory.userListQuery, List.map_cons, List.map_nil, List.cons_append, List.nil_append,
    List.forall_mem_cons]
  exact ⟨text_kind (by decide), text_kind (by decide), optional_kind (by decide), int_kind (by decide),
    int_kind (by decide), text_kind (by decide), text_kind (by decide), .ofID fun _ => rfl, List.forall_mem_nil _⟩

theorem groups_columns {params : Directory.GroupListParams} :
    ∀ expr ∈ (Directory.listGroupsQuery locale params d).exprs, Column "g.id" (fun g => g.1.1) expr := by
  simp only [ListQuery.exprs, Directory.listGroupsQuery, Directory.groupListQuery, Directory.groupOrder, List.map_cons,
    List.map_nil, List.cons_append, List.nil_append, List.forall_mem_cons]
  exact ⟨text_kind (by decide), optional_kind (by decide), int_kind (by decide), int_kind (by decide),
    text_kind (by decide), .ofID fun _ => rfl, List.forall_mem_nil _⟩

theorem locations_columns {params : Checkin.LocationListParams} :
    ∀ expr ∈ (Checkin.listLocationsQuery locale params d).exprs, Column "l.id" Prod.fst expr := by
  simp only [ListQuery.exprs, Checkin.listLocationsQuery, Checkin.locationQuery, List.map_cons, List.map_nil,
    List.cons_append, List.nil_append, List.forall_mem_cons]
  exact ⟨.ofID fun _ => rfl, text_kind (by decide), bool_kind (by decide), int_kind (by decide), int_kind (by decide),
    text_kind (by decide), .ofID fun _ => rfl, List.forall_mem_nil _⟩

theorem checkins_columns {params : Checkin.CheckinListParams} :
    ∀ expr ∈ (Checkin.listCheckinsQuery locale params d).exprs, Column "c.id" Checkin.CheckinListRow.id expr := by
  simp only [ListQuery.exprs, Checkin.listCheckinsQuery, Checkin.checkinOrder, List.map_cons, List.map_nil,
    List.cons_append, List.nil_append, List.forall_mem_cons]
  exact ⟨.ofID fun _ => rfl, text_kind (by decide), optional_kind (by decide), text_kind (by decide), int_kind (by decide),
    int_kind (by decide), int_kind (by decide), .ofID fun _ => rfl, List.forall_mem_nil _⟩

theorem stations_columns {params : Stations.StationListParams} :
    ∀ expr ∈ (Stations.stationListQuery locale now params d).exprs, Column "s.id" Stations.Station.id expr := by
  simp only [ListQuery.exprs, Stations.stationListQuery, List.map_cons, List.map_nil, List.cons_append, List.nil_append,
    List.forall_mem_cons]
  exact ⟨.ofID fun _ => rfl, text_kind (by decide), text_kind (by decide), bool_kind (by decide), text_kind (by decide),
    int_kind (by decide), int_kind (by decide), text_kind (by decide), .ofID fun _ => rfl, List.forall_mem_nil _⟩

theorem eligiblePeople_columns {locationID : ID} :
    ∀ expr ∈ (Checkin.eligiblePeopleQuery locale locationID params d).exprs, Column "u.id" Prod.fst expr := by
  simp only [ListQuery.exprs, Checkin.eligiblePeopleQuery, Checkin.personOrder, List.map_cons, List.map_nil,
    List.cons_append, List.nil_append, List.forall_mem_cons]
  exact ⟨text_kind (by decide), text_kind (by decide), .ofID fun _ => rfl, List.forall_mem_nil _⟩

theorem locationGroupChoices_columns :
    ∀ expr ∈ (Checkin.locationGroupChoicesQuery locale params d).exprs, Column "group_row.id" Prod.fst expr := by
  simp only [ListQuery.exprs, Checkin.locationGroupChoicesQuery, List.map_cons, List.map_nil, List.cons_append,
    List.nil_append, List.forall_mem_cons]
  exact ⟨text_kind (by decide), optional_kind (by decide), int_kind (by decide), text_kind (by decide), .ofID fun _ => rfl,
    List.forall_mem_nil _⟩

theorem locationChoices_columns {selects : LocationRow → Bool} :
    ∀ expr ∈ (Checkin.locationChoices locale selects params d).exprs, Column "id" Prod.fst expr := by
  simp only [ListQuery.exprs, Checkin.locationChoices, List.map_cons, List.map_nil, List.cons_append, List.nil_append,
    List.forall_mem_cons]
  exact ⟨text_kind (by decide), text_kind (by decide), .ofID fun _ => rfl, List.forall_mem_nil _⟩

/-- A table's rows have its keys once, whatever is selected. -/
theorem nodup_filter_toList {V : Type} (t : Table ID V) (p : ID × V → Bool) : ((t.toList.filter p).map Prod.fst).Nodup :=
  t.nodup_keys_toList.sublist (List.filter_sublist.map _)

/-- Rows that keep the id of the row they are made of. -/
theorem nodup_filterMap {V W : Type} (t : Table ID V) {f : ID × V → Option W} {id : W → ID}
    (keeps : ∀ v w, f v = some w → id w = v.1) (p : W → Bool) : (((t.toList.filterMap f).filter p).map id).Nodup := by
  refine List.Nodup.sublist (List.filter_sublist.map _) ?_
  have sub : ((t.toList.filterMap f).map id).Sublist (t.toList.map Prod.fst) := by
    induction t.toList with
    | nil => exact List.Sublist.refl _
    | cons v rest ih =>
      cases made : f v with
      | none =>
        rw [List.filterMap_cons_none made]
        exact ih.cons _
      | some w =>
        rw [List.filterMap_cons_some made, List.map_cons, keeps v w made]
        exact ih.cons_cons _
  exact t.nodup_keys_toList.sublist sub

theorem stationSelect_id {id : ID} {station : Stations.Station} (shown : Stations.stationSelect now id d = some station) :
    station.id = id := by
  obtain ⟨_, _, shown⟩ := Option.bind_eq_some_iff.1 shown
  obtain ⟨_, _, shown⟩ := Option.bind_eq_some_iff.1 shown
  cases shown
  rfl

theorem wellOrdered (c : ListCall) : (c.query locale now d params).WellOrdered c.idSQL c.id := by
  cases c with
  | users =>
    refine ⟨users_columns, ⟨_, List.mem_cons_of_mem _ (List.mem_cons_of_mem _ List.mem_cons_self), rfl⟩, ?_⟩
    exact nodup_filter_toList _ _
  | groups => exact ⟨groups_columns, ⟨_, List.mem_cons_of_mem _ List.mem_cons_self, rfl⟩, Directory.groupListQuery_nodup⟩
  | locations =>
    exact ⟨locations_columns, ⟨_, List.mem_cons_of_mem _ List.mem_cons_self, rfl⟩, nodup_filter_toList _ _⟩
  | checkins =>
    refine ⟨checkins_columns, ⟨_, List.mem_cons_of_mem _ List.mem_cons_self, rfl⟩, ?_⟩
    exact nodup_filterMap _ (fun c row joined => (Checkin.joinCheckin_eq_some.1 joined).1) _
  | stations =>
    refine ⟨stations_columns, ⟨_, List.mem_cons_of_mem _ List.mem_cons_self, rfl⟩, ?_⟩
    exact nodup_filterMap _ (fun s station shown => stationSelect_id shown) _
  | eligiblePeople =>
    exact ⟨eligiblePeople_columns, ⟨_, List.mem_cons_of_mem _ List.mem_cons_self, rfl⟩, nodup_filter_toList _ _⟩
  | locationGroupChoices =>
    exact ⟨locationGroupChoices_columns, ⟨_, List.mem_cons_of_mem _ List.mem_cons_self, rfl⟩, nodup_filter_toList _ _⟩
  | stationLocationChoices | availableLocations =>
    exact ⟨locationChoices_columns, ⟨_, List.mem_cons_of_mem _ List.mem_cons_self, rfl⟩, nodup_filter_toList _ _⟩

end WellOrdered

section Joins

variable {locale : DbLocale} {d : Db}

/-- The `JOIN` of `userListSelectSQL`, with the condition on `gm.group_id`. -/
def joinGroup (groupID : ID) (d : Db) (users : List (ID × UserRow)) : List (ID × UserRow) :=
  users.flatMap fun u => (d.memberships.toList.filter fun membership =>
    decide (membership.1.1 = u.1) && decide (membership.1.2 = groupID)).map fun _ => u

/-- A user is in a group once, so the join repeats nobody. -/
theorem joinGroup_eq (groupID : ID) (users : List (ID × UserRow)) :
    joinGroup groupID d users = users.filter fun u => (d.memberships.row (u.1, groupID)).isSome := by
  have single : ∀ userID, (d.memberships.toList.filter fun membership =>
      decide (membership.1.1 = userID) && decide (membership.1.2 = groupID)).Perm
        (if (d.memberships.row (userID, groupID)).isSome then [((userID, groupID), ())] else []) := by
    intro userID
    refine (List.perm_ext_iff_of_nodup (d.memberships.nodup_toList.filter _) (by split <;> simp)).2 fun ⟨⟨u, g⟩, ⟨⟩⟩ => ?_
    rw [List.mem_filter, Table.mem_toList]
    cases present : d.memberships.row (userID, groupID) <;> simp
    · rintro stored rfl rfl
      exact absurd (present.symm.trans stored) nofun
    · rintro rfl rfl
      exact present
  unfold joinGroup
  induction users with
  | nil => rfl
  | cons u users ih =>
    rw [List.flatMap_cons, ih]
    have here := single u.1
    cases present : (d.memberships.row (u.1, groupID)).isSome with
    | false =>
      rw [present] at here
      rw [List.filter_cons_of_neg (by simp [present]), List.perm_nil.1 here]
      rfl
    | true =>
      rw [present] at here
      rw [List.filter_cons_of_pos (by simp [present]), List.perm_singleton.1 here]
      rfl

/-- The rows of a list of users are those of the join. -/
theorem userListQuery_rows {params : Directory.UserListParams} (grouped : 0 < params.groupID) :
    (Directory.userListQuery locale params d).rows =
      (joinGroup params.groupID d d.users.toList).filter (Directory.userWhere locale { params with groupID := 0 } d) := by
  rw [joinGroup_eq, List.filter_filter]
  refine List.filter_congr fun u _ => ?_
  have given : decide (params.groupID ≤ 0) = false := decide_eq_false (Int.not_le.2 grouped)
  have ungrouped : decide ((0 : ID) ≤ 0) = true := rfl
  simp only [Directory.userWhere, given, ungrouped, Bool.false_or, Bool.true_or, Bool.and_true]
  ac_rfl

end Joins

section Requests

variable {locale : DbLocale} {now : Time} {d : Db} {input : ListQueryInput} {c : ListCall}

theorem query_rows : (c.query locale now d input.params).rows = c.rows locale now d input.q := by
  cases c <;> rfl

/-- The order depends on the sort token alone. -/
theorem query_order_eq {now' : Time} {d' : Db} {params params' : Params} (sort : params.sort = params'.sort) :
    (c.query locale now d params).order = (c.query locale now' d' params').order := by
  cases c with
  | groups | locations => exact ListQuery.order_eq rfl rfl (congrArg Go.trimSpace sort)
  | _ => exact ListQuery.order_eq rfl rfl sort

theorem query_order : (c.query locale now d input.params).order = c.order locale input.sort := query_order_eq rfl

theorem query_pageIndex : (c.query locale now d input.params).params.pageIndex = input.pageIndex.toInt := by
  cases c <;> rfl

theorem query_pageSize (small : 1 ≤ input.perPage.toInt) :
    (c.query locale now d input.params).params.pageSize = input.perPage.toInt := by
  have given : input.perPage.toInt ≠ 0 := by omega
  have once : input.params.pageSize = input.perPage.toInt := if_neg given
  have twice : input.params.normalize.pageSize = input.perPage.toInt := by
    rw [← once] at given ⊢
    exact if_neg given
  cases c with
  | groups | locations => exact twice
  | _ => exact once

/-- One page, by its rows' ids. -/
theorem answer_eq {parts : List (OrderExpr c.Row × Bool)} (accepted : c.order locale input.sort = .ok parts)
    (small : 1 ≤ input.perPage.toInt) (large : input.perPage.toInt ≤ 1000)
    (fits : (c.rows locale now d input.q).length ≤ maxInt32) : c.answer locale now d input =
      .ok (slice input.perPage.toInt.toNat
        ((sorted (compareRows locale parts) (c.rows locale now d input.q)).map c.id) input.pageIndex.toInt.toNat,
        (c.rows locale now d input.q).length) := by
  rw [← @query_order locale now d] at accepted
  rw [← query_rows] at fits ⊢
  rw [ListCall.answer, ListQuery.queryListWithCount_eq query_pageIndex (query_pageSize small) small large accepted fits,
    ← slice_map]
  rfl

end Requests

section Stations

variable {locale : DbLocale} {d : Db} {t t' : Time} {s s' : Stations.Station}

/-- Two stations that differ at most in what their sessions and rejections say. -/
def SameStation (s s' : Stations.Station) : Prop :=
  s' = { s with state := s'.state, version := s'.version, protocolVersion := s'.protocolVersion }

/-- Time does not hide a station or change its columns. -/
theorem stationSelect_later {id : ID} (shown : Stations.stationSelect t id d = some s) :
    ∃ s', Stations.stationSelect t' id d = some s' ∧ SameStation s s' := by
  obtain ⟨row, found, shown⟩ := Option.bind_eq_some_iff.1 shown
  obtain ⟨l, located, shown⟩ := Option.bind_eq_some_iff.1 shown
  cases shown
  obtain ⟨s', shown', _⟩ := @Stations.stationSelect_some t' _ _ _ found (by simp [located])
  refine ⟨s', shown', ?_⟩
  simp only [Stations.stationSelect, found, located, Option.bind_eq_bind, Option.bind_some, Option.some.injEq] at shown'
  subst shown'
  rfl

theorem stationWhere_same {params : Stations.StationListParams} (same : SameStation s s') :
    Stations.stationWhere locale params s' = Stations.stationWhere locale params s := by
  rw [same]
  rfl

/-- The station as it is shown at another time. -/
def refresh (t' : Time) (d : Db) (s : Stations.Station) : Stations.Station := (Stations.stationSelect t' s.id d).getD s

theorem refresh_of_select {id : ID} (shown : Stations.stationSelect t id d = some s) :
    Stations.stationSelect t' id d = some (refresh t' d s) ∧ SameStation s (refresh t' d s) := by
  obtain ⟨s', shown', same⟩ := @stationSelect_later _ _ t' _ _ shown
  have own : refresh t' d s = s' := by
    rw [refresh, stationSelect_id shown, shown']
    rfl
  rw [own]
  exact ⟨shown', same⟩

/-- The rows at another time are the same rows, refreshed. -/
theorem stationListQuery_refresh {params : Stations.StationListParams} :
    (Stations.stationListQuery locale t' params d).rows =
      (Stations.stationListQuery locale t params d).rows.map (refresh t' d) := by
  simp only [Stations.stationListQuery]
  induction d.stations.toList with
  | nil => rfl
  | cons row rest ih =>
    cases shown : Stations.stationSelect t row.1 d with
    | none =>
      have hidden : Stations.stationSelect t' row.1 d = none := by
        cases shown' : Stations.stationSelect t' row.1 d with
        | none => rfl
        | some s' =>
          obtain ⟨_, there, _⟩ := @stationSelect_later _ _ t _ _ shown'
          exact absurd (shown.symm.trans there) nofun
      rw [List.filterMap_cons_none (f := fun s : ID × StationRow => Stations.stationSelect t s.1 d) shown,
        List.filterMap_cons_none (f := fun s : ID × StationRow => Stations.stationSelect t' s.1 d) hidden]
      exact ih
    | some s =>
      obtain ⟨shown', same⟩ := @refresh_of_select _ _ t' _ _ shown
      rw [List.filterMap_cons_some (f := fun s : ID × StationRow => Stations.stationSelect t s.1 d) shown,
        List.filterMap_cons_some (f := fun s : ID × StationRow => Stations.stationSelect t' s.1 d) shown']
      cases selected : Stations.stationWhere locale params s with
      | false =>
        have selected' : Stations.stationWhere locale params (refresh t' d s) = false := (stationWhere_same same).trans selected
        rw [List.filter_cons_of_neg (Bool.eq_false_iff.1 selected), List.filter_cons_of_neg (Bool.eq_false_iff.1 selected')]
        exact ih
      | true =>
        have selected' := (stationWhere_same same).trans selected
        rw [List.filter_cons_of_pos selected, List.filter_cons_of_pos selected', ih]
        rfl

/-- A part of an accepted order reads what time does not change, or the version that was
asked for. -/
theorem station_value {locationID : ID} {enabled : Option Bool} {sort : String} {parts : List (OrderExpr Stations.Station × Bool)}
    (accepted : (ListCall.stations locationID enabled).order locale sort = .ok parts) (same : SameStation s s')
    (version : (∃ desc, parseSortColumn (ListQueryInput.params { sort }).normalize.sort = .ok (some ("version", desc))) →
      s.version = s'.version) : ∀ part ∈ parts, part.1.value s' = part.1.value s := by
  obtain ⟨requested, parsed, accepted⟩ := Results.bind_ok.1 accepted
  have tail : ∀ expr ∈ (Stations.stationListQuery locale 0 {} {}).defaultOrder, expr.value s' = expr.value s := by
    simp only [Stations.stationListQuery, List.forall_mem_cons]
    rw [same]
    exact ⟨rfl, rfl, List.forall_mem_nil _⟩
  cases requested with
  | none =>
    cases accepted
    exact fun part mem => tail part.1 (defaultParts_mem part mem)
  | some column =>
    obtain ⟨id, desc⟩ := column
    dsimp only at accepted
    split at accepted
    · cases accepted
    · rename_i name expr found
      cases accepted
      have key := List.mem_of_find?_eq_some found
      have named := List.find?_some found
      have named : name = id := of_decide_eq_true named
      refine List.forall_mem_cons.2 ⟨?_, fun part mem => tail part.1 (defaultParts_mem part mem)⟩
      by_cases asked : id = "version"
      · have version := version ⟨desc, asked ▸ parsed⟩
        have others : ∀ entry ∈ (Stations.stationListQuery locale 0 {} {}).orderKeys, entry.2.value s' = entry.2.value s := by
          simp only [Stations.stationListQuery, List.forall_mem_cons]
          rw [same, version]
          exact ⟨rfl, rfl, rfl, rfl, rfl, rfl, rfl, List.forall_mem_nil _⟩
        exact others _ key
      · have others : ∀ entry ∈ (Stations.stationListQuery locale 0 {} {}).orderKeys,
            entry.1 ≠ "version" → entry.2.value s' = entry.2.value s := by
          simp only [Stations.stationListQuery, List.forall_mem_cons]
          rw [same]
          exact ⟨fun _ => rfl, fun _ => rfl, fun _ => rfl, fun _ => rfl, fun other => absurd rfl other, fun _ => rfl,
            fun _ => rfl, List.forall_mem_nil _⟩
        exact others _ key (named ▸ asked)

/-- The order of the stations is the same at both times. -/
theorem stations_settled {locationID : ID} {enabled : Option Bool} {params : Stations.StationListParams} {sort : String}
    {parts : List (OrderExpr Stations.Station × Bool)}
    (accepted : (ListCall.stations locationID enabled).order locale sort = .ok parts)
    (settled : (ListCall.stations locationID enabled).Settled d sort t t') :
    (sorted (compareRows locale parts) (Stations.stationListQuery locale t' params d).rows).map Stations.Station.id =
      (sorted (compareRows locale parts) (Stations.stationListQuery locale t params d).rows).map Stations.Station.id := by
  have each : ∀ s ∈ (Stations.stationListQuery locale t params d).rows,
      SameStation s (refresh t' d s) ∧ ∀ part ∈ parts, part.1.value (refresh t' d s) = part.1.value s := by
    intro s mem
    obtain ⟨row, _, shown⟩ := List.mem_filterMap.1 (List.mem_of_mem_filter mem)
    obtain ⟨shown', same⟩ := @refresh_of_select _ _ t' _ _ shown
    exact ⟨same, station_value accepted same fun asked => settled asked row.1 s _ shown shown'⟩
  rw [stationListQuery_refresh (t := t), sorted_map fun a mem b mem' => compareRows_congr (each a mem).2 (each b mem').2,
    List.map_map]
  refine List.map_congr_left fun s mem => ?_
  have same := (each s (sorted_perm.mem_iff.1 mem)).1
  show (refresh t' d s).id = s.id
  rw [same]

end Stations

section Partition

variable {locale : DbLocale} {d : Db} {c : ListCall} {q sort : String} {parts : List (OrderExpr c.Row × Bool)} {t t' : Time}

/-- Nothing but a version depends on the time. -/
theorem sorted_settled (accepted : c.order locale sort = .ok parts) (settled : c.Settled d sort t t') :
    (sorted (compareRows locale parts) (c.rows locale t' d q)).map c.id =
      (sorted (compareRows locale parts) (c.rows locale t d q)).map c.id := by
  cases c with
  | stations => exact stations_settled accepted settled
  | _ => rfl

/-- **The pages of a list.** There is one order of the ids in which every page of every size
is cut, if the count fits its type and no version that is sorted by expires in between. -/
theorem pages_partition (orders : locale.Orders) (d : Db) (c : ListCall) (q sort : String)
    {parts : List (OrderExpr c.Row × Bool)} (accepted : c.order locale sort = .ok parts) (clock : Int32 → Int32 → Time)
    (settled : ∀ n p n' p', c.Settled d sort (clock n p) (clock n' p'))
    (fits : ∀ n p, (c.rows locale (clock n p) d q).length ≤ maxInt32) :
    ∃ order : List ID, order.Nodup ∧
      (∀ n p, let rows := c.rows locale (clock n p) d q
        (rows.map c.id).Nodup ∧ order.Perm (rows.map c.id) ∧
        Std.TransCmp (compareRows locale parts) ∧ Separates (compareRows locale parts) rows ∧
        ∀ l : List c.Row, l.Perm rows → l.Pairwise (fun r s => (compareRows locale parts r s).isLE = true) →
          l.map c.id = order) ∧
      ∀ perPage : Int32, 1 ≤ perPage.toInt → perPage.toInt ≤ 1000 →
        Partitions (fun page => c.answer locale (clock perPage page) d { q, page, perPage, sort }) perPage.toInt.toNat order ∧
        ∀ page : Int32, (ListQueryInput.params { q, page, perPage, sort }).offset.toInt =
          max (page.toInt - 1) 0 * perPage.toInt := by
  have trans : Std.TransCmp (compareRows locale parts) := (wellOrdered c).transCmp orders accepted
  have nodup : ∀ t, ((c.rows locale t d q).map c.id).Nodup := fun t => (wellOrdered c).rows
  have separates : ∀ t, Separates (compareRows locale parts) (c.rows locale t d q) := by
    intro t
    rw [← @query_order locale t d { q, sort } c] at accepted
    have apart : Separates (compareRows locale parts) _ := (wellOrdered c).separates accepted
    rw [query_rows] at apart
    exact apart
  let order := (sorted (compareRows locale parts) (c.rows locale (clock 0 0) d q)).map c.id
  have ids : ∀ n p, (sorted (compareRows locale parts) (c.rows locale (clock n p) d q)).map c.id = order :=
    fun n p => sorted_settled accepted (settled 0 0 n p)
  have perm : ∀ n p, order.Perm ((c.rows locale (clock n p) d q).map c.id) := by
    intro n p
    rw [← ids n p]
    exact sorted_perm.map _
  refine ⟨order, (perm 0 0).nodup_iff.2 (nodup _), fun n p => ⟨nodup _, perm n p, trans, separates _, ?_⟩, ?_⟩
  · intro l same pairwise
    rw [sorted_unique (separates _) same pairwise, ids]
  intro perPage small large
  have positive : 0 < perPage.toInt.toNat := by omega
  have length : ∀ n p, (c.rows locale (clock n p) d q).length = order.length := by
    intro n p
    rw [(perm n p).length_eq, List.length_map]
  have short : order.length ≤ maxInt32 := length 0 0 ▸ fits 0 0
  have page : ∀ p : Int32, c.answer locale (clock perPage p) d { q, page := p, perPage, sort } =
      .ok (slice perPage.toInt.toNat order (max (p.toInt - 1) 0).toNat, order.length) := by
    intro p
    have answered := @answer_eq locale (clock perPage p) d { q, page := p, perPage, sort } c parts accepted small large
      (fits perPage p)
    rw [ids, length, pageIndex_toInt] at answered
    exact answered
  refine ⟨⟨Nat.le_trans (pageCount_le positive) short, fun p => slice perPage.toInt.toNat order (p - 1), ?_, ?_, ?_⟩, ?_⟩
  · intro p first
    have index : (max (p.toInt - 1) 0).toNat = p.toInt.toNat - 1 := by omega
    exact (page p).trans (by rw [index])
  · exact flatten_slices positive
  · intro p beyond
    exact slice_beyond positive (by omega)
  · exact fun p => ListQueryInput.offset_eq { q, page := p, perPage, sort } small large

end Partition

section Samples

/-- Two stations that are online; the session of the first is the sooner to expire. -/
def expiringDb : Db where
  locations := .ofList [(1, { appID := 1, name := "Lobby", createdAt := 0, updatedAt := 0 })]
  stations := .ofList [
    (1, { appID := 2, name := "Left", locationID := 1, secretHash := "a", createdAt := 0, updatedAt := 0 }),
    (2, { appID := 3, name := "Right", locationID := 1, secretHash := "b", createdAt := 0, updatedAt := 0 })]
  sessions := .ofList [
    (1, { connectionID := "left", protocolVersion := 1, version := "2", expiresAt := 10 }),
    (2, { connectionID := "right", protocolVersion := 1, version := "1", expiresAt := 100 })]

theorem pages_partition_stations : ∃ order : List ID, order.Perm [2, 1] ∧
    ∀ perPage : Int32, 1 ≤ perPage.toInt → perPage.toInt ≤ 1000 →
      Partitions (fun page => (ListCall.stations 0 none).answer DbLocale.c 5 expiringDb { page, perPage, sort := "version.desc" })
        perPage.toInt.toNat order := by
  obtain ⟨parts, accepted⟩ : ∃ parts, (ListCall.stations 0 none).order DbLocale.c "version.desc" = .ok parts := ⟨_, rfl⟩
  obtain ⟨order, _, rows, pages⟩ := pages_partition DbLocale.c_orders expiringDb (.stations 0 none) "" "version.desc" accepted
    (fun _ _ => 5) (fun _ _ _ _ _ id s s' here there => by rw [Option.some.inj (here.symm.trans there)])
    (fun _ _ => by decide +kernel)
  have ids : ((ListCall.stations 0 none).rows DbLocale.c 5 expiringDb "").map (ListCall.stations 0 none).id = [2, 1] := by
    decide +kernel
  exact ⟨order, ids ▸ (rows 0 0).2.1, fun perPage small large => (pages perPage small large).1⟩

def lobby (k : Nat) : LocationRow where
  appID := k
  name := "Lobby"
  createdAt := 0
  updatedAt := 0

/-- `n` locations. -/
def manyLocations (n : Nat) : Db where
  locations := .tabulate n lobby

theorem manyLocations_overflow {n : Nat} (large : maxInt32 < n) (items : List ID) (count : Nat) :
    (ListCall.locations none).answer DbLocale.c 0 (manyLocations n) { page := 1, perPage := 1000 } ≠ .ok (items, count) := by
  intro answered
  obtain ⟨⟨rows, _⟩, listed, _⟩ := Results.bind_ok.1 answered
  refine ListQuery.queryListWithCount_overflow ?_ _ listed
  have all : ((ListCall.locations none).query DbLocale.c 0 (manyLocations n)
      (ListQueryInput.params { page := 1, perPage := 1000 })).rows = (manyLocations n).locations.toList :=
    List.filter_eq_self.2 fun _ _ => rfl
  have length : (manyLocations n).locations.toList.length = n := Table.length_tabulate n lobby
  rw [all]
  exact Nat.lt_of_lt_of_eq large length.symm

/-- A session expires between two pages of the stations by version: the first station is on
neither. And a count can be too large for its type. -/
theorem pages_not_partitioned :
    (¬ ∃ order : List ID, order.Nodup ∧ Partitions (fun page => (ListCall.stations 0 none).answer DbLocale.c
      (if page = 1 then 5 else 20) expiringDb { page, perPage := 1, sort := "version" }) 1 order) ∧
    ∀ items count, (ListCall.locations none).answer DbLocale.c 0 (manyLocations 2147483648) { page := 1, perPage := 1000 } ≠
      .ok (items, count) := by
  constructor
  · rintro ⟨order, nodup, _, pages, answers, together, _⟩
    have first : (ListCall.stations 0 none).answer DbLocale.c 5 expiringDb { page := 1, perPage := 1, sort := "version" } =
        .ok ([2], 2) := by decide +kernel
    have second : (ListCall.stations 0 none).answer DbLocale.c 20 expiringDb { page := 2, perPage := 1, sort := "version" } =
        .ok ([2], 2) := by decide +kernel
    have one := Prod.ext_iff.1 (Except.ok.inj ((answers 1 (by decide)).symm.trans first))
    have two := Prod.ext_iff.1 (Except.ok.inj ((answers 2 (by decide)).symm.trans second))
    have count : order.length = 2 := one.2
    rw [count] at together
    have twice : [2] ++ [2] = order := by
      have shown : pages 1 ++ (pages 2 ++ []) = order := together
      rw [show pages 1 = [2] from one.1, show pages 2 = [2] from two.1] at shown
      exact shown
    rw [← twice] at nodup
    exact absurd nodup (by decide)
  · exact fun items count => manyLocations_overflow (by decide) items count

end Samples

end Woodgate.Lists
