import Mathlib.Logic.Relation
import Woodgate.Library.GrowingPages
import Woodgate.Lists

/-!
# Reading all pages

`collectAllPages` reads a list page by page, as many pages as the first response says. An
export of check-ins does so while people keep checking in, and every page is cut from the list
as it is when the page is asked for.
-/

namespace Woodgate.Web

open Library Library.Paging Library.Results Postgres Checkin

section Client

/-- `MAX_PAGE_SIZE` -/
def maxPageSize : Nat := 1000

def collectAllPages {m : Type → Type} [Monad m] {T : Type} (loadPage : Nat → Nat → m (List T × Nat)) : m (List T) := do
  let firstPage ← loadPage 1 maxPageSize
  let pageCount := pageCount firstPage.2 maxPageSize
  if pageCount ≤ 1 then return firstPage.1
  (List.range' 2 (pageCount - 1)).foldlM (fun items page => do
    let response ← loadPage page maxPageSize
    return items ++ response.1) firstPage.1

/-- The first response decides how many more there are. -/
theorem collectAllPages_eq {S E T : Type} {loadPage : Nat → Nat → StateT S (Except E) (List T × Nat)} {first : List T}
    {count : Nat} {s s' : S} (loaded : loadPage 1 maxPageSize s = .ok ((first, count), s')) :
    collectAllPages loadPage s = (if pageCount count maxPageSize ≤ 1 then pure first
      else (List.range' 2 (pageCount count maxPageSize - 1)).foldlM (fun items page => do
        let response ← loadPage page maxPageSize
        return items ++ response.1) first : StateT S (Except E) (List T)) s' := by
  show (loadPage 1 maxPageSize s).bind _ = _
  rw [loaded]
  rfl

/-- Without a first page there is nothing. -/
theorem collectAllPages_first {S E T : Type} {loadPage : Nat → Nat → StateT S (Except E) (List T × Nat)} {s : S}
    {result : List T × S} (collected : collectAllPages loadPage s = .ok result) :
    ∃ answer, loadPage 1 maxPageSize s = .ok answer := by
  change (loadPage 1 maxPageSize s).bind _ = _ at collected
  cases loaded : loadPage 1 maxPageSize s with
  | error e =>
    rw [loaded] at collected
    cases collected
  | ok answer => exact ⟨answer, rfl⟩

end Client

section Server

/-- A check-in is recorded. -/
def CheckedIn (d d' : Db) : Prop :=
  ∃ now create actor photoObjectID asked, insertCheckin now create actor photoObjectID d = .ok (asked, d')

variable (locale : DbLocale) (dbs : Nat → Db) (q : String) (filter : CheckinListParams)

/-- The query of a request, which leaves `sort` out. -/
def checkinsQuery (input : ListQueryInput) (d : Db) : ListQuery CheckinListRow :=
  listCheckinsQuery locale { filter with listParams := input.params } d

/-- The request, which is the `request`-th; `dbs` says what the database holds at each. -/
def listCheckins (page perPage : Nat) : StateT Nat (Except Err) (List CheckinListRow × Nat) := fun request => do
  let answer ← (checkinsQuery locale filter { q, page := Int32.ofNat page, perPage := Int32.ofNat perPage }
    (dbs request)).queryListWithCount locale
  .ok (answer, request + 1)

def listAllCheckins : Except Err (List CheckinListRow) := do
  let (items, _) ← collectAllPages (listCheckins locale dbs q filter) 0
  .ok items

/-- The check-ins that match, newest first. -/
def newestFirst (d : Db) : List CheckinListRow :=
  sorted (compareRows locale (defaultParts [] checkinOrder)) (checkinsQuery locale filter { q } d).rows

/-- Every check-in of the first list is there, and once. -/
def Complete (items first : List CheckinListRow) : Prop :=
  ∀ c ∈ first, c ∈ items ∧ (items.map CheckinListRow.id).count c.id = 1

/-- The number of requests, which the first response decides. -/
def requests (count : Nat) : Nat := max 1 (pageCount count maxPageSize)

end Server

section Rows

variable {locale : DbLocale} {q : String} {filter : CheckinListParams} {input : ListQueryInput} {d d' : Db}

theorem checkinsQuery_wellOrdered : (checkinsQuery locale filter input d).WellOrdered "c.id" CheckinListRow.id :=
  @Lists.wellOrdered _ 0 _ _ (.checkins filter.locationID filter.userID filter.direction filter.departments
    filter.occurredFrom filter.occurredBefore)

theorem checkinsQuery_order (sort : input.sort = "") :
    (checkinsQuery locale filter input d).order = .ok (defaultParts [] checkinOrder) := by
  have trimmed : input.params.normalize.sort = "" := by
    show Go.trimSpace (Go.trimSpace input.sort) = ""
    rw [sort]
    decide
  show orderBy input.params.normalize _ checkinOrder = _
  rw [orderBy, trimmed]
  rfl

theorem mem_checkinsQuery {c : CheckinListRow} : c ∈ (checkinsQuery locale filter input d).rows ↔
    d.checkins.row c.id = some c.checkin ∧ d.users.row c.checkin.userID = some c.user ∧
      d.locations.row c.checkin.locationID = some c.location ∧
      checkinWhere locale { filter with listParams := input.params } c = true := by
  show c ∈ ((d.checkins.toList.filterMap (joinCheckin d)).filter (checkinWhere locale _)) ↔ _
  rw [List.mem_filter, List.mem_filterMap]
  constructor
  · rintro ⟨⟨⟨id, row⟩, stored, joined⟩, selected⟩
    obtain ⟨same, same', user, location⟩ := joinCheckin_eq_some.1 joined
    have stored := Table.mem_toList.1 stored
    cases same
    cases same'
    exact ⟨stored, user, location, selected⟩
  · rintro ⟨stored, user, location, selected⟩
    exact ⟨⟨(c.id, c.checkin), Table.mem_toList.2 stored, joinCheckin_eq_some.2 ⟨rfl, rfl, user, location⟩⟩, selected⟩

theorem checkinsQuery_nodup : (checkinsQuery locale filter input d).rows.Nodup :=
  List.Nodup.of_map _ checkinsQuery_wellOrdered.rows

theorem newestFirst_nodup : (newestFirst locale q filter d).Nodup := sorted_perm.nodup_iff.2 checkinsQuery_nodup

/-- A new check-in leaves the others as they are. -/
theorem rows_checkedIn (inserted : CheckedIn d d') :
    (checkinsQuery locale filter input d).rows ⊆ (checkinsQuery locale filter input d').rows := by
  obtain ⟨now, create, actor, photoObjectID, asked, done⟩ := inserted
  obtain ⟨direction, _, vacant, _, rfl⟩ := insertCheckin_ok done
  intro c mem
  obtain ⟨stored, rest⟩ := mem_checkinsQuery.1 mem
  refine mem_checkinsQuery.2 ⟨?_, rest⟩
  have other : c.id ≠ d.seq.checkins := fun same => by
    rw [same] at stored
    exact absurd (vacant.symm.trans stored) nofun
  rw [Table.row_set_ne _ _ other]
  exact stored

theorem newestFirst_transCmp (orders : locale.Orders) :
    Std.TransCmp (compareRows locale (defaultParts [] checkinOrder)) :=
  (@checkinsQuery_wellOrdered locale {} {} {}).transCmp orders (checkinsQuery_order rfl)

theorem checkinsQuery_separates :
    Separates (compareRows locale (defaultParts [] checkinOrder)) (checkinsQuery locale filter { q } d).rows :=
  checkinsQuery_wellOrdered.separates (checkinsQuery_order rfl)

theorem newestFirst_grows (orders : locale.Orders) (inserts : Relation.ReflTransGen CheckedIn d d') :
    (newestFirst locale q filter d).Sublist (newestFirst locale q filter d') := by
  have trans := newestFirst_transCmp orders
  induction inserts with
  | refl => exact List.Sublist.refl _
  | tail _ inserted ih =>
    exact ih.trans (sorted_sublist checkinsQuery_separates checkinsQuery_nodup checkinsQuery_nodup (rows_checkedIn inserted))

theorem newestFirst_growing {dbs : Nat → Db} (orders : locale.Orders)
    (inserts : ∀ i, Relation.ReflTransGen CheckedIn (dbs i) (dbs (i + 1))) :
    Growing fun i => newestFirst locale q filter (dbs i) where
  nodup _ := newestFirst_nodup
  grows i := newestFirst_grows orders (inserts i)

end Rows

section Requests

variable {locale : DbLocale} {dbs : Nat → Db} {q : String} {filter : CheckinListParams}

/-- A request for one of the pages the first response announced. -/
theorem listCheckins_eq {i : Nat} (inside : i + 1 ≤ maxInt32) (fits : (newestFirst locale q filter (dbs i)).length ≤ maxInt32) :
    listCheckins locale dbs q filter (i + 1) maxPageSize i =
      .ok ((slice maxPageSize (newestFirst locale q filter (dbs i)) i, (newestFirst locale q filter (dbs i)).length), i + 1) := by
  let input : ListQueryInput := { q, page := Int32.ofNat (i + 1), perPage := Int32.ofNat maxPageSize }
  have size : input.perPage.toInt = maxPageSize := rfl
  have page : input.page.toInt = ((i + 1 : Nat) : Int) := Int32.toInt_ofNat_of_lt (by
    unfold maxInt32 at inside
    omega)
  have index : input.pageIndex.toInt = i := by
    rw [pageIndex_toInt, page]
    omega
  have length : (newestFirst locale q filter (dbs i)).length = (checkinsQuery locale filter input (dbs i)).rows.length :=
    sorted_perm.length_eq
  rw [length] at fits
  have answered : (checkinsQuery locale filter input (dbs i)).queryListWithCount locale = _ :=
    @ListQuery.queryListWithCount_eq _ _ _ _ input rfl rfl (by rw [size]; decide) (by rw [size]; decide)
      (checkinsQuery_order rfl) fits
  rw [index, size] at answered
  show (do
    let answer ← (checkinsQuery locale filter input (dbs i)).queryListWithCount locale
    .ok (answer, i + 1)) = _
  rw [answered, length]
  rfl

theorem listCheckins_overflow {i page : Nat} (large : maxInt32 < (newestFirst locale q filter (dbs i)).length)
    (result : (List CheckinListRow × Nat) × Nat) : listCheckins locale dbs q filter page maxPageSize i ≠ .ok result := by
  intro listed
  obtain ⟨answer, listed, _⟩ := bind_ok.1 listed
  refine ListQuery.queryListWithCount_overflow ?_ _ listed
  rw [newestFirst, sorted_perm.length_eq] at large
  exact large

/-- The loop, from any page on. -/
theorem loadPages_ok {n i final : Nat} {first items : List CheckinListRow} (inside : i + n ≤ maxInt32) :
    ((List.range' (i + 1) n).foldlM (fun items page => do
      let response ← listCheckins locale dbs q filter page maxPageSize
      return items ++ response.1) first : StateT Nat (Except Err) (List CheckinListRow)) i = .ok (items, final) ↔
    (∀ j, i ≤ j → j < i + n → (newestFirst locale q filter (dbs j)).length ≤ maxInt32) ∧ final = i + n ∧
      items = first ++ ((List.range' i n).map fun j => slice maxPageSize (newestFirst locale q filter (dbs j)) j).flatten := by
  induction n generalizing i first with
  | zero =>
    constructor
    · intro done
      cases done
      exact ⟨fun j low high => absurd high (Nat.not_lt.2 low), rfl, (List.append_nil _).symm⟩
    · rintro ⟨_, last, all⟩
      rw [last, all]
      exact congrArg (fun items => Except.ok (items, i)) (List.append_nil first).symm
  | succ n ih =>
    let more (items : List CheckinListRow) (page : Nat) : StateT Nat (Except Err) (List CheckinListRow) := do
      let response ← listCheckins locale dbs q filter page maxPageSize
      return items ++ response.1
    have unfolded : (List.range' (i + 1) (n + 1)).foldlM more first i =
        (more first (i + 1) i).bind fun r => (List.range' (i + 1 + 1) n).foldlM more r.1 r.2 := by
      rw [List.range'_succ, List.foldlM_cons]
      rfl
    show (List.range' (i + 1) (n + 1)).foldlM more first i = _ ↔ _
    rw [unfolded]
    by_cases fits : (newestFirst locale q filter (dbs i)).length ≤ maxInt32
    · let shown := slice maxPageSize (newestFirst locale q filter (dbs i)) i
      have stepped : more first (i + 1) i = .ok (first ++ shown, i + 1) := by
        show (listCheckins locale dbs q filter (i + 1) maxPageSize i).bind _ = _
        rw [listCheckins_eq (by omega) fits]
        rfl
      rw [stepped]
      refine (ih (by omega)).trans (and_congr ?_ (and_congr ?_ ?_))
      · constructor
        · intro later j low high
          rcases Nat.eq_or_lt_of_le low with rfl | after
          · exact fits
          · exact later j after (by omega)
        · exact fun all j low high => all j (by omega) (by omega)
      · rw [Nat.add_assoc, Nat.add_comm 1]
      · rw [List.range'_succ, List.map_cons, List.flatten_cons, List.append_assoc]
    · constructor
      · intro done
        obtain ⟨_, stepped, _⟩ := bind_ok.1 done
        obtain ⟨result, listed, _⟩ := bind_ok.1 stepped
        exact absurd listed (listCheckins_overflow (Nat.lt_of_not_le fits) result)
      · intro done
        exact absurd (done.1 i (Nat.le_refl i) (by omega)) fits

/-- **What an export gets.** -/
theorem listAllCheckins_ok {items : List CheckinListRow} : listAllCheckins locale dbs q filter = .ok items ↔
    (∀ i, i < requests (newestFirst locale q filter (dbs 0)).length → (newestFirst locale q filter (dbs i)).length ≤ maxInt32) ∧
      items = readPages maxPageSize (fun i => newestFirst locale q filter (dbs i))
        (requests (newestFirst locale q filter (dbs 0)).length) := by
  let count := (newestFirst locale q filter (dbs 0)).length
  let shown (i : Nat) : List CheckinListRow := slice maxPageSize (newestFirst locale q filter (dbs i)) i
  have few : pageCount count maxPageSize ≤ count := pageCount_le (by decide)
  show _ ↔ (∀ i, i < requests count → _) ∧ items = readPages maxPageSize _ (requests count)
  by_cases fits : count ≤ maxInt32
  · have first : listAllCheckins locale dbs q filter =
        ((if pageCount count maxPageSize ≤ 1 then pure (shown 0)
          else (List.range' 2 (pageCount count maxPageSize - 1)).foldlM (fun items page => do
            let response ← listCheckins locale dbs q filter page maxPageSize
            return items ++ response.1) (shown 0) : StateT Nat (Except Err) (List CheckinListRow)) 1).bind fun r => .ok r.1 := by
      have loaded := @listCheckins_eq locale dbs q filter 0 (by decide) fits
      exact congrArg (fun collected => collected.bind fun r => .ok r.1) (collectAllPages_eq loaded)
    rw [first]
    by_cases single : pageCount count maxPageSize ≤ 1
    · have one : requests count = 1 := max_eq_left single
      have alone : readPages maxPageSize (fun i => newestFirst locale q filter (dbs i)) 1 = shown 0 := List.append_nil _
      rw [if_pos single, one, alone]
      constructor
      · intro done
        refine ⟨fun i below => ?_, (Except.ok.inj done).symm⟩
        rw [Nat.lt_one_iff.1 below]
        exact fits
      · rintro ⟨_, rfl⟩
        rfl
    · have several : requests count = pageCount count maxPageSize := max_eq_right (by omega)
      have together : readPages maxPageSize (fun i => newestFirst locale q filter (dbs i)) (pageCount count maxPageSize) =
          shown 0 ++ ((List.range' 1 (pageCount count maxPageSize - 1)).map shown).flatten := by
        have split : pageCount count maxPageSize = pageCount count maxPageSize - 1 + 1 := by omega
        rw [readPages, split, List.range_succ_eq_map, List.map_cons, List.flatten_cons, List.range'_eq_map_range]
        simp [shown, Function.comp_def, Nat.add_comm]
      have rest (items : List CheckinListRow) (final : Nat) :=
        @loadPages_ok locale dbs q filter (pageCount count maxPageSize - 1) 1 final (shown 0) items (by omega)
      rw [if_neg single, several, together]
      constructor
      · intro done
        obtain ⟨⟨items', final⟩, done, same⟩ := bind_ok.1 done
        obtain ⟨later, _, all⟩ := (rest _ _).1 done
        cases same
        refine ⟨fun i below => ?_, all⟩
        rcases Nat.eq_zero_or_pos i with rfl | positive
        · exact fits
        · exact later i positive (by omega)
      · rintro ⟨all, rfl⟩
        have done := (rest _ _).2 ⟨fun j _ high => all j (by omega), rfl, rfl⟩
        exact bind_ok.2 ⟨_, done, rfl⟩
  · constructor
    · intro done
      obtain ⟨_, collected, _⟩ := bind_ok.1 done
      obtain ⟨result, listed⟩ := collectAllPages_first collected
      exact absurd listed (listCheckins_overflow (Nat.lt_of_not_le fits) result)
    · rintro ⟨all, _⟩
      exact absurd (all 0 (Nat.lt_of_lt_of_le Nat.one_pos (Nat.le_max_left _ _))) fits

/-- A check-in of the first list keeps its row. -/
theorem count_id {items : List CheckinListRow} {c : CheckinListRow} (growing : Growing fun i => newestFirst locale q filter (dbs i))
    (from_lists : ∀ x ∈ items, ∃ i, x ∈ newestFirst locale q filter (dbs i)) (mem : c ∈ newestFirst locale q filter (dbs 0)) :
    (items.map CheckinListRow.id).count c.id = items.count c := by
  rw [List.count, List.countP_map, List.count]
  refine List.countP_congr fun x listed => ?_
  obtain ⟨i, there⟩ := from_lists x listed
  have here := (growing.sublist (Nat.zero_le i)).subset mem
  have same : x.id = c.id → x = c := by
    refine List.inj_on_of_nodup_map ?_ there here
    exact (sorted_perm.map _).nodup_iff.2 checkinsQuery_wellOrdered.rows
  simp only [Function.comp_apply, beq_iff_eq]
  exact ⟨same, congrArg _⟩

theorem mem_readPages {items : List CheckinListRow} {n : Nat}
    (read : items = readPages maxPageSize (fun i => newestFirst locale q filter (dbs i)) n) :
    ∀ x ∈ items, ∃ i, x ∈ newestFirst locale q filter (dbs i) := by
  rw [read]
  intro x mem
  obtain ⟨_, page, mem⟩ := List.mem_flatten.1 mem
  obtain ⟨i, _, rfl⟩ := List.mem_map.1 page
  exact ⟨i, List.mem_of_mem_drop (List.mem_of_mem_take mem)⟩

/-- Complete means that each row is read once. -/
theorem complete_iff {n : Nat} (growing : Growing fun i => newestFirst locale q filter (dbs i)) :
    Complete (readPages maxPageSize (fun i => newestFirst locale q filter (dbs i)) n) (newestFirst locale q filter (dbs 0)) ↔
      ∀ c ∈ newestFirst locale q filter (dbs 0),
        (readPages maxPageSize (fun i => newestFirst locale q filter (dbs i)) n).count c = 1 := by
  refine forall₂_congr fun c mem => ?_
  rw [count_id growing (mem_readPages rfl) mem]
  exact ⟨And.right, fun once => ⟨List.count_pos_iff.1 (by omega), once⟩⟩

/-- The pages are no more than the first list needs. -/
theorem requests_needed {n i : Nat} (within : i + 1 < requests n) : (i + 1) * maxPageSize < n := by
  unfold requests pageCount maxPageSize at *
  omega

theorem complete_iff_undisturbed (growing : Growing fun i => newestFirst locale q filter (dbs i)) :
    let lists i := newestFirst locale q filter (dbs i)
    (∃ items, listAllCheckins locale dbs q filter = .ok items ∧ Complete items (lists 0)) ↔
      (∀ i, i < requests (lists 0).length → (lists i).length ≤ maxInt32) ∧
        Undisturbed maxPageSize lists (requests (lists 0).length) := by
  intro lists
  have positive : 0 < requests (lists 0).length := Nat.lt_of_lt_of_le Nat.one_pos (Nat.le_max_left _ _)
  have once := @read_once_iff _ _ _ maxPageSize _ growing positive fun i => requests_needed
  rw [← once]
  constructor
  · rintro ⟨items, done, complete⟩
    obtain ⟨fits, rfl⟩ := listAllCheckins_ok.1 done
    exact ⟨fits, (complete_iff growing).1 complete⟩
  · rintro ⟨fits, each⟩
    exact ⟨_, listAllCheckins_ok.2 ⟨fits, rfl⟩, (complete_iff growing).2 each⟩

/-- **When an export is complete**: if every count fits its type and no check-in of the first
list is pushed over the end of the pages read so far, or over the end of the last page. -/
theorem export_complete_iff (orders : locale.Orders) (q : String) (filter : CheckinListParams) {dbs : Nat → Db}
    (inserts : ∀ i, Relation.ReflTransGen CheckedIn (dbs i) (dbs (i + 1))) :
    let lists i := newestFirst locale q filter (dbs i)
    (∃ items, listAllCheckins locale dbs q filter = .ok items ∧ Complete items (lists 0)) ↔
      (∀ i, i < requests (lists 0).length → (lists i).length ≤ maxInt32) ∧
        Undisturbed maxPageSize lists (requests (lists 0).length) :=
  complete_iff_undisturbed (newestFirst_growing orders inserts)

end Requests

section Samples

def visitor : UserRow where
  appID := 0
  email := "kim@example.org"
  createdAt := 0
  updatedAt := 0

def arrival (k : Nat) : CheckinRow where
  appID := k
  userID := 1
  locationID := 1
  direction := .directionIn
  actorKind := "user"
  actorAppID := 0
  occurredAt := k
  createdAt := k
  updatedAt := k

/-- `n` check-ins, one at each time up to `n`. -/
def busyDb (n : Nat) : Db where
  users := .ofList [(1, visitor)]
  locations := .ofList [(1, Lists.lobby 0)]
  checkins := .tabulate n arrival
  seq := { checkins := n + 1, uuid := n + 1 }

/-- One more, made a moment later. -/
def afterDb (n : Nat) (direction : Direction) : Db :=
  { busyDb n with
    checkins := (busyDb n).checkins.set (n + 1) { arrival (n + 1) with direction }
    seq := { checkins := n + 1 + 1, uuid := n + 1 + 1 } }

/-- One more arrival. -/
def laterDb (n : Nat) : Db := afterDb n .directionIn

theorem busyDb_checkedIn (n : Nat) (direction : Direction) : CheckedIn (busyDb n) (afterDb n direction) := by
  refine ⟨((n + 1 : Nat) : Int), ⟨1, 1, directionText direction, ""⟩, { kind := "user", appID := 0 }, none,
    [(.user 1, .keyShare), (.location 1, .keyShare)], ?_⟩
  have vacant : (busyDb n).checkins.row ((n : Int) + 1) = none := if_neg fun present => by omega
  have unique : (busyDb n).checkins.exists? (fun _ c => decide (c.appID = n + 1)) = false := by
    refine Table.exists?_eq_false_iff.2 fun k c stored => ?_
    obtain ⟨between, rfl⟩ := Table.row_tabulate.1 stored
    refine decide_eq_false fun (same : k.toNat = n + 1) => ?_
    omega
  have parents : (checkinParents { arrival (n + 1) with direction }).any (fun key => (Db.get key (busyDb n)).isNone) = false :=
    rfl
  have parsed : parseDirection (directionText direction) = some direction := by cases direction <;> rfl
  have inserts : (if !actorKindCheck "user" then .error (.sqlState .checkViolation)
    else if ((busyDb n).checkins.row ((n : Int) + 1)).isSome ||
      (busyDb n).checkins.exists? (fun _ c => decide (c.appID = n + 1)) then .error (.sqlState .uniqueViolation)
    else if (checkinParents { arrival (n + 1) with direction }).any (fun key => (Db.get key (busyDb n)).isNone) then
      .error (.sqlState .foreignKeyViolation)
    else .ok ([(.user 1, .keyShare), (.location 1, .keyShare)], afterDb n direction) :
      Except Err (List (RowKey × ReadCommitted.LockMode) × Db)) =
      .ok ([(.user 1, .keyShare), (.location 1, .keyShare)], afterDb n direction) := by
    rw [vacant, unique, parents]
    rfl
  rw [← inserts]
  cases direction <;> rfl

/-- What a list shows of the `k`-th check-in. -/
def shown (k : Nat) : CheckinListRow where
  id := k
  checkin := arrival k
  user := visitor
  location := Lists.lobby 0

variable {n : Nat}

theorem row_busy {id : ID} {row : CheckinRow} :
    (busyDb n).checkins.row id = some row ↔ ∃ k : Nat, (0 < k ∧ k ≤ n) ∧ id = k ∧ row = arrival k := by
  show (Table.tabulate n arrival).row id = some row ↔ _
  rw [Table.row_tabulate]
  constructor
  · rintro ⟨⟨positive, le⟩, rfl⟩
    obtain ⟨k, rfl⟩ := Int.eq_ofNat_of_zero_le (Int.le_of_lt positive)
    exact ⟨k, ⟨Int.natCast_pos.1 positive, Int.ofNat_le.1 le⟩, rfl, rfl⟩
  · rintro ⟨k, ⟨positive, le⟩, rfl, rfl⟩
    exact ⟨⟨Int.natCast_pos.2 positive, Int.ofNat_le.2 le⟩, rfl⟩

theorem mem_busy {c : CheckinListRow} :
    c ∈ (checkinsQuery DbLocale.c {} {} (busyDb n)).rows ↔ ∃ k, (0 < k ∧ k ≤ n) ∧ c = shown k := by
  rw [mem_checkinsQuery, row_busy]
  obtain ⟨id, checkin, user, location⟩ := c
  constructor
  · rintro ⟨⟨k, between, rfl, rfl⟩, user, location, _⟩
    cases user
    cases location
    exact ⟨k, between, rfl⟩
  · rintro ⟨k, between, same⟩
    cases same
    exact ⟨⟨k, between, rfl, rfl⟩, rfl, rfl, rfl⟩

theorem mem_later {c : CheckinListRow} : c ∈ (checkinsQuery DbLocale.c {} {} (laterDb n)).rows ↔
    c ∈ shown (n + 1) :: (checkinsQuery DbLocale.c {} {} (busyDb n)).rows := by
  rw [List.mem_cons, mem_busy, mem_checkinsQuery]
  have row : (laterDb n).checkins.row c.id =
      if c.id = ((n : Int) + 1) then some (arrival (n + 1)) else (busyDb n).checkins.row c.id := rfl
  obtain ⟨id, checkin, user, location⟩ := c
  rw [row]
  constructor
  · rintro ⟨stored, user, location, _⟩
    split at stored
    · rename_i new
      cases stored
      cases user
      cases location
      exact .inl (by rw [show id = ((n + 1 : Nat) : Int) from new]; rfl)
    · obtain ⟨k, between, rfl, rfl⟩ := row_busy.1 stored
      cases user
      cases location
      exact .inr ⟨k, between, rfl⟩
  · rintro (same | ⟨k, between, same⟩)
    · cases same
      exact ⟨if_pos rfl, rfl, rfl, rfl⟩
    · cases same
      refine ⟨(if_neg fun same => ?_).trans (row_busy.2 ⟨k, between, rfl, rfl⟩), rfl, rfl, rfl⟩
      have same : (k : Int) = (n : Int) + 1 := same
      omega

/-- Newer means earlier in the list. -/
theorem compareRows_newer {locale : DbLocale} {c x : CheckinListRow} (newer : x.checkin.occurredAt < c.checkin.occurredAt) :
    compareRows locale (defaultParts [] checkinOrder) c x = .lt := by
  have greater : compare c.checkin.occurredAt x.checkin.occurredAt = .gt := Int.compare_eq_gt.2 newer
  show (compare c.checkin.occurredAt x.checkin.occurredAt).swap.then _ = .lt
  rw [greater]
  rfl

theorem newestFirst_later : newestFirst DbLocale.c "" {} (laterDb n) = shown (n + 1) :: newestFirst DbLocale.c "" {} (busyDb n) := by
  have trans := newestFirst_transCmp DbLocale.c_orders
  have fresh : shown (n + 1) ∉ (checkinsQuery DbLocale.c {} {} (busyDb n)).rows := by
    intro listed
    obtain ⟨k, between, same⟩ := mem_busy.1 listed
    have : ((n + 1 : Nat) : Int) = k := congrArg CheckinListRow.id same
    omega
  refine (sorted_unique checkinsQuery_separates ?_ ?_).symm
  · refine (List.perm_ext_iff_of_nodup ?_ checkinsQuery_nodup).2 fun c => ?_
    · exact List.nodup_cons.2 ⟨fun listed => fresh (sorted_perm.mem_iff.1 listed), newestFirst_nodup⟩
    · rw [mem_later, List.mem_cons, List.mem_cons, newestFirst, sorted_perm.mem_iff]
  · refine List.pairwise_cons.2 ⟨fun c listed => ?_, sorted_pairwise⟩
    obtain ⟨k, between, rfl⟩ := mem_busy.1 (sorted_perm.mem_iff.1 listed)
    have newer : (k : Int) < ((n + 1 : Nat) : Int) := by omega
    rw [compareRows_newer newer]
    rfl

theorem newestFirst_busy_length : (newestFirst DbLocale.c "" {} (busyDb n)).length = n := by
  have rows : (checkinsQuery DbLocale.c {} {} (busyDb n)).rows.Perm ((List.range' 1 n).map shown) := by
    refine (List.perm_ext_iff_of_nodup checkinsQuery_nodup ?_).2 fun c => ?_
    · refine (List.nodup_range' 1).map fun i j same => ?_
      exact Int.ofNat.inj (congrArg CheckinListRow.id same)
    · rw [mem_busy, List.mem_map]
      refine exists_congr fun k => and_congr ?_ eq_comm
      rw [List.mem_range'_1]
      omega
  rw [newestFirst, sorted_perm.length_eq]
  simpa using rows.length_eq

/-- The second request comes after one more check-in. -/
def busyThenLater (n i : Nat) : Db := if i = 0 then busyDb n else laterDb n

theorem busyThenLater_inserts (i : Nat) : Relation.ReflTransGen CheckedIn (busyThenLater n i) (busyThenLater n (i + 1)) := by
  cases i with
  | zero => exact .single (busyDb_checkedIn n .directionIn)
  | succ i => exact .refl

/-- A page that is full loses its last check-in to the next page. -/
theorem busyThenLater_disturbed {requests : Nat} (full : maxPageSize ≤ n) (several : 2 ≤ requests) :
    ¬ Undisturbed maxPageSize (fun i => newestFirst DbLocale.c "" {} (busyThenLater n i)) requests := by
  intro undisturbed
  have length := newestFirst_busy_length (n := n)
  have inside : maxPageSize - 1 < (newestFirst DbLocale.c "" {} (busyDb n)).length := by
    rw [length]
    unfold maxPageSize at *
    omega
  let last := (newestFirst DbLocale.c "" {} (busyDb n))[maxPageSize - 1]
  have before : last ∈ (newestFirst DbLocale.c "" {} (busyDb n)).take maxPageSize :=
    List.mem_take_iff_getElem.2 ⟨maxPageSize - 1, Nat.lt_min.2 ⟨by decide, inside⟩, rfl⟩
  have after : last ∈ (newestFirst DbLocale.c "" {} (laterDb n)).take maxPageSize :=
    undisturbed.steady 0 several last (List.getElem_mem inside) before
  have nodup : (shown (n + 1) :: newestFirst DbLocale.c "" {} (busyDb n)).Nodup := newestFirst_later ▸ newestFirst_nodup
  obtain ⟨fresh, nodup⟩ := List.nodup_cons.1 nodup
  rw [newestFirst_later, show maxPageSize = maxPageSize - 1 + 1 from rfl, List.take_succ_cons] at after
  rcases List.mem_cons.1 after with same | earlier
  · exact fresh (same ▸ List.getElem_mem inside)
  · obtain ⟨j, below, same⟩ := List.mem_take_iff_getElem.1 earlier
    have : j = maxPageSize - 1 := nodup.getElem_inj_iff.1 same
    omega

/-- Between the pages of an export of 1001 check-ins, one more is made. -/
theorem export_incomplete : (∀ i, Relation.ReflTransGen CheckedIn (busyThenLater 1001 i) (busyThenLater 1001 (i + 1))) ∧
    ¬ ∃ items, listAllCheckins DbLocale.c (busyThenLater 1001) "" {} = .ok items ∧
      Complete items (newestFirst DbLocale.c "" {} (busyThenLater 1001 0)) := by
  refine ⟨busyThenLater_inserts, fun complete => ?_⟩
  have growing := @newestFirst_growing _ "" {} _ DbLocale.c_orders (@busyThenLater_inserts 1001)
  have undisturbed := ((complete_iff_undisturbed growing).1 complete).2
  have length : (newestFirst DbLocale.c "" {} (busyThenLater 1001 0)).length = 1001 := newestFirst_busy_length
  rw [length] at undisturbed
  exact busyThenLater_disturbed (by decide) (by decide) undisturbed

/-- An export of the arrivals only. -/
def arrivals : CheckinListParams where
  direction := some .directionIn

/-- Two exports list the same if the same check-ins match. -/
theorem newestFirst_congr {d d' : Db} {filter filter' : CheckinListParams} (same : ∀ c,
      c ∈ (checkinsQuery DbLocale.c filter {} d).rows ↔ c ∈ (checkinsQuery DbLocale.c filter' {} d').rows) :
    newestFirst DbLocale.c "" filter d = newestFirst DbLocale.c "" filter' d' := by
  have trans := newestFirst_transCmp DbLocale.c_orders
  refine (sorted_unique checkinsQuery_separates ?_ sorted_pairwise).symm
  refine (List.perm_ext_iff_of_nodup newestFirst_nodup checkinsQuery_nodup).2 fun c => ?_
  rw [newestFirst, sorted_perm.mem_iff, same]

theorem mem_arrivals {c : CheckinListRow} {d : Db} : c ∈ (checkinsQuery DbLocale.c arrivals {} d).rows ↔
    c ∈ (checkinsQuery DbLocale.c {} {} d).rows ∧ c.checkin.direction = .directionIn := by
  have filtered : checkinWhere DbLocale.c { arrivals with listParams := ({} : ListQueryInput).params } c =
      (checkinWhere DbLocale.c { listParams := ({} : ListQueryInput).params } c &&
        decide (c.checkin.direction = .directionIn)) := by
    simp [checkinWhere, arrivals]
  rw [mem_checkinsQuery, mem_checkinsQuery, filtered, Bool.and_eq_true, decide_eq_true_eq, and_assoc, and_assoc, and_assoc]

theorem newestFirst_arrivals :
    newestFirst DbLocale.c "" arrivals (busyDb n) = newestFirst DbLocale.c "" {} (busyDb n) := by
  refine newestFirst_congr fun c => ?_
  rw [mem_arrivals]
  refine and_iff_left_of_imp fun listed => ?_
  obtain ⟨k, _, rfl⟩ := mem_busy.1 listed
  rfl

/-- A departure is no arrival. -/
theorem newestFirst_departure :
    newestFirst DbLocale.c "" arrivals (afterDb n .directionOut) = newestFirst DbLocale.c "" arrivals (busyDb n) := by
  refine newestFirst_congr fun c => ?_
  rw [mem_arrivals, mem_arrivals, mem_checkinsQuery, mem_checkinsQuery]
  have row : (afterDb n .directionOut).checkins.row c.id =
      if c.id = ((n : Int) + 1) then some { arrival (n + 1) with direction := .directionOut }
      else (busyDb n).checkins.row c.id := rfl
  refine and_congr_left fun arrived => and_congr_left fun _ => ?_
  rw [row]
  split
  · rename_i new
    refine iff_of_false (fun stored => ?_) fun stored => ?_
    · rw [← Option.some.inj stored] at arrived
      cases arrived
    · obtain ⟨k, between, same, _⟩ := row_busy.1 stored
      have beyond : (k : Int) = (n : Int) + 1 := same.symm.trans new
      omega
  · rfl

/-- The second request comes after a departure. -/
def busyThenDeparture (n i : Nat) : Db := if i = 0 then busyDb n else afterDb n .directionOut

/-- Between the two pages of an export of 1001 arrivals, someone leaves. -/
theorem export_complete_pages :
    ∃ items, listAllCheckins DbLocale.c (busyThenDeparture 1001) "" arrivals = .ok items ∧
      Complete items (newestFirst DbLocale.c "" arrivals (busyThenDeparture 1001 0)) := by
  have inserts : ∀ i, Relation.ReflTransGen CheckedIn (busyThenDeparture 1001 i) (busyThenDeparture 1001 (i + 1)) := by
    intro i
    cases i with
    | zero => exact .single (busyDb_checkedIn 1001 .directionOut)
    | succ i => exact .refl
  have lists : ∀ i, newestFirst DbLocale.c "" arrivals (busyThenDeparture 1001 i) =
      newestFirst DbLocale.c "" arrivals (busyDb 1001) := by
    intro i
    cases i with
    | zero => rfl
    | succ i => exact newestFirst_departure
  have length : (newestFirst DbLocale.c "" arrivals (busyDb 1001)).length = 1001 := by
    rw [newestFirst_arrivals, newestFirst_busy_length]
  have two : requests 1001 = 2 := by decide
  refine (export_complete_iff DbLocale.c_orders "" arrivals inserts).2 ?_
  simp only [lists]
  rw [length, two]
  refine ⟨fun _ _ => by decide, fun _ _ _ _ mem => mem, fun c mem => ?_⟩
  rwa [List.take_of_length_le (by rw [length]; decide)]

end Samples

end Woodgate.Web
