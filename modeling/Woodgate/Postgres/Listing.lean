import Mathlib.Data.List.Dedup
import Mathlib.Data.List.Sort
import Woodgate.Go.Strings
import Woodgate.Library.Results
import Woodgate.Postgres.Errors
import Woodgate.Postgres.Locale

/-!
# Paginated lists

`listing.Params` and `postgres.ListQuery`: a query is its rows after the `WHERE`, an
allowlist of sort keys and a default order; one page of it is sorted, cut and counted. What
a caller of any list relies on is `mem_some_page`: the pages are the rows.
-/

namespace Woodgate.Postgres

open Library.Results

/-- `listing.Params` -/
structure Params where
  q : String := ""
  pageIndex : Int := 0
  pageSize : Int := 0
  sort : String := ""
  deriving DecidableEq, Repr

def defaultPageSize : Int := 50

/-- `listing.Normalize` -/
def Params.normalize (params : Params) : Params where
  q := Go.trimSpace params.q
  pageIndex := params.pageIndex
  pageSize := if params.pageSize = 0 then defaultPageSize else params.pageSize
  sort := Go.trimSpace params.sort

/-- `listing.Validate` -/
def Params.validate (params : Params) : Except Err Unit :=
  if params.pageIndex < 0 then .error (.invalidInput "PageIndex must be at least 0")
  else if params.pageSize < 1 then .error (.invalidInput "PageSize must be at least 1")
  else if 1000 < params.pageSize then .error (.invalidInput "PageSize must be at most 1000")
  else .ok ()

/-- `listing.NormalizeValues` -/
def normalizeValues (values : List String) : List String :=
  let items := values.flatMap fun value => (value.toList.splitOn ',').map fun item => Go.trimSpace (String.ofList item)
  (items.filter fun item => decide (item ≠ "")).reverse.dedup.reverse

section Order

/-- A value to sort by. -/
inductive SortValue where
  | null
  | bool (b : Bool)
  | int (i : Int)
  | text (s : String)
  deriving DecidableEq, Repr

inductive NullOrder where
  | nullOrderDefault
  | nullsFirst
  | nullsLast
  deriving DecidableEq, Repr

/-- An `OrderExpr`: its SQL text, and what that yields for a row. -/
structure OrderExpr (R : Type) where
  sql : String
  value : R → SortValue
  descending : Bool := false
  nullOrder : NullOrder := .nullOrderDefault

variable {R : Type}

/-- Two values of one column that are not `NULL`. -/
def SortValue.compare (locale : DbLocale) : SortValue → SortValue → Ordering
  | .bool a, .bool b => Ord.compare a b
  | .int a, .int b => Ord.compare a b
  | .text a, .text b => if locale.le a b then if locale.le b a then .eq else .lt else .gt
  | _, _ => .eq

/-- `expr ASC|DESC [NULLS FIRST|NULLS LAST]`; without a choice `NULL` counts as the largest
value. -/
def OrderExpr.compare (locale : DbLocale) (expr : OrderExpr R) (desc : Bool) (r s : R) : Ordering :=
  let nullsFirst := match expr.nullOrder with
    | .nullOrderDefault => desc
    | .nullsFirst => true
    | .nullsLast => false
  match expr.value r, expr.value s with
  | .null, .null => .eq
  | .null, _ => if nullsFirst then .lt else .gt
  | _, .null => if nullsFirst then .gt else .lt
  | a, b => if desc then (a.compare locale b).swap else a.compare locale b

/-- `strings.CutLast(s, ".")` -/
def cutLast (s : String) : Option (String × String) :=
  match s.toList.reverse.span fun c => decide (c ≠ '.') with
  | (after, '.' :: before) => some (String.ofList before.reverse, String.ofList after.reverse)
  | _ => none

/-- `parseSortColumn`: the column and whether it is descending. -/
def parseSortColumn (sort : String) : Except Err (Option (String × Bool)) :=
  let trimmed := Go.trimSpace sort
  if trimmed = "" then .ok none
  else if trimmed.toList.contains ',' then .error (.invalidInput "multi-column sort is not supported")
  else
    match cutLast trimmed with
    | none => .ok (some (trimmed, false))
    | some (key, direction) =>
      if direction = "asc" then .ok (some (key, false))
      else if direction = "desc" then .ok (some (key, true))
      else .ok (some (trimmed, false))

/-- The default columns the request did not already pin, each once. -/
def defaultParts (used : List String) : List (OrderExpr R) → List (OrderExpr R × Bool)
  | [] => []
  | expr :: exprs =>
    if used.contains expr.sql then defaultParts used exprs
    else (expr, expr.descending) :: defaultParts (used ++ [expr.sql]) exprs

/-- `OrderBy` -/
def orderBy (params : Params) (orderKeys : List (String × OrderExpr R)) (defaultOrder : List (OrderExpr R)) :
    Except Err (List (OrderExpr R × Bool)) := do
  match ← parseSortColumn params.sort with
  | none => .ok (defaultParts [] defaultOrder)
  | some (id, desc) =>
    match orderKeys.find? fun entry => decide (entry.1 = id) with
    | none => .error (.invalidInput ("unknown sort key " ++ Go.quote id))
    | some (_, expr) => .ok ((expr, desc) :: defaultParts [expr.sql] defaultOrder)

/-- The parts decide one after the other. -/
def compareRows (locale : DbLocale) (parts : List (OrderExpr R × Bool)) (r s : R) : Ordering :=
  parts.foldr (fun part later => (part.1.compare locale part.2 r s).then later) .eq

end Order

/-- `rows` are the rows the `SELECT ... WHERE` yields. -/
structure ListQuery (R : Type) where
  rows : List R
  orderKeys : List (String × OrderExpr R) := []
  defaultOrder : List (OrderExpr R)
  params : Params

/-- The text matches the search in one of the columns; an empty search matches everything. -/
def matchesSearch (locale : DbLocale) (q : String) (columns : List (Option String)) : Bool :=
  decide (q = "") || columns.any fun column => column.any fun value => locale.ilike value ("%" ++ q ++ "%")

variable {R : Type} {locale : DbLocale}

/-- `LIMIT pageSize OFFSET pageIndex * pageSize` -/
def page (params : Params) (rows : List R) : List R :=
  (rows.drop (params.pageIndex * params.pageSize).toNat).take params.pageSize.toNat

/-- `ListWithCount` -/
def ListQuery.listWithCount (locale : DbLocale) (q : ListQuery R) : Except Err (List R × Nat) := do
  let params := q.params.normalize
  params.validate
  let parts ← orderBy params q.orderKeys q.defaultOrder
  .ok (page params (q.rows.insertionSort fun r s => (compareRows locale parts r s).isLE = true), q.rows.length)

/-- A page shows rows of the query. -/
theorem mem_of_page {q : ListQuery R} {items : List R} {count : Nat} (h : q.listWithCount locale = .ok (items, count))
    {r : R} (mem : r ∈ items) : r ∈ q.rows := by
  obtain ⟨_, _, h⟩ := bind_ok.1 h
  obtain ⟨_, _, h⟩ := bind_ok.1 h
  cases h
  exact (List.mem_insertionSort _).1 (List.mem_of_mem_drop (List.mem_of_mem_take mem))

/-- Every row stands on the page its position says. -/
theorem exists_page {rows : List R} {r : R} (mem : r ∈ rows) {size : Nat} (positive : 0 < size) :
    ∃ i, r ∈ (rows.drop (i * size)).take size := by
  obtain ⟨n, at_⟩ := List.mem_iff_getElem?.1 mem
  refine ⟨n / size, List.mem_iff_getElem?.2 ⟨n % size, ?_⟩⟩
  have below : n % size < size := Nat.mod_lt n positive
  have split : n / size * size + n % size = n := Nat.div_add_mod' n size
  rw [List.getElem?_take_of_lt below, List.getElem?_drop, split, at_]

/-- A request without a sort column gets the default order. -/
theorem listWithCount_default (q : ListQuery R) (sort : q.params.sort = "") (valid : q.params.normalize.validate = .ok ()) :
    q.listWithCount locale = .ok (page q.params.normalize (q.rows.insertionSort fun r s =>
      (compareRows locale (defaultParts [] q.defaultOrder) r s).isLE = true), q.rows.length) := by
  have trimmed : Go.trimSpace "" = "" := by decide
  have ordered : orderBy q.params.normalize q.orderKeys q.defaultOrder = .ok (defaultParts [] q.defaultOrder) := by
    simp [orderBy, parseSortColumn, Params.normalize, sort, trimmed, bind, Except.bind]
  simp only [ListQuery.listWithCount, valid, ordered, bind, Except.bind]

/-- The same query, at another page. -/
def ListQuery.at (q : ListQuery R) (pageIndex : Int) : ListQuery R := { q with params := { q.params with pageIndex } }

/-- **The pages are the rows.** In the default order, a row is on some page exactly when
the query selects it. -/
theorem mem_some_page (q : ListQuery R) (sort : q.params.sort = "") (small : 0 ≤ q.params.pageSize)
    (large : q.params.pageSize ≤ 1000) {r : R} :
    r ∈ q.rows ↔ ∃ pageIndex items count, 0 ≤ pageIndex ∧ (q.at pageIndex).listWithCount locale = .ok (items, count) ∧
      r ∈ items := by
  constructor
  · intro mem
    -- every page of this query has the same size
    obtain ⟨size, positive, bounded, sized⟩ : ∃ size : Nat, 0 < size ∧ size ≤ 1000 ∧
        ∀ i, (q.at i).params.normalize.pageSize = size := by
      by_cases unset : q.params.pageSize = 0
      · exact ⟨50, by omega, by omega, fun _ => if_pos unset⟩
      · refine ⟨q.params.pageSize.toNat, by omega, by omega, fun _ => (if_neg unset).trans ?_⟩
        exact (Int.toNat_of_nonneg small).symm
    have sorted := (List.mem_insertionSort fun r s =>
      (compareRows locale (defaultParts [] q.defaultOrder) r s).isLE = true).2 mem
    obtain ⟨i, shown⟩ := exists_page sorted positive
    have valid : (q.at i).params.normalize.validate = .ok () := by
      have index : ¬ (q.at i).params.normalize.pageIndex < 0 := Int.not_lt.2 (Int.natCast_nonneg i)
      have size := sized i
      rw [Params.validate, if_neg index, if_neg (by omega), if_neg (by omega)]
    refine ⟨i, _, _, Int.natCast_nonneg i, listWithCount_default (q.at i) sort valid, ?_⟩
    have start : ((q.at i).params.normalize.pageIndex * (size : Int)).toNat = i * size := by
      show ((i : Int) * (size : Int)).toNat = i * size
      rw [← Int.natCast_mul, Int.toNat_natCast]
    rw [page, sized, start]
    exact shown
  · rintro ⟨pageIndex, items, count, _, listed, mem⟩
    exact mem_of_page listed mem

end Woodgate.Postgres
