import Woodgate.Library.Paging
import Woodgate.Postgres.Listing

/-!
# The pages of a list

A request names a page from 1 on and its size; the query turns both into `LIMIT` and
`OFFSET`. `WellOrdered` is what a query has to meet for its pages to add up: every sort
expression yields values of one type, and the default order ends in the row's id, which no
other expression of that text means anything else by.
-/

namespace Woodgate.Postgres

open Library Library.Results Library.Paging

section Input

/-- `ListQueryInput`; `page` and `per_page` are 0 when the request leaves them out. -/
structure ListQueryInput where
  q : String := ""
  page : Int32 := 0
  perPage : Int32 := 0
  sort : String := ""
  deriving DecidableEq, Repr

def ListQueryInput.pageIndex (input : ListQueryInput) : Int32 := if 1 < input.page then input.page - 1 else 0

/-- `ListQueryInput.Params` -/
def ListQueryInput.params (input : ListQueryInput) : Params :=
  Params.normalize { q := input.q, pageIndex := input.pageIndex.toInt, pageSize := input.perPage.toInt, sort := input.sort }

/-- `int64(params.PageIndex)*int64(params.PageSize)` -/
def Params.offset (params : Params) : Int64 := Int64.ofInt params.pageIndex * Int64.ofInt params.pageSize

def maxInt32 : Nat := 2147483647

/-- `queryListWithCount`, where the count is cast to `integer`. -/
def ListQuery.queryListWithCount {R : Type} (locale : DbLocale) (q : ListQuery R) : Except Err (List R × Nat) := do
  let (items, count) ← q.listWithCount locale
  if maxInt32 < count then .error (.failure "integer out of range")
  .ok (items, count)

theorem pageIndex_toInt (input : ListQueryInput) : input.pageIndex.toInt = max (input.page.toInt - 1) 0 := by
  have low := input.page.le_toInt
  have high := input.page.toInt_lt
  unfold ListQueryInput.pageIndex
  split
  · rename_i later
    have later : 1 < input.page.toInt := Int32.lt_iff_toInt_lt.1 later
    rw [Int32.toInt_sub]
    have one : (1 : Int32).toInt = 1 := rfl
    rw [one, Int.bmod_eq_of_le (by omega) (by omega)]
    omega
  · rename_i first
    have first : input.page.toInt ≤ 1 := Int.not_lt.1 fun later => first (Int32.lt_iff_toInt_lt.2 later)
    have zero : (0 : Int32).toInt = 0 := rfl
    rw [zero]
    omega

theorem offset_toInt {params : Params} (first : 0 ≤ params.pageIndex) (last : params.pageIndex < 2147483648)
    (small : 0 ≤ params.pageSize) (large : params.pageSize ≤ 1000) :
    params.offset.toInt = params.pageIndex * params.pageSize := by
  have product : params.pageIndex * params.pageSize ≤ 2147483648 * 1000 :=
    Int.mul_le_mul (Int.le_of_lt last) large small (by decide)
  have nonneg : 0 ≤ params.pageIndex * params.pageSize := Int.mul_nonneg first small
  unfold Params.offset
  rw [Int64.toInt_mul, Int64.toInt_ofInt_of_le (by omega) (by omega), Int64.toInt_ofInt_of_le (by omega) (by omega)]
  exact Int.bmod_eq_of_le (by omega) (by omega)

/-- The arithmetic from a page to its `OFFSET` overflows for no page. -/
theorem ListQueryInput.offset_eq (input : ListQueryInput) (small : 1 ≤ input.perPage.toInt) (large : input.perPage.toInt ≤ 1000) :
    input.params.offset.toInt = max (input.page.toInt - 1) 0 * input.perPage.toInt := by
  have low := input.page.toInt_lt
  have given : input.perPage.toInt ≠ 0 := by omega
  have size : input.params.pageSize = input.perPage.toInt := if_neg given
  have start : input.params.pageIndex = max (input.page.toInt - 1) 0 := pageIndex_toInt input
  rw [offset_toInt (by omega) (by omega) (by omega) (by omega), size, start]

end Input

section Order

/-- What the database is relied on for: a collation is a total order, up to texts it does not
tell apart. -/
structure DbLocale.Orders (locale : DbLocale) : Prop where
  total : ∀ a b, locale.le a b = true ∨ locale.le b a = true
  trans : ∀ a b c, locale.le a b = true → locale.le b c = true → locale.le a c = true

theorem leCodePoints_total (a b : List Char) : leCodePoints a b = true ∨ leCodePoints b a = true := by
  induction a generalizing b with
  | nil => exact .inl rfl
  | cons x a ih =>
    cases b with
    | nil => exact .inr rfl
    | cons y b =>
      by_cases same : x = y
      · subst same
        simpa [leCodePoints] using ih b
      · have apart : x.toNat ≠ y.toNat := fun equal => same (Char.toNat_inj.1 equal)
        simp only [leCodePoints, if_neg same, if_neg (Ne.symm same), decide_eq_true_eq]
        omega

theorem leCodePoints_trans (a b c : List Char) (here : leCodePoints a b = true) (there : leCodePoints b c = true) :
    leCodePoints a c = true := by
  induction a generalizing b c with
  | nil => rfl
  | cons x a ih =>
    cases b with
    | nil => cases here
    | cons y b =>
      cases c with
      | nil => cases there
      | cons z c =>
        by_cases first : x = y
        · subst first
          by_cases second : x = z
          · subst second
            simp only [leCodePoints, if_true] at *
            exact ih b c here there
          · simpa [leCodePoints, second] using there
        · simp only [leCodePoints, if_neg first, decide_eq_true_eq] at here
          by_cases second : y = z
          · subst second
            simpa [leCodePoints, first] using here
          · simp only [leCodePoints, if_neg second, decide_eq_true_eq] at there
            have apart : x ≠ z := fun same => by
              subst same
              omega
            simp only [leCodePoints, if_neg apart, decide_eq_true_eq]
            omega

theorem DbLocale.c_orders : DbLocale.c.Orders where
  total a b := leCodePoints_total a.toList b.toList
  trans a b c := leCodePoints_trans a.toList b.toList c.toList

/-- The types of the sort columns. -/
inductive SortKind where
  | bool
  | int
  | text
  deriving DecidableEq, Repr

def SortValue.HasKind : SortValue → SortKind → Prop
  | .null, _ | .bool _, .bool | .int _, .int | .text _, .text => True
  | _, _ => False

variable {R : Type}

/-- All values of the expression are of one type. -/
def OrderExpr.Typed (expr : OrderExpr R) : Prop := ∃ kind, ∀ r, (expr.value r).HasKind kind

/-- Where the expression has its `NULL`s. -/
def OrderExpr.nullsFirst (expr : OrderExpr R) (desc : Bool) : Bool :=
  match expr.nullOrder with
  | .nullOrderDefault => desc
  | .nullsFirst => true
  | .nullsLast => false

theorem OrderExpr.compare_eq {V : Type} {locale : DbLocale} {expr : OrderExpr R} {desc : Bool} {f : R → Option V}
    {cmp : V → V → Ordering} (null : ∀ r, expr.value r = .null ↔ f r = none)
    (values : ∀ r s v w, f r = some v → f s = some w → (expr.value r).compare locale (expr.value s) = cmp v w) :
    expr.compare locale desc = through f (withNone (expr.nullsFirst desc) (directed desc cmp)) := by
  funext r s
  have null_r := null r
  have null_s := null s
  have values_rs := values r s
  unfold OrderExpr.compare through
  cases here : f r with
  | none =>
    rw [null_r.2 here]
    cases there : f s with
    | none =>
      rw [null_s.2 there]
      rfl
    | some w =>
      cases value : expr.value s with
      | null => exact absurd (null_s.1 value) (by simp [there])
      | _ => rfl
  | some v =>
    cases value : expr.value r with
    | null => exact absurd (null_r.1 value) (by simp [here])
    | _ =>
      cases there : f s with
      | none =>
        rw [null_s.2 there]
        rfl
      | some w =>
        have same := values_rs v w here there
        cases value' : expr.value s with
        | null => exact absurd (null_s.1 value') (by simp [there])
        | _ =>
          rw [value, value'] at same
          simp only [withNone, directed, ← same]

def SortValue.bool? : SortValue → Option Bool
  | .bool b => some b
  | _ => none

def SortValue.int? : SortValue → Option Int
  | .int i => some i
  | _ => none

def SortValue.text? : SortValue → Option String
  | .text t => some t
  | _ => none

theorem OrderExpr.transCmp {locale : DbLocale} (orders : locale.Orders) {expr : OrderExpr R} (typed : expr.Typed) (desc : Bool) :
    Std.TransCmp (expr.compare locale desc) := by
  obtain ⟨kind, kinds⟩ := typed
  cases kind with
  | bool =>
    have same : expr.compare locale desc =
        through (fun r => (expr.value r).bool?) (withNone (expr.nullsFirst desc) (directed desc Ord.compare)) := by
      refine OrderExpr.compare_eq (fun r => ?_) fun r s v w here there => ?_
      · have kind := kinds r
        cases value : expr.value r <;> simp_all [SortValue.bool?, SortValue.HasKind]
      · cases value : expr.value r <;> cases value' : expr.value s <;> simp_all [SortValue.bool?, SortValue.compare]
    rw [same]
    infer_instance
  | int =>
    have same : expr.compare locale desc =
        through (fun r => (expr.value r).int?) (withNone (expr.nullsFirst desc) (directed desc Ord.compare)) := by
      refine OrderExpr.compare_eq (fun r => ?_) fun r s v w here there => ?_
      · have kind := kinds r
        cases value : expr.value r <;> simp_all [SortValue.int?, SortValue.HasKind]
      · cases value : expr.value r <;> cases value' : expr.value s <;> simp_all [SortValue.int?, SortValue.compare]
    rw [same]
    infer_instance
  | text =>
    have same : expr.compare locale desc =
        through (fun r => (expr.value r).text?) (withNone (expr.nullsFirst desc) (directed desc (ofLE locale.le))) := by
      refine OrderExpr.compare_eq (fun r => ?_) fun r s v w here there => ?_
      · have kind := kinds r
        cases value : expr.value r <;> simp_all [SortValue.text?, SortValue.HasKind]
      · cases value : expr.value r <;> cases value' : expr.value s <;> simp_all [SortValue.text?, SortValue.compare, ofLE]
    have trans := ofLE_transCmp orders.total orders.trans
    rw [same]
    infer_instance

/-- The parts one after the other are an order if each is. -/
theorem compareRows_transCmp {locale : DbLocale} (orders : locale.Orders) {parts : List (OrderExpr R × Bool)}
    (typed : ∀ part ∈ parts, part.1.Typed) : Std.TransCmp (compareRows locale parts) := by
  induction parts with
  | nil => exact { eq_swap := rfl, isLE_trans := fun _ _ => rfl }
  | cons part parts ih =>
    have first := OrderExpr.transCmp orders (typed part List.mem_cons_self) part.2
    have later := ih fun part mem => typed part (List.mem_cons_of_mem _ mem)
    exact inferInstanceAs (Std.TransCmp (compareLex (part.1.compare locale part.2) (compareRows locale parts)))

/-- Rows that are equal in the order are so in each part. -/
theorem compareRows_eq {locale : DbLocale} {parts : List (OrderExpr R × Bool)} {r s : R}
    (equal : compareRows locale parts r s = .eq) : ∀ part ∈ parts, part.1.compare locale part.2 r s = .eq := by
  induction parts with
  | nil => nofun
  | cons part parts ih =>
    obtain ⟨first, later⟩ := Ordering.then_eq_eq.1 equal
    intro other mem
    rcases List.mem_cons.1 mem with rfl | mem
    · exact first
    · exact ih later other mem

/-- Only the values of the parts matter. -/
theorem compareRows_congr {locale : DbLocale} {parts : List (OrderExpr R × Bool)} {r r' s s' : R}
    (left : ∀ part ∈ parts, part.1.value r' = part.1.value r) (right : ∀ part ∈ parts, part.1.value s' = part.1.value s) :
    compareRows locale parts r' s' = compareRows locale parts r s := by
  induction parts with
  | nil => rfl
  | cons part parts ih =>
    obtain ⟨first, left⟩ := List.forall_mem_cons.1 left
    obtain ⟨first', right⟩ := List.forall_mem_cons.1 right
    have later := ih left right
    have here : part.1.compare locale part.2 r' s' = part.1.compare locale part.2 r s := by
      rw [OrderExpr.compare, OrderExpr.compare, first, first']
    show (part.1.compare locale part.2 r' s').then (compareRows locale parts r' s') = _
    rw [here, later]
    rfl

section Parts

variable {orderKeys : List (String × OrderExpr R)} {defaultOrder : List (OrderExpr R)} {params : Params}
  {parts : List (OrderExpr R × Bool)}

theorem defaultParts_mem {used : List String} :
    ∀ part ∈ defaultParts used defaultOrder, part.1 ∈ defaultOrder := by
  induction defaultOrder generalizing used with
  | nil => nofun
  | cons expr exprs ih =>
    intro part mem
    rw [defaultParts] at mem
    split at mem
    · exact List.mem_cons_of_mem _ (ih part mem)
    · rcases List.mem_cons.1 mem with rfl | mem
      · exact List.mem_cons_self
      · exact List.mem_cons_of_mem _ (ih part mem)

/-- No default column is lost: it is there, or one of its text is. -/
theorem mem_defaultParts {used : List String} :
    ∀ expr ∈ defaultOrder, expr.sql ∈ used ∨ ∃ part ∈ defaultParts used defaultOrder, part.1.sql = expr.sql := by
  induction defaultOrder generalizing used with
  | nil => nofun
  | cons first exprs ih =>
    intro expr mem
    rw [defaultParts]
    split
    · rename_i present
      rcases List.mem_cons.1 mem with rfl | mem
      · exact .inl (List.contains_iff_mem.1 present)
      · exact ih expr mem
    · rcases List.mem_cons.1 mem with rfl | mem
      · exact .inr ⟨_, List.mem_cons_self, rfl⟩
      · rcases @ih (used ++ [first.sql]) expr mem with pinned | ⟨part, later, same⟩
        · rcases List.mem_append.1 pinned with pinned | pinned
          · exact .inl pinned
          · exact .inr ⟨_, List.mem_cons_self, (List.mem_singleton.1 pinned).symm⟩
        · exact .inr ⟨part, List.mem_cons_of_mem _ later, same⟩

/-- The parts of an accepted order are among the expressions, and every default column is
represented. -/
theorem orderBy_parts (accepted : orderBy params orderKeys defaultOrder = .ok parts) :
    (∀ part ∈ parts, part.1 ∈ orderKeys.map Prod.snd ++ defaultOrder) ∧
      ∀ expr ∈ defaultOrder, ∃ part ∈ parts, part.1.sql = expr.sql := by
  obtain ⟨requested, _, accepted⟩ := bind_ok.1 accepted
  cases requested with
  | none =>
    cases accepted
    refine ⟨fun part mem => List.mem_append_right _ (defaultParts_mem part mem), fun expr mem => ?_⟩
    exact (mem_defaultParts expr mem).resolve_left nofun
  | some column =>
    obtain ⟨id, desc⟩ := column
    dsimp only at accepted
    split at accepted
    · cases accepted
    · rename_i name expr found
      cases accepted
      have key := List.mem_of_find?_eq_some found
      refine ⟨fun part mem => ?_, fun other mem => ?_⟩
      · rcases List.mem_cons.1 mem with rfl | mem
        · exact List.mem_append_left _ (List.mem_map.2 ⟨_, key, rfl⟩)
        · exact List.mem_append_right _ (defaultParts_mem part mem)
      · rcases @mem_defaultParts _ _ [expr.sql] other mem with pinned | ⟨part, there, same⟩
        · exact ⟨_, List.mem_cons_self, (List.mem_singleton.1 pinned).symm⟩
        · exact ⟨part, List.mem_cons_of_mem _ there, same⟩

end Parts

end Order

section Pages

variable {R : Type} {locale : DbLocale} {q : ListQuery R} {id : R → Int} {parts : List (OrderExpr R × Bool)}
  {sql : String}

def ListQuery.exprs (q : ListQuery R) : List (OrderExpr R) := q.orderKeys.map Prod.snd ++ q.defaultOrder

/-- An expression of a query whose rows have their id under the text `sql`. -/
structure Column (sql : String) (id : R → Int) (expr : OrderExpr R) : Prop where
  typed : expr.Typed
  tail : expr.sql = sql → ∀ r, expr.value r = .int (id r)

section Column

variable {expr : OrderExpr R}

theorem Column.ofID (values : ∀ r, expr.value r = .int (id r)) : Column sql id expr where
  typed := ⟨.int, fun r => by
    rw [values r]
    trivial⟩
  tail _ := values

theorem Column.other (kind : SortKind) (values : ∀ r, (expr.value r).HasKind kind) (other : expr.sql ≠ sql) :
    Column sql id expr where
  typed := ⟨kind, values⟩
  tail same := absurd same other

end Column

/-- What makes the pages of a query add up. -/
structure ListQuery.WellOrdered (q : ListQuery R) (sql : String) (id : R → Int) : Prop where
  columns : ∀ expr ∈ q.exprs, Column sql id expr
  last : ∃ expr ∈ q.defaultOrder, expr.sql = sql
  rows : (q.rows.map id).Nodup

/-- The parts of the `ORDER BY`, if the sort token is accepted. -/
def ListQuery.order (q : ListQuery R) : Except Err (List (OrderExpr R × Bool)) :=
  orderBy q.params.normalize q.orderKeys q.defaultOrder

/-- The order reads nothing else of the parameters. -/
theorem ListQuery.order_eq {q' : ListQuery R} (keys : q.orderKeys = q'.orderKeys) (default : q.defaultOrder = q'.defaultOrder)
    (sort : q.params.sort = q'.params.sort) : q.order = q'.order := by
  have trimmed : q.params.normalize.sort = q'.params.normalize.sort := congrArg Go.trimSpace sort
  rw [ListQuery.order, ListQuery.order, orderBy, orderBy, keys, default, trimmed]

theorem ListQuery.WellOrdered.transCmp (wellOrdered : q.WellOrdered sql id) (orders : locale.Orders)
    (accepted : q.order = .ok parts) : Std.TransCmp (compareRows locale parts) :=
  compareRows_transCmp orders fun part mem => (wellOrdered.columns part.1 ((orderBy_parts accepted).1 part mem)).typed

/-- Rows that tie in every part have one id. -/
theorem ListQuery.WellOrdered.separates (wellOrdered : q.WellOrdered sql id) (accepted : q.order = .ok parts) :
    Separates (compareRows locale parts) q.rows := by
  intro r mem s mem' equal
  obtain ⟨among, defaults⟩ := orderBy_parts accepted
  obtain ⟨last, there, text⟩ := wellOrdered.last
  obtain ⟨part, present, same⟩ := defaults last there
  have value := (wellOrdered.columns part.1 (among part present)).tail (same.trans text)
  have tie := compareRows_eq equal part present
  rw [OrderExpr.compare, value r, value s] at tie
  have ids : id r = id s := by
    cases desc : part.2
    · simpa [desc, SortValue.compare] using tie
    · simpa [desc, SortValue.compare] using tie
  exact List.inj_on_of_nodup_map wellOrdered.rows mem mem' ids

/-- What one request gets. -/
theorem ListQuery.queryListWithCount_eq {input : ListQueryInput} (atPage : q.params.pageIndex = input.pageIndex.toInt)
    (ofSize : q.params.pageSize = input.perPage.toInt) (small : 1 ≤ input.perPage.toInt) (large : input.perPage.toInt ≤ 1000) (accepted : q.order = .ok parts)
    (fits : q.rows.length ≤ maxInt32) : q.queryListWithCount locale =
      .ok (slice input.perPage.toInt.toNat (sorted (compareRows locale parts) q.rows) input.pageIndex.toInt.toNat,
        q.rows.length) := by
  have index : q.params.normalize.pageIndex = input.pageIndex.toInt := atPage
  have size : q.params.normalize.pageSize = input.perPage.toInt := by
    have given : q.params.pageSize ≠ 0 := by omega
    rw [← ofSize]
    exact if_neg given
  have nonneg : 0 ≤ input.pageIndex.toInt := by
    rw [pageIndex_toInt]
    omega
  have valid : q.params.normalize.validate = .ok () := by
    rw [Params.validate, index, size, if_neg (by omega), if_neg (by omega), if_neg (by omega)]
  have start : (input.pageIndex.toInt * input.perPage.toInt).toNat =
      input.pageIndex.toInt.toNat * input.perPage.toInt.toNat := Int.toNat_mul nonneg (by omega)
  have listed : q.listWithCount locale = .ok (page q.params.normalize (sorted (compareRows locale parts) q.rows),
      q.rows.length) := by
    unfold ListQuery.order at accepted
    simp only [ListQuery.listWithCount, valid, accepted, bind, Except.bind]
    rfl
  rw [ListQuery.queryListWithCount, listed]
  simp only [bind, Except.bind, if_neg (Nat.not_lt.2 fits), page, index, size, start, slice]

/-- More rows than the type of the count holds cannot be listed. -/
theorem ListQuery.queryListWithCount_overflow (large : maxInt32 < q.rows.length) (result : List R × Nat) :
    q.queryListWithCount locale ≠ .ok result := by
  intro listed
  obtain ⟨⟨items, count⟩, page, listed⟩ := bind_ok.1 listed
  obtain ⟨_, _, page⟩ := bind_ok.1 page
  obtain ⟨_, _, page⟩ := bind_ok.1 page
  cases page
  simp only [if_pos large] at listed
  cases listed

end Pages

end Woodgate.Postgres
