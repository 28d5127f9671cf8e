import Woodgate.Library.Placeholders
import Woodgate.Postgres.Pages

/-!
# The text of a list query

`WhereBuilder` and the text that `ListQuery.Build` and `BuildCount` make. Two facts carry over
from each call to the next: `Alike`, that two builders have the same text and equally many
arguments, and `Registers`, that the placeholders of the text stand for the values that were given
for their places.
-/

namespace Woodgate.Postgres

open Library.Placeholders Library.Results

/-- An argument of a query. -/
inductive Value where
  | text (s : String)
  | bigint (n : Int)
  | boolean (b : Bool)
  | timestamp (t : Int)
  | texts (ss : List String)
  | bigints (ns : List Int)
  deriving DecidableEq, Repr

section Sprintf

/-- A character of a format, or the argument a verb stands for. -/
inductive Piece where
  | char (c : Char)
  | verb (i : Nat)
  deriving DecidableEq, Repr

/-- The verbs `%s` and `%[n]s`, and `%%`; `i` arguments come before the next `%s`. -/
def pieces : Nat → List Char → List Piece
  | _, [] => []
  | i, '%' :: '%' :: rest => .char '%' :: pieces i rest
  | i, '%' :: 's' :: rest => .verb i :: pieces (i + 1) rest
  | _, '%' :: '[' :: d :: ']' :: 's' :: rest => .verb (d.toNat - '1'.toNat) :: pieces (d.toNat - '0'.toNat) rest
  | i, c :: rest => .char c :: pieces i rest

def Piece.text (args : List String) : Piece → List Char
  | .char c => [c]
  | .verb i => (args.getD i "%!s(MISSING)").toList

/-- `fmt.Sprintf` of texts, for a format that uses all of them. -/
def sprintf (format : String) (args : List String) : String :=
  String.ofList ((pieces 0 format.toList).flatMap (Piece.text args))

end Sprintf

structure WhereBuilder where
  clauses : List String := []
  args : List Value := []
  deriving DecidableEq, Repr

namespace WhereBuilder

variable (b : WhereBuilder)

def add (clause : String) : WhereBuilder := if clause = "" then b else { b with clauses := b.clauses ++ [clause] }

/-- `Arg`: the placeholder of the new argument. -/
def arg (value : Value) : WhereBuilder × String :=
  ({ b with args := b.args ++ [value] }, placeholder (b.args.length + 1))

/-- The placeholders of the arguments of `Addf`. -/
def registerAll : WhereBuilder → List Value → WhereBuilder × List String
  | b, [] => (b, [])
  | b, value :: values =>
    let (b, text) := b.arg value
    let (b, texts) := registerAll b values
    (b, text :: texts)

def addf (format : String) (args : List Value) : WhereBuilder :=
  let (b, placeholders) := b.registerAll args
  b.add (sprintf format placeholders)

/-- A filter that is there under a condition. -/
def when (c : Prop) [Decidable c] (filter : WhereBuilder → WhereBuilder) : WhereBuilder := if c then filter b else b

def build : String × List Value :=
  if b.clauses = [] then ("", b.args) else ("WHERE " ++ " AND ".intercalate b.clauses, b.args)

end WhereBuilder

variable {R : Type}

def NullOrder.sql : NullOrder → String
  | .nullOrderDefault => ""
  | .nullsFirst => "NULLS FIRST"
  | .nullsLast => "NULLS LAST"

/-- `orderPart` -/
def orderPart (part : OrderExpr R × Bool) : String :=
  part.1.sql ++ " " ++ (if part.2 then "DESC" else "ASC") ++
    if part.1.nullOrder = .nullOrderDefault then "" else " " ++ part.1.nullOrder.sql

/-- The text `OrderBy` makes of the parts. -/
def orderSQL (parts : List (OrderExpr R × Bool)) : String :=
  if parts = [] then "" else "ORDER BY " ++ ", ".intercalate (parts.map orderPart)

/-- A `ListQuery` as its text. -/
structure ListText (R : Type) where
  selectSQL : String
  whereSQL : String
  groupBySQL : String := ""
  args : List Value
  orderKeys : List (String × OrderExpr R)
  defaultOrder : List (OrderExpr R)
  params : Params

namespace ListText

variable (q : ListText R)

def baseParts : List String :=
  [q.selectSQL] ++ (if q.whereSQL ≠ "" then [q.whereSQL] else []) ++ if q.groupBySQL ≠ "" then [q.groupBySQL] else []

def buildCount : String × List Value :=
  ("SELECT count(*)::integer FROM (\n" ++ "\n".intercalate q.baseParts ++ "\n) list_count", q.args)

def limitSQL (limitIndex : Nat) : String := "LIMIT " ++ placeholder limitIndex ++ " OFFSET " ++ placeholder (limitIndex + 1)

/-- The arguments of `LIMIT` and `OFFSET`. -/
def page : List Value := [.bigint q.params.normalize.pageSize, .bigint q.params.normalize.offset.toInt]

def build : Except Err (String × List Value) := do
  let params := q.params.normalize
  params.validate
  let parts ← orderBy params q.orderKeys q.defaultOrder
  let limitIndex := q.args.length + 1
  .ok ("\n".intercalate (q.baseParts ++ (if orderSQL parts ≠ "" then [orderSQL parts] else []) ++ [limitSQL limitIndex]),
    q.args ++ [.bigint params.pageSize, .bigint params.offset.toInt])

end ListText

section Formats

variable {args values : List Value} {texts : List String} {n : Nat}

def opensWithDigit : List Piece → Bool
  | .char c :: _ => c.isDigit
  | _ => false

/-- No character is a `$`, no digit stands after a verb, and the verbs are those of `n` arguments. -/
def fits (n : Nat) : List Piece → Bool
  | [] => true
  | .char c :: rest => decide (c ≠ '$') && fits n rest
  | .verb i :: rest => decide (i < n) && !opensWithDigit rest && fits n rest

/-- The arguments that the verbs stand for. -/
def verbs (ps : List Piece) : List Nat :=
  ps.filterMap fun
    | .char _ => none
    | .verb i => some i

/-- The values in the places of the verbs. -/
def places (values : List Value) (ps : List Piece) : List Value := (verbs ps).filterMap fun i => values[i]?

/-- The texts are placeholders of the values. -/
def Stand (args : List Value) (texts : List String) (values : List Value) : Prop :=
  List.Forall₂ (fun text value => ∃ m, text = placeholder (m + 1) ∧ args[m]? = some value) texts values

theorem Stand.known {i : Nat} (stand : Stand args texts values) (inside : i < values.length) :
    ∃ m value, texts.getD i "%!s(MISSING)" = placeholder (m + 1) ∧ values[i]? = some value ∧ args[m]? = some value := by
  have inside' : i < texts.length := by rwa [stand.length_eq]
  obtain ⟨m, text, known⟩ := List.Forall₂.get stand inside' inside
  refine ⟨m, values[i], ?_, List.getElem?_eq_getElem inside, known⟩
  rw [List.getD_eq_getElem?_getD, List.getElem?_eq_getElem inside']
  exact text

/-- What follows a verb does not begin with a digit. -/
theorem breaks_pieces {ps : List Piece} (stand : Stand args texts values) (good : fits values.length ps = true)
    (next : opensWithDigit ps = false) :
    Breaks (String.ofList (ps.flatMap (Piece.text texts))) := by
  cases ps with
  | nil =>
    intro c first
    simp at first
  | cons p rest =>
    cases p with
    | char d =>
      intro c first
      simp only [List.flatMap_cons, Piece.text, String.toList_ofList, List.cons_append, List.head?_cons,
        Option.mem_def, Option.some.injEq] at first
      rw [← first]
      exact next
    | verb i =>
      simp only [fits, Bool.and_eq_true, decide_eq_true_eq] at good
      obtain ⟨m, value, text, _⟩ := stand.known good.1.1
      rw [List.flatMap_cons, String.ofList_append, Piece.text, text, String.ofList_toList]
      exact Refers.breaks_placeholder _ _

/-- The text of a format refers to the values in the places of its verbs. -/
theorem refers_pieces {ps : List Piece} (stand : Stand args texts values) (good : fits values.length ps = true) :
    Refers args (String.ofList (ps.flatMap (Piece.text texts))) (places values ps) := by
  induction ps with
  | nil => exact .plain (by simp)
  | cons p rest ih =>
    cases p with
    | char c =>
      simp only [fits, Bool.and_eq_true, decide_eq_true_eq] at good
      rw [List.flatMap_cons, String.ofList_append]
      exact Refers.after_plain (by simpa [Piece.text] using Ne.symm good.1) (ih good.2)
    | verb i =>
      simp only [fits, Bool.and_eq_true, decide_eq_true_eq, Bool.not_eq_true'] at good
      obtain ⟨⟨inside, next⟩, later⟩ := good
      obtain ⟨m, value, text, known, registered⟩ := stand.known inside
      have head : places values (.verb i :: rest) = [value] ++ places values rest := by simp [places, verbs, known]
      rw [List.flatMap_cons, String.ofList_append, Piece.text, text, String.ofList_toList, head]
      exact (Refers.single registered).append (ih later) (breaks_pieces stand later next)

theorem registerAll_eq (b : WhereBuilder) :
    (b.registerAll values).1 = { b with args := b.args ++ values } ∧
      Stand (b.args ++ values) (b.registerAll values).2 values := by
  induction values generalizing b with
  | nil => exact ⟨by simp [WhereBuilder.registerAll], .nil⟩
  | cons value values ih =>
    obtain ⟨grown, stand⟩ := ih (b.arg value).1
    have args : (b.arg value).1.args = b.args ++ [value] := rfl
    rw [args, List.append_assoc, List.singleton_append] at grown stand
    refine ⟨grown, .cons ⟨b.args.length, rfl, ?_⟩ stand⟩
    simp

end Formats

/-- The placeholders of the text stand for the values. -/
def WhereBuilder.Registers (b : WhereBuilder) (values : List Value) : Prop :=
  ∃ valuess, List.Forall₂ (Refers b.args) b.clauses valuess ∧ valuess.flatten = values

namespace WhereBuilder.Registers

variable {b : WhereBuilder} {values more : List Value}

theorem empty : ({} : WhereBuilder).Registers [] := ⟨[], .nil, rfl⟩

theorem add {clause : String} (registers : b.Registers values) (refers : Refers b.args clause more) :
    (b.add clause).Registers (values ++ more) := by
  obtain ⟨valuess, each, rfl⟩ := registers
  unfold WhereBuilder.add
  split
  · rename_i none
    subst none
    cases refers
    exact ⟨valuess, each, by simp⟩
  · exact ⟨valuess ++ [more], List.rel_append each (.cons refers .nil), by simp⟩

theorem grow (registers : b.Registers values) (later : List Value) :
    ({ b with args := b.args ++ later } : WhereBuilder).Registers values := by
  obtain ⟨valuess, each, rfl⟩ := registers
  exact ⟨valuess, each.imp fun _ _ refers => refers.more later, rfl⟩

theorem arg {value : Value} (registers : b.Registers values) : (b.arg value).1.Registers values := registers.grow [value]

/-- A clause in which the new placeholder may stand in several places. -/
theorem argAdd {value : Value} (clause : String → String) (registers : b.Registers values)
    (refers : ∀ args : List Value, ∀ n, args[n]? = some value → Refers args (clause (placeholder (n + 1))) more) :
    ((b.arg value).1.add (clause (b.arg value).2)).Registers (values ++ more) :=
  registers.arg.add (refers _ b.args.length (by simp [WhereBuilder.arg]))

/-- **`Addf`** puts the values in the places of its verbs. -/
theorem addf {format : List Char} {args : List Value} (registers : b.Registers values)
    (good : fits args.length (pieces 0 format) = true) :
    (b.addf (String.ofList format) args).Registers (values ++ places args (pieces 0 format)) := by
  obtain ⟨grown, stand⟩ := @registerAll_eq args b
  have refers := refers_pieces stand good
  unfold WhereBuilder.addf sprintf
  dsimp only
  rw [grown, String.toList_ofList]
  exact (registers.grow args).add refers

theorem of_eq {values' : List Value} (registers : b.Registers values) (same : values = values') : b.Registers values' :=
  same ▸ registers

theorem when {c : Prop} [Decidable c] {filter : WhereBuilder → WhereBuilder} (registers : b.Registers values)
    (there : (filter b).Registers (values ++ more)) : (b.when c filter).Registers (values ++ if c then more else []) := by
  unfold WhereBuilder.when
  split
  · exact there
  · simpa using registers

/-- An `Addf` under a condition. -/
theorem whenAddf {c : Prop} [Decidable c] {format : List Char} {args : List Value} (registers : b.Registers values)
    (good : fits args.length (pieces 0 format) = true) (placed : places args (pieces 0 format) = more) :
    (b.when c fun b => b.addf (String.ofList format) args).Registers (values ++ if c then more else []) :=
  registers.when ((registers.addf good).of_eq (congrArg (values ++ ·) placed))

/-- An `Arg` and a clause with it, under a condition. -/
theorem whenArg {c : Prop} [Decidable c] {value : Value} (clause : String → String) (registers : b.Registers values)
    (refers : ∀ args : List Value, ∀ n, args[n]? = some value → Refers args (clause (placeholder (n + 1))) more) :
    (b.when c fun b => (b.arg value).1.add (clause (b.arg value).2)).Registers (values ++ if c then more else []) :=
  registers.when (registers.argAdd clause refers)

/-- The first filter that has values. -/
theorem firstArg {c : Prop} [Decidable c] {value : Value} (clause : String → String) (registers : b.Registers [])
    (refers : ∀ args : List Value, ∀ n, args[n]? = some value → Refers args (clause (placeholder (n + 1))) more) :
    (b.when c fun b => (b.arg value).1.add (clause (b.arg value).2)).Registers (if c then more else []) :=
  registers.whenArg clause refers

/-- A clause without arguments, under a condition. -/
theorem whenAdd {c : Prop} [Decidable c] {clause : List Char} (registers : b.Registers values) (plain : '$' ∉ clause) :
    (b.when c fun b => b.add (String.ofList clause)).Registers values := by
  have both : (b.when c fun b => b.add (String.ofList clause)).Registers (values ++ if c then [] else []) :=
    registers.when (registers.add (.literal plain))
  exact both.of_eq (by simp)

theorem firstAddf {c : Prop} [Decidable c] {format : List Char} {args : List Value} (registers : b.Registers [])
    (good : fits args.length (pieces 0 format) = true) (placed : places args (pieces 0 format) = more) :
    (b.when c fun b => b.addf (String.ofList format) args).Registers (if c then more else []) := registers.whenAddf good placed

/-- The text of the `WHERE`. -/
theorem build (registers : b.Registers values) : Refers b.build.2 b.build.1 values := by
  obtain ⟨valuess, each, rfl⟩ := registers
  unfold WhereBuilder.build
  split
  · rename_i none
    rw [none] at each
    cases each
    exact .plain (by simp)
  · exact Refers.after_plain (by decide) (.intercalate (by decide) (fun t => breaks_of_head (by simp)) each)

end WhereBuilder.Registers

/-- The same text, and equally many arguments. -/
structure WhereBuilder.Alike (b b' : WhereBuilder) : Prop where
  clauses : b.clauses = b'.clauses
  args : b.args.length = b'.args.length

namespace WhereBuilder.Alike

variable {b b' : WhereBuilder} {values values' : List Value}

theorem refl (b : WhereBuilder) : b.Alike b := ⟨rfl, rfl⟩

theorem add (alike : b.Alike b') {clause clause' : String} (same : clause = clause') :
    (b.add clause).Alike (b'.add clause') := by
  subst same
  unfold WhereBuilder.add
  split
  · exact alike
  · exact ⟨congrArg (· ++ [clause]) alike.clauses, alike.args⟩

/-- The next argument gets the same placeholder. -/
theorem arg (alike : b.Alike b') {value value' : Value} :
    (b.arg value).1.Alike (b'.arg value').1 ∧ (b.arg value).2 = (b'.arg value').2 := by
  refine ⟨⟨alike.clauses, ?_⟩, ?_⟩
  · simp [WhereBuilder.arg, alike.args]
  · simp only [WhereBuilder.arg, alike.args]

theorem argAdd (alike : b.Alike b') {value value' : Value} (clause : String → String) :
    ((b.arg value).1.add (clause (b.arg value).2)).Alike ((b'.arg value').1.add (clause (b'.arg value').2)) :=
  alike.arg.1.add (congrArg clause alike.arg.2)

theorem registerAll (alike : b.Alike b') (many : values.length = values'.length) :
    (b.registerAll values).1.Alike (b'.registerAll values').1 ∧ (b.registerAll values).2 = (b'.registerAll values').2 := by
  induction values generalizing b b' values' with
  | nil =>
    cases values' with
    | nil => exact ⟨alike, rfl⟩
    | cons => cases many
  | cons value values ih =>
    cases values' with
    | nil => cases many
    | cons value' values' =>
      obtain ⟨next, text⟩ := alike.arg
      obtain ⟨last, texts⟩ := ih next (Nat.succ.inj many)
      exact ⟨last, congrArg₂ List.cons text texts⟩

/-- The filter is there in both or in none. -/
theorem when (alike : b.Alike b') {c c' : Prop} [Decidable c] [Decidable c'] {filter filter' : WhereBuilder → WhereBuilder}
    (present : c ↔ c') (there : (filter b).Alike (filter' b')) : (b.when c filter).Alike (b'.when c' filter') := by
  unfold WhereBuilder.when
  by_cases h : c
  · rw [if_pos h, if_pos (present.1 h)]
    exact there
  · rw [if_neg h, if_neg fun h' => h (present.2 h')]
    exact alike

/-- A clause without arguments, under a condition. -/
theorem whenAdd (alike : b.Alike b') {c c' : Prop} [Decidable c] [Decidable c'] {clause : String} (present : c ↔ c') :
    (b.when c fun b => b.add clause).Alike (b'.when c' fun b => b.add clause) := alike.when present (alike.add rfl)

/-- An `Arg` and a clause with it, under a condition. -/
theorem whenArg (alike : b.Alike b') {c c' : Prop} [Decidable c] [Decidable c'] {value value' : Value} (clause : String → String)
    (present : c ↔ c') :
    (b.when c fun b => (b.arg value).1.add (clause (b.arg value).2)).Alike
      (b'.when c' fun b => (b.arg value').1.add (clause (b.arg value').2)) := alike.when present (alike.argAdd clause)

theorem addf (alike : b.Alike b') (format : String) (many : values.length = values'.length) :
    (b.addf format values).Alike (b'.addf format values') := by
  obtain ⟨next, texts⟩ := alike.registerAll many
  exact next.add (congrArg (sprintf format) texts)

/-- An `Addf` under a condition. -/
theorem whenAddf (alike : b.Alike b') {c c' : Prop} [Decidable c] [Decidable c'] {format : String} (present : c ↔ c')
    (many : values.length = values'.length) :
    (b.when c fun b => b.addf format values).Alike (b'.when c' fun b => b.addf format values') :=
  alike.when present (alike.addf format many)

theorem build (alike : b.Alike b') : b.build.1 = b'.build.1 ∧ b.build.2.length = b'.build.2.length := by
  unfold WhereBuilder.build
  rw [alike.clauses]
  split <;> exact ⟨rfl, alike.args⟩

end WhereBuilder.Alike

section Texts

variable {q q' : ListText R} {sql sql' : String} {args args' values : List Value} {parts : List (OrderExpr R × Bool)}

/-- The parts of the text that a query is written with have no placeholder. -/
structure ListText.Plain (q : ListText R) : Prop where
  select : '$' ∉ q.selectSQL.toList
  groupBy : '$' ∉ q.groupBySQL.toList
  orders : ∀ expr ∈ q.orderKeys.map Prod.snd ++ q.defaultOrder, '$' ∉ expr.sql.toList

/-- The texts differ at most in the arguments of the `WHERE`. -/
structure ListText.Alike (q q' : ListText R) : Prop where
  select : q.selectSQL = q'.selectSQL
  filter : q.whereSQL = q'.whereSQL
  groupBy : q.groupBySQL = q'.groupBySQL
  args : q.args.length = q'.args.length
  orderKeys : q.orderKeys = q'.orderKeys
  defaultOrder : q.defaultOrder = q'.defaultOrder
  sort : parseSortColumn q.params.normalize.sort = parseSortColumn q'.params.normalize.sort

/-- What an accepted query is made of. -/
theorem ListText.build_eq_ok (built : q.build = .ok (sql, args)) :
    ∃ parts, orderBy q.params.normalize q.orderKeys q.defaultOrder = .ok parts ∧
      sql = "\n".intercalate
        (q.baseParts ++ (if orderSQL parts ≠ "" then [orderSQL parts] else []) ++ [limitSQL (q.args.length + 1)]) ∧
      args = q.args ++ q.page := by
  obtain ⟨_, _, built⟩ := bind_ok.1 built
  obtain ⟨parts, ordered, built⟩ := bind_ok.1 built
  cases built
  exact ⟨parts, ordered, rfl, rfl⟩

/-- **Two queries of one shape have one text.** -/
theorem ListText.Alike.build (alike : q.Alike q') (built : q.build = .ok (sql, args)) (built' : q'.build = .ok (sql', args')) :
    sql = sql' ∧ args.length = args'.length := by
  obtain ⟨parts, ordered, rfl, rfl⟩ := ListText.build_eq_ok built
  obtain ⟨parts', ordered', rfl, rfl⟩ := ListText.build_eq_ok built'
  have same : parts = parts' := by
    rw [orderBy, alike.sort, alike.orderKeys, alike.defaultOrder] at ordered
    exact Except.ok.inj (ordered.symm.trans ordered')
  have base : q.baseParts = q'.baseParts := by
    rw [ListText.baseParts, ListText.baseParts, alike.select, alike.filter, alike.groupBy]
  rw [same, base, alike.args]
  simp [ListText.page, alike.args]

theorem ListText.Alike.buildCount (alike : q.Alike q') :
    q.buildCount.1 = q'.buildCount.1 ∧ q.buildCount.2.length = q'.buildCount.2.length := by
  have base : q.baseParts = q'.baseParts := by
    rw [ListText.baseParts, ListText.baseParts, alike.select, alike.filter, alike.groupBy]
  refine ⟨?_, alike.args⟩
  exact congrArg (fun parts => "SELECT count(*)::integer FROM (\n" ++ "\n".intercalate parts ++ "\n) list_count") base

theorem newline_breaks (t : String) : Breaks ("\n" ++ t) := breaks_of_head (by simp)

theorem limitSQL_refers {n : Nat} {limit offset : Value} (first : args[n]? = some limit) (second : args[n + 1]? = some offset) :
    Refers args (ListText.limitSQL (n + 1)) [limit, offset] := by
  have middle : Refers args (" OFFSET " ++ placeholder (n + 1 + 1)) [offset] :=
    Refers.after_plain (by decide) (.single second)
  have breaks : Breaks (" OFFSET " ++ placeholder (n + 1 + 1)) := breaks_of_head (by simp)
  unfold ListText.limitSQL
  rw [String.append_assoc]
  exact (Refers.after_plain (by decide) (.single first)).append middle breaks

theorem orderSQL_refers (plain : ∀ part ∈ parts, '$' ∉ part.1.sql.toList) : Refers args (orderSQL parts) [] := by
  have each : List.Forall₂ (Refers args) (parts.map orderPart) (parts.map fun _ => []) := by
    rw [List.forall₂_map_left_iff, List.forall₂_map_right_iff, List.forall₂_same]
    intro part mem
    refine .plain ?_
    have nulls : ∀ order : NullOrder, '$' ∉ order.sql.toList := by
      intro order
      cases order <;> decide
    unfold orderPart
    split <;> split <;> simp [plain part mem, nulls]
  have commas : ∀ t, Breaks (", " ++ t) := fun t => breaks_of_head (by simp)
  unfold orderSQL
  split
  · exact .plain (by simp)
  · have joined := Refers.intercalate (by decide) commas each
    rw [List.flatten_eq_nil_iff.2 (by simp)] at joined
    exact Refers.after_plain (by decide) joined

/-- A part of the text that is left out when it is empty. -/
theorem optional_refers {text : String} (refers : Refers args text values) :
    ∃ valuess, List.Forall₂ (Refers args) (if text ≠ "" then [text] else []) valuess ∧ valuess.flatten = values := by
  split
  · exact ⟨[values], .cons refers .nil, by simp⟩
  · rename_i empty
    rw [not_not.1 empty] at refers
    cases refers
    exact ⟨[], .nil, rfl⟩

theorem baseParts_refer (plain : q.Plain) (filter : Refers args q.whereSQL values) :
    ∃ valuess, List.Forall₂ (Refers args) q.baseParts valuess ∧ valuess.flatten = values := by
  obtain ⟨filters, filtered, rfl⟩ := optional_refers filter
  obtain ⟨groups, grouped, none⟩ := optional_refers (.plain plain.groupBy : Refers args q.groupBySQL [])
  refine ⟨[[]] ++ filters ++ groups, List.rel_append (List.rel_append ?_ filtered) grouped, ?_⟩
  · exact .cons (.plain plain.select) .nil
  · simp [none]

/-- The text of a page whose arguments end in `limit` and `offset`. -/
theorem page_refers (plain : q.Plain) (filter : Refers q.args q.whereSQL values) (limit offset : Value)
    (ordered : ∀ part ∈ parts, '$' ∉ part.1.sql.toList) :
    Refers (q.args ++ [limit, offset])
      ("\n".intercalate (q.baseParts ++ (if orderSQL parts ≠ "" then [orderSQL parts] else []) ++
        [ListText.limitSQL (q.args.length + 1)])) (values ++ [limit, offset]) := by
  obtain ⟨base, based, rfl⟩ := baseParts_refer plain filter
  obtain ⟨orders, sorted, none⟩ := optional_refers (orderSQL_refers ordered : Refers (q.args ++ [limit, offset]) _ [])
  have based : List.Forall₂ (Refers (q.args ++ [limit, offset])) q.baseParts base :=
    based.imp fun _ _ refers => refers.more _
  have limits : Refers (q.args ++ [limit, offset]) (ListText.limitSQL (q.args.length + 1)) [limit, offset] :=
    limitSQL_refers (by simp) (by simp)
  have whole := Refers.intercalate (by decide) newline_breaks
    (List.rel_append (List.rel_append based sorted) (List.Forall₂.cons limits .nil))
  simpa [none] using whole

/-- **The placeholders of a query**, the last two of which are those of `LIMIT` and `OFFSET`. -/
theorem ListText.Plain.build (plain : q.Plain) (filter : Refers q.args q.whereSQL values) (built : q.build = .ok (sql, args)) :
    args = q.args ++ q.page ∧ Refers args sql (values ++ q.page) ∧
      ∃ text, sql = text ++ "LIMIT " ++ placeholder (args.length - 1) ++ " OFFSET " ++ placeholder args.length := by
  obtain ⟨parts, ordered, rfl, rfl⟩ := ListText.build_eq_ok built
  refine ⟨rfl, page_refers plain filter _ _ fun part mem => plain.orders _ ((orderBy_parts ordered).1 part mem), ?_⟩
  have some : q.baseParts ++ (if orderSQL parts ≠ "" then [orderSQL parts] else []) ≠ [] := by simp [ListText.baseParts]
  rw [String.intercalate_append_of_ne_nil some (by simp), String.intercalate_singleton]
  refine ⟨"\n".intercalate (q.baseParts ++ if orderSQL parts ≠ "" then [orderSQL parts] else []) ++ "\n", ?_⟩
  have two : (q.args ++ q.page).length = q.args.length + 1 + 1 := by simp [ListText.page]
  rw [two, Nat.add_sub_cancel]
  simp only [ListText.limitSQL, String.append_assoc]

/-- The placeholders of its count. -/
theorem ListText.Plain.buildCount (plain : q.Plain) (filter : Refers q.args q.whereSQL values) :
    Refers q.buildCount.2 q.buildCount.1 values := by
  obtain ⟨valuess, each, rfl⟩ := baseParts_refer plain filter
  have joined := Refers.intercalate (by decide) newline_breaks each
  have opened : Refers q.args ("SELECT count(*)::integer FROM (\n" ++ "\n".intercalate q.baseParts) valuess.flatten :=
    Refers.after_plain (by decide) joined
  have whole := opened.append (.plain (by decide) : Refers q.args "\n) list_count" []) (breaks_of_head (by decide))
  rw [List.append_nil] at whole
  exact whole

end Texts

end Woodgate.Postgres
