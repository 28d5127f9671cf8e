import Woodgate.Checkin.Service
import Woodgate.Directory.Service
import Woodgate.Library.Interleaving

/-!
# The rules at the commit of a check-in

`Submit` and `UpdateCheckin` check the location and the person in queries of their own, lock
nothing, and write afterwards. Here any number of them run beside `UpdateLocation`,
`ApplyProviderSnapshot` and `deleteUser`, a statement at a time.

What a check has found is what the thread relies on (`Passed`); what every commit is to meet
is `RulesHold`. It does as long as nobody commits away a check that another thread has
passed and has yet to act on.
-/

namespace Woodgate.Checkin

open Library Library.ReadCommitted Library.Interleaving Library.Runs
open Library.Program hiding send
open Postgres Woodgate.Service

inductive Operation where
  | submit (create : CheckinCreate) (actor : Actor) (photo : List UInt8)
  | updateCheckin (id : ID) (mutation : CheckinMutation)
  | updateLocation (id : ID) (mutation : LocationMutation)
  | applyProviderSnapshot (source : Source) (snapshot : Directory.ProviderSnapshot)
  | deleteUser (id : ID)

namespace Operation

/-- The operation; nobody reads its result. -/
def program (libs : Libraries) : Operation → Service libs Unit
  | .submit create actor photo => do
    let _ ← Service.submit create actor photo
    pure ()
  | .updateCheckin id mutation => do
    let _ ← Service.updateCheckin id mutation
    pure ()
  | .updateLocation id mutation => do
    let _ ← Service.updateLocation id mutation
    pure ()
  | .applyProviderSnapshot source snapshot => Directory.Store.applyProviderSnapshot source snapshot
  | .deleteUser id => Directory.Store.deleteUser id

/-- It writes a check-in. -/
def Records : Operation → Prop
  | .submit _ _ _ | .updateCheckin _ _ => True
  | _ => False

end Operation

section Rules

/-- The location is there and enabled. -/
def OpenLocation (d : Db) (l : ID) : Prop := ∃ row, d.locations.row l = some row ∧ row.enabled = true

/-- The two rows have the same location and person. -/
def SamePair (c c' : CheckinRow) : Prop := c.userID = c'.userID ∧ c.locationID = c'.locationID

/-- **The rules.** A check-in that is new, or has another location or person than the
committed one, is at a location that is enabled, for a person who is eligible there. -/
def RulesHold (d d' : Db) : Prop := ∀ id c', d'.checkins.row id = some c' →
  (∃ c, d.checkins.row id = some c ∧ SamePair c c') ∨ (OpenLocation d' c'.locationID ∧ Eligible d' c'.locationID c'.userID)

/-- The call writes a check-in. -/
def Writes : Call → Prop
  | .insertCheckin _ _ _ | .updateCheckin _ _ => True
  | _ => False

/-- What a query of the operation has found is so in `d`: an open location, an eligible
person, and for `UpdateCheckin` a check-in with the location and the person it is given. -/
def Passed (op : Operation) (d : Db) : (c : Call) → Except Err c.Answer → Prop
  | .selectLocation id, .ok (location : Location) => location.enabled = true → OpenLocation d id
  | .personEligible locationID userID, .ok (eligible : Bool) => eligible = true → Eligible d locationID userID
  | .selectCheckin id, .ok (current : Checkin) =>
    match op with
    | .updateCheckin _ mutation => mutation.locationID = current.location.id → mutation.userID = current.person.id →
      ∀ c, d.checkins.row id = some c → c.userID = mutation.userID ∧ c.locationID = mutation.locationID
    | _ => True
  | _, _ => True

variable {libs : Libraries} {op : Operation} {log log' : List (Entry (calls libs))} {d d' : Db}

/-- The operation has not sent its `INSERT` or `UPDATE`. -/
def Pending (log : List (Entry (calls libs))) : Prop := ∀ e ∈ log, ¬ Writes e.1

/-- The checks the operation has passed and not acted on still hold. -/
def Relies (op : Operation) (log : List (Entry (calls libs))) (d : Db) : Prop :=
  op.Records → Pending log → ∀ e ∈ log, Passed op d e.1 e.2

/-- Inside a transaction no check-in is added or moved. -/
def Unmoved : (k : RowKey) → Option k.Row → Option k.Row → Prop
  | .checkin _, old, new => ∀ c', new = some c' → ∃ c, old = some c ∧ SamePair c c'
  | _, _, _ => True

theorem passed_congr {c : Call} {r : Except Err c.Answer} (users : d'.users.row = d.users.row)
    (memberships : d'.memberships.row = d.memberships.row) (locations : d'.locations.row = d.locations.row)
    (locationGroups : d'.locationGroups.row = d.locationGroups.row) (checkins : d'.checkins.row = d.checkins.row)
    (passed : Passed op d c r) : Passed op d' c r := by
  unfold Passed at passed ⊢
  split <;> simp only [OpenLocation, Eligible, Restricted, InGroupOf, users, memberships, locations, locationGroups, checkins] <;>
    exact passed

theorem rulesHold_of_unmoved (unmoved : ∀ k, Unmoved k (Db.get k d) (Db.get k d')) : RulesHold d d' :=
  fun id c' found => .inl (unmoved (.checkin id) c' found)

theorem unmoved_same (k : RowKey) (r : Option k.Row) : Unmoved k r r := by
  cases k with
  | checkin id => exact fun c found => ⟨c, found, rfl, rfl⟩
  | _ => trivial

theorem unmoved_trans (k : RowKey) {a b c : Option k.Row} (first : Unmoved k a b) (second : Unmoved k b c) : Unmoved k a c := by
  cases k with
  | checkin id =>
    intro x found
    obtain ⟨y, between, later⟩ := second x found
    obtain ⟨z, before, earlier⟩ := first y between
    exact ⟨z, before, earlier.1.trans later.1, earlier.2.trans later.2⟩
  | _ => trivial

/-- The rules, as a discipline of the threads. -/
def rules (libs : Libraries) : Discipline (calls libs) Operation where
  relies := Relies
  guarantee := RulesHold
  change := Unmoved
  relies_congr same relies records pending e mem :=
    passed_congr (funext fun id => (same (.user id)).symm) (funext fun k => (same (.membership k.1 k.2)).symm)
      (funext fun id => (same (.location id)).symm) (funext fun k => (same (.locationGroup k.1 k.2)).symm)
      (funext fun id => (same (.checkin id)).symm) (relies records pending e mem)
  guarantee_of_change := rulesHold_of_unmoved
  change_same := unmoved_same
  change_trans := unmoved_trans

end Rules

section Calls

variable {libs : Libraries} {op : Operation} {log log' : List (Entry (calls libs))} {now : Time} {d after : Db} {c : Call}
  {asked : List (RowKey × LockMode)}

/-- What a query answers is so. -/
theorem passed_perform {x : c.Answer} (performed : c.perform libs now d = .ok (x, asked, after)) : Passed op d c (.ok x) := by
  cases c with
  | selectLocation id =>
    intro enabled
    obtain ⟨l, found, rfl⟩ := Option.map_eq_some_iff.1 (Call.one_ok.1 performed).1
    exact ⟨l, found, enabled⟩
  | personEligible l p =>
    intro eligible
    cases performed
    exact personEligible_iff.1 eligible
  | selectCheckin id =>
    cases op with
    | updateCheckin id' mutation =>
      intro location person c found
      obtain ⟨c', found', person', location'⟩ := checkinSelect_pair (Call.one_ok.1 performed).1
      cases found.symm.trans found'
      exact ⟨(person.trans person').symm, (location.trans location').symm⟩
    | _ => trivial
  | _ => trivial

/-- A call that changes no row but the objects': what it answers is one more check passed. -/
theorem relies_quiet {x : c.Answer} (quiet : c.Quiet) (performed : c.perform libs now d = .ok (x, asked, after))
    (relies : Relies op log d) : Relies op (⟨c, .ok x⟩ :: log) after := by
  intro records pending e mem
  have before : Passed op d e.1 e.2 := by
    rcases List.mem_cons.1 mem with rfl | old
    · exact passed_perform performed
    · exact relies records (fun e mem => pending e (List.mem_cons_of_mem _ mem)) e old
  obtain ⟨storageObjects, rfl⟩ := Call.perform_quiet quiet performed
  exact passed_congr rfl rfl rfl rfl rfl before

/-- A failed call passes no check. -/
theorem relies_failed (e : Err) (relies : Relies op log d) : Relies op (⟨c, .error e⟩ :: log : List (Entry (calls libs))) d := by
  intro records pending entry mem
  rcases List.mem_cons.1 mem with rfl | old
  · cases c <;> trivial
  · exact relies records (fun e mem => pending e (List.mem_cons_of_mem _ mem)) entry old

/-- Once the `INSERT` or `UPDATE` is sent, nothing is relied on. -/
theorem relies_written {r : Except Err c.Answer} (writes : Writes c) : Relies op (⟨c, r⟩ :: log : List (Entry (calls libs))) d :=
  fun _ pending => absurd writes (pending _ List.mem_cons_self)

end Calls

section Checks

variable {libs : Libraries} {op : Operation} {log log' : List (Entry (calls libs))} {d after : Db} {l u : ID} {A : Type}

/-- The log `log'` has the entries of `log`, and no `INSERT` or `UPDATE` besides. -/
structure Extends (log log' : List (Entry (calls libs))) : Prop where
  kept : log ⊆ log'
  pending : Pending log → Pending log'

theorem Extends.refl (log : List (Entry (calls libs))) : Extends log log := ⟨List.Subset.refl log, id⟩

theorem Extends.trans {log₁ log₂ log₃ : List (Entry (calls libs))} (first : Extends log₁ log₂) (second : Extends log₂ log₃) :
    Extends log₁ log₃ :=
  ⟨List.Subset.trans first.kept second.kept, fun pending => second.pending (first.pending pending)⟩

theorem Extends.cons {c : Call} (quiet : c.Quiet) (r : Except Err c.Answer) (log : List (Entry (calls libs))) :
    Extends log (⟨c, r⟩ :: log) where
  kept := List.subset_cons_self _ _
  pending pending e mem := by
    rcases List.mem_cons.1 mem with rfl | old
    · intro writes
      cases c <;> first | exact writes.elim | exact quiet.elim
    · exact pending e old

/-- The log shows the location open and the person eligible there. -/
structure Admitted (log : List (Entry (calls libs))) (l u : ID) : Prop where
  isOpen : ∃ location : Location, location.enabled = true ∧ ⟨.selectLocation l, .ok location⟩ ∈ log
  eligible : ⟨.personEligible l u, .ok true⟩ ∈ log

/-- While it relies on its log, what the log shows is so. -/
theorem Admitted.holds (admitted : Admitted log l u) (records : op.Records) (pending : Pending log) (relies : Relies op log d) :
    OpenLocation d l ∧ Eligible d l u := by
  obtain ⟨location, enabled, mem⟩ := admitted.isOpen
  have opened : location.enabled = true → OpenLocation d l := relies records pending _ mem
  have eligible : true = true → Eligible d l u := relies records pending _ admitted.eligible
  exact ⟨opened enabled, eligible rfl⟩

theorem rulesHold_of_checkins (same : after.checkins = d.checkins) : RulesHold d after :=
  fun _ c' found => .inl ⟨c', same ▸ found, rfl, rfl⟩

/-- A program of queries and calls to the object store. -/
theorem meets_quiet {p : Service libs A} (plain : p.Plain Call.Quiet) :
    Meets (rules libs) op (fun _ inside log' => inside = false ∧ Extends log log') p false log := by
  induction p generalizing log with
  | done => exact ⟨rfl, .refl log⟩
  | call c next ih =>
    refine ⟨fun now d x asked after relies performed => ⟨?_, relies_quiet plain.1 performed relies⟩,
      fun e d relies => relies_failed e relies, fun x => ?_⟩
    · have performed : c.perform libs now d = .ok (x, asked, after) := performed
      obtain ⟨storageObjects, rfl⟩ := Call.perform_quiet plain.1 performed
      exact rulesHold_of_checkins rfl
    · apply Meets.mono _ (ih x (plain.2 x))
      rintro r inside log' ⟨outside, extended⟩
      exact ⟨outside, (Extends.cons plain.1 x log).trans extended⟩
  | begin | commit | rollback | notify => exact plain.elim

/-- A query is logged with its answer. -/
theorem meets_send {c : Call} (quiet : c.Quiet) :
    Meets (rules libs) op (fun r inside log' => inside = false ∧ Extends log log' ∧ ∀ x, r = .ok x → ⟨c, .ok x⟩ ∈ log')
      (send c : Service libs _) false log := by
  refine ⟨fun now d x asked after relies performed => ⟨?_, relies_quiet quiet performed relies⟩,
    fun e d relies => relies_failed e relies, fun r => ⟨rfl, .cons quiet r log, fun x returned => ?_⟩⟩
  · have performed : c.perform libs now d = .ok (x, asked, after) := performed
    obtain ⟨storageObjects, rfl⟩ := Call.perform_quiet quiet performed
    exact rulesHold_of_checkins rfl
  · cases returned
    exact List.mem_cons_self

theorem meets_query {c : Call} {f : Err → Err} (quiet : c.Quiet) :
    Meets (rules libs) op (fun r inside log' => inside = false ∧ Extends log log' ∧ ∀ x, r = .ok x → ⟨c, .ok x⟩ ∈ log')
      (mapError f (send c) : Service libs _) false log := by
  apply Meets.handle
  apply Meets.mono _ (meets_send quiet)
  rintro r inside log' ⟨outside, extended, logged⟩
  cases r with
  | error e => exact ⟨outside, extended, fun x absent => by cases absent⟩
  | ok x => exact ⟨outside, extended, logged⟩

/-- `Store.GetLocation` logs the location it finds. -/
theorem meets_getLocation : Meets (rules libs) op
    (fun r inside log' => inside = false ∧ Extends log log' ∧ ∀ location : Location, r = .ok location →
      ∃ found : Location, found.enabled = location.enabled ∧ ⟨.selectLocation l, .ok found⟩ ∈ log')
    (Store.getLocation l : Service libs Location) false log := by
  apply Meets.seq (meets_query (c := .selectLocation l) trivial)
  · rintro e inside log₁ ⟨outside, extended, _⟩
    exact ⟨outside, extended, fun _ absent => by cases absent⟩
  · rintro found inside log₁ ⟨rfl, extended, logged⟩
    apply Meets.seq (meets_send (c := .selectLocationGroups l) trivial)
    · rintro e inside log₂ ⟨outside, extended', _⟩
      exact ⟨outside, extended.trans extended', fun _ absent => by cases absent⟩
    · rintro groups inside log₂ ⟨outside, extended', _⟩
      refine ⟨outside, extended.trans extended', fun location returned => ?_⟩
      cases returned
      exact ⟨found, rfl, extended'.kept (logged found rfl)⟩

/-- `Service.validatePerson` logs that the person is eligible. -/
theorem meets_validatePerson : Meets (rules libs) op
    (fun r inside log' => inside = false ∧ Extends log log' ∧ (r = .ok () → ⟨.personEligible l u, .ok true⟩ ∈ log'))
    (Service.validatePerson l u : Service libs Unit) false log := by
  apply Meets.seq (meets_send (c := .personEligible l u) trivial)
  · rintro e inside log₁ ⟨outside, extended, _⟩
    exact ⟨outside, extended, fun absent => by cases absent⟩
  · rintro (eligible : Bool) inside log₁ ⟨rfl, extended, logged⟩
    refine ⟨rfl, extended, fun returned => ?_⟩
    cases eligible with
    | false => cases returned
    | true => exact logged true rfl

end Checks

section Writes

variable {libs : Libraries} {op : Operation} {log : List (Entry (calls libs))} {now : Time} {d after : Db}
  {asked : List (RowKey × LockMode)} {A : Type}

/-- A new check-in at an open location for an eligible person. -/
theorem rulesHold_insert {create : CheckinCreate} {actor : Actor} {photoObjectID : Option ID}
    (opened : OpenLocation d create.locationID) (eligible : Eligible d create.locationID create.userID)
    (inserted : insertCheckin now create actor photoObjectID d = .ok (asked, after)) : RulesHold d after := by
  obtain ⟨direction, _, _, _, rfl⟩ := insertCheckin_ok inserted
  intro id c' found
  have found : (d.checkins.set d.seq.checkins (newCheckin now create direction actor photoObjectID d.seq.uuid)).row id =
    some c' := found
  rw [Table.row_set] at found
  split at found
  · cases found
    exact .inr ⟨opened, eligible⟩
  · exact .inl ⟨c', found, rfl, rfl⟩

/-- A check-in with new columns keeps its location and person, or gets an open location and
a person eligible there. -/
theorem rulesHold_update {id : ID} {mutation : CheckinMutation}
    (admitted : (OpenLocation d mutation.locationID ∧ Eligible d mutation.locationID mutation.userID) ∨
      ∀ c, d.checkins.row id = some c → c.userID = mutation.userID ∧ c.locationID = mutation.locationID)
    (updated : updateCheckin now id mutation d = .ok (asked, after)) : RulesHold d after := by
  obtain ⟨direction, old, _, present, _, _, rfl⟩ := updateCheckin_ok updated
  intro id' c' found
  have found : (d.checkins.set id (mutation.apply now direction old)).row id' = some c' := found
  rw [Table.row_set] at found
  split at found
  · rename_i same
    cases found
    rcases admitted with opened | unmoved
    · exact .inr opened
    · exact .inl ⟨old, same ▸ present, unmoved old present⟩
  · exact .inl ⟨c', found, rfl, rfl⟩

/-- The `INSERT` or `UPDATE`, with its errors translated. -/
theorem meets_write {c : Call} {f : Err → Err} (writes : Writes c)
    (keeps : ∀ now d x asked after, Relies op log d → c.perform libs now d = .ok (x, asked, after) → RulesHold d after) :
    Meets (rules libs) op (fun _ inside _ => inside = false) (mapError f (send c) : Service libs _) false log := by
  refine ⟨fun now d x asked after relies performed => ⟨keeps now d x asked after relies performed, relies_written writes⟩,
    fun e d _ => relies_written writes, fun r => ?_⟩
  cases r <;> rfl

/-- After it, the check-in is read again. -/
theorem meets_getCheckin {id : ID} :
    Meets (rules libs) op (fun _ inside _ => inside = false) (Store.getCheckin id : Service libs Checkin) false log := by
  apply Meets.mono _ (meets_quiet (plain_send (c := .selectCheckin id) trivial))
  rintro r inside log' ⟨outside, _⟩
  exact outside

theorem meets_createCheckin {create : CheckinCreate} {actor : Actor} {photoObjectID : Option ID} (records : op.Records)
    (pending : Pending log) (admitted : Admitted log create.locationID create.userID) :
    Meets (rules libs) op (fun _ inside _ => inside = false)
      (Store.createCheckin create actor photoObjectID : Service libs Checkin) false log := by
  have keeps : ∀ now d x asked after, Relies op log d →
      (Call.insertCheckin create actor photoObjectID).perform libs now d = .ok (x, asked, after) → RulesHold d after := by
    intro now d x asked after relies performed
    dsimp only [Call.perform] at performed
    obtain ⟨opened, eligible⟩ := admitted.holds records pending relies
    exact rulesHold_insert opened eligible (Call.returning_ok.1 performed).2
  apply Meets.seq (meets_write (c := .insertCheckin create actor photoObjectID) trivial keeps)
  · rintro e inside log' outside
    exact outside
  · rintro id inside log' rfl
    exact meets_getCheckin

theorem enabled_of_checkLocation {location : Location} {actor : Actor} {notes : String} {hasPhoto : Bool}
    (checked : Service.checkLocation location actor notes hasPhoto = .ok ()) : location.enabled = true := by
  unfold Service.checkLocation at checked
  split at checked
  · split at checked <;> cases checked
  · rename_i enabled
    simpa using enabled

theorem meets_storeUpdateCheckin {id : ID} {mutation : CheckinMutation} {log : List (Entry (calls libs))}
    (admits : ∀ d, Relies op log d → (OpenLocation d mutation.locationID ∧ Eligible d mutation.locationID mutation.userID) ∨
      ∀ c, d.checkins.row id = some c → c.userID = mutation.userID ∧ c.locationID = mutation.locationID) :
    Meets (rules libs) op (fun _ inside _ => inside = false) (Store.updateCheckin id mutation : Service libs Checkin) false log := by
  have keeps : ∀ now d x asked after, Relies op log d →
      (Call.updateCheckin id mutation).perform libs now d = .ok (x, asked, after) → RulesHold d after := by
    intro now d x asked after relies performed
    dsimp only [Call.perform] at performed
    exact rulesHold_update (admits d relies) (Call.returning_ok.1 performed).2
  apply Meets.seq (meets_write (c := .updateCheckin id mutation) trivial keeps)
  · rintro e inside log' outside
    exact outside
  · rintro _ inside log' rfl
    exact meets_getCheckin

end Writes

section Programs

variable {libs : Libraries} {op : Operation} {A B : Type}

/-- `Service.Submit`: both checks are passed before the `INSERT`. -/
theorem meets_submit {create : CheckinCreate} {actor : Actor} {photo : List UInt8} (records : op.Records) :
    Meets (rules libs) op (fun _ inside _ => inside = false) (Service.submit create actor photo : Service libs Checkin) false [] := by
  unfold Service.submit
  dsimp only
  apply Meets.seq (Meets.lift _)
  · rintro e inside log ⟨_, outside, _⟩
    exact outside
  rintro _ inside log ⟨_, rfl, rfl⟩
  apply Meets.seq meets_getLocation
  · rintro e inside log ⟨outside, _⟩
    exact outside
  rintro location inside log₁ ⟨rfl, extended₁, logged⟩
  obtain ⟨found, enabled, mem⟩ := logged location rfl
  apply Meets.seq (Meets.lift _)
  · rintro e inside log ⟨_, outside, _⟩
    exact outside
  rintro _ inside log ⟨checked, rfl, rfl⟩
  apply Meets.seq meets_validatePerson
  · rintro e inside log ⟨outside, _⟩
    exact outside
  rintro _ inside log₂ ⟨rfl, extended₂, eligible⟩
  apply Meets.seq (meets_quiet plain_writePhoto)
  · rintro e inside log ⟨outside, _⟩
    exact outside
  rintro photoObjectID inside log₃ ⟨rfl, extended₃⟩
  have pending : Pending log₃ := extended₃.pending (extended₂.pending (extended₁.pending fun _ absent => by cases absent))
  have admitted : Admitted log₃ create.normalize.locationID create.normalize.userID := by
    refine ⟨⟨found, enabled.trans (enabled_of_checkLocation checked.symm), ?_⟩, ?_⟩
    · exact extended₃.kept (extended₂.kept mem)
    · exact extended₃.kept (eligible rfl)
  apply Meets.handle
  apply Meets.mono _ (meets_createCheckin records pending admitted)
  rintro r inside log rfl
  cases r with
  | ok item => rfl
  | error e =>
    cases photoObjectID with
    | none => rfl
    | some objectID =>
      apply Meets.seq (meets_quiet (plain_deleteUnreferenced [objectID]))
      · rintro e inside log ⟨outside, _⟩
        exact outside
      · rintro _ inside log ⟨outside, _⟩
        exact outside

/-- The checks of a new pair of location and person. -/
theorem meets_validateMove {mutation : CheckinMutation} {log : List (Entry (calls libs))} : Meets (rules libs) op
    (fun r inside log' => inside = false ∧ Extends log log' ∧ (r = .ok () → Admitted log' mutation.locationID mutation.userID))
    (Service.validateMove mutation : Service libs Unit) false log := by
  apply Meets.seq meets_getLocation
  · rintro e inside log₁ ⟨outside, extended, _⟩
    exact ⟨outside, extended, fun absent => by cases absent⟩
  rintro location inside log₁ ⟨rfl, extended₁, logged⟩
  obtain ⟨found, same, mem⟩ := logged location rfl
  apply Meets.seq (Meets.lift _)
  · rintro e inside log ⟨_, outside, rfl⟩
    exact ⟨outside, extended₁, fun absent => by cases absent⟩
  rintro _ inside log ⟨checked, rfl, rfl⟩
  apply Meets.mono _ meets_validatePerson
  rintro r inside log₂ ⟨outside, extended₂, eligible⟩
  refine ⟨outside, extended₁.trans extended₂, fun returned => ⟨⟨found, ?_, extended₂.kept mem⟩, eligible returned⟩⟩
  cases enabled : location.enabled with
  | true => exact same.trans enabled
  | false =>
    rw [enabled] at checked
    cases checked

/-- `Service.UpdateCheckin`: the check-in has the location and the person it is given, or
both checks are passed before the `UPDATE`. -/
theorem meets_updateCheckin {id : ID} {mutation : CheckinMutation} :
    Meets (rules libs) (.updateCheckin id mutation) (fun _ inside _ => inside = false)
      (Service.updateCheckin id mutation : Service libs Checkin) false [] := by
  unfold Service.updateCheckin
  dsimp only
  apply Meets.seq (Meets.lift _)
  · rintro e inside log ⟨_, outside, _⟩
    exact outside
  rintro _ inside log ⟨_, rfl, rfl⟩
  apply Meets.seq (meets_query (c := .selectCheckin id) trivial)
  · rintro e inside log ⟨outside, _⟩
    exact outside
  rintro (current : Checkin) inside log₁ ⟨rfl, extended₁, logged⟩
  have pending : Pending log₁ := extended₁.pending fun _ absent => by cases absent
  split
  · apply Meets.seq meets_validateMove
    · rintro e inside log ⟨outside, _⟩
      exact outside
    rintro _ inside log₂ ⟨rfl, extended₂, admitted⟩
    have records : (Operation.updateCheckin id mutation).Records := trivial
    exact meets_storeUpdateCheckin fun d relies => .inl ((admitted rfl).holds records (extended₂.pending pending) relies)
  · rename_i same
    -- an unchanged pair is not checked; that it is unchanged is what the log says
    obtain ⟨location, person⟩ := not_or.1 same
    have passed : ∀ d, Relies (.updateCheckin id mutation) log₁ d → mutation.locationID = current.location.id →
        mutation.userID = current.person.id → ∀ c, d.checkins.row id = some c →
          c.userID = mutation.userID ∧ c.locationID = mutation.locationID :=
      fun d relies => relies trivial pending _ (logged current rfl)
    exact meets_storeUpdateCheckin fun d relies => .inr (passed d relies (not_not.1 location) (not_not.1 person))

/-- The call neither adds nor moves a check-in. -/
def KeepsPairs : Call → Prop
  | .insertCheckin _ _ _ | .updateCheckin _ _ => False
  | .snapshot statement => ∀ now d asked after, statement now d = .ok (asked, after) → after.checkins = d.checkins
  | _ => True

theorem unmoved_of_checkins {d after : Db} (same : after.checkins = d.checkins) (k : RowKey) :
    Unmoved k (Db.get k d) (Db.get k after) := by
  cases k with
  | checkin id =>
    intro c found
    have found : after.checkins.row id = some c := found
    rw [same] at found
    exact ⟨c, found, rfl, rfl⟩
  | _ => trivial

/-- Deleting a user clears who recorded a check-in, not whose it is. -/
theorem unmoved_removeUser {now : Time} {source : Source} {id : ID} {d after : Db} {asked : List (RowKey × LockMode)}
    (removed : Directory.removeUser now source id d = .ok (asked, after)) (k : RowKey) :
    Unmoved k (Db.get k d) (Db.get k after) := by
  unfold Directory.removeUser at removed
  split at removed
  · split at removed
    · cases removed
    · split at removed
      · cases removed
      · cases removed
        cases k with
        | checkin id' =>
          intro c' found
          obtain ⟨c, present, rfl⟩ := Option.map_eq_some_iff.1 ((Table.row_map ..).symm.trans found)
          refine ⟨c, present, ?_⟩
          split <;> exact ⟨rfl, rfl⟩
        | _ => trivial
  · obtain ⟨old, _, _, _, stored⟩ := Directory.writeUser_ok removed
    exact unmoved_of_checkins (by rw [stored]) k

/-- Deleting a station clears where a check-in was recorded. -/
theorem unmoved_deleteStation {id : ID} {d after : Db} {asked : List (RowKey × LockMode)}
    (deleted : Stations.deleteStation id d = .ok (asked, after)) (k : RowKey) : Unmoved k (Db.get k d) (Db.get k after) := by
  unfold Stations.deleteStation at deleted
  split at deleted
  · cases deleted
  · cases deleted
    cases k with
    | checkin id' =>
      intro c' found
      obtain ⟨c, present, rfl⟩ := Option.map_eq_some_iff.1 ((Table.row_map ..).symm.trans found)
      refine ⟨c, present, ?_⟩
      split <;> exact ⟨rfl, rfl⟩
    | _ => trivial

theorem unmoved_perform (c : Call) (keeps : KeepsPairs c) (now : Time) (d : Db) (x : c.Answer) (asked : List (RowKey × LockMode))
    (after : Db) (performed : c.perform libs now d = .ok (x, asked, after)) (k : RowKey) :
    Unmoved k (Db.get k d) (Db.get k after) := by
  cases c with
  | insertCheckin | updateCheckin => exact keeps.elim
  | removeUser source id =>
    dsimp only [Call.perform] at performed
    exact unmoved_removeUser (Call.returning_ok.1 performed).2 k
  | deleteStation id =>
    dsimp only [Call.perform] at performed
    exact unmoved_deleteStation (Call.returning_ok.1 performed).2 k
  | snapshot statement =>
    dsimp only [Call.perform] at performed
    exact unmoved_of_checkins (keeps now d asked after (Call.returning_ok.1 performed).2) k
  | _ => exact unmoved_of_checkins (Call.checkins_perform (by trivial) performed) k

/-- An operation that records nothing relies on nothing. -/
theorem relies_of_not_records (idle : ¬ op.Records) (log : List (Entry (calls libs))) (d : Db) : (rules libs).relies op log d :=
  fun records => absurd records idle

theorem meets_storeUpdateLocation {id : ID} {mutation : LocationMutation} {log : List (Entry (calls libs))}
    (idle : ¬ op.Records) :
    Meets (rules libs) op (fun _ inside _ => inside = false) (Store.updateLocation id mutation : Service libs Location) false log := by
  have plain : (Store.replaceLocation id mutation : Service libs _).Plain KeepsPairs :=
    plain_replaceLocation trivial (fun _ => trivial) trivial trivial fun _ => trivial
  have rest : ∀ old : Option ID × Option ID, (do
      deleteUnreferenced (replacedObjectIDs old.1 mutation.backgroundObjectID)
      deleteUnreferenced (replacedObjectIDs old.2 mutation.logoObjectID)
      Store.getLocation id : Service libs Location).Plain Call.Quiet := fun old =>
    (plain_deleteUnreferenced _).bind fun _ => (plain_deleteUnreferenced _).bind fun _ => plain_getLocation
  apply Meets.seq (Meets.transaction plain (relies_of_not_records idle) unmoved_perform)
  · rintro e inside log' outside
    exact outside
  · rintro old inside log' rfl
    apply Meets.mono _ (meets_quiet (rest old))
    rintro r inside log₂ ⟨outside, _⟩
    exact outside

theorem meets_updateLocation {id : ID} {mutation : LocationMutation} (idle : ¬ op.Records) :
    Meets (rules libs) op (fun _ inside _ => inside = false) (Service.updateLocation id mutation : Service libs Location) false [] := by
  unfold Service.updateLocation
  dsimp only
  apply Meets.seq (Meets.lift _)
  · rintro e inside log ⟨_, outside, _⟩
    exact outside
  rintro _ inside log ⟨_, rfl, rfl⟩
  apply Meets.seq (meets_quiet (plain_finalizeAttachments _ _))
  · rintro e inside log ⟨outside, _⟩
    exact outside
  rintro objectIDs inside log ⟨rfl, _⟩
  apply Meets.handle
  apply Meets.mono _ (meets_storeUpdateLocation idle)
  rintro r inside log' rfl
  cases r with
  | ok item => rfl
  | error e =>
    apply Meets.seq (meets_quiet (plain_deleteUnreferenced objectIDs))
    · rintro e inside log ⟨outside, _⟩
      exact outside
    · rintro _ inside log ⟨outside, _⟩
      exact outside

theorem meets_applyProviderSnapshot {source : Source} {snapshot : Directory.ProviderSnapshot} (idle : ¬ op.Records) :
    Meets (rules libs) op (fun _ inside _ => inside = false)
      (Directory.Store.applyProviderSnapshot source snapshot : Service libs Unit) false [] := by
  have plain : ∀ statements ⊆ Directory.snapshotStatements libs.locale source snapshot,
      (forEach (fun statement => send (.snapshot statement)) statements : Service libs Unit).Plain KeepsPairs := by
    intro statements sub
    induction statements with
    | nil => trivial
    | cons statement statements ih =>
      obtain ⟨mem, sub⟩ := List.cons_subset.1 sub
      have keeps : KeepsPairs (.snapshot statement) := fun now d asked after h =>
        Directory.checkins_snapshotStatements mem h
      exact (Plain.send keeps).bind fun _ => ih sub
  unfold Directory.Store.applyProviderSnapshot
  split
  · rfl
  · exact Meets.transaction (plain _ (List.Subset.refl _)) (relies_of_not_records idle) unmoved_perform

theorem meets_deleteUser {id : ID} (idle : ¬ op.Records) :
    Meets (rules libs) op (fun _ inside _ => inside = false) (Directory.Store.deleteUser id : Service libs Unit) false [] := by
  have plain : (do
      let source : Source ← mapError getError (send (.lockUser id))
      mapError mutationError (send (.removeUser source id)) : Service libs Unit).Plain KeepsPairs :=
    (plain_send (c := .lockUser id) trivial).bind fun source => plain_send (c := .removeUser source id) trivial
  exact Meets.transaction plain (relies_of_not_records idle) unmoved_perform

/-- Every operation keeps to the discipline. -/
theorem meets_program (libs : Libraries) (op : Operation) :
    Meets (rules libs) op (fun _ _ _ => True) (op.program libs) false [] := by
  have discards : ∀ {X : Type} (p : Service libs X), Meets (rules libs) op (fun _ inside _ => inside = false) p false [] →
      Meets (rules libs) op (fun _ _ _ => True) (p >>= fun _ => pure ()) false [] :=
    fun p meets => Meets.seq meets (fun _ _ _ _ => trivial) fun _ _ _ _ => trivial
  cases op with
  | submit create actor photo => exact discards _ (meets_submit trivial)
  | updateCheckin id mutation => exact discards _ meets_updateCheckin
  | updateLocation id mutation => exact discards _ (meets_updateLocation fun records => records)
  | applyProviderSnapshot source snapshot =>
    exact Meets.mono (fun _ _ _ _ => trivial) (meets_applyProviderSnapshot fun records => records)
  | deleteUser id => exact Meets.mono (fun _ _ _ _ => trivial) (meets_deleteUser fun records => records)

end Programs

section Runs

variable {libs : Libraries} {T : Type} [DecidableEq T]

/-- The step commits away no check that another operation under way has passed and has yet
to act on. -/
abbrev KeepsChecks (libs : Libraries) (s : System (calls libs) Notice Unit Operation T) (l : Label (calls libs) Operation T) :
    Prop :=
  Considerate (rules libs) (Operation.program libs) s l

/-- **The rules at the commit.** In every run, of any number of operations from any rows,
in which no step takes from a `Submit` or `UpdateCheckin` a check it has passed before it
writes, every commit meets the rules. -/
theorem commit_meets_rules (libs : Libraries) (d : Db) (ls : List (Label (calls libs) Operation T))
    (s s' : System (calls libs) Notice Unit Operation T) (l : Label (calls libs) Operation T)
    (guarded : Guarded (System.step (Operation.program libs)) (KeepsChecks libs) (System.init d) ls)
    (reached : run (System.step (Operation.program libs)) (System.init d) ls = some s)
    (stepped : s.step (Operation.program libs) l = some s') : RulesHold s.store.committed s'.store.committed := by
  have trusting : ∀ op d, (rules libs).relies op [] d := fun op d records pending e absent => by cases absent
  exact guarantees (meets_program libs) trusting guarded reached stepped

/-- A step that commits nothing takes nothing from anybody. -/
theorem keepsChecks_of_committed {s : System (calls libs) Notice Unit Operation T} {l : Label (calls libs) Operation T}
    (same : ∀ s', s.step (Operation.program libs) l = some s' → s'.store.committed = s.store.committed) : KeepsChecks libs s l := by
  intro s' stepped u th other found running relies
  rw [same s' stepped]
  exact relies

/-- One person, and one room that is open. -/
def openRoom : Db where
  users := .ofList [(1, { appID := 0, email := "visitor@example.invalid", createdAt := 0, updatedAt := 0 })]
  locations := .ofList [(1, { appID := 1, name := "Room", createdAt := 0, updatedAt := 0 })]
  seq := { users := 2, locations := 2, uuid := 2 }

def signIn : Operation :=
  .submit { userID := 1, locationID := 1, direction := directionIn, notes := "" } { kind := "user", appID := 0, userID := some 1 } []

def closeRoom : Operation := .updateLocation 1
  { name := "Room", description := "", enabled := false, notes := false, photo := false, backgroundObjectID := none,
    logoObjectID := none, groupIDs := [] }

/-- Two people at two desks sign in at once. -/
def twoDesks : List (Label (calls sampleLibraries) Operation Bool) :=
  [.start false signIn, .start true signIn, .next false (0 : Time), .next false (0 : Time), .next true (0 : Time),
    .next false (0 : Time)]

theorem commit_meets_rules_twoDesks :
    ∃ s s', run (System.step (Operation.program sampleLibraries)) (System.init openRoom) twoDesks = some s ∧
      s.step (Operation.program sampleLibraries) (.next false (0 : Time)) = some s' ∧
      RulesHold s.store.committed s'.store.committed := by
  refine ⟨_, _, rfl, rfl, commit_meets_rules sampleLibraries openRoom twoDesks _ _ (.next false (0 : Time)) ?_ rfl rfl⟩
  -- until the first `INSERT` there are only queries
  refine ⟨keepsChecks_of_committed fun s h => by cases h; rfl, fun s h => ?_⟩
  cases h
  refine ⟨keepsChecks_of_committed fun s h => by cases h; rfl, fun s h => ?_⟩
  cases h
  refine ⟨keepsChecks_of_committed fun s h => by cases h; rfl, fun s h => ?_⟩
  cases h
  refine ⟨keepsChecks_of_committed fun s h => by cases h; rfl, fun s h => ?_⟩
  cases h
  refine ⟨keepsChecks_of_committed fun s h => by cases h; rfl, fun s h => ?_⟩
  cases h
  exact ⟨keepsChecks_of_committed fun s h => by cases h; rfl, fun _ _ => trivial⟩

/-- The room is closed between the check and the `INSERT`. -/
def closedMeanwhile : List (Label (calls sampleLibraries) Operation Bool) :=
  [.start false signIn, .next false (0 : Time), .next false (0 : Time), .next false (0 : Time),
    .start true closeRoom, .next true (0 : Time), .next true (0 : Time), .next true (0 : Time), .next true (0 : Time),
    .next true (0 : Time)]

theorem signed_in_to_closed_room :
    ∃ s s', run (System.step (Operation.program sampleLibraries)) (System.init openRoom) closedMeanwhile = some s ∧
      s.step (Operation.program sampleLibraries) (.next false (0 : Time)) = some s' ∧
      ¬ RulesHold s.store.committed s'.store.committed := by
  refine ⟨_, _, rfl, rfl, fun holds => ?_⟩
  rcases holds 1 _ rfl with ⟨c, absent, _⟩ | ⟨⟨row, found, enabled⟩, _⟩
  · cases absent
  · cases found
    cases enabled

end Runs

end Woodgate.Checkin
