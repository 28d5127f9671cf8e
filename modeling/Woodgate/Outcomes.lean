import Woodgate.Stations.Service

/-!
# What an operation's answer tells

The eight operations that change stations, locations and check-ins, run in an environment
that may fail any of their calls. Each commits its change, reads the row again in a query
of its own and only then tells the hub. `answer_kept_iff` says when an error means that
nothing happened and a success that everything did: as long as no query fails after the
commit.

A run is followed from stage to stage: `Early` until the commit, `Late` after it.
-/

namespace Woodgate

open Library Library.ReadCommitted Postgres Woodgate.Service
open Library.Program hiding send

/-- The tables the operations change. -/
structure Watched where
  stations : ID → Option StationRow
  sessions : ID → Option SessionRow
  locations : ID → Option LocationRow
  locationGroups : ID × ID → Option Unit
  checkins : ID → Option CheckinRow

def watched (d : Db) : Watched := ⟨d.stations.row, d.sessions.row, d.locations.row, d.locationGroups.row, d.checkins.row⟩

inductive Operation where
  | createStation (mutation : Stations.StationMutation) (token : Except Err String)
  | updateStation (id : ID) (mutation : Stations.StationMutation)
  | rotateKey (id : ID) (token : Except Err String)
  | createLocation (mutation : Checkin.LocationMutation)
  | updateLocation (id : ID) (mutation : Checkin.LocationMutation)
  | createCheckin (create : Checkin.CheckinCreate) (actorUserID : ID)
  | submitStationCheckin (submission : Checkin.CheckinSubmission)
  | updateCheckin (id : ID) (mutation : Checkin.CheckinMutation)

namespace Operation

def Result : Operation → Type
  | .createStation _ _ | .rotateKey _ _ => Stations.Pairing
  | .updateStation _ _ => Stations.Station
  | .createLocation _ | .updateLocation _ _ => Checkin.Location
  | .createCheckin _ _ | .updateCheckin _ _ => Checkin.Checkin
  | .submitStationCheckin _ => Checkin.CheckinReceipt

variable (libs : Libraries) (sha256Hex : String → String) (serverURL : String)

def program : (op : Operation) → Service libs op.Result
  | .createStation mutation token => Stations.Service.create sha256Hex serverURL mutation token
  | .updateStation id mutation => Stations.Service.update id mutation
  | .rotateKey id token => Stations.Service.rotateKey sha256Hex serverURL id token
  | .createLocation mutation => Checkin.Service.createLocation mutation
  | .updateLocation id mutation => Checkin.Service.updateLocation id mutation
  | .createCheckin create actorUserID => Checkin.Service.createCheckin create actorUserID
  | .submitStationCheckin submission => Checkin.Service.submitStationCheckin submission
  | .updateCheckin id mutation => Checkin.Service.updateCheckin id mutation

/-- The groups of one location are the listed ones. -/
def regroup (id : ID) (groupIDs : List ID) (old : ID × ID → Option Unit) (k : ID × ID) : Option Unit :=
  if k.1 = id then if k.2 ∈ groupIDs then some () else none else old k

/-- The row records what was submitted. -/
structure Records (row : CheckinRow) (userID locationID : ID) (direction notes : String) : Prop where
  user : row.userID = userID
  location : row.locationID = locationID
  direction : Checkin.parseDirection direction = some row.direction
  notes : row.notes = Go.trimSpace notes

/-- The change the operation commits. -/
def Effect : Operation → Watched → Watched → Prop
  | .createStation mutation token, a, b => ∃ id row key, newKey? token = .ok (key, row.secretHash) ∧ a.stations id = none ∧
      row.name = mutation.normalize.name ∧ row.locationID = mutation.locationID ∧ row.enabled = mutation.enabled ∧
      b = { a with stations := Function.update a.stations id (some row) }
  | .updateStation id mutation, a, b => ∃ old now, a.stations id = some old ∧ b = { a with
      stations := Function.update a.stations id (some (mutation.normalize.apply now old))
      sessions := if mutation.enabled then a.sessions else Function.update a.sessions id none }
  | .rotateKey id token, a, b => ∃ old now key hash, newKey? token = .ok (key, hash) ∧ a.stations id = some old ∧ b = { a with
      stations := Function.update a.stations id (some { old with secretHash := hash, updatedAt := now })
      sessions := Function.update a.sessions id none }
  | .createLocation mutation, a, b => ∃ id now uuid, a.locations id = none ∧ b = { a with
      locations := Function.update a.locations id (some (Checkin.newLocation now mutation.normalize uuid))
      locationGroups := regroup id mutation.groupIDs a.locationGroups }
  | .updateLocation id mutation, a, b => ∃ old now uuid, a.locations id = some old ∧ b = { a with
      locations := Function.update a.locations id (some (mutation.normalize.apply now uuid old))
      locationGroups := regroup id mutation.groupIDs a.locationGroups }
  | .createCheckin create actorUserID, a, b => ∃ id row, a.checkins id = none ∧
      Records row create.userID create.locationID create.direction create.notes ∧ row.actorKind = "user" ∧
      row.createdByUserID = some actorUserID ∧ b = { a with checkins := Function.update a.checkins id (some row) }
  | .submitStationCheckin submission, a, b => ∃ id row, a.checkins id = none ∧
      Records row submission.personID submission.locationID submission.direction submission.notes ∧
      row.actorKind = "station" ∧ row.stationID = some submission.stationID ∧
      b = { a with checkins := Function.update a.checkins id (some row) }
  | .updateCheckin id mutation, a, b => ∃ old now direction, a.checkins id = some old ∧
      Checkin.parseDirection mutation.direction = some direction ∧
      b = { a with checkins := Function.update a.checkins id (some (mutation.normalize.apply now direction old)) }
where newKey? (token : Except Err String) := Stations.newKey sha256Hex token

/-- What a success has told the hub. -/
def announcement : Operation → List Notice
  | .updateStation id mutation =>
    [if mutation.enabled then .configurationChanged id mutation.locationID else .disconnect id "station disabled"]
  | .rotateKey id _ => [.disconnect id "station key rotated"]
  | .updateLocation id _ => [.locationChanged id]
  | _ => []

/-- An error means that nothing happened; a success that the change is committed and the hub
has been told. -/
def Kept (op : Operation) {A : Type} (d : Db) (result : Except Err A) (w : World (calls libs) Notice) : Prop :=
  match result with
  | .error _ => watched w.db = watched d ∧ w.notices = []
  | .ok _ => op.Effect sha256Hex (watched d) (watched w.db) ∧ w.notices = op.announcement

/-- Its failure is not the caller's: `DeleteUnreferenced` reports nothing. -/
def Tolerated (c : Option Call) : Prop := ∃ objectIDs, c = some (.deleteUnreferenced objectIDs)

/-- The environment fails a call after the operation has committed a change. -/
def FailsLate (d : Db) (w : World (calls libs) Notice) : Prop :=
  ∃ f ∈ w.faults, watched f.1 ≠ watched d ∧ ¬ Tolerated f.2

end Operation

section Quiet

variable {libs : Libraries}

theorem watched_quiet (c : Call) (quiet : c.Quiet) (now : Time) (d : Db) (x : c.Answer) (asked : List (RowKey × LockMode))
    (after : Db) (h : c.perform libs now d = .ok (x, asked, after)) : watched d = watched after := by
  obtain ⟨storageObjects, rfl⟩ := Call.perform_quiet quiet h
  rfl

end Quiet

section Stages

variable {libs : Libraries} {sha256Hex : String → String} {op : Operation} {d : Db} {v : Watched} {A B : Type}
  {w : World (calls libs) Notice}

/-- Nothing has been committed or told yet when a call failed. -/
structure Early (d : Db) (w : World (calls libs) Notice) : Prop where
  idle : w.work = none
  notices : w.notices = []
  faults : ∀ f ∈ w.faults, watched f.1 = watched d

/-- Nothing has been committed or told. -/
structure Untouched (d : Db) (w : World (calls libs) Notice) : Prop extends Early d w where
  rows : watched w.db = watched d

/-- The rows `v` are committed, nothing has been told, and the result so far is an error
exactly if a call that matters has failed since. -/
structure Late (d : Db) (v : Watched) (result : Except Err A) (w : World (calls libs) Notice) : Prop where
  idle : w.work = none
  notices : w.notices = []
  rows : watched w.db = v
  faults : ∀ f ∈ w.faults, watched f.1 = watched d ∨ watched f.1 = v
  failed : ∀ e, result = .error e → ∃ f ∈ w.faults, watched f.1 = v ∧ ¬ Operation.Tolerated f.2
  succeeded : ∀ a, result = .ok a → ∀ f ∈ w.faults, watched f.1 = watched d ∨ Operation.Tolerated f.2

theorem untouched_start (d : Db) : Untouched d ({ db := d } : World (calls libs) Notice) :=
  ⟨⟨rfl, rfl, fun _ absent => by cases absent⟩, rfl⟩

theorem watched_of_rows {a b : Db} (same : ∀ k, Db.get k a = Db.get k b) : watched a = watched b := by
  unfold watched
  congr 1
  · funext id
    exact same (.station id)
  · funext id
    exact same (.session id)
  · funext id
    exact same (.location id)
  · funext k
    exact same (.locationGroup k.1 k.2)
  · funext id
    exact same (.checkin id)

/-- What fails while a transaction is open fails before anything is committed. -/
theorem Untouched.suspended {w' : World (calls libs) Notice} (untouched : Untouched d w) (h : Suspended w w') :
    ∀ f ∈ w'.faults, watched f.1 = watched d := by
  intro f mem
  rcases h.faults f mem with old | rows
  · exact untouched.faults f old
  · exact (watched_of_rows rows).trans untouched.rows

/-- Nothing has happened, and the caller hears so. -/
theorem Untouched.kept (untouched : Untouched d w) (e : Err) :
    op.Kept libs sha256Hex d (.error e : Except Err A) w ↔ ¬ Operation.FailsLate libs d w := by
  have kept : op.Kept libs sha256Hex d (.error e : Except Err A) w := ⟨untouched.rows, untouched.notices⟩
  refine iff_of_true kept ?_
  rintro ⟨f, mem, differ, _⟩
  exact differ (untouched.faults f mem)

/-- An error after the commit hides the change, unless there was none. -/
theorem Late.kept_error {e : Err} (late : Late d v (.error e : Except Err A) w) :
    op.Kept libs sha256Hex d (.error e : Except Err B) w ↔ ¬ Operation.FailsLate libs d w := by
  constructor
  · rintro ⟨rows, _⟩ ⟨f, mem, differ, _⟩
    have unchanged : v = watched d := late.rows.symm.trans rows
    rcases late.faults f mem with early | after
    · exact differ early
    · exact differ (after.trans unchanged)
  · intro punctual
    refine ⟨?_, late.notices⟩
    obtain ⟨f, mem, after, matters⟩ := late.failed e rfl
    by_contra changed
    have differ : watched f.1 ≠ watched d := fun same => changed (late.rows.trans (after.symm.trans same))
    exact punctual ⟨f, mem, differ, matters⟩

/-- A success comes with the change and the announcement. -/
theorem Late.kept_ok {a : A} {w' : World (calls libs) Notice} (late : Late d v (.ok a) w) (b : B)
    (effect : op.Effect sha256Hex (watched d) v) (db : w'.db = w.db) (faults : w'.faults = w.faults)
    (told : w'.notices = op.announcement) :
    op.Kept libs sha256Hex d (.ok b) w' ↔ ¬ Operation.FailsLate libs d w' := by
  have rows : watched w'.db = v := db ▸ late.rows
  have kept : op.Kept libs sha256Hex d (.ok b) w' := ⟨rows.symm ▸ effect, told⟩
  refine iff_of_true kept ?_
  rintro ⟨f, mem, differ, matters⟩
  rcases late.succeeded a rfl f (faults ▸ mem) with early | tolerated
  · exact differ early
  · exact matters tolerated

/-- An operation that tells the hub nothing. -/
theorem Late.kept_silent {r : Except Err A} (late : Late d v r w) (effect : op.Effect sha256Hex (watched d) v)
    (silent : op.announcement = []) : op.Kept libs sha256Hex d r w ↔ ¬ Operation.FailsLate libs d w := by
  cases r with
  | error e => exact late.kept_error
  | ok a => exact late.kept_ok a effect rfl rfl (late.notices.trans silent.symm)

/-- Before the commit: calls that leave the watched tables. -/
theorem wp_quiet {p : Service libs A} (plain : p.Plain Call.Quiet) (untouched : Untouched d w) :
    wp (fun _ w' => Untouched d w') p w := by
  have moved := wp_plain (fun a b => watched a = watched b) (fun _ => rfl) Eq.trans
    (fun c quiet now d x asked after => watched_quiet c quiet now d x asked after) plain untouched.idle
  apply wp_mono _ moved
  rintro r w' ⟨idle, notices, rows, faults⟩
  refine ⟨⟨idle, notices.trans untouched.notices, fun f mem => ?_⟩, rows.symm.trans untouched.rows⟩
  rcases faults f mem with old | same
  · exact untouched.faults f old
  · exact same.symm.trans untouched.rows

/-- The same, with what comes next. -/
theorem wp_quiet_bind {p : Service libs A} {f : A → Service libs B} {Q : Except Err B → World (calls libs) Notice → Prop}
    (plain : p.Plain Call.Quiet) (untouched : Untouched d w) (fails : ∀ e w', Untouched d w' → Q (.error e) w')
    (rest : ∀ a w', Untouched d w' → wp Q (f a) w') : wp Q (p >>= f) w := by
  apply wp_bind
  apply wp_mono _ (wp_quiet plain untouched)
  intro r w' untouched'
  cases r with
  | error e => exact fails e w' untouched'
  | ok a => exact rest a w' untouched'

/-- The commit of a transaction. -/
theorem wp_commit {body : Service libs A} (plain : body.Plain fun _ => True) (untouched : Untouched d w) :
    wp (fun r w' => (∃ e, r = .error e ∧ Untouched d w') ∨
      ∃ a now, r = .ok a ∧ Early d w' ∧ body.Yields now a w'.db w.db) (transaction body) w := by
  apply wp_mono _ (wp_transaction plain untouched.idle)
  rintro r w' ⟨idle, ⟨e, returned, suspended⟩ | ⟨a, now, before, returned, suspended, same, yields⟩⟩
  · exact .inl ⟨e, returned, ⟨idle, suspended.notices.trans untouched.notices, untouched.suspended suspended⟩,
      (watched_of_rows suspended.rows).trans untouched.rows⟩
  · have notices : w'.notices = before.notices := by rw [same]
    have faults : w'.faults = before.faults := by rw [same]
    refine .inr ⟨a, now, returned, ⟨idle, notices.trans (suspended.notices.trans untouched.notices), ?_⟩, yields⟩
    rw [faults]
    exact untouched.suspended suspended

/-- A statement outside a transaction commits by itself. -/
theorem wp_statement {c : Call} {f : Err → Err} (untouched : Untouched d w) :
    wp (fun r w' => (∃ e, r = .error e ∧ Untouched d w') ∨
      ∃ x now asked, r = .ok x ∧ Early d w' ∧ c.perform libs now w.db = .ok (x, asked, w'.db)) (mapError f (send c)) w := by
  apply wp_call
  · intro e
    refine .inl ⟨_, rfl, ⟨untouched.idle, untouched.notices, fun g mem => ?_⟩, untouched.rows⟩
    rcases List.mem_cons.1 mem with rfl | old
    · exact untouched.rows
    · exact untouched.faults g old
  · intro now e _
    exact .inl ⟨_, rfl, ⟨untouched.idle, untouched.notices, untouched.faults⟩, untouched.rows⟩
  · intro now x asked after performed
    rw [World.view_idle untouched.idle] at performed
    rw [World.apply_idle untouched.idle]
    exact .inr ⟨x, _, asked, rfl, ⟨untouched.idle, untouched.notices, untouched.faults⟩, performed⟩

theorem Early.late (early : Early d w) (a : A) : Late d (watched w.db) (.ok a) w where
  idle := early.idle
  notices := early.notices
  rows := rfl
  faults f mem := .inl (early.faults f mem)
  failed _ absent := by cases absent
  succeeded _ _ f mem := .inl (early.faults f mem)

/-- Only whether the result is an error counts. -/
theorem Late.returned {a : A} (late : Late d v (.ok a) w) (b : B) : Late d v (.ok b) w where
  idle := late.idle
  notices := late.notices
  rows := late.rows
  faults := late.faults
  failed _ absent := by cases absent
  succeeded _ _ := late.succeeded a rfl

theorem Late.tick {r : Except Err A} (late : Late d v r w) : Late d v r w.tick :=
  ⟨late.idle, late.notices, late.rows, late.faults, late.failed, late.succeeded⟩

/-- An error ends the function. -/
theorem Late.error {e e' : Err} (late : Late d v (.error e : Except Err A) w) : Late d v (.error e' : Except Err B) w where
  idle := late.idle
  notices := late.notices
  rows := late.rows
  faults := late.faults
  failed _ _ := late.failed e rfl
  succeeded _ absent := by cases absent

/-- After the commit: a query that finds its row. -/
theorem wp_reread {c : Call} {a : A} {P : c.Answer → Prop} (late : Late d v (.ok a) w)
    (matters : ¬ Operation.Tolerated (some c)) (finds : ∀ now, ∃ x, c.perform libs now w.db = .ok (x, [], w.db) ∧ P x) :
    wp (fun r w' => Late d v r w' ∧ w'.db = w.db ∧ ∀ x, r = .ok x → P x) (send c) w := by
  apply wp_call
  · intro e
    refine ⟨⟨late.idle, late.notices, late.rows, fun g mem => ?_, fun _ _ => ?_, fun _ absent => by cases absent⟩, rfl,
      fun _ absent => by cases absent⟩
    · rcases List.mem_cons.1 mem with rfl | old
      · exact .inr late.rows
      · exact late.faults g old
    · exact ⟨_, List.mem_cons_self, late.rows, matters⟩
  · intro now e refused
    obtain ⟨x, found, _⟩ := finds (w.clock now)
    rw [World.view_idle late.idle] at refused
    cases found.symm.trans refused
  · intro now x asked after performed
    obtain ⟨y, found, good⟩ := finds (w.clock now)
    rw [World.view_idle late.idle] at performed
    cases found.symm.trans performed
    rw [World.apply_idle late.idle]
    exact ⟨(late.returned x).tick, rfl, fun z returned => by cases returned; exact good⟩

/-- After the commit: the object store drops what it can. -/
theorem wp_tolerated {objectIDs : List ID} {r : Except Err A} (late : Late d v r w) :
    wp (fun r' w' => r' = .ok () ∧ Late d v r w') (Checkin.deleteUnreferenced objectIDs : Service libs Unit) w := by
  have idle := late.idle
  apply wp_call
  · intro e
    refine ⟨rfl, late.idle, late.notices, late.rows, fun g mem => ?_, fun e returned => ?_, fun a returned g mem => ?_⟩
    · rcases List.mem_cons.1 mem with rfl | old
      · exact .inr late.rows
      · exact late.faults g old
    · obtain ⟨g, old, rest⟩ := late.failed e returned
      exact ⟨g, List.mem_cons_of_mem _ old, rest⟩
    · rcases List.mem_cons.1 mem with rfl | old
      · exact .inr ⟨objectIDs, rfl⟩
      · exact late.succeeded a returned g old
  · intro now e _
    exact ⟨rfl, late.idle, late.notices, late.rows, late.faults, late.failed, late.succeeded⟩
  · intro now x asked after performed
    rw [World.view_idle idle] at performed
    have rows : watched w.db = watched after :=
      watched_quiet (.deleteUnreferenced objectIDs) trivial _ _ x asked after performed
    rw [World.apply_idle idle]
    exact ⟨rfl, late.idle, late.notices, rows.symm.trans late.rows, late.faults, late.failed, late.succeeded⟩

end Stages

section Rereading

variable {libs : Libraries} {id : ID} {d : Db} {v : Watched} {A : Type} {a : A} {w : World (calls libs) Notice}

/-- A query of one row that is there. -/
theorem wp_reread_one {c : Call} {row : Time → Db → Option c.Answer} {P : c.Answer → Prop} (late : Late d v (.ok a) w)
    (query : ∀ now d, c.perform libs now d = Call.one (row now d) d) (matters : ¬ Operation.Tolerated (some c))
    (finds : ∀ now, ∃ x, row now w.db = some x ∧ P x) :
    wp (fun r w' => Late d v r w' ∧ w'.db = w.db ∧ ∀ x, r = .ok x → P x) (mapError getError (send c)) w := by
  have found : ∀ now, ∃ x, c.perform libs now w.db = .ok (x, [], w.db) ∧ P x := fun now =>
    (finds now).imp fun x there => ⟨(query now w.db).trans (Call.one_ok.2 ⟨there.1, rfl, rfl⟩), there.2⟩
  apply wp_handle
  apply wp_mono _ (wp_reread late matters found)
  rintro r w' ⟨late', same, good⟩
  cases r with
  | error e => exact ⟨late'.error, same, fun _ absent => by cases absent⟩
  | ok x => exact ⟨late', same, good⟩

/-- `Store.Get` of the stations after the commit. -/
theorem wp_getStation {s : StationRow} (late : Late d v (.ok a) w) (found : w.db.stations.row id = some s)
    (located : (w.db.locations.row s.locationID).isSome) :
    wp (fun r w' => Late d v r w' ∧ w'.db = w.db ∧ ∀ x, r = .ok x → x.enabled = s.enabled ∧ x.locationID = s.locationID)
      (Stations.Store.get id : Service libs Stations.Station) w := by
  have reread := @wp_reread_one libs _ _ _ _ _ (.selectStation id) (fun now => Stations.stationSelect now id)
    (fun x : Stations.Station => x.enabled = s.enabled ∧ x.locationID = s.locationID) late (fun _ _ => rfl)
    (by rintro ⟨_, absent⟩; cases absent) fun now => Stations.stationSelect_some found located
  exact reread

/-- `Store.GetCheckin` after the commit. -/
theorem wp_getCheckin {c : CheckinRow} (late : Late d v (.ok a) w) (found : w.db.checkins.row id = some c)
    (person : (w.db.users.row c.userID).isSome) (located : (w.db.locations.row c.locationID).isSome) :
    wp (fun r w' => Late d v r w') (Checkin.Store.getCheckin id : Service libs Checkin.Checkin) w := by
  have reread := @wp_reread_one libs _ _ _ _ _ (.selectCheckin id) (fun _ => Checkin.checkinSelect id)
    (fun _ => True) late (fun _ _ => rfl)
    (by rintro ⟨_, absent⟩; cases absent)
    (fun _ => (Checkin.checkinSelect_some found person located).imp fun _ there => ⟨there, trivial⟩)
  exact wp_mono (fun _ _ h => h.1) reread

/-- `Store.GetLocation` after the commit. -/
theorem wp_getLocation (late : Late d v (.ok a) w) (found : (w.db.locations.row id).isSome) :
    wp (fun r w' => Late d v r w') (Checkin.Store.getLocation id : Service libs Checkin.Location) w := by
  apply wp_bind
  have first := @wp_reread_one libs _ _ _ _ _ (.selectLocation id) (fun _ => Checkin.locationSelect id)
    (fun _ => True) late (fun _ _ => rfl)
    (by rintro ⟨_, absent⟩; cases absent)
    (fun _ => (Checkin.locationSelect_some found).imp fun _ there => ⟨there, trivial⟩)
  apply wp_mono _ first
  rintro r w₁ ⟨late₁, _, _⟩
  cases r with
  | error e => exact late₁.error
  | ok location =>
    have second := @wp_reread libs _ _ _ _ (.selectLocationGroups id) _ (fun _ => True) late₁
      (by rintro ⟨_, absent⟩; cases absent) (fun _ => ⟨_, rfl, trivial⟩)
    apply wp_bind
    apply wp_mono _ second
    rintro r w₂ ⟨late₂, _, _⟩
    cases r with
    | error e => exact late₂.error
    | ok groups => exact late₂.returned _

end Rereading

section Bodies

variable {libs : Libraries} {now : Time} {id : ID} {d d' : Db}

theorem plain_clearClientStates : (Stations.Store.clearClientStates id : Service libs Unit).Plain fun _ => True :=
  (Plain.send trivial).bind fun _ => Plain.send trivial

theorem plain_updateRow {mutation : Stations.StationMutation} :
    (Stations.Store.updateRow id mutation : Service libs Unit).Plain fun _ => True := by
  refine (Plain.send trivial).bind fun _ => ?_
  split
  · trivial
  · exact plain_clearClientStates

theorem plain_replaceHash {hash : String} : (Stations.Store.replaceHash id hash : Service libs Unit).Plain fun _ => True :=
  (Plain.send trivial).bind fun _ => plain_clearClientStates

theorem clearClientStates_yields {u : Unit} (h : (Stations.Store.clearClientStates id : Service libs Unit).Yields now u d' d) :
    d' = { d with sessions := d.sessions.erase id, rejections := d.rejections.erase id } := by
  obtain ⟨_, mid, first, second⟩ := Yields.bind h
  obtain ⟨_, first⟩ := Yields.send first
  obtain ⟨_, second⟩ := Yields.send second
  cases first
  cases second
  rfl

/-- What `Store.update` commits. -/
theorem updateRow_yields {mutation : Stations.StationMutation} {u : Unit}
    (h : (Stations.Store.updateRow id mutation : Service libs Unit).Yields now u d' d) :
    ∃ old, d.stations.row id = some old ∧ d'.stations.row id = some (mutation.apply now old) ∧
      (d'.locations.row mutation.locationID).isSome ∧ watched d' = { watched d with
        stations := Function.update (watched d).stations id (some (mutation.apply now old))
        sessions := if mutation.enabled then (watched d).sessions else Function.update (watched d).sessions id none } := by
  obtain ⟨_, mid, first, second⟩ := Yields.bind h
  obtain ⟨asked, first⟩ := Yields.send first
  have written : Call.returning (some ()) (Stations.updateStation now id mutation) d = .ok ((), asked, mid) := first
  have written := (Call.returning_ok.1 written).2
  obtain ⟨old, _, found, _, _, rfl⟩ := Stations.writeStation_ok written
  obtain ⟨old', found', located⟩ := Stations.writeStation_location written
  cases found.symm.trans found'
  refine ⟨old, found, ?_⟩
  split at second
  · rename_i enabled
    cases (Yields.pure second).2
    refine ⟨by simp, located, ?_⟩
    rw [if_pos enabled]
    simp only [watched, Table.row_set_eq]
  · rename_i disabled
    cases clearClientStates_yields second
    refine ⟨by simp, located, ?_⟩
    rw [if_neg disabled]
    simp only [watched, Table.row_set_eq, Table.row_erase_eq]

/-- What `Store.rotateKey` commits. -/
theorem replaceHash_yields {hash : String} {u : Unit}
    (h : (Stations.Store.replaceHash id hash : Service libs Unit).Yields now u d' d) :
    ∃ old, d.stations.row id = some old ∧ d'.stations.row id = some { old with secretHash := hash, updatedAt := now } ∧
      (d'.locations.row old.locationID).isSome ∧ watched d' = { watched d with
        stations := Function.update (watched d).stations id (some { old with secretHash := hash, updatedAt := now })
        sessions := Function.update (watched d).sessions id none } := by
  obtain ⟨_, mid, first, second⟩ := Yields.bind h
  obtain ⟨asked, first⟩ := Yields.send first
  have written : Call.returning (some ()) (Stations.updateSecretHash now id hash) d = .ok ((), asked, mid) := first
  have written := (Call.returning_ok.1 written).2
  obtain ⟨old, _, found, _, _, rfl⟩ := Stations.writeStation_ok written
  obtain ⟨old', found', located⟩ := Stations.writeStation_location written
  cases found.symm.trans found'
  cases clearClientStates_yields second
  refine ⟨old, found, by simp, located, ?_⟩
  simp only [watched, Table.row_set_eq, Table.row_erase_eq]

theorem validateLocationAttachments_yields {backgroundObjectID logoObjectID : Option ID} {u : Unit}
    (h : (Checkin.validateLocationAttachments backgroundObjectID logoObjectID : Service libs Unit).Yields now u d' d) :
    d' = d := by
  have locks : ∀ c : Call, (∃ objectID, c = .selectImage objectID) → ∀ now d x asked after,
      c.perform libs now d = .ok (x, asked, after) → after = d := by
    rintro c ⟨objectID, rfl⟩ now d x asked after performed
    exact Checkin.selectImage_ok (Call.returning_ok.1 performed).2
  exact Yields.relates (fun a b => b = a) (fun _ => rfl) (fun first second => second.trans first) locks
    (Checkin.plain_validateLocationAttachments fun objectID => ⟨objectID, rfl⟩) h

/-- The loop of `replaceLocationGroups`. -/
theorem insertLocationGroups_yields {groupIDs : List ID} {u : Unit}
    (h : (forEach (fun groupID => mapError mutationError (send (.insertLocationGroup id groupID))) groupIDs :
      Service libs Unit).Yields now u d' d) :
    ∃ locationGroups, d' = { d with locationGroups } ∧ ∀ k, locationGroups.row k =
      if k.1 = id ∧ k.2 ∈ groupIDs then some () else d.locationGroups.row k := by
  induction groupIDs generalizing d with
  | nil =>
    cases (Yields.pure h).2
    exact ⟨_, rfl, fun k => by simp⟩
  | cons groupID groupIDs ih =>
    obtain ⟨_, mid, first, rest⟩ := Yields.bind h
    obtain ⟨asked, first⟩ := request_yields (c := .insertLocationGroup id groupID) first
    have inserted : Call.returning (some ()) (Checkin.insertLocationGroup id groupID) d = .ok ((), asked, mid) := first
    cases Checkin.insertLocationGroup_ok (Call.returning_ok.1 inserted).2
    obtain ⟨locationGroups, rfl, rows⟩ := ih rest
    refine ⟨locationGroups, rfl, fun k => ?_⟩
    rw [rows, Table.row_set]
    obtain ⟨l, g⟩ := k
    by_cases own : l = id <;> by_cases new : g = groupID <;> by_cases later : g ∈ groupIDs <;> simp [own, new, later]

/-- After `replaceLocationGroups` the location has exactly the listed groups. -/
theorem replaceLocationGroups_yields {groupIDs : List ID} {u : Unit}
    (h : (Checkin.Store.replaceLocationGroups id groupIDs : Service libs Unit).Yields now u d' d) :
    ∃ locationGroups, d' = { d with locationGroups } ∧
      locationGroups.row = Operation.regroup id groupIDs d.locationGroups.row := by
  obtain ⟨_, mid, first, rest⟩ := Yields.bind h
  obtain ⟨asked, first⟩ := Yields.send first
  cases first
  obtain ⟨locationGroups, rfl, rows⟩ := insertLocationGroups_yields rest
  refine ⟨locationGroups, rfl, funext fun k => ?_⟩
  rw [rows, Table.row_filter_key]
  by_cases own : k.1 = id <;> by_cases listed : k.2 ∈ groupIDs <;> simp [Operation.regroup, own, listed]

/-- What `Store.CreateLocation` commits. -/
theorem insertLocation_yields {mutation : Checkin.LocationMutation}
    (h : (Checkin.Store.insertLocation mutation : Service libs ID).Yields now id d' d) :
    ∃ uuid, d.locations.row id = none ∧ (d'.locations.row id).isSome ∧ watched d' = { watched d with
      locations := Function.update (watched d).locations id (some (Checkin.newLocation now mutation uuid))
      locationGroups := Operation.regroup id mutation.groupIDs (watched d).locationGroups } := by
  obtain ⟨_, mid, checked, h⟩ := Yields.bind h
  cases validateLocationAttachments_yields checked
  obtain ⟨drawn, mid, sent, h⟩ := Yields.bind h
  obtain ⟨asked, performed⟩ := request_yields (c := .insertLocation mutation) sent
  have inserted : Call.returning (some d.seq.locations) (Checkin.insertLocation now mutation) d = .ok (drawn, asked, mid) :=
    performed
  obtain ⟨returned, stored⟩ := Call.returning_ok.1 inserted
  cases returned
  obtain ⟨vacant, rfl⟩ := Checkin.insertLocation_ok stored
  obtain ⟨_, mid, regrouped, h⟩ := Yields.bind h
  obtain ⟨locationGroups, rfl, rows⟩ := replaceLocationGroups_yields regrouped
  obtain ⟨rfl, rfl⟩ := Yields.pure h
  refine ⟨d.seq.uuid, vacant, by simp, ?_⟩
  simp only [watched, Table.row_set_eq, rows]

/-- What `Store.UpdateLocation` commits. -/
theorem replaceLocation_yields {mutation : Checkin.LocationMutation} {objects : Option ID × Option ID}
    (h : (Checkin.Store.replaceLocation id mutation : Service libs _).Yields now objects d' d) :
    ∃ old uuid, d.locations.row id = some old ∧ (d'.locations.row id).isSome ∧ watched d' = { watched d with
      locations := Function.update (watched d).locations id (some (mutation.apply now uuid old))
      locationGroups := Operation.regroup id mutation.groupIDs (watched d).locationGroups } := by
  obtain ⟨_, mid, locked, h⟩ := Yields.bind h
  obtain ⟨asked, locked⟩ := request_yields (c := .lockLocation id) locked
  cases (Checkin.lockLocation_ok (Call.returning_ok.1 locked).2).1
  obtain ⟨_, mid, checked, h⟩ := Yields.bind h
  cases validateLocationAttachments_yields checked
  obtain ⟨_, mid, sent, h⟩ := Yields.bind h
  obtain ⟨asked, performed⟩ := request_yields (c := .updateLocation id mutation) sent
  have updated : Call.returning (some ()) (Checkin.updateLocation now id mutation) d = .ok ((), asked, mid) := performed
  obtain ⟨old, found, rfl⟩ := Checkin.updateLocation_ok (Call.returning_ok.1 updated).2
  obtain ⟨_, mid, regrouped, h⟩ := Yields.bind h
  obtain ⟨locationGroups, rfl, rows⟩ := replaceLocationGroups_yields regrouped
  obtain ⟨rfl, rfl⟩ := Yields.pure h
  refine ⟨old, d.seq.uuid, found, by simp, ?_⟩
  simp only [watched, Table.row_set_eq, rows]

end Bodies

section Operations

variable {libs : Libraries} {sha256Hex : String → String} {serverURL : String} {d : Db} {id : ID}
  {w : World (calls libs) Notice}

/-- What is to be shown of an operation. -/
def Operation.Honest (libs : Libraries) (sha256Hex : String → String) (op : Operation) (d : Db) {A : Type}
    (r : Except Err A) (w : World (calls libs) Notice) : Prop :=
  op.Kept libs sha256Hex d r w ↔ ¬ Operation.FailsLate libs d w

theorem wp_createStation {mutation : Stations.StationMutation} {token : Except Err String} (untouched : Untouched d w) :
    wp ((Operation.createStation mutation token).Honest libs sha256Hex d)
      (Stations.Service.create sha256Hex serverURL mutation token) w := by
  refine wp_quiet_bind (p := lift _) trivial untouched (fun e w' u => u.kept e) fun _ w₁ untouched => ?_
  refine wp_quiet_bind Stations.plain_requireLocation untouched (fun e w' u => u.kept e) fun _ w₂ untouched => ?_
  refine wp_lift_bind (fun e _ => untouched.kept e) fun keys made => ?_
  obtain ⟨key, hash⟩ := keys
  apply wp_bind
  apply wp_bind
  apply wp_mono _ (wp_statement (c := .insertStation mutation.normalize hash) untouched)
  rintro r w₃ (⟨e, rfl, untouched'⟩ | ⟨stationID, now, asked, rfl, early, performed⟩)
  · exact untouched'.kept e
  · dsimp only [Call.perform] at performed
    obtain ⟨returned, inserted⟩ := Call.returning_ok.1 performed
    cases returned
    obtain ⟨vacant, located, row, name, location, enabled, own, stored⟩ := Stations.insertStation_ok inserted
    have effect : (Operation.createStation mutation token).Effect sha256Hex (watched d) (watched w₃.db) := by
      refine ⟨w₂.db.seq.stations, row, key, own ▸ made, ?_, name, location, enabled, ?_⟩
      · rw [← untouched.rows]
        exact vacant
      · rw [← untouched.rows, stored, watched, Table.row_set_eq]
        rfl
    have found : w₃.db.stations.row w₂.db.seq.stations = some row := by simp [stored]
    have there : (w₃.db.locations.row row.locationID).isSome := by
      rw [stored, location]
      exact located
    apply wp_mono _ (wp_getStation (early.late w₂.db.seq.stations) found there)
    rintro r w₄ ⟨late, _, _⟩
    cases r with
    | error e => exact late.kept_error
    | ok station => exact (late.returned _).kept_silent effect rfl

theorem wp_updateStation {mutation : Stations.StationMutation} (untouched : Untouched d w) :
    wp ((Operation.updateStation id mutation).Honest libs sha256Hex d) (Stations.Service.update id mutation) w := by
  refine wp_quiet_bind (p := lift _) trivial untouched (fun e w' u => u.kept e) fun _ w₁ untouched => ?_
  refine wp_quiet_bind Stations.plain_requireLocation untouched (fun e w' u => u.kept e) fun _ w₂ untouched => ?_
  apply wp_bind
  apply wp_bind
  apply wp_handle
  apply wp_mono _ (wp_commit plain_updateRow untouched)
  rintro r w₃ (⟨e, rfl, untouched'⟩ | ⟨_, now, rfl, early, yields⟩)
  · exact untouched'.kept _
  · obtain ⟨old, found, stored, located, rows⟩ := updateRow_yields yields
    have effect : (Operation.updateStation id mutation).Effect sha256Hex (watched d) (watched w₃.db) := by
      refine ⟨old, now, ?_, ?_⟩
      · rw [← untouched.rows]
        exact found
      · rw [← untouched.rows]
        exact rows
    apply wp_mono _ (wp_getStation (early.late ()) stored located)
    rintro r w₄ ⟨late, _, same⟩
    cases r with
    | error e => exact late.kept_error
    | ok station =>
      refine late.kept_ok station effect rfl rfl ?_
      obtain ⟨enabled, location⟩ := same station rfl
      show w₄.notices ++ [Stations.Service.updateNotice id station] = _
      rw [late.notices, Stations.Service.updateNotice, enabled, location]
      rfl

theorem wp_rotateKey {token : Except Err String} (untouched : Untouched d w) :
    wp ((Operation.rotateKey id token).Honest libs sha256Hex d)
      (Stations.Service.rotateKey sha256Hex serverURL id token) w := by
  refine wp_lift_bind (fun e _ => untouched.kept e) fun keys made => ?_
  obtain ⟨key, hash⟩ := keys
  apply wp_bind
  apply wp_bind
  apply wp_handle
  apply wp_mono _ (wp_commit plain_replaceHash untouched)
  rintro r w₁ (⟨e, rfl, untouched'⟩ | ⟨_, now, rfl, early, yields⟩)
  · exact untouched'.kept _
  · obtain ⟨old, found, stored, located, rows⟩ := replaceHash_yields yields
    have effect : (Operation.rotateKey id token).Effect sha256Hex (watched d) (watched w₁.db) := by
      refine ⟨old, now, key, hash, made, ?_, ?_⟩
      · rw [← untouched.rows]
        exact found
      · rw [← untouched.rows]
        exact rows
    apply wp_mono _ (wp_getStation (early.late ()) stored located)
    rintro r w₂ ⟨late, _, _⟩
    cases r with
    | error e => exact late.kept_error
    | ok station =>
      refine late.kept_ok _ effect rfl rfl ?_
      show w₂.notices ++ [Notice.disconnect id "station key rotated"] = _
      rw [late.notices]
      rfl

theorem Operation.regroup_normalize (mutation : Checkin.LocationMutation) :
    regroup id mutation.normalize.groupIDs = regroup id mutation.groupIDs := by
  funext old k
  have same : k.2 ∈ mutation.normalize.groupIDs ↔ k.2 ∈ mutation.groupIDs := by
    simp [Checkin.LocationMutation.normalize, Checkin.uniquePositiveIDs]
  simp only [regroup, same]

/-- A failed `CreateLocation` or `UpdateLocation` drops the objects it has finalized. -/
theorem wp_discard {op : Operation} {A : Type} {objectIDs : List ID} {e : Err} (untouched : Untouched d w) :
    wp (op.Honest libs sha256Hex d) (do
      Checkin.deleteUnreferenced objectIDs
      throw e : Service libs A) w :=
  wp_quiet_bind (Checkin.plain_deleteUnreferenced objectIDs) untouched (fun e _ u => u.kept e) fun _ _ u => u.kept e

/-- The same after the commit. -/
theorem wp_discard_late {op : Operation} {A B : Type} {v : Watched} {objectIDs : List ID} {e : Err}
    (late : Late d v (.error e : Except Err A) w) :
    wp (op.Honest libs sha256Hex d) (do
      Checkin.deleteUnreferenced objectIDs
      throw e : Service libs B) w := by
  apply wp_bind
  apply wp_mono _ (wp_tolerated late)
  rintro r w' ⟨rfl, late'⟩
  exact late'.kept_error

theorem wp_createLocation {mutation : Checkin.LocationMutation} (untouched : Untouched d w) :
    wp ((Operation.createLocation mutation).Honest libs sha256Hex d) (Checkin.Service.createLocation mutation) w := by
  refine wp_quiet_bind (p := lift _) trivial untouched (fun e w' u => u.kept e) fun _ w₁ untouched => ?_
  refine wp_quiet_bind (Checkin.plain_finalizeAttachments _ _) untouched (fun e w' u => u.kept e) fun objectIDs w₂ untouched => ?_
  apply wp_handle
  apply wp_bind
  have plain : (Checkin.Store.insertLocation mutation.normalize : Service libs ID).Plain fun _ => True :=
    Checkin.plain_insertLocation (fun _ => trivial) trivial (fun _ => trivial) fun _ _ => trivial
  apply wp_mono _ (wp_commit plain untouched)
  rintro r w₃ (⟨e, rfl, untouched'⟩ | ⟨locationID, now, rfl, early, yields⟩)
  · exact wp_discard untouched'
  · obtain ⟨uuid, vacant, present, rows⟩ := insertLocation_yields yields
    have effect : (Operation.createLocation mutation).Effect sha256Hex (watched d) (watched w₃.db) := by
      refine ⟨locationID, now, uuid, ?_, ?_⟩
      · rw [← untouched.rows]
        exact vacant
      · rw [← untouched.rows, rows, Operation.regroup_normalize]
    apply wp_mono _ (wp_getLocation (early.late ()) present)
    intro r w₄ late
    cases r with
    | error e => exact wp_discard_late late
    | ok item => exact late.kept_silent effect rfl

theorem wp_updateLocation {mutation : Checkin.LocationMutation} (untouched : Untouched d w) :
    wp ((Operation.updateLocation id mutation).Honest libs sha256Hex d) (Checkin.Service.updateLocation id mutation) w := by
  refine wp_quiet_bind (p := lift _) trivial untouched (fun e w' u => u.kept e) fun _ w₁ untouched => ?_
  refine wp_quiet_bind (Checkin.plain_finalizeAttachments _ _) untouched (fun e w' u => u.kept e) fun objectIDs w₂ untouched => ?_
  apply wp_handle
  apply wp_bind
  have plain : (Checkin.Store.replaceLocation id mutation.normalize : Service libs _).Plain fun _ => True :=
    Checkin.plain_replaceLocation trivial (fun _ => trivial) trivial trivial fun _ => trivial
  apply wp_mono _ (wp_commit plain untouched)
  rintro r w₃ (⟨e, rfl, untouched'⟩ | ⟨objects, now, rfl, early, yields⟩)
  · exact wp_discard untouched'
  · obtain ⟨old, uuid, found, present, rows⟩ := replaceLocation_yields yields
    have effect : (Operation.updateLocation id mutation).Effect sha256Hex (watched d) (watched w₃.db) := by
      refine ⟨old, now, uuid, ?_, ?_⟩
      · rw [← untouched.rows]
        exact found
      · rw [← untouched.rows, rows, Operation.regroup_normalize]
    apply wp_bind
    apply wp_mono _ (wp_tolerated (early.late ()))
    rintro r w₄ ⟨rfl, late⟩
    apply wp_bind
    apply wp_mono _ (wp_tolerated late)
    rintro r w₅ ⟨rfl, late⟩
    have still : (w₅.db.locations.row id).isSome := by
      have same : w₅.db.locations.row = w₃.db.locations.row := congrArg Watched.locations late.rows
      rw [same]
      exact present
    apply wp_mono _ (wp_getLocation late still)
    intro r w₆ late
    cases r with
    | error e => exact wp_discard_late late
    | ok item =>
      refine late.kept_ok item effect rfl rfl ?_
      show w₆.notices ++ [Notice.locationChanged id] = _
      rw [late.notices]
      rfl

/-- `Submit`, whoever calls it. -/
theorem wp_submit {op : Operation} {create : Checkin.CheckinCreate} {actor : Checkin.Actor} {photo : List UInt8}
    (untouched : Untouched d w) (silent : op.announcement = [])
    (effect : ∀ id now direction photoObjectID uuid, (watched d).checkins id = none →
      Checkin.parseDirection create.direction = some direction → op.Effect sha256Hex (watched d) { watched d with
        checkins := Function.update (watched d).checkins id
          (some (Checkin.newCheckin now create.normalize direction actor photoObjectID uuid)) }) :
    wp (op.Honest libs sha256Hex d) (Checkin.Service.submit create actor photo) w := by
  refine wp_quiet_bind (p := lift _) trivial untouched (fun e w' u => u.kept e) fun _ w₁ untouched => ?_
  refine wp_quiet_bind Checkin.plain_getLocation untouched (fun e w' u => u.kept e) fun location w₂ untouched => ?_
  refine wp_quiet_bind (p := lift _) trivial untouched (fun e w' u => u.kept e) fun _ w₃ untouched => ?_
  refine wp_quiet_bind Checkin.plain_validatePerson untouched (fun e w' u => u.kept e) fun _ w₄ untouched => ?_
  refine wp_quiet_bind Checkin.plain_writePhoto untouched (fun e w' u => u.kept e) fun photoObjectID w₅ untouched => ?_
  apply wp_handle
  apply wp_bind
  apply wp_mono _ (wp_statement (c := .insertCheckin create.normalize actor photoObjectID) untouched)
  rintro r w₆ (⟨e, rfl, untouched'⟩ | ⟨checkinID, now, asked, rfl, early, performed⟩)
  · cases photoObjectID with
    | none => exact untouched'.kept e
    | some objectID => exact wp_discard untouched'
  · dsimp only [Call.perform] at performed
    obtain ⟨returned, inserted⟩ := Call.returning_ok.1 performed
    cases returned
    obtain ⟨direction, parsed, vacant, parents, stored⟩ := Checkin.insertCheckin_ok inserted
    have rows : watched w₆.db = { watched d with
        checkins := Function.update (watched d).checkins w₅.db.seq.checkins
          (some (Checkin.newCheckin now create.normalize direction actor photoObjectID w₅.db.seq.uuid)) } := by
      rw [← untouched.rows, stored]
      simp only [watched, Table.row_set_eq]
    have committed : op.Effect sha256Hex (watched d) (watched w₆.db) := by
      rw [rows]
      refine effect _ _ _ _ _ ?_ parsed
      rw [← untouched.rows]
      exact vacant
    have found := congrArg (fun d => d.checkins.row w₅.db.seq.checkins) stored
    have person := parents (.user create.userID) (by simp [Checkin.checkinParents, Checkin.newCheckin, Checkin.CheckinCreate.normalize])
    have located := parents (.location create.locationID)
      (by simp [Checkin.checkinParents, Checkin.newCheckin, Checkin.CheckinCreate.normalize])
    rw [Table.row_set_self] at found
    apply wp_mono _ (wp_getCheckin (early.late ()) found (by rw [stored]; exact person) (by rw [stored]; exact located))
    intro r w₇ late
    cases r with
    | error e =>
      cases photoObjectID with
      | none => exact late.kept_error
      | some objectID => exact wp_discard_late late
    | ok item => exact late.kept_silent committed silent

theorem wp_createCheckin {create : Checkin.CheckinCreate} {actorUserID : ID} (untouched : Untouched d w) :
    wp ((Operation.createCheckin create actorUserID).Honest libs sha256Hex d)
      (Checkin.Service.createCheckin create actorUserID) w := by
  apply wp_bind
  apply wp_bind
  apply wp_mono _ (wp_quiet (plain_send (c := .userActor actorUserID) trivial) untouched)
  intro r w₁ untouched
  cases r with
  | error e => exact untouched.kept e
  | ok appID =>
    apply wp_submit untouched rfl
    intro id now direction photoObjectID uuid vacant parsed
    exact ⟨id, _, vacant, ⟨rfl, rfl, parsed, rfl⟩, rfl, rfl, rfl⟩

/-- The `Submit` of `SubmitStationCheckin`, with the station's `app_id`. -/
def Checkin.CheckinSubmission.submit (submission : CheckinSubmission) (appID : UUID) : Service libs Checkin.Checkin :=
  Checkin.Service.submit
    { userID := submission.personID, locationID := submission.locationID, direction := submission.direction
      notes := submission.notes }
    { kind := "station", appID, stationID := some submission.stationID } submission.photo

theorem wp_submitStationCheckin {submission : Checkin.CheckinSubmission} (untouched : Untouched d w) :
    wp ((Operation.submitStationCheckin submission).Honest libs sha256Hex d)
      (Checkin.Service.submitStationCheckin submission) w := by
  apply wp_bind
  apply wp_bind
  apply wp_mono _ (wp_quiet (plain_send (c := .stationActor submission.stationID) trivial) untouched)
  intro r w₁ untouched
  cases r with
  | error e => exact untouched.kept e
  | ok appID =>
    apply wp_bind
    have submitted : wp ((Operation.submitStationCheckin submission).Honest libs sha256Hex d)
        (submission.submit appID : Service libs Checkin.Checkin) w₁ := by
      apply wp_submit untouched rfl
      intro id now direction photoObjectID uuid vacant parsed
      exact ⟨id, _, vacant, ⟨rfl, rfl, parsed, rfl⟩, rfl, rfl, rfl⟩
    apply wp_mono _ submitted
    intro r w₂ honest
    cases r with
    | error e => exact honest
    | ok item => exact honest

theorem wp_updateCheckin {mutation : Checkin.CheckinMutation} (untouched : Untouched d w) :
    wp ((Operation.updateCheckin id mutation).Honest libs sha256Hex d) (Checkin.Service.updateCheckin id mutation) w := by
  have stored : ∀ w : World (calls libs) Notice, Untouched d w →
      wp ((Operation.updateCheckin id mutation).Honest libs sha256Hex d)
        (Checkin.Store.updateCheckin id mutation.normalize) w := by
    intro w untouched
    apply wp_bind
    apply wp_mono _ (wp_statement (c := .updateCheckin id mutation.normalize) untouched)
    rintro r w₁ (⟨e, rfl, untouched'⟩ | ⟨_, now, asked, rfl, early, performed⟩)
    · exact untouched'.kept e
    · dsimp only [Call.perform] at performed
      obtain ⟨direction, old, parsed, there, person, located, stored⟩ :=
        Checkin.updateCheckin_ok (Call.returning_ok.1 performed).2
      have rows : watched w₁.db = { watched d with
          checkins := Function.update (watched d).checkins id (some (mutation.normalize.apply now direction old)) } := by
        rw [← untouched.rows, stored]
        simp only [watched, Table.row_set_eq]
      have committed : (Operation.updateCheckin id mutation).Effect sha256Hex (watched d) (watched w₁.db) := by
        rw [rows]
        refine ⟨old, now, direction, ?_, parsed, rfl⟩
        rw [← untouched.rows]
        exact there
      have found := congrArg (fun d => d.checkins.row id) stored
      rw [Table.row_set_self] at found
      apply wp_mono _ (wp_getCheckin (early.late ()) found (by rw [stored]; exact person) (by rw [stored]; exact located))
      exact fun r w₂ late => late.kept_silent committed rfl
  refine wp_quiet_bind (p := lift _) trivial untouched (fun e w' u => u.kept e) fun _ w₁ untouched => ?_
  refine wp_quiet_bind (p := Checkin.Store.getCheckin id) (plain_send trivial) untouched (fun e w' u => u.kept e)
    fun current w₂ untouched => ?_
  dsimp only
  split
  · exact wp_quiet_bind Checkin.plain_validateMove untouched (fun e w' u => u.kept e) fun _ w₃ untouched => stored w₃ untouched
  · exact stored w₂ untouched

end Operations

/-- **When an answer can be believed.** For each of the eight operations, every database,
every input and every choice of failing calls: an error means that no watched row has
changed and nothing has been announced, and a success that the change is committed and
announced, exactly when no call fails after the operation has committed a change. -/
theorem answer_kept_iff (libs : Libraries) (sha256Hex : String → String) (serverURL : String)
    (env : Environment (calls libs)) (op : Operation) (d : Db) :
    op.Kept libs sha256Hex d (run env (op.program libs sha256Hex serverURL) { db := d }).1
        (run env (op.program libs sha256Hex serverURL) { db := d }).2 ↔
      ¬ Operation.FailsLate libs d (run env (op.program libs sha256Hex serverURL) { db := d }).2 := by
  have start : Untouched d ({ db := d } : World (calls libs) Notice) := untouched_start d
  cases op with
  | createStation mutation token => exact wp_run env (wp_createStation start)
  | updateStation id mutation => exact wp_run env (wp_updateStation start)
  | rotateKey id token => exact wp_run env (wp_rotateKey start)
  | createLocation mutation => exact wp_run env (wp_createLocation start)
  | updateLocation id mutation => exact wp_run env (wp_updateLocation start)
  | createCheckin create actorUserID => exact wp_run env (wp_createCheckin start)
  | submitStationCheckin submission => exact wp_run env (wp_submitStationCheckin start)
  | updateCheckin id mutation => exact wp_run env (wp_updateCheckin start)

section Sample

/-- The connection is lost between the commit of a key rotation and the query after it. -/
def lostAfterCommit : Environment (calls sampleLibraries) where
  fault n := if n = 5 then some .interrupted else none
  now n := Int.ofNat n

/-- The key of the station is rotated, nobody learns the new one, and the companion app
that holds the old one stays connected. -/
theorem rotated_key_lost :
    ∃ out, run lostAfterCommit ((Operation.rotateKey 1 (.ok "b")).program sampleLibraries Stations.sampleHash "")
        { db := Stations.sampleDb } = out ∧
      out.1 = .error .interrupted ∧ out.2.notices = [] ∧
      (out.2.db.stations.row 1).map StationRow.secretHash = some (Stations.sampleHash "wgst_b") ∧
      ¬ (Operation.rotateKey 1 (.ok "b")).Kept sampleLibraries Stations.sampleHash Stations.sampleDb out.1 out.2 := by
  refine ⟨_, rfl, rfl, rfl, rfl, ?_⟩
  rintro ⟨rows, _⟩
  have stations := congrFun (congrArg Watched.stations rows) 1
  have hashes := congrArg (Option.map StationRow.secretHash) stations
  have differ : some (Stations.sampleHash "wgst_b") ≠ some (Stations.sampleHash "wgst_a") := by decide
  exact differ hashes

end Sample

end Woodgate
