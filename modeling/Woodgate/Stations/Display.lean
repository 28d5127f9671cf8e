import Mathlib.Data.List.Induction
import Woodgate.Library.Runs
import Woodgate.Stations.Store

/-!
# What a station is shown as

The state of a station is kept in two rows that expire on their own. `Happening` is what a
committed operation means for a station, `ClientState.apply` what it does to the two rows;
`Online` and `Incompatible` read the same off the history alone, and `displayed_by_history`
says that `Get` and `List` show nothing else.
-/

namespace Woodgate.Stations

open Library Library.ReadCommitted Library.Runs

/-- What a committed operation means for its station. -/
inductive Happening where
  | claimed (connectionID : String) (protocolVersion : Int) (version : String) (time : Time)
  | renewed (connectionID : String) (time : Time)
  | released (connectionID : String)
  | rejected (protocolVersion : Option Int) (version : String) (time : Time)
  | disabled
  | rotated
  deriving DecidableEq, Repr

namespace Happening

/-- The session of `c` is over: another claim, its release, or the station was disabled or got a new key. -/
def Ends (c : String) : Happening → Prop
  | .claimed _ _ _ _ | .disabled | .rotated => True
  | .released c' => c' = c
  | .renewed _ _ | .rejected _ _ _ => False

/-- A rejection before it is of no interest any more. -/
def Outdates : Happening → Prop
  | .claimed _ _ _ _ | .rejected _ _ _ | .disabled | .rotated => True
  | .released _ | .renewed _ _ => False

/-- The time of the last renewal by `c`, or `time`. -/
def contact (c : String) (time : Time) : Happening → Time
  | .renewed c' time' => if c' = c then time' else time
  | _ => time

end Happening

/-- The connection `c` claimed the session, still has it, and claimed or renewed it less than 15 seconds ago. -/
def Online (history : List Happening) (now : Time) (c : String) (protocolVersion : Int) (version : String) : Prop :=
  ∃ before after time, history = before ++ .claimed c protocolVersion version time :: after ∧ (∀ h ∈ after, ¬ h.Ends c) ∧
    now - after.foldl (Happening.contact c) time < stationSessionTTL

/-- The latest rejection came after the last claim, disable and rotation, less than 5 minutes ago. -/
def Incompatible (history : List Happening) (now : Time) (protocolVersion : Option Int) (version : String) : Prop :=
  ∃ before after time, history = before ++ .rejected protocolVersion version time :: after ∧ (∀ h ∈ after, ¬ h.Outdates) ∧
    now - time < stationRejectionTTL

/-- A station shown as its history says. -/
structure Displays (history : List Happening) (now : Time) (state : State) (version : String) (protocolVersion : Option Int) :
    Prop where
  online_iff : state = .online ↔ ∃ c p v, Online history now c p v
  online : ∀ c p v, Online history now c p v → version = v ∧ protocolVersion = some p
  incompatible_iff : state = .incompatible ↔ (¬ ∃ c p v, Online history now c p v) ∧ ∃ p v, Incompatible history now p v
  incompatible : (¬ ∃ c p v, Online history now c p v) → ∀ p v, Incompatible history now p v →
    version = v ∧ protocolVersion = p
  offline_iff : state = .offline ↔ (¬ ∃ c p v, Online history now c p v) ∧ ¬ ∃ p v, Incompatible history now p v
  offline : state = .offline → version = "" ∧ protocolVersion = none

section History

/-- The two rows of a station. -/
structure ClientState where
  session : Option SessionRow := none
  rejection : Option RejectionRow := none
  deriving DecidableEq, Repr

/-- What a happening does to the rows. -/
def ClientState.apply (rows : ClientState) : Happening → ClientState
  | .claimed c p v time => { session := some ⟨c, p, v, time + stationSessionTTL⟩ }
  | .renewed c time => { rows with session := rows.session.map fun session =>
      if session.connectionID = c then { session with expiresAt := time + stationSessionTTL } else session }
  | .released c => { rows with session := rows.session.filter fun session => !decide (session.connectionID = c) }
  | .rejected p v time => { rows with rejection := some ⟨p, v, time + stationRejectionTTL⟩ }
  | .disabled | .rotated => {}

variable {history : List Happening} {now : Time}

/-- The rows after a history. -/
def project (history : List Happening) : ClientState := history.foldl ClientState.apply {}

@[simp] theorem project_append_one (history : List Happening) (h : Happening) :
    project (history ++ [h]) = (project history).apply h := by
  simp [project, List.foldl_append]

/-- An element of a list with one more at its end. -/
theorem append_one_eq_iff {α : Type} {l before after : List α} {x y : α} : l ++ [x] = before ++ y :: after ↔
    (after = [] ∧ l = before ∧ x = y) ∨ ∃ after', after = after' ++ [x] ∧ l = before ++ y :: after' := by
  constructor
  · intro same
    rcases List.eq_nil_or_concat after with rfl | ⟨after', z, rfl⟩
    · obtain ⟨first, last⟩ := List.append_inj' same rfl
      exact .inl ⟨rfl, first, List.head_eq_of_cons_eq last⟩
    · rw [List.concat_eq_append, ← List.cons_append, ← List.append_assoc] at same
      obtain ⟨first, last⟩ := List.append_inj' same rfl
      refine .inr ⟨after', ?_, first⟩
      rw [List.concat_eq_append, last]
  · rintro (⟨rfl, rfl, rfl⟩ | ⟨after', rfl, rfl⟩)
    · rfl
    · rw [List.append_assoc, List.cons_append]

/-- `row` is the latest claim, as far as nothing has ended it, with the time of its last renewal. -/
def Claims (history : List Happening) (row : SessionRow) : Prop :=
  ∃ before after time, history = before ++ .claimed row.connectionID row.protocolVersion row.version time :: after ∧
    (∀ h ∈ after, ¬ h.Ends row.connectionID) ∧
    row.expiresAt = after.foldl (Happening.contact row.connectionID) time + stationSessionTTL

/-- `row` is the latest rejection, as far as nothing has outdated it. -/
def Rejects (history : List Happening) (row : RejectionRow) : Prop :=
  ∃ before after time, history = before ++ .rejected row.protocolVersion row.version time :: after ∧
    (∀ h ∈ after, ¬ h.Outdates) ∧ row.expiresAt = time + stationRejectionTTL

theorem claims_append_one {h : Happening} {row : SessionRow} : Claims (history ++ [h]) row ↔
    (∃ time, h = .claimed row.connectionID row.protocolVersion row.version time ∧ row.expiresAt = time + stationSessionTTL) ∨
    ¬ h.Ends row.connectionID ∧ ∃ before after time,
      history = before ++ .claimed row.connectionID row.protocolVersion row.version time :: after ∧
      (∀ h ∈ after, ¬ h.Ends row.connectionID) ∧
      row.expiresAt = h.contact row.connectionID (after.foldl (Happening.contact row.connectionID) time) + stationSessionTTL := by
  unfold Claims
  constructor
  · rintro ⟨before, after, time, same, going, expires⟩
    rcases append_one_eq_iff.1 same with ⟨rfl, _, claim⟩ | ⟨after', rfl, earlier⟩
    · exact .inl ⟨time, claim, expires⟩
    · refine .inr ⟨going h (by simp), before, after', time, earlier, fun x mem => going x (by simp [mem]), ?_⟩
      rw [expires, List.foldl_append]
      rfl
  · rintro (⟨time, rfl, expires⟩ | ⟨goes, before, after, time, rfl, going, expires⟩)
    · exact ⟨history, [], time, rfl, List.forall_mem_nil _, expires⟩
    · refine ⟨before, after ++ [h], time, by simp, fun x mem => ?_, ?_⟩
      · rcases List.mem_append.1 mem with mem | mem
        · exact going x mem
        · rw [List.mem_singleton.1 mem]
          exact goes
      · rw [expires, List.foldl_append]
        rfl

theorem rejects_append_one {h : Happening} {row : RejectionRow} : Rejects (history ++ [h]) row ↔
    (∃ time, h = .rejected row.protocolVersion row.version time ∧ row.expiresAt = time + stationRejectionTTL) ∨
    ¬ h.Outdates ∧ Rejects history row := by
  unfold Rejects
  constructor
  · rintro ⟨before, after, time, same, going, expires⟩
    rcases append_one_eq_iff.1 same with ⟨rfl, _, rejection⟩ | ⟨after', rfl, earlier⟩
    · exact .inl ⟨time, rejection, expires⟩
    · exact .inr ⟨going h (by simp), before, after', time, earlier, fun x mem => going x (by simp [mem]), expires⟩
  · rintro (⟨time, rfl, expires⟩ | ⟨goes, before, after, time, rfl, going, expires⟩)
    · exact ⟨history, [], time, rfl, List.forall_mem_nil _, expires⟩
    · refine ⟨before, after ++ [h], time, by simp, fun x mem => ?_, expires⟩
      rcases List.mem_append.1 mem with mem | mem
      · exact going x mem
      · rw [List.mem_singleton.1 mem]
        exact goes

theorem session_project_iff {row : SessionRow} : (project history).session = some row ↔ Claims history row := by
  induction history using List.reverseRecOn generalizing row with
  | nil => simp [project, Claims]
  | append_singleton history h ih =>
    rw [project_append_one, claims_append_one]
    cases h with
    | claimed c p v time =>
      simp only [ClientState.apply, Happening.Ends, not_true, false_and, or_false, Option.some.injEq]
      constructor
      · rintro rfl
        exact ⟨time, rfl, rfl⟩
      · rintro ⟨time', claim, expires⟩
        cases claim
        cases row
        cases expires
        rfl
    | renewed c time =>
      simp only [ClientState.apply, Happening.Ends, not_false_eq_true, true_and, reduceCtorEq, false_and, exists_false, false_or,
        Option.map_eq_some_iff]
      constructor
      · rintro ⟨session, found, rfl⟩
        obtain ⟨before, after, claim, same, going, expires⟩ := ih.1 found
        by_cases own : session.connectionID = c
        · subst own
          rw [if_pos rfl]
          exact ⟨before, after, claim, same, going, by simp [Happening.contact]⟩
        · rw [if_neg own]
          refine ⟨before, after, claim, same, going, ?_⟩
          rw [Happening.contact, if_neg fun eq => own eq.symm]
          exact expires
      · rintro ⟨before, after, claim, same, going, expires⟩
        have found := ih.2 (show Claims history { row with
          expiresAt := after.foldl (Happening.contact row.connectionID) claim + stationSessionTTL } from
          ⟨before, after, claim, same, going, rfl⟩)
        refine ⟨_, found, ?_⟩
        by_cases own : row.connectionID = c
        · rw [Happening.contact, if_pos own.symm] at expires
          rw [if_pos own, ← expires]
        · rw [Happening.contact, if_neg fun eq => own eq.symm] at expires
          rw [if_neg own, ← expires]
    | released c =>
      simp only [ClientState.apply, Happening.Ends, Happening.contact, reduceCtorEq, false_and, exists_false, false_or,
        Option.filter_eq_some_iff, Bool.not_eq_true', decide_eq_false_iff_not, ih]
      constructor
      · rintro ⟨claims, other⟩
        exact ⟨fun own => other own.symm, claims⟩
      · rintro ⟨other, claims⟩
        exact ⟨claims, fun own => other own.symm⟩
    | rejected p v time =>
      simp only [ClientState.apply, Happening.Ends, Happening.contact, not_false_eq_true, true_and, reduceCtorEq, false_and,
        exists_false, false_or, ih]
      rfl
    | disabled => simp [ClientState.apply, Happening.Ends]
    | rotated => simp [ClientState.apply, Happening.Ends]

theorem rejection_project_iff {row : RejectionRow} : (project history).rejection = some row ↔ Rejects history row := by
  induction history using List.reverseRecOn generalizing row with
  | nil => simp [project, Rejects]
  | append_singleton history h ih =>
    rw [project_append_one, rejects_append_one, ← ih]
    cases h with
    | claimed c p v time => simp [ClientState.apply, Happening.Outdates]
    | renewed c time => simp [ClientState.apply, Happening.Outdates]
    | released c => simp [ClientState.apply, Happening.Outdates]
    | rejected p v time =>
      simp only [ClientState.apply, Happening.Outdates, not_true, false_and, or_false, Option.some.injEq]
      constructor
      · rintro rfl
        exact ⟨time, rfl, rfl⟩
      · rintro ⟨time', rejection, expires⟩
        cases rejection
        cases row
        cases expires
        rfl
    | disabled => simp [ClientState.apply, Happening.Outdates]
    | rotated => simp [ClientState.apply, Happening.Outdates]

/-- Who is online, from the session row. -/
theorem online_iff_session {c version : String} {protocolVersion : Int} : Online history now c protocolVersion version ↔
    ∃ row, (project history).session = some row ∧ now < row.expiresAt ∧ row.connectionID = c ∧
      row.protocolVersion = protocolVersion ∧ row.version = version := by
  constructor
  · rintro ⟨before, after, time, same, going, recent⟩
    have claims : Claims history ⟨c, protocolVersion, version, after.foldl (Happening.contact c) time + stationSessionTTL⟩ :=
      ⟨before, after, time, same, going, rfl⟩
    exact ⟨_, session_project_iff.2 claims, Int.lt_add_of_sub_left_lt recent, rfl, rfl, rfl⟩
  · rintro ⟨row, found, current, rfl, rfl, rfl⟩
    obtain ⟨before, after, time, same, going, expires⟩ := session_project_iff.1 found
    rw [expires] at current
    exact ⟨before, after, time, same, going, Int.sub_left_lt_of_lt_add current⟩

/-- Which rejection counts, from its row. -/
theorem incompatible_iff_rejection {version : String} {protocolVersion : Option Int} :
    Incompatible history now protocolVersion version ↔ ∃ row, (project history).rejection = some row ∧ now < row.expiresAt ∧
      row.protocolVersion = protocolVersion ∧ row.version = version := by
  constructor
  · rintro ⟨before, after, time, same, going, recent⟩
    have rejects : Rejects history ⟨protocolVersion, version, time + stationRejectionTTL⟩ := ⟨before, after, time, same, going, rfl⟩
    exact ⟨_, rejection_project_iff.2 rejects, Int.lt_add_of_sub_left_lt recent, rfl, rfl⟩
  · rintro ⟨row, found, current, rfl, rfl⟩
    obtain ⟨before, after, time, same, going, expires⟩ := rejection_project_iff.1 found
    rw [expires] at current
    exact ⟨before, after, time, same, going, Int.sub_left_lt_of_lt_add current⟩

/-- The projection of `stationSelectSQL` over the two rows. -/
theorem displays_project {d : Db} {k : ID} {station : Station} (selected : stationSelect now k d = some station)
    (session : d.sessions.row k = (project history).session) (rejection : d.rejections.row k = (project history).rejection) :
    Displays history now station.state station.version station.protocolVersion := by
  obtain ⟨s, _, selected⟩ := Option.bind_eq_some_iff.1 selected
  obtain ⟨l, _, selected⟩ := Option.bind_eq_some_iff.1 selected
  rw [session, rejection] at selected
  have online : ∀ c p v, Online history now c p v ↔ ∃ row, (project history).session.filter (fun r => decide (now < r.expiresAt)) =
      some row ∧ row.connectionID = c ∧ row.protocolVersion = p ∧ row.version = v := by
    intro c p v
    simp only [online_iff_session, Option.filter_eq_some_iff, decide_eq_true_eq, and_assoc]
  have incompatible : ∀ p v, Incompatible history now p v ↔
      ∃ row, (project history).rejection.filter (fun r => decide (now < r.expiresAt)) = some row ∧
        row.protocolVersion = p ∧ row.version = v := by
    intro p v
    simp only [incompatible_iff_rejection, Option.filter_eq_some_iff, decide_eq_true_eq, and_assoc]
  generalize (project history).session.filter (fun r => decide (now < r.expiresAt)) = current at selected online
  generalize (project history).rejection.filter (fun r => decide (now < r.expiresAt)) = refused at selected incompatible
  cases selected
  cases current with
  | some row =>
    have shown : ∃ c p v, Online history now c p v := ⟨_, _, _, (online _ _ _).2 ⟨row, rfl, rfl, rfl, rfl⟩⟩
    constructor
    · exact ⟨fun _ => shown, fun _ => rfl⟩
    · intro c p v claim
      obtain ⟨_, same, _, rfl, rfl⟩ := (online c p v).1 claim
      cases same
      exact ⟨rfl, rfl⟩
    · exact ⟨nofun, fun absent => absurd shown absent.1⟩
    · exact fun absent => absurd shown absent
    · exact ⟨nofun, fun absent => absurd shown absent.1⟩
    · exact nofun
  | none =>
    have absent : ¬ ∃ c p v, Online history now c p v := by
      rintro ⟨c, p, v, claim⟩
      obtain ⟨_, same, _⟩ := (online c p v).1 claim
      cases same
    cases refused with
    | some row =>
      have rejected : ∃ p v, Incompatible history now p v := ⟨_, _, (incompatible _ _).2 ⟨row, rfl, rfl, rfl⟩⟩
      constructor
      · exact ⟨nofun, fun shown => absurd shown absent⟩
      · exact fun c p v claim => absurd ⟨c, p, v, claim⟩ absent
      · exact ⟨fun _ => ⟨absent, rejected⟩, fun _ => rfl⟩
      · intro _ p v rejection
        obtain ⟨_, same, rfl, rfl⟩ := (incompatible p v).1 rejection
        cases same
        exact ⟨rfl, rfl⟩
      · exact ⟨nofun, fun never => absurd rejected never.2⟩
      · exact nofun
    | none =>
      have never : ¬ ∃ p v, Incompatible history now p v := by
        rintro ⟨p, v, rejection⟩
        obtain ⟨_, same, _⟩ := (incompatible p v).1 rejection
        cases same
      constructor
      · exact ⟨nofun, fun shown => absurd shown absent⟩
      · exact fun c p v claim => absurd ⟨c, p, v, claim⟩ absent
      · exact ⟨nofun, fun rejected => absurd rejected.2 never⟩
      · exact fun _ p v rejection => absurd ⟨p, v, rejection⟩ never
      · exact ⟨fun _ => ⟨absent, never⟩, fun _ => rfl⟩
      · exact fun _ => ⟨rfl, rfl⟩

end History

section Runs

/-- An operation on a station, as one transaction. -/
inductive Act where
  | claim (secret connectionID : String) (protocolVersion : Int) (version : String)
  | renew (connectionID : String)
  | release (connectionID : String)
  | observeRejectedClient (secret : String) (protocolVersion : Option Int) (version : String)
  | update (mutation : StationMutation)
  | rotateKey (secretHash : String)

inductive Event where
  | act (stationID : ID) (act : Act)
  | advance (elapsed : Nat)

/-- The rows, and the time. -/
structure Moment where
  db : Db
  clock : Time

variable (sha256Hex : String → String)

/-- The statements of the operation. -/
def Act.statements (now : Time) (k : ID) : Act → Except Err (List Sql)
  | .claim secret c protocolVersion version => claimClientSession sha256Hex now k secret c protocolVersion version
  | .renew c => .ok [renewSession now k c]
  | .release c => .ok [releaseSession k c]
  | .observeRejectedClient secret protocolVersion version =>
    .ok (Stations.observeRejectedClient sha256Hex now k secret protocolVersion version)
  | .update mutation => .ok (Stations.update now k mutation)
  | .rotateKey secretHash => .ok (Stations.rotateKey now k secretHash)

/-- What the operation means once it is committed; an update that leaves the station enabled means nothing. -/
def Act.happening (now : Time) : Act → Option Happening
  | .claim _ c protocolVersion version => some (.claimed c protocolVersion version now)
  | .renew c => some (.renewed c now)
  | .release c => some (.released c)
  | .observeRejectedClient _ protocolVersion version => some (.rejected protocolVersion version now)
  | .update mutation => if mutation.enabled then none else some .disabled
  | .rotateKey _ => some .rotated

/-- An operation that fails leaves the rows as they were. -/
def Moment.step (s : Moment) : Event → Option Moment
  | .act k act =>
    match transact (act.statements sha256Hex s.clock k) s.db with
    | .ok db => some { s with db }
    | .error _ => some s
  | .advance elapsed => some { s with clock := s.clock + elapsed }

/-- What the label means for the station `k`. -/
def Moment.happening (s : Moment) (k : ID) : Event → Option Happening
  | .act j act =>
    if j = k ∧ (transact (act.statements sha256Hex s.clock j) s.db).toOption.isSome then act.happening s.clock else none
  | .advance _ => none

/-- The history of the station `k` in a run. -/
def Moment.history (k : ID) : Moment → List Event → List Happening
  | _, [] => []
  | s, l :: ls => (s.happening sha256Hex k l).toList ++ ((s.step sha256Hex l).map fun s' => Moment.history k s' ls).getD []

/-- The rows of the station `k`. -/
def Moment.rows (s : Moment) (k : ID) : ClientState := ⟨s.db.sessions.row k, s.db.rejections.row k⟩

variable {sha256Hex} {s t : Moment} {k : ID}

section Effects

variable {j : ID} {now : Time} {d d' : Db}

theorem deletes_ok {statements : List Sql} (h : runStatements (deleteSession j :: deleteRejection j :: statements) d = .ok d') :
    ∃ mid, mid.sessions = d.sessions.erase j ∧ mid.rejections = d.rejections.erase j ∧
      runStatements statements mid = .ok d' := by
  obtain ⟨_, first, deleted, rest⟩ := runStatements_cons_ok.1 h
  cases deleted
  obtain ⟨_, second, deleted, rest⟩ := runStatements_cons_ok.1 rest
  cases deleted
  exact ⟨_, rfl, rfl, rest⟩

/-- A committed claim. -/
theorem rows_claim {secret c version : String} {protocolVersion : Int}
    (h : transact (claimClientSession sha256Hex now j secret c protocolVersion version) d = .ok d') :
    d'.sessions = d.sessions.set j ⟨c, protocolVersion, version, now + stationSessionTTL⟩ ∧
      d'.rejections = d.rejections.erase j := by
  obtain ⟨statements, accepted, ran⟩ := transact_ok.1 h
  unfold claimClientSession at accepted
  split at accepted
  · cases accepted
  cases accepted
  obtain ⟨_, _, locked, rest⟩ := runStatements_cons_ok.1 ran
  obtain ⟨_, _, rfl⟩ := lockStationCredential_ok locked
  obtain ⟨_, _, upserted, rest⟩ := runStatements_cons_ok.1 rest
  obtain ⟨_, rfl⟩ := upsertSession_ok (encodeInteger_ok.1 upserted).2
  obtain ⟨_, _, deleted, rest⟩ := runStatements_cons_ok.1 rest
  cases deleted
  cases rest
  exact ⟨rfl, rfl⟩

/-- A committed observation. -/
theorem rows_observe {secret version : String} {protocolVersion : Option Int}
    (h : runStatements (observeRejectedClient sha256Hex now j secret protocolVersion version) d = .ok d') :
    d'.sessions = d.sessions ∧
      d'.rejections = d.rejections.set j ⟨protocolVersion, version, now + stationRejectionTTL⟩ := by
  obtain ⟨_, _, locked, rest⟩ := runStatements_cons_ok.1 h
  obtain ⟨_, _, rfl⟩ := lockStationCredential_ok locked
  obtain ⟨_, _, upserted, rest⟩ := runStatements_cons_ok.1 rest
  have stored := upsertRejection_ok (encodeInteger_ok.1 upserted).2
  cases rest
  rw [stored]
  exact ⟨rfl, rfl⟩

/-- A committed update clears both rows of a station it disables. -/
theorem rows_update {mutation : StationMutation} (h : runStatements (update now j mutation) d = .ok d') :
    d'.sessions = (if mutation.enabled then d.sessions else d.sessions.erase j) ∧
      d'.rejections = (if mutation.enabled then d.rejections else d.rejections.erase j) := by
  obtain ⟨_, mid, updated, rest⟩ := runStatements_cons_ok.1 h
  obtain ⟨old, _, _, _, _, rfl⟩ := writeStation_ok updated
  split at rest
  · rename_i enabled
    cases rest
    rw [if_pos enabled, if_pos enabled]
    exact ⟨rfl, rfl⟩
  · rename_i disabled
    obtain ⟨mid, sessions, rejections, rest⟩ := deletes_ok rest
    cases rest
    rw [if_neg disabled, if_neg disabled]
    exact ⟨sessions, rejections⟩

/-- A new key clears both rows. -/
theorem rows_rotateKey {secretHash : String} (h : runStatements (rotateKey now j secretHash) d = .ok d') :
    d'.sessions = d.sessions.erase j ∧ d'.rejections = d.rejections.erase j := by
  obtain ⟨_, mid, updated, rest⟩ := runStatements_cons_ok.1 h
  obtain ⟨old, _, _, _, _, rfl⟩ := writeStation_ok updated
  obtain ⟨mid, sessions, rejections, rest⟩ := deletes_ok rest
  cases rest
  exact ⟨sessions, rejections⟩

/-- A release leaves the session of every other connection. -/
theorem rows_release {c : String} (h : runStatements [releaseSession j c] d = .ok d') :
    d'.sessions.row = Function.update d.sessions.row j
      ((d.sessions.row j).filter fun session => !decide (session.connectionID = c)) ∧ d'.rejections = d.rejections := by
  obtain ⟨_, mid, released, rest⟩ := runStatements_cons_ok.1 h
  cases rest
  have rejections : d'.rejections = d.rejections := by
    unfold releaseSession at released
    split at released
    · split at released <;> cases released <;> rfl
    · cases released
      rfl
  refine ⟨funext fun i => ?_, rejections⟩
  rw [(releaseSession_ok released).2 i, Function.update_apply]
  split
  · rename_i same
    rw [same]
  · rfl

end Effects

/-- **What one operation does to the rows of a station.** -/
theorem rows_transact {j : ID} {act : Act} {now : Time} {d d' : Db}
    (h : transact (act.statements sha256Hex now j) d = .ok d') :
    (⟨d'.sessions.row k, d'.rejections.row k⟩ : ClientState) =
      (if j = k then act.happening now else none).toList.foldl ClientState.apply ⟨d.sessions.row k, d.rejections.row k⟩ := by
  cases act with
  | claim secret c protocolVersion version =>
    obtain ⟨sessions, rejections⟩ := rows_claim h
    rw [sessions, rejections, Table.row_set, Table.row_erase]
    by_cases same : j = k
    · rw [if_pos same, if_pos same.symm, if_pos same.symm]
      rfl
    · have other : ¬ k = j := fun eq => same eq.symm
      rw [if_neg same, if_neg other, if_neg other]
      rfl
  | renew c =>
    obtain ⟨_, mid, renewed, rest⟩ := runStatements_cons_ok.1 h
    cases rest
    obtain ⟨session, found, own, _, rfl⟩ := renewSession_ok renewed
    by_cases same : j = k
    · subst same
      rw [if_pos rfl]
      simp [Act.happening, ClientState.apply, found, own]
    · have other : ¬ k = j := fun eq => same eq.symm
      rw [if_neg same]
      simp [Table.row_set_ne _ _ other]
  | release c =>
    obtain ⟨sessions, rejections⟩ := rows_release h
    rw [sessions, rejections, Function.update_apply]
    by_cases same : j = k
    · subst same
      rw [if_pos rfl, if_pos rfl]
      rfl
    · have other : ¬ k = j := fun eq => same eq.symm
      rw [if_neg same, if_neg other]
      rfl
  | observeRejectedClient secret protocolVersion version =>
    obtain ⟨sessions, rejections⟩ := rows_observe h
    rw [sessions, rejections, Table.row_set]
    by_cases same : j = k
    · rw [if_pos same, if_pos same.symm]
      rfl
    · have other : ¬ k = j := fun eq => same eq.symm
      rw [if_neg same, if_neg other]
      rfl
  | update mutation =>
    obtain ⟨sessions, rejections⟩ := rows_update h
    rw [sessions, rejections]
    by_cases same : j = k
    · subst same
      rw [if_pos rfl, Act.happening]
      split
      · rfl
      · rw [Table.row_erase_self, Table.row_erase_self]
        rfl
    · have other : k ≠ j := fun eq => same eq.symm
      rw [if_neg same]
      split
      · rfl
      · rw [Table.row_erase_ne _ other, Table.row_erase_ne _ other]
        rfl
  | rotateKey secretHash =>
    obtain ⟨sessions, rejections⟩ := rows_rotateKey h
    rw [sessions, rejections, Table.row_erase, Table.row_erase]
    by_cases same : j = k
    · rw [if_pos same, if_pos same.symm, if_pos same.symm]
      rfl
    · have other : ¬ k = j := fun eq => same eq.symm
      rw [if_neg same, if_neg other, if_neg other]
      rfl

theorem rows_step {l : Event} (h : s.step sha256Hex l = some t) :
    t.rows k = (s.happening sha256Hex k l).toList.foldl ClientState.apply (s.rows k) := by
  cases l with
  | advance elapsed =>
    cases h
    rfl
  | act j act =>
    simp only [Moment.step] at h
    cases result : transact (act.statements sha256Hex s.clock j) s.db with
    | error e =>
      rw [result] at h
      cases h
      simp [Moment.happening, result, Except.toOption]
    | ok db =>
      rw [result] at h
      cases h
      have happening : s.happening sha256Hex k (.act j act) = if j = k then act.happening s.clock else none := by
        simp [Moment.happening, result, Except.toOption]
      rw [happening]
      exact rows_transact result

/-- The rows of a station are what its history says. -/
theorem rows_run {events : List Event} (h : run (Moment.step sha256Hex) s events = some t) :
    t.rows k = (s.history sha256Hex k events).foldl ClientState.apply (s.rows k) := by
  induction events generalizing s with
  | nil =>
    cases h
    rfl
  | cons l events ih =>
    obtain ⟨s', stepped, rest⟩ := run_cons_iff.1 h
    rw [Moment.history, stepped, Option.map_some, Option.getD_some, List.foldl_append, ← rows_step stepped]
    exact ih rest

end Runs

/-- **A station is shown as its history says**, by `Get` and by every `List`, in every run in which it had neither row at
the start. -/
theorem displayed_by_history (sha256Hex : String → String) (locale : Postgres.DbLocale) {s t : Moment} {events : List Event} {k : ID}
    (start : s.rows k = {}) (h : run (Moment.step sha256Hex) s events = some t) :
    (∀ station, get t.clock k t.db = .ok station →
      Displays (s.history sha256Hex k events) t.clock station.state station.version station.protocolVersion) ∧
    ∀ params items count, list locale t.clock params t.db = .ok (items, count) → ∀ station ∈ items, station.id = k →
      Displays (s.history sha256Hex k events) t.clock station.state station.version station.protocolVersion := by
  have rows : t.rows k = project (s.history sha256Hex k events) := by
    rw [rows_run h, start]
    rfl
  have shows : ∀ station, stationSelect t.clock k t.db = some station →
      Displays (s.history sha256Hex k events) t.clock station.state station.version station.protocolVersion :=
    fun station selected => displays_project selected (congrArg ClientState.session rows) (congrArg ClientState.rejection rows)
  constructor
  · intro station got
    unfold get at got
    split at got
    · rename_i found selected
      cases got
      exact shows station selected
    · cases got
  · rintro params items count listed station mem rfl
    exact shows station (stationSelect_of_list listed mem)

/-- A client is refused, another one claims the station and renews, and a late release takes nothing away. -/
def deskEvents : List Event := [
  .act 1 (.observeRejectedClient "wgst_a" none "0.9"), .advance 1000000, .act 1 (.claim "wgst_a" "c" 1 "1.0"),
  .advance 14000000, .act 1 (.renew "c"), .act 1 (.release "b"), .advance 14000000]

theorem displayed_by_history_desk : ∃ t, run (Moment.step sampleHash) ⟨sampleDb, 0⟩ deskEvents = some t ∧
    ∃ station, get t.clock 1 t.db = .ok station ∧ ∃ c p v, Online (Moment.history sampleHash 1 ⟨sampleDb, 0⟩ deskEvents) t.clock c p v ∧
      station.version = v ∧ station.protocolVersion = some p := by
  have ends : (run (Moment.step sampleHash) ⟨sampleDb, 0⟩ deskEvents).map (fun t =>
      (get t.clock 1 t.db).toOption.map Station.state) = some (some .online) := by decide +kernel
  obtain ⟨t, ran, shown⟩ := Option.map_eq_some_iff.1 ends
  obtain ⟨station, got, state⟩ := Option.map_eq_some_iff.1 shown
  have displays := (displayed_by_history sampleHash .c (k := 1) rfl ran).1 station (Results.toOption_eq_some.1 got)
  obtain ⟨c, p, v, online⟩ := displays.online_iff.1 state
  exact ⟨t, ran, station, Results.toOption_eq_some.1 got, c, p, v, online, displays.online c p v online⟩

end Woodgate.Stations
