import Woodgate.Library.Runs
import Woodgate.Stations.Wiring

/-!
# Takeovers

PostgreSQL orders the claims of a station, the hub's mutex orders the registrations, and
nothing ties the two orders together. A device that claims first and registers last takes
the map entry of the connection that holds the session and closes it
(`older_claimant_wins`). That is the only way to lose it: in a run in which no
registration replaces the holder of the session (`Server.KeepsHolder`), map and table
agree about every station that is settled (`hub_agrees`).
-/

namespace Woodgate.Stations

open Library Library.ReadCommitted Library.Runs

namespace Server

/-- No step is the registration of a connection over the one that holds the session. -/
def KeepsHolder (s : Server) : ServeLabel → Prop
  | .register c => ∀ station session, s.connects c = .claimed station →
      s.db.sessions.row station.id = some session → s.hub.conns station.id ≠ some session.connectionID
  | _ => True

/-- What holds between any two steps of such a run, beside the wiring. -/
structure Owned (s : Server) : Prop where
  running : s.hub.closed = false
  /-- a session row belongs to a serve that has not released it -/
  live : ∀ k session, s.db.sessions.row k = some session → ∃ station, station.id = k ∧
    (s.connects session.connectionID = .claimed station ∨
      s.connects session.connectionID = .registered station ∨
      s.connects session.connectionID = .removed station)
  /-- a registered holder of a session still has its map entry and its socket -/
  holder : ∀ k session station, s.db.sessions.row k = some session →
    s.connects session.connectionID = .registered station →
    s.hub.conns k = some session.connectionID ∧ ¬ s.Replaced session.connectionID

theorem Owned.init (d : Db) (clock : Time) (build : String) (empty : ∀ k, d.sessions.row k = none) :
    Owned (Server.init d clock build) where
  running := rfl
  live k _ found := by
    have absent : (Server.init d clock build).db.sessions.row k = none := empty k
    rw [absent] at found
    cases found
  holder k _ _ found := by
    have absent : (Server.init d clock build).db.sessions.row k = none := empty k
    rw [absent] at found
    cases found

/-- Nothing half done leaves only the registered holder. -/
theorem Owned.agrees {s : Server} {k : ID} (h : Owned s) (settled : s.Settled k) : s.Agrees k := by
  intro session found
  obtain ⟨station, same, claimed | registered | removed⟩ := h.live k session found
  · exact absurd claimed (settled _ station same).1
  · exact h.holder k session station found registered
  · exact absurd removed (settled _ station same).2

section Steps

variable {sha256Hex : String → String} {s s' : Server} {c : String} {station : Station}

/-- The holder of a session of station `k` is a serve of station `k`. -/
theorem Owned.station_of_holder {k : ID} {session : SessionRow} (h : Owned s) (row : s.db.sessions.row k = some session)
    (phase : s.connects session.connectionID = .claimed station ∨
      s.connects session.connectionID = .registered station ∨
      s.connects session.connectionID = .removed station) : station.id = k := by
  obtain ⟨owner, same, live⟩ := h.live k session row
  have eq : owner = station := by
    rcases phase with phase | phase | phase <;> rw [phase] at live <;>
      rcases live with live | live | live <;> cases live <;> rfl
  rw [← eq, same]

/-- A step that keeps the map, the phases and whose session each row is. -/
theorem Owned.of_same (h : Owned s) (running : s'.hub.closed = s.hub.closed) (conns : s'.hub.conns = s.hub.conns)
    (connects : s'.connects = s.connects)
    (rows : ∀ k session, s'.db.sessions.row k = some session → ∃ old, s.db.sessions.row k = some old ∧
      old.connectionID = session.connectionID)
    (replaced : ∀ c, s'.Replaced c → s.Replaced c) : Owned s' where
  running := running.trans h.running
  live k session found := by
    obtain ⟨old, found, same⟩ := rows k session found
    rw [connects, ← same]
    exact h.live k old found
  holder k session station found registered := by
    obtain ⟨old, found, same⟩ := rows k session found
    rw [connects, ← same] at registered
    rw [conns, ← same]
    obtain ⟨entry, kept⟩ := h.holder k old station found registered
    exact ⟨entry, fun closed => kept (replaced _ closed)⟩

/-- A method call on a connection that is no takeover. -/
theorem Owned.modify (h : Owned s) {f : ControlConnection → ControlConnection}
    (closes : ∀ connection, "replaced by a new connection" ∈ (f connection).closes →
      "replaced by a new connection" ∈ connection.closes) :
    Owned { s with hub := s.hub.modify c f } := by
  refine h.of_same rfl rfl rfl ?_ ?_
  · intro k session found
    exact ⟨session, found, rfl⟩
  · rintro p ⟨connection, found, replaced⟩
    by_cases same : p = c
    · subst same
      have called : (s.hub.modify p f).connections p = _ := Hub.modify_connections_self
      obtain ⟨before, found', rfl⟩ := Option.map_eq_some_iff.1 (called.symm.trans found)
      exact ⟨before, found', closes before replaced⟩
    · exact ⟨connection, (Hub.modify_connections_ne same).symm.trans found, replaced⟩

/-- A connection that holds no session moves between phases that have no entry. -/
theorem Owned.set (h : Owned s) {phase : Connect} (was : ∀ station, s.connects c ≠ .claimed station ∧
      s.connects c ≠ .registered station ∧ s.connects c ≠ .removed station)
    (now : ∀ station, phase ≠ .registered station) : Owned (s.set c phase) where
  running := h.running
  live k session found := by
    obtain ⟨station, own, phases⟩ := h.live k session found
    have other : session.connectionID ≠ c := by
      intro same
      rw [same] at phases
      rcases phases with phase | phase | phase
      · exact (was station).1 phase
      · exact (was station).2.1 phase
      · exact (was station).2.2 phase
    refine ⟨station, own, ?_⟩
    rwa [set_connects_ne other]
  holder k session station found registered := by
    by_cases same : session.connectionID = c
    · rw [same, set_connects_self] at registered
      exact absurd registered (now station)
    · rw [set_connects_ne same] at registered
      exact h.holder k session station found registered

theorem Owned.claim {secret version : String} {db : Db} (h : Owned s)
    (was : s.connects c = .authenticated station secret)
    (committed : transact (claimClientSession sha256Hex s.clock station.id secret c protocolVersion version) s.db =
      .ok db) : Owned ({ s with db }.set c (.claimed station)) := by
  have moved : Owned (s.set c (.claimed station)) :=
    h.set (fun station => by simp [was]) (fun _ => Connect.noConfusion)
  cases accepted : claimClientSession sha256Hex s.clock station.id secret c protocolVersion version with
  | error e => simp [transact, accepted, bind, Except.bind] at committed
  | ok statements =>
    simp only [transact, accepted, bind, Except.bind] at committed
    obtain ⟨_, sessions, _, _⟩ := claimClientSession_ok accepted committed
    -- at the station itself the session is now the claimant's, which is not registered yet
    have phase : ({ s with db }.set c (.claimed station)).connects c = .claimed station := set_connects_self
    refine ⟨moved.running, fun k session found => ?_, fun k session owner found => ?_⟩
    · have found : (s.db.sessions.set station.id _).row k = some session := sessions ▸ found
      by_cases same : k = station.id
      · subst same
        rw [Table.row_set_self] at found
        cases found
        exact ⟨station, rfl, .inl phase⟩
      · rw [Table.row_set_ne _ _ same] at found
        exact moved.live k session found
    · have found : (s.db.sessions.set station.id _).row k = some session := sessions ▸ found
      by_cases same : k = station.id
      · subst same
        rw [Table.row_set_self] at found
        cases found
        intro registered
        rw [phase] at registered
        cases registered
      · rw [Table.row_set_ne _ _ same] at found
        exact moved.holder k session owner found

/-- The registration that replaces nobody's session keeps map and table together. -/
theorem Owned.register {hub : Hub} (wired : Wired s) (h : Owned s) (was : s.connects c = .claimed station)
    (keeps : s.KeepsHolder (.register c)) (registered : s.hub.register (newConnection c station) = (hub, true)) :
    Owned ({ s with hub }.set c (.registered station)) := by
  have hub_eq : hub = (s.hub.register (newConnection c station)).1 := by rw [registered]
  have conns : hub.conns = Function.update s.hub.conns station.id (some c) := by
    rw [hub_eq, Hub.register_conns h.running]
    rfl
  constructor
  · show hub.closed = false
    rw [hub_eq, Hub.register_closed h.running]
  · intro k session found
    by_cases eq : session.connectionID = c
    · have same := h.station_of_holder found (.inl (eq.symm ▸ was))
      exact ⟨station, same, .inr (.inl (eq.symm ▸ set_connects_self))⟩
    · obtain ⟨owner, same, entry⟩ := h.live k session found
      exact ⟨owner, same, by rwa [set_connects_ne eq]⟩
  · intro k session owner found entry
    by_cases eq : session.connectionID = c
    · have same := h.station_of_holder found (.inl (eq.symm ▸ was))
      refine ⟨?_, ?_⟩
      · show hub.conns k = some session.connectionID
        rw [conns, ← same, Function.update_self, eq]
      · rintro ⟨connection, stored, closed⟩
        have own : hub.connections c = some (newConnection c station) := by
          rw [hub_eq]
          exact Hub.register_connections_self h.running (wired.not_entry (c := c) (by simp [was]) _)
        rw [eq] at stored
        cases own.symm.trans stored
        cases closed
    · rw [set_connects_ne eq] at entry
      obtain ⟨kept, open_⟩ := h.holder k session owner found entry
      have elsewhere : k ≠ station.id := by
        rintro rfl
        exact keeps station session was found kept
      have not_replaced : s.hub.conns station.id ≠ some session.connectionID := by
        intro replaced
        obtain ⟨_, entry', station_eq⟩ := wired.entry _ _ replaced
        rw [entry] at entry'
        cases entry'
        exact elsewhere ((h.station_of_holder found (.inr (.inl entry))).symm.trans station_eq)
      refine ⟨?_, ?_⟩
      · show hub.conns k = some session.connectionID
        rw [conns, Function.update_of_ne elsewhere, kept]
      · rintro ⟨connection, stored, closed⟩
        have stored : hub.connections session.connectionID = some connection := stored
        rw [hub_eq, Hub.register_connections_ne eq not_replaced] at stored
        exact open_ ⟨connection, stored, closed⟩

theorem Owned.unregister {connection : ControlConnection} (wired : Wired s) (h : Owned s)
    (was : s.connects c = .registered station) (found : s.hub.connections c = some connection) :
    Owned ({ s with hub := s.hub.unregister connection }.set c (.removed station)) := by
  obtain ⟨connection', found', id, own⟩ := wired.stored c station was
  cases found.symm.trans found'
  constructor
  · show (s.hub.unregister connection).closed = false
    rw [Hub.unregister_closed, h.running]
  · intro k session row
    by_cases eq : session.connectionID = c
    · have same := h.station_of_holder row (.inr (.inl (eq.symm ▸ was)))
      exact ⟨station, same, .inr (.inr (eq.symm ▸ set_connects_self))⟩
    · obtain ⟨owner, same, live⟩ := h.live k session row
      exact ⟨owner, same, by rwa [set_connects_ne eq]⟩
  · intro k session owner row registered
    have ne : session.connectionID ≠ c := by
      intro eq
      rw [eq, set_connects_self] at registered
      cases registered
    rw [set_connects_ne ne] at registered
    obtain ⟨entry, open_⟩ := h.holder k session owner row registered
    refine ⟨Hub.unregister_conns_eq_some.2 ⟨entry, fun same => ne (same.2.trans id)⟩, ?_⟩
    rintro ⟨stored, stored_eq, closed⟩
    have stored_eq : (s.hub.unregister connection).connections session.connectionID = some stored := stored_eq
    rw [Hub.unregister_connections] at stored_eq
    exact open_ ⟨stored, stored_eq, closed⟩

theorem Owned.release {asked : List (RowKey × LockMode)} {db : Db} (h : Owned s)
    (was : s.connects c = .removed station) (released : releaseSession station.id c s.db = .ok (asked, db)) :
    Owned ({ s with db }.set c .finished) := by
  obtain ⟨-, sessions⟩ := releaseSession_ok released
  -- a row that is left was there before and is not the released one
  have rows : ∀ k session, db.sessions.row k = some session →
      s.db.sessions.row k = some session ∧ session.connectionID ≠ c := by
    intro k session row
    have before : s.db.sessions.row k = some session := by
      rw [sessions k] at row
      split at row
      · exact (Option.filter_eq_some_iff.1 row).1
      · exact row
    refine ⟨before, fun eq => ?_⟩
    have same := h.station_of_holder before (.inr (.inr (eq.symm ▸ was)))
    rw [sessions k, if_pos same.symm, before, Option.filter_eq_some_iff] at row
    simp [eq] at row
  constructor
  · exact h.running
  · intro k session row
    obtain ⟨before, ne⟩ := rows k session row
    obtain ⟨owner, same, live⟩ := h.live k session before
    exact ⟨owner, same, by rwa [set_connects_ne ne]⟩
  · intro k session owner row registered
    obtain ⟨before, ne⟩ := rows k session row
    rw [set_connects_ne ne] at registered
    exact h.holder k session owner before registered

theorem Owned.renew {now : Time} {asked : List (RowKey × LockMode)} {db : Db} (h : Owned s)
    (renewed : renewSession now station.id c s.db = .ok (asked, db)) : Owned { s with db } := by
  obtain ⟨old, found, _, _, rfl⟩ := renewSession_ok renewed
  refine h.of_same rfl rfl rfl (fun k session row => ?_) fun _ => id
  by_cases same : k = station.id
  · subst same
    have row : (s.db.sessions.set station.id _).row station.id = some session := row
    rw [Table.row_set_self] at row
    cases row
    exact ⟨old, found, rfl⟩
  · have row : (s.db.sessions.set station.id _).row k = some session := row
    rw [Table.row_set_ne _ _ same] at row
    exact ⟨session, row, rfl⟩

/-- One step of a run in which no registration replaces the holder of a session. -/
theorem Owned.step {l : ServeLabel} (wired : Wired s) (h : Owned s) (keeps : s.KeepsHolder l)
    (stepped : Server.step sha256Hex s l = some s') : Owned s' := by
  cases l with
  | authenticate c secret =>
    simp only [Server.step] at stepped
    split at stepped
    · rename_i idle _
      cases stepped
      exact h.set (fun station => by simp [idle]) fun _ => Connect.noConfusion
    · cases stepped
  | claim c version =>
    simp only [Server.step] at stepped
    split at stepped
    · rename_i station secret was
      split at stepped
      · rename_i db committed
        cases stepped
        exact h.claim was committed
      · cases stepped
        exact h.set (fun station => by simp [was]) fun _ => Connect.noConfusion
    · cases stepped
  | register c =>
    simp only [Server.step] at stepped
    split at stepped
    · rename_i station was
      split at stepped
      · rename_i hub registered
        cases stepped
        exact h.register wired was keeps registered
      · rename_i refused
        have taken := Hub.register_ok (newConnection c station) h.running
        rw [refused] at taken
        cases taken
    · cases stepped
  | hello c =>
    simp only [Server.step] at stepped
    split at stepped
    · cases stepped
      exact h.modify fun connection => ControlConnection.mem_closes_of_enqueue (by decide)
    · cases stepped
  | write c =>
    simp only [Server.step] at stepped
    split at stepped
    · cases stepped
      exact h.modify fun connection => id
    · cases stepped
  | renew c =>
    simp only [Server.step] at stepped
    split at stepped
    · split at stepped
      · rename_i renewed
        cases stepped
        exact h.renew renewed
      · cases stepped
        refine h.modify fun connection closed => ?_
        rcases List.mem_append.1 closed with closed | closed
        · exact closed
        · simp at closed
    · cases stepped
  | unregister c =>
    simp only [Server.step] at stepped
    split at stepped
    · rename_i was found
      cases stepped
      exact h.unregister wired was found
    · cases stepped
  | release c =>
    simp only [Server.step] at stepped
    split at stepped
    · rename_i was
      split at stepped
      · rename_i released
        cases stepped
        exact h.release was released
      · cases stepped
    · cases stepped
  | tick =>
    cases stepped
    exact h.of_same rfl rfl rfl (fun k session found => ⟨session, found, rfl⟩) fun _ => id

end Steps

/-- **Hub and table agree.** In every run from an idle process in which no registration
replaces the connection that holds the session, each station that is settled and has a
session row has that row's connection in the hub, and no registration closed it. -/
theorem hub_agrees (sha256Hex : String → String) (d : Db) (clock : Time) (build : String) (labels : List ServeLabel)
    (s : Server) (empty : ∀ k, d.sessions.row k = none)
    (guarded : Guarded (step sha256Hex) KeepsHolder (init d clock build) labels)
    (reached : run (step sha256Hex) (init d clock build) labels = some s) (k : ID) (settled : s.Settled k) :
    s.Agrees k :=
  have invariant := guarded.run_invariant (fun s => Wired s ∧ Owned s)
    (fun _ _ _ h keeps stepped => ⟨h.1.step stepped, h.2.step h.1 keeps stepped⟩)
    ⟨Wired.init d clock build, Owned.init d clock build empty⟩ reached
  invariant.2.agrees settled

/-- One device that connects. -/
def connection : List ServeLabel :=
  [.authenticate "a" "wgst_a", .claim "a" "1.0", .register "a"]

theorem hub_agrees_connection :
    ∃ s session, run (step sampleHash) (init sampleDb 0 "1.0") connection = some s ∧
      s.db.sessions.row 1 = some session ∧ s.hub.conns 1 = some session.connectionID := by
  have ends : ((run (step sampleHash) (init sampleDb 0 "1.0") connection).any fun s =>
      (s.db.sessions.row 1).isSome && (s.connects "a").isRegistered) = true := by decide
  -- the station has no entry when `a` registers
  have free : ((run (step sampleHash) (init sampleDb 0 "1.0") (connection.take 2)).all fun s =>
      (s.connects "a").stationID.all fun id => (s.hub.conns id).isNone) = true := by decide
  have guarded : Guarded (step sampleHash) KeepsHolder (init sampleDb 0 "1.0") connection := by
    refine ⟨trivial, fun s₁ first => ⟨trivial, fun s₂ second => ⟨fun station session claimed _ => ?_, fun _ _ => trivial⟩⟩⟩
    have two : run (step sampleHash) (init sampleDb 0 "1.0") (connection.take 2) = some s₂ :=
      run_cons_iff.2 ⟨s₁, first, run_cons_iff.2 ⟨s₂, second, rfl⟩⟩
    rw [two] at free
    simp only [Option.all_some, claimed, Connect.stationID, Option.isNone_iff_eq_none] at free
    simp [free]
  obtain ⟨s, reached, ends⟩ := (Option.any_eq_true _ _).1 ends
  rw [Bool.and_eq_true] at ends
  obtain ⟨session, found⟩ := Option.isSome_iff_exists.1 ends.1
  have settled : s.Settled 1 := by
    intro c station _
    by_cases isA : c = "a"
    · subst isA
      constructor <;> intro phase <;> simp [phase, Connect.isRegistered] at ends
    · have idle : s.connects c = .idle := by
        apply run_connects _ reached
        simp [connection, ServeLabel.connection, Ne.symm isA]
      simp [idle]
  have agrees := hub_agrees sampleHash sampleDb 0 "1.0" connection s (fun _ => rfl) guarded reached 1 settled
  exact ⟨s, session, reached, found, (agrees session found).1⟩

/-- Two devices with one key: `a` claims first and registers last. -/
def lateRegistration : List ServeLabel :=
  [.authenticate "a" "wgst_a", .authenticate "b" "wgst_a", .claim "a" "1.0", .claim "b" "1.0",
    .register "b", .register "a"]

/-- The connection that made the last claim is closed by the older claimant, which keeps
the map entry while the table names the other. -/
theorem older_claimant_wins :
    ∃ s, run (step sampleHash) (init sampleDb 0 "1.0") lateRegistration = some s ∧ s.Settled 1 ∧ ¬ s.Agrees 1 := by
  have ends : ((run (step sampleHash) (init sampleDb 0 "1.0") lateRegistration).any fun s =>
      decide (s.hub.conns 1 = some "a") && (s.db.sessions.row 1).any (fun row => row.connectionID = "b") &&
      (s.connects "a").isRegistered && (s.connects "b").isRegistered) = true := by decide
  obtain ⟨s, reached, ends⟩ := (Option.any_eq_true _ _).1 ends
  simp only [Bool.and_eq_true, decide_eq_true_eq] at ends
  obtain ⟨⟨⟨entry, row⟩, a⟩, b⟩ := ends
  refine ⟨s, reached, ?_, ?_⟩
  · intro c station _
    have registered : (s.connects c).isRegistered = true ∨ s.connects c = .idle := by
      by_cases isA : c = "a"
      · exact .inl (isA ▸ a)
      · by_cases isB : c = "b"
        · exact .inl (isB ▸ b)
        · refine .inr (run_connects ?_ reached)
          simp [lateRegistration, ServeLabel.connection, Ne.symm isA, Ne.symm isB]
    constructor
    · intro phase
      simp [phase, Connect.isRegistered] at registered
    · intro phase
      simp [phase, Connect.isRegistered] at registered
  · intro agrees
    obtain ⟨session, found, holder⟩ := (Option.any_eq_true _ _).1 row
    have own := (agrees session found).1
    rw [entry, of_decide_eq_true holder] at own
    exact absurd own (by decide)

end Server

end Woodgate.Stations
