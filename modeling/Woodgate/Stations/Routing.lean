import Woodgate.Stations.Wiring
import Woodgate.Stations.Notifications

/-!
# Routing configuration changes

The cached location of a registered connection goes wrong in two places: a device that
registers with a row read before an update whose notification has already run, and an
update that notifies with a row read before a later update whose notification has
already run. Where neither happens (`Process.KeepsRouting`) the copy is the station's
location, or a notification that will correct it is still to come (`Routed`).
-/

namespace Woodgate.Stations

open Library Library.ReadCommitted Library.Runs

section Hub

variable {h : Hub} {k : ID} {c : String} {connection : ControlConnection}

/-- The connection of `k` was there before, with the location it has. -/
def Hub.HadLocation (h : Hub) (k : ID) (connection : ControlConnection) : Prop :=
  ∃ old, h.Registered k old ∧ old.locationID = connection.locationID

theorem Hub.Registered.hadLocation (registered : h.Registered k connection) : h.HadLocation k connection :=
  ⟨connection, registered, rfl⟩

theorem Hub.hadLocation_of_modify {f : ControlConnection → ControlConnection}
    (keeps : ∀ connection, (f connection).locationID = connection.locationID)
    (registered : (h.modify c f).Registered k connection) : h.HadLocation k connection := by
  obtain ⟨p, entry, found⟩ := registered
  by_cases same : p = c
  · subst same
    rw [Hub.modify_connections_self] at found
    obtain ⟨old, before, rfl⟩ := Option.map_eq_some_iff.1 found
    exact ⟨old, ⟨p, entry, before⟩, (keeps old).symm⟩
  · rw [Hub.modify_connections_ne same] at found
    exact ⟨connection, ⟨p, entry, found⟩, rfl⟩

theorem Hub.hadLocation_of_unregister {gone : ControlConnection}
    (registered : (h.unregister gone).Registered k connection) : h.HadLocation k connection := by
  obtain ⟨p, entry, found⟩ := registered
  rw [Hub.unregister_connections] at found
  exact ⟨connection, ⟨p, (Hub.unregister_conns_eq_some.1 entry).1, found⟩, rfl⟩

theorem Hub.hadLocation_of_location {locationID : ID}
    (registered : (h.configurationChangedForLocation locationID).Registered k connection) :
    h.HadLocation k connection := by
  obtain ⟨p, entry, found⟩ := registered
  obtain ⟨old, before, rfl⟩ := Option.map_eq_some_iff.1 found
  refine ⟨old, ⟨p, entry, before⟩, ?_⟩
  split
  · exact (ControlConnection.enqueue_locationID _ _).symm
  · rfl

theorem Hub.hadLocation_of_disconnect {j : ID} {reason : String}
    (registered : (h.disconnect j reason).Registered k connection) : k ≠ j ∧ h.HadLocation k connection := by
  have ne : k ≠ j := by
    rintro rfl
    obtain ⟨p, entry, _⟩ := registered
    rw [Hub.disconnect_conns_self] at entry
    cases entry
  refine ⟨ne, ?_⟩
  unfold Hub.disconnect at registered
  split at registered
  · obtain ⟨old, ⟨q, entry, found⟩, same⟩ := Hub.hadLocation_of_modify
      (fun connection => ControlConnection.close_locationID reason connection) registered
    have before : h.conns k = some q := (Function.update_of_ne ne ..).symm.trans entry
    exact ⟨old, ⟨q, before, found⟩, same⟩
  · exact registered.hadLocation

end Hub

namespace Server

variable {sha256Hex : String → String} {s s' : Server} {k : ID} {connection : ControlConnection} {l : ServeLabel}

/-- No step of a serve touches a station's row. -/
theorem step_stations (stepped : step sha256Hex s l = some s') : s'.db.stations = s.db.stations := by
  cases l with
  | claim c version =>
    simp only [step] at stepped
    split at stepped
    · rename_i station secret _
      split at stepped
      · rename_i db committed
        cases stepped
        cases accepted : claimClientSession sha256Hex s.clock station.id secret c protocolVersion version with
        | error e => simp [transact, accepted, bind, Except.bind] at committed
        | ok statements =>
          simp only [transact, accepted, bind, Except.bind] at committed
          exact (claimClientSession_ok accepted committed).2.2.1
      · cases stepped
        rfl
    · cases stepped
  | renew c =>
    simp only [step] at stepped
    split at stepped
    · split at stepped
      · rename_i renewed
        cases stepped
        obtain ⟨_, _, _, _, rfl⟩ := renewSession_ok renewed
        rfl
      · cases stepped
        rfl
    · cases stepped
  | release c =>
    simp only [step] at stepped
    split at stepped
    · split at stepped
      · rename_i released
        cases stepped
        exact (releaseSession_ok released).1
      · cases stepped
    · cases stepped
  | authenticate | register | hello | write | unregister =>
    simp only [step] at stepped
    repeat' split at stepped
    all_goals cases stepped
    all_goals rfl
  | tick =>
    cases stepped
    rfl

/-- A registered connection has the location it had, or the one it authenticated with. -/
theorem step_registered (wired : Wired s) (stepped : step sha256Hex s l = some s')
    (registered : s'.hub.Registered k connection) :
    s.hub.HadLocation k connection ∨
      ∃ c station, l = .register c ∧ s.connects c = .claimed station ∧ k = station.id ∧
        connection.locationID = station.locationID := by
  cases l with
  | register c =>
    simp only [step] at stepped
    split at stepped
    · rename_i station was
      split at stepped
      · rename_i hub accepted
        cases stepped
        have running := Hub.running_of_register accepted
        have hub_eq : hub = (s.hub.register (newConnection c station)).1 := by rw [accepted]
        have free := wired.not_entry (c := c) (by simp [was])
        obtain ⟨p, entry, found⟩ := registered
        have entry : hub.conns k = some p := entry
        have found : hub.connections p = some connection := found
        rw [hub_eq, Hub.register_conns running] at entry
        by_cases same : k = station.id
        · subst same
          have own : p = c := Option.some.inj ((Function.update_self ..).symm.trans entry).symm
          rw [own, hub_eq] at found
          have stored : (s.hub.register (newConnection c station)).1.connections c = some (newConnection c station) :=
            Hub.register_connections_self running (free _)
          cases stored.symm.trans found
          exact .inr ⟨c, station, rfl, was, rfl, rfl⟩
        · have before : s.hub.conns k = some p := (Function.update_of_ne same ..).symm.trans entry
          have ne : p ≠ c := fun eq => free k (eq ▸ before)
          have kept := Hub.register_connections_cases (newConnection c station) running ne
          rw [← hub_eq, found] at kept
          rcases kept with kept | closed
          · exact .inl ⟨connection, ⟨p, before, kept.symm⟩, rfl⟩
          · obtain ⟨old, stored, rfl⟩ := Option.map_eq_some_iff.1 closed.symm
            exact .inl ⟨old, ⟨p, before, stored⟩, rfl⟩
      · cases stepped
        exact .inl registered.hadLocation
    · cases stepped
  | hello c =>
    simp only [step] at stepped
    split at stepped
    · cases stepped
      exact .inl (Hub.hadLocation_of_modify (fun connection => ControlConnection.enqueue_locationID _ _) registered)
    · cases stepped
  | write c =>
    simp only [step] at stepped
    split at stepped
    · cases stepped
      refine .inl (Hub.hadLocation_of_modify ?_ registered)
      exact fun _ => rfl
    · cases stepped
  | renew c =>
    simp only [step] at stepped
    split at stepped
    · split at stepped
      · cases stepped
        exact .inl registered.hadLocation
      · cases stepped
        refine .inl (Hub.hadLocation_of_modify ?_ registered)
        exact fun _ => rfl
    · cases stepped
  | unregister c =>
    simp only [step] at stepped
    split at stepped
    · cases stepped
      exact .inl (Hub.hadLocation_of_unregister registered)
    · cases stepped
  | authenticate | claim | release =>
    simp only [step] at stepped
    repeat' split at stepped
    all_goals cases stepped
    all_goals exact .inl registered.hadLocation
  | tick =>
    cases stepped
    exact .inl registered.hadLocation

end Server

namespace Process

/-- No device registers with another location than its station's, unless an update of the
station has still to notify; and no update routes a registered connection to another
location than its station's, unless another update has still to notify. -/
def KeepsRouting (s : Process) : ProcessLabel → Prop
  | .serve (.register c) => ∀ station row, s.server.connects c = .claimed station →
      s.db.stations.row station.id = some row → row.locationID = station.locationID ∨ s.Pending station.id
  | .updateNotify u => ∀ updated row connection, s.updates u = some (.read updated) → updated.enabled = true →
      s.hub.Registered updated.id connection → s.db.stations.row updated.id = some row →
      row.locationID = updated.locationID ∨ ∃ v update, v ≠ u ∧ s.updates v = some update ∧ update.id = updated.id
  | _ => True

/-- A registered connection is routed by its station's location, or will be told. -/
structure Routed (s : Process) : Prop where
  wired : s.server.Wired
  cached : ∀ k connection row, s.hub.Registered k connection → s.db.stations.row k = some row →
    connection.locationID = row.locationID ∨ s.Pending k

theorem Routed.init (d : Db) (clock : Time) (build : String) : Routed (Process.init d clock build) where
  wired := Server.Wired.init d clock build
  cached _ _ _ registered := by
    obtain ⟨_, entry, _⟩ := registered
    cases entry

theorem Routed.inSync {s : Process} (h : Routed s) (quiescent : s.Quiescent) : s.InSync := by
  intro k connection row registered found
  refine (h.cached k connection row registered found).resolve_right ?_
  rintro ⟨u, update, pending, _⟩
  rw [quiescent.2 u] at pending
  cases pending

variable {sha256Hex : String → String} {s s' : Process}

theorem Routed.serve {l : ServeLabel} {server : Server} (h : Routed s) (keeps : s.KeepsRouting (.serve l))
    (stepped : s.server.step sha256Hex l = some server) : Routed { s with server } where
  wired := h.wired.step stepped
  cached k connection row registered found := by
    have found : server.db.stations.row k = some row := found
    rw [Server.step_stations stepped] at found
    rcases Server.step_registered h.wired stepped registered with ⟨old, before, same⟩ | ⟨c, station, rfl, was, rfl, same⟩
    · rw [← same]
      exact h.cached k old row before found
    · rw [same]
      exact (keeps station row was found).imp Eq.symm id

/-- An update moves its own station only, and is pending from then on. -/
theorem Routed.updateCommit {u : Nat} {id : ID} {mutation : StationMutation} {db : Db} (h : Routed s)
    (free : s.updates u = none)
    (committed : transact (.ok (update s.server.clock id mutation)) s.db = .ok db) :
    Routed { s with server := { s.server with db }, updates := Function.update s.updates u (some (.committed id)) } where
  wired := ⟨h.wired.entry, h.wired.stored⟩
  cached k connection row registered found := by
    obtain ⟨old, _, stations⟩ := update_ok committed
    by_cases same : k = id
    · exact .inr ⟨u, .committed id, Function.update_self .., same.symm⟩
    · have before : s.db.stations.row k = some row := by
        have found : db.stations.row k = some row := found
        rwa [stations, Table.row_set_ne _ _ same] at found
      rcases h.cached k connection row registered before with same | ⟨v, update, pending, own⟩
      · exact .inl same
      · have ne : v ≠ u := fun eq => by simp [eq, free] at pending
        exact .inr ⟨v, update, (Function.update_of_ne ne ..).trans pending, own⟩

theorem Routed.updateRead {u : Nat} {id : ID} {updated : Station} (h : Routed s)
    (was : s.updates u = some (.committed id)) (own : updated.id = id) :
    Routed { s with updates := Function.update s.updates u (some (.read updated)) } where
  wired := h.wired
  cached k connection row registered found := by
    rcases h.cached k connection row registered found with same | ⟨v, update, pending, of⟩
    · exact .inl same
    · by_cases eq : v = u
      · subst eq
        rw [was] at pending
        cases pending
        exact .inr ⟨v, .read updated, Function.update_self .., own.trans of⟩
      · exact .inr ⟨v, update, (Function.update_of_ne eq ..).trans pending, of⟩

/-- The notification of an update leaves its station's connection with the location the
update read, or gone. -/
theorem registered_of_notify {updated : Station} {k : ID} {connection : ControlConnection} (wired : s.server.Wired)
    (registered : (notify s.hub updated).Registered k connection) :
    (k ≠ updated.id ∧ s.hub.HadLocation k connection) ∨
      (k = updated.id ∧ updated.enabled = true ∧ connection.locationID = updated.locationID ∧
        ∃ old, s.hub.Registered k old) := by
  unfold notify at registered
  split at registered
  · rename_i enabled
    obtain ⟨p, entry, found⟩ := registered
    rw [Hub.configurationChanged_conns] at entry
    unfold Hub.configurationChanged at found
    split at found
    · rename_i q own
      by_cases same : k = updated.id
      · subst same
        cases own.symm.trans entry
        rw [Hub.modify_connections_self] at found
        obtain ⟨old, before, rfl⟩ := Option.map_eq_some_iff.1 found
        exact .inr ⟨rfl, enabled, ControlConnection.enqueue_locationID _ _, old, p, entry, before⟩
      · have ne : p ≠ q := by
          rintro rfl
          obtain ⟨_, phase, of⟩ := wired.entry _ _ entry
          obtain ⟨_, phase', of'⟩ := wired.entry _ _ own
          rw [phase] at phase'
          cases phase'
          exact same (of.symm.trans of')
        rw [Hub.modify_connections_ne ne] at found
        exact .inl ⟨same, connection, ⟨p, entry, found⟩, rfl⟩
    · rename_i absent
      have ne : k ≠ updated.id := by
        rintro rfl
        rw [absent] at entry
        cases entry
      exact .inl ⟨ne, connection, ⟨p, entry, found⟩, rfl⟩
  · exact .inl (Hub.hadLocation_of_disconnect registered)

theorem wired_notify (wired : s.server.Wired) (updated : Station) :
    Server.Wired { s.server with hub := notify s.hub updated } := by
  unfold notify
  split
  · refine wired.of_same (fun k c => ?_) rfl ?_
    · show (s.hub.configurationChanged updated.id updated.locationID).conns k = some c → _
      rw [Hub.configurationChanged_conns]
      exact id
    · show ∀ c connection, s.hub.connections c = some connection → ∃ connection',
        (s.hub.configurationChanged updated.id updated.locationID).connections c = some connection' ∧ _
      unfold Hub.configurationChanged
      split
      · exact Server.stored_modify fun connection =>
          ⟨ControlConnection.enqueue_id _ _, ControlConnection.enqueue_stationID _ _⟩
      · exact fun c connection found => ⟨connection, found, rfl, rfl⟩
  · refine wired.of_same (fun k c entry => ?_) rfl ?_
    · have ne : k ≠ updated.id := by
        rintro rfl
        exact absurd ((Hub.disconnect_conns_self _).symm.trans entry) (by simp)
      exact (Hub.disconnect_conns_ne _ ne).symm.trans entry
    · show ∀ c connection, s.hub.connections c = some connection → ∃ connection',
        (s.hub.disconnect updated.id "station disabled").connections c = some connection' ∧ _
      unfold Hub.disconnect
      split
      · exact Server.stored_modify fun connection => ⟨rfl, rfl⟩
      · exact fun c connection found => ⟨connection, found, rfl, rfl⟩

theorem Routed.updateNotify {u : Nat} {updated : Station} (h : Routed s) (keeps : s.KeepsRouting (.updateNotify u))
    (was : s.updates u = some (.read updated)) :
    Routed { s with
      server := { s.server with hub := notify s.hub updated }, updates := Function.update s.updates u none } where
  wired := wired_notify h.wired updated
  cached k connection row registered found := by
    rcases registered_of_notify h.wired registered with ⟨ne, old, before, same⟩ | ⟨rfl, enabled, same, old, before⟩
    · rw [← same]
      rcases h.cached k old row before found with same | ⟨v, update, pending, of⟩
      · exact .inl same
      · have other : v ≠ u := by
          rintro rfl
          rw [was] at pending
          cases pending
          exact ne of.symm
        exact .inr ⟨v, update, (Function.update_of_ne other ..).trans pending, of⟩
    · rw [same]
      rcases keeps updated row old was enabled before found with current | ⟨v, update, other, pending, of⟩
      · exact .inl current.symm
      · exact .inr ⟨v, update, (Function.update_of_ne other ..).trans pending, of⟩

/-- The station a read returns is the one asked for. -/
theorem id_of_get {now : Time} {id : ID} {d : Db} {station : Station} (found : get now id d = .ok station) :
    station.id = id := by
  unfold get at found
  split at found
  · rename_i selected
    cases found
    simp only [stationSelect, Option.bind_eq_bind, Option.bind_eq_some_iff] at selected
    obtain ⟨_, _, _, _, selected⟩ := selected
    cases selected
    rfl
  · cases found

/-- One step of a run in which no stale location is registered or announced. -/
theorem Routed.step {l : ProcessLabel} (h : Routed s) (keeps : s.KeepsRouting l)
    (stepped : Process.step sha256Hex s l = some s') : Routed s' := by
  cases l with
  | serve l =>
    obtain ⟨server, served, rfl⟩ := Option.map_eq_some_iff.1 stepped
    exact h.serve keeps served
  | updateCommit u id mutation =>
    simp only [Process.step] at stepped
    split at stepped
    · rename_i free committed
      cases stepped
      exact h.updateCommit free committed
    · cases stepped
  | updateRead u =>
    simp only [Process.step] at stepped
    split at stepped
    · rename_i was
      split at stepped
      · rename_i found
        cases stepped
        exact h.updateRead was (id_of_get found)
      · cases stepped
    · cases stepped
  | updateNotify u =>
    simp only [Process.step] at stepped
    split at stepped
    · rename_i was
      cases stepped
      exact h.updateNotify keeps was
    · cases stepped
  | locationCommit u id row =>
    simp only [Process.step] at stepped
    split at stepped
    · cases stepped
      exact ⟨⟨h.wired.entry, h.wired.stored⟩, h.cached⟩
    · cases stepped
  | locationNotify u =>
    simp only [Process.step] at stepped
    split at stepped
    · cases stepped
      constructor
      · refine h.wired.of_same (fun _ _ => id) rfl fun c connection found => ?_
        refine ⟨_, congrArg (Option.map _) found, ?_⟩
        dsimp only
        split
        · exact ⟨ControlConnection.enqueue_id _ _, ControlConnection.enqueue_stationID _ _⟩
        · exact ⟨rfl, rfl⟩
      · intro k connection row registered found
        obtain ⟨old, before, same⟩ := Hub.hadLocation_of_location registered
        rw [← same]
        exact h.cached k old row before found
    · cases stepped

section Told

variable {k : ID} {c : String}

/-- The registered connection of a station is stored under the station. -/
theorem Routed.stored (h : Routed s) (entry : s.hub.conns k = some c) :
    ∃ connection, s.hub.connections c = some connection ∧ connection.stationID = k := by
  obtain ⟨station, registered, own⟩ := h.wired.entry k c entry
  obtain ⟨connection, found, _, same⟩ := h.wired.stored c station registered
  exact ⟨connection, found, same.trans own⟩

theorem sends_of_updateNotify {u : Nat} {updated : Station} (h : Routed s)
    (reachable : Reachable k c s (.updateNotify u)) (own : updated.id = k)
    (stays : (notify s.hub updated).conns k = some c) :
    Sends s { s with
      server := { s.server with hub := notify s.hub updated }, updates := Function.update s.updates u none } c := by
  obtain ⟨entry, room⟩ := reachable
  obtain ⟨connection, found, _⟩ := h.stored entry
  subst own
  unfold notify at stays
  split at stays
  · rename_i enabled
    have sent := ControlConnection.enqueue_of_room (c := { connection with locationID := updated.locationID })
      .configurationChanged (room connection found)
    refine ⟨connection, _, found, ?_, sent⟩
    show (notify s.hub updated).connections c = _
    rw [notify, if_pos enabled, Hub.configurationChanged, entry]
    dsimp only
    rw [Hub.modify_connections_self, found]
    rfl
  · rw [Hub.disconnect_conns_self] at stays
    cases stays

theorem sends_of_locationNotify {u : Nat} {row : StationRow} (h : Routed s)
    (reachable : Reachable k c s (.locationNotify u)) (current : ¬ s.Pending k) (found : s.db.stations.row k = some row) :
    Sends s { s with
      server := { s.server with hub := s.hub.configurationChangedForLocation row.locationID }
      locationChanges := Function.update s.locationChanges u none } c := by
  obtain ⟨entry, room⟩ := reachable
  obtain ⟨connection, stored, own⟩ := h.stored entry
  have routed : connection.locationID = row.locationID :=
    (h.cached k connection row ⟨c, entry, stored⟩ found).resolve_right current
  refine ⟨connection, connection.enqueue .configurationChanged, stored, ?_,
    ControlConnection.enqueue_of_room _ (room connection stored)⟩
  show (s.hub.configurationChangedForLocation row.locationID).connections c = _
  simp only [Hub.configurationChangedForLocation, stored, Option.map_some]
  rw [if_pos ⟨own ▸ entry, routed⟩]

/-- The step after which nothing is due any more is the one that sends. -/
theorem sends_of_last {l : ProcessLabel} (h : Routed s) (reachable : Reachable k c s l) (due : s.Due k)
    (stepped : Process.step sha256Hex s l = some s') (stays : s'.hub.conns k = some c) (done : ¬ s'.Due k) :
    Sends s s' c := by
  cases l with
  | serve l =>
    obtain ⟨server, served, rfl⟩ := Option.map_eq_some_iff.1 stepped
    refine absurd (due.imp_right ?_) done
    rintro ⟨u, row, found, pending⟩
    exact ⟨u, row, (congrFun (congrArg Table.row (Server.step_stations served)) k).trans found, pending⟩
  | updateCommit u id mutation =>
    simp only [Process.step] at stepped
    split at stepped
    · rename_i free committed
      cases stepped
      obtain ⟨old, _, stations⟩ := update_ok committed
      refine absurd ?_ done
      by_cases same : k = id
      · exact .inl ⟨u, .committed id, Function.update_self .., same.symm⟩
      · rcases due with ⟨v, update, pending, own⟩ | ⟨v, row, found, pending⟩
        · have ne : v ≠ u := fun eq => by simp [eq, free] at pending
          exact .inl ⟨v, update, (Function.update_of_ne ne ..).trans pending, own⟩
        · refine .inr ⟨v, row, ?_, pending⟩
          show Table.row _ k = some row
          rw [stations, Table.row_set_ne _ _ same, found]
    · cases stepped
  | updateRead u =>
    simp only [Process.step] at stepped
    split at stepped
    · rename_i id was
      split at stepped
      · rename_i updated found
        cases stepped
        refine absurd (due.imp_left ?_) done
        rintro ⟨v, update, pending, own⟩
        by_cases eq : v = u
        · subst eq
          cases was.symm.trans pending
          exact ⟨v, .read updated, Function.update_self .., (id_of_get found).trans own⟩
        · exact ⟨v, update, (Function.update_of_ne eq ..).trans pending, own⟩
      · cases stepped
    · cases stepped
  | updateNotify u =>
    simp only [Process.step] at stepped
    split at stepped
    · rename_i updated was
      cases stepped
      by_cases own : updated.id = k
      · exact sends_of_updateNotify h reachable own stays
      · refine absurd (due.imp_left ?_) done
        rintro ⟨v, update, pending, of⟩
        have ne : v ≠ u := by
          rintro rfl
          cases was.symm.trans pending
          exact own of
        exact ⟨v, update, (Function.update_of_ne ne ..).trans pending, of⟩
    · cases stepped
  | locationCommit u id row =>
    simp only [Process.step] at stepped
    split at stepped
    · rename_i free _
      cases stepped
      refine absurd (due.imp_right ?_) done
      rintro ⟨v, row, found, pending⟩
      have ne : v ≠ u := fun eq => by simp [eq, free] at pending
      exact ⟨v, row, found, (Function.update_of_ne ne ..).trans pending⟩
    · cases stepped
  | locationNotify u =>
    simp only [Process.step] at stepped
    split at stepped
    · rename_i locationID was
      cases stepped
      have current : ¬ s.Pending k := fun pending => done (.inl pending)
      obtain ⟨v, row, found, pending⟩ := due.resolve_left current
      by_cases eq : v = u
      · subst eq
        cases was.symm.trans pending
        exact sends_of_locationNotify h reachable current found
      · exact absurd (.inr ⟨v, row, found, (Function.update_of_ne eq ..).trans pending⟩) done
    · cases stepped

/-- A connection that stays registered until nothing is due is sent a message on the way. -/
theorem sends_of_due {t : Process} {labels : List ProcessLabel} (h : Routed s) (due : s.Due k)
    (guarded : Guarded (step sha256Hex) (fun s l => s.KeepsRouting l ∧ Reachable k c s l) s labels)
    (reached : run (step sha256Hex) s labels = some t) (stays : t.hub.conns k = some c) (done : ¬ t.Due k) :
    ∃ before l after s₁ s₂, labels = before ++ l :: after ∧ run (step sha256Hex) s before = some s₁ ∧
      step sha256Hex s₁ l = some s₂ ∧ Sends s₁ s₂ c := by
  induction labels generalizing s with
  | nil =>
    cases reached
    exact absurd due done
  | cons l labels ih =>
    obtain ⟨s₁, first, rest⟩ := run_cons_iff.1 reached
    have routed := h.step guarded.1.1 first
    by_cases due₁ : s₁.Due k
    · obtain ⟨before, l', after, s₂, s₃, split, ran, stepped, sends⟩ :=
        ih routed due₁ (guarded.2 s₁ first) rest
      exact ⟨l :: before, l', after, s₂, s₃, by rw [split, List.cons_append],
        run_cons_iff.2 ⟨s₁, first, ran⟩, stepped, sends⟩
    · refine ⟨[], l, labels, s, s₁, rfl, rfl, first, ?_⟩
      have kept : s₁.hub.conns k = some c := by
        cases labels with
        | nil =>
          cases rest
          exact stays
        | cons => exact (guarded.2 s₁ first).1.2.1
      exact sends_of_last h guarded.1.2 due first kept due₁

/-- A notification of the station itself, or of the location it has while no update of it is
on its way, sends a message to the connection that stays registered. -/
theorem sends_of_announces {l : ProcessLabel} (h : Routed s) (reachable : Reachable k c s l) (announces : s.Announces k l)
    (stepped : Process.step sha256Hex s l = some s') (stays : s'.hub.conns k = some c) : Sends s s' c := by
  cases l with
  | updateNotify u =>
    obtain ⟨updated, was, own⟩ := announces
    simp only [Process.step, was] at stepped
    cases stepped
    exact sends_of_updateNotify h reachable own stays
  | locationNotify u =>
    obtain ⟨row, found, was, current⟩ := announces
    simp only [Process.step, was] at stepped
    cases stepped
    exact sends_of_locationNotify h reachable current found
  | serve | updateCommit | updateRead | locationCommit => exact announces.elim

end Told

/-- **Configuration changes reach the devices.** In every run in which no stale location is
registered or announced: a quiescent state routes every registered connection by its
station's location; a notification of a station, or of the location it has while no update
of the station is on its way, sends a message to the connection that is registered, has
room in its buffer and stays registered; and from any state in which a change of a station,
or of the location it has, is committed and not yet notified, a connection that stays
registered until these notifications have run, with room in its buffer when they do, is
sent a message. -/
theorem configuration_changes (sha256Hex : String → String) (d : Db) (clock : Time) (build : String)
    (labels : List ProcessLabel) (s : Process)
    (guarded : Guarded (step sha256Hex) KeepsRouting (init d clock build) labels)
    (reached : run (step sha256Hex) (init d clock build) labels = some s) :
    (s.Quiescent → s.InSync) ∧
    (∀ k c l t, Reachable k c s l → s.Announces k l → step sha256Hex s l = some t → t.hub.conns k = some c →
      Sends s t c) ∧
    ∀ k c later t, s.Due k →
      Guarded (step sha256Hex) (fun s l => s.KeepsRouting l ∧ Reachable k c s l) s later →
      run (step sha256Hex) s later = some t → t.hub.conns k = some c → ¬ t.Due k →
      ∃ before l after s₁ s₂, later = before ++ l :: after ∧ run (step sha256Hex) s before = some s₁ ∧
        step sha256Hex s₁ l = some s₂ ∧ Sends s₁ s₂ c := by
  have routed := guarded.run_invariant Routed (fun _ _ _ h keeps stepped => h.step keeps stepped)
    (Routed.init d clock build) reached
  refine ⟨routed.inSync, ?_, ?_⟩
  · intro k c l t reachable announces stepped stays
    exact sends_of_announces routed reachable announces stepped stays
  · intro k c later t due guarded reached stays done
    exact sends_of_due routed due guarded reached stays done

/-- Device `a` registers, and its station moves to the second location. -/
def registeredMove : List ProcessLabel := [
  .serve (.authenticate "a" "wgst_a"), .serve (.claim "a" "1.0"), .serve (.register "a"),
  .updateCommit 0 1 ⟨"Front desk", 2, true⟩, .updateRead 0]

/-- The notification of the move reaches `a`. -/
theorem configuration_changes_move :
    ∃ s s₁, run (step sampleHash) (init sampleDb 0 "1.0") registeredMove = some s ∧
      step sampleHash s (.updateNotify 0) = some s₁ ∧ Sends s s₁ "a" := by
  refine ⟨_, _, rfl, rfl, ?_⟩
  refine (configuration_changes sampleHash sampleDb 0 "1.0" registeredMove _ ?_ rfl).2.1 1 "a" (.updateNotify 0) _
    ⟨rfl, ?_⟩ ⟨_, rfl, rfl⟩ rfl rfl
  · refine ⟨trivial, fun s₁ first => ⟨trivial, fun s₂ second => ⟨fun station row claimed found => .inl ?_,
      fun _ _ => ⟨trivial, fun _ _ => ⟨trivial, fun _ _ => trivial⟩⟩⟩⟩⟩
    obtain rfl : _ = s₁ := Option.some.inj first
    obtain rfl : _ = s₂ := Option.some.inj second
    cases claimed
    cases found
    rfl
  · intro connection stored
    cases stored
    decide

/-- The station moves to the second location while device `a` connects. -/
def staleRegistration : List ProcessLabel := [
  .serve (.authenticate "a" "wgst_a"),
  .updateCommit 0 1 ⟨"Front desk", 2, true⟩, .updateRead 0, .updateNotify 0,
  .serve (.claim "a" "1.0"), .serve (.register "a")]

/-- The second location changes after that. -/
def libraryChange : ProcessLabel :=
  .locationCommit 0 2 { appID := 1, name := "Library", photo := true, createdAt := 0, updatedAt := 0 }

/-- Nothing is under way, yet `a` is routed by the location the station has left; and the
next change of its real location is announced without it. -/
theorem stale_registration_misroutes :
    ∃ s s₁ s₂, run (step sampleHash) (init sampleDb 0 "1.0") staleRegistration = some s ∧
      s.Quiescent ∧ ¬ s.InSync ∧
      step sampleHash s libraryChange = some s₁ ∧ s₁.Due 1 ∧ s₁.hub.conns 1 = some "a" ∧
      step sampleHash s₁ (.locationNotify 0) = some s₂ ∧ s₂.hub.conns 1 = some "a" ∧ ¬ s₂.Due 1 ∧
      ¬ Sends s₁ s₂ "a" := by
  refine ⟨_, _, _, rfl, ⟨?_, ?_⟩, ?_, rfl, ?_, rfl, rfl, rfl, ?_, ?_⟩
  · intro c station
    by_cases own : c = "a"
    · subst own
      constructor
      · intro secret same
        cases same
      · intro same
        cases same
    · have others : ∀ l ∈ staleRegistration, l.connection ≠ some c := by
        simpa [staleRegistration, ProcessLabel.connection, ServeLabel.connection] using Ne.symm own
      have idle : _ = Connect.idle := run_connects others (rfl : run (step sampleHash) (init sampleDb 0 "1.0") _ = _)
      rw [idle]
      constructor
      · intro secret same
        cases same
      · intro same
        cases same
  · intro u
    by_cases h : u = 0
    · subst h
      rfl
    · exact (Function.update_of_ne h ..).trans ((Function.update_of_ne h ..).trans (Function.update_of_ne h ..))
  · intro inSync
    exact absurd (inSync 1 _ _ ⟨"a", rfl, rfl⟩ rfl) (by decide)
  · exact .inr ⟨0, _, rfl, rfl⟩
  · rintro (⟨u, update, pending, _⟩ | ⟨u, row, _, pending⟩)
    · by_cases h : u = 0
      · subst h
        cases pending
      · have read := (Function.update_of_ne h ..).symm.trans pending
        have committed := (Function.update_of_ne h ..).symm.trans read
        cases (Function.update_of_ne h ..).symm.trans committed
    · by_cases h : u = 0
      · subst h
        cases pending
      · have committed := (Function.update_of_ne h ..).symm.trans pending
        cases (Function.update_of_ne h ..).symm.trans committed
  · rintro ⟨connection, connection', before, after, sent⟩
    cases before
    cases after
    exact absurd sent (by decide)

end Process

end Woodgate.Stations
