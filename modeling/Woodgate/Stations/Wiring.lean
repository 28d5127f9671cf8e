import Woodgate.Stations.Server

/-!
# Map entries and connections

Two facts tie the hub to the serves, whatever the order of the steps: a map entry is a
registered connection of its station, and a registered connection is stored in the hub
under its own id and station. They are proved once here, for every step of a serve.
-/

namespace Woodgate.Stations.Server

structure Wired (s : Server) : Prop where
  /-- a map entry is a registered connection of its station -/
  entry : ∀ k c, s.hub.conns k = some c → ∃ station, s.connects c = .registered station ∧ station.id = k
  /-- a registered connection is the one the hub made for its station -/
  stored : ∀ c station, s.connects c = .registered station →
    ∃ connection, s.hub.connections c = some connection ∧ connection.id = c ∧ connection.stationID = station.id

variable {sha256Hex : String → String} {s s' : Server} {c : String} {station : Station}

theorem Wired.init (d : Db) (clock : Time) (build : String) : Wired (Server.init d clock build) where
  entry _ _ found := by cases found
  stored _ _ found := by cases found

/-- A connection that has not registered is nobody's entry. -/
theorem Wired.not_entry (h : Wired s) (was : ∀ station, s.connects c ≠ .registered station) (k : ID) :
    s.hub.conns k ≠ some c := by
  intro found
  obtain ⟨station, registered, _⟩ := h.entry k c found
  exact was station registered

/-- No entry is added, the phases stay, and no stored connection changes its identity. -/
theorem Wired.of_same (h : Wired s) (conns : ∀ k c, s'.hub.conns k = some c → s.hub.conns k = some c)
    (connects : s'.connects = s.connects)
    (stored : ∀ c connection, s.hub.connections c = some connection → ∃ connection',
      s'.hub.connections c = some connection' ∧ connection'.id = connection.id ∧
        connection'.stationID = connection.stationID) : Wired s' where
  entry k c found := by
    rw [connects]
    exact h.entry k c (conns k c found)
  stored c station registered := by
    rw [connects] at registered
    obtain ⟨connection, found, id, own⟩ := h.stored c station registered
    obtain ⟨connection', found', id', own'⟩ := stored c connection found
    exact ⟨connection', found', id'.trans id, own'.trans own⟩

theorem stored_modify {h : Hub} {f : ControlConnection → ControlConnection}
    (keeps : ∀ connection, (f connection).id = connection.id ∧ (f connection).stationID = connection.stationID)
    (p : String) (connection : ControlConnection) (found : h.connections p = some connection) :
    ∃ connection', (h.modify c f).connections p = some connection' ∧ connection'.id = connection.id ∧
      connection'.stationID = connection.stationID := by
  by_cases same : p = c
  · subst same
    have called : (h.modify p f).connections p = _ := Hub.modify_connections_self
    rw [found] at called
    exact ⟨f connection, called, keeps connection⟩
  · exact ⟨connection, (Hub.modify_connections_ne same).trans found, rfl, rfl⟩

/-- A method call that keeps what a connection is. -/
theorem Wired.modify (h : Wired s) {f : ControlConnection → ControlConnection}
    (keeps : ∀ connection, (f connection).id = connection.id ∧ (f connection).stationID = connection.stationID) :
    Wired { s with hub := s.hub.modify c f } := by
  refine h.of_same (fun _ _ => id) rfl ?_
  exact stored_modify keeps

/-- A connection that is not registered moves to another such phase. -/
theorem Wired.set (h : Wired s) {phase : Connect} (was : ∀ station, s.connects c ≠ .registered station)
    (now : ∀ station, phase ≠ .registered station) : Wired (s.set c phase) where
  entry k p found := by
    obtain ⟨station, registered, own⟩ := h.entry k p found
    have other : p ≠ c := fun same => was station (same ▸ registered)
    refine ⟨station, ?_, own⟩
    rw [set_connects, Function.update_of_ne other, registered]
  stored p station registered := by
    by_cases same : p = c
    · subst same
      rw [set_connects, Function.update_self] at registered
      exact absurd registered (now station)
    · rw [set_connects, Function.update_of_ne same] at registered
      exact h.stored p station registered

/-- The phases beside the one a step sets. -/
theorem set_connects_ne {phase : Connect} {p : String} (ne : p ≠ c) : (s.set c phase).connects p = s.connects p :=
  Function.update_of_ne ne ..

theorem set_connects_self {phase : Connect} : (s.set c phase).connects c = phase := Function.update_self ..

theorem Wired.register {hub : Hub} (h : Wired s) (was : s.connects c = .claimed station)
    (registered : s.hub.register (newConnection c station) = (hub, true)) :
    Wired ({ s with hub }.set c (.registered station)) := by
  have running := Hub.running_of_register registered
  have hub_eq : hub = (s.hub.register (newConnection c station)).1 := by rw [registered]
  have conns : hub.conns = Function.update s.hub.conns station.id (some c) := by
    rw [hub_eq, Hub.register_conns running]
    rfl
  have free := h.not_entry (c := c) (by simp [was])
  constructor
  · intro k p found
    have found : hub.conns k = some p := found
    rw [conns] at found
    by_cases same : k = station.id
    · subst same
      rw [Function.update_self, Option.some.injEq] at found
      subst found
      exact ⟨station, set_connects_self, rfl⟩
    · rw [Function.update_of_ne same] at found
      obtain ⟨owner, entry, own⟩ := h.entry k p found
      have ne : p ≠ c := fun eq => free k (eq ▸ found)
      exact ⟨owner, (set_connects_ne ne).trans entry, own⟩
  · intro p owner entry
    by_cases same : p = c
    · subst same
      rw [set_connects_self] at entry
      cases entry
      refine ⟨newConnection p station, ?_, rfl, rfl⟩
      show hub.connections p = some (newConnection p station)
      rw [hub_eq]
      exact Hub.register_connections_self running (free _)
    · rw [set_connects_ne same] at entry
      obtain ⟨connection, found, id, owned⟩ := h.stored p owner entry
      have before := Hub.register_connections_cases (newConnection c station) running same
      rw [← hub_eq, found] at before
      rcases before with kept | closed
      · exact ⟨connection, kept, id, owned⟩
      · exact ⟨_, closed, id, owned⟩

theorem Wired.unregister {connection : ControlConnection} (h : Wired s) (was : s.connects c = .registered station)
    (found : s.hub.connections c = some connection) :
    Wired ({ s with hub := s.hub.unregister connection }.set c (.removed station)) := by
  obtain ⟨connection', found', id, own⟩ := h.stored c station was
  cases found.symm.trans found'
  constructor
  · intro k p entry
    obtain ⟨entry, other⟩ := Hub.unregister_conns_eq_some.1 entry
    obtain ⟨owner, registered, same⟩ := h.entry k p entry
    have ne : p ≠ c := by
      rintro rfl
      rw [was] at registered
      cases registered
      exact other ⟨same.symm.trans own.symm, id.symm⟩
    exact ⟨owner, (set_connects_ne ne).trans registered, same⟩
  · intro p owner registered
    have ne : p ≠ c := by
      rintro rfl
      rw [set_connects_self] at registered
      cases registered
    rw [set_connects_ne ne] at registered
    obtain ⟨stored, stored_eq, kept⟩ := h.stored p owner registered
    refine ⟨stored, ?_, kept⟩
    show (s.hub.unregister connection).connections p = some stored
    rw [Hub.unregister_connections, stored_eq]

/-- Every step of a serve keeps hub and serves wired. -/
theorem Wired.step {l : ServeLabel} (h : Wired s) (stepped : Server.step sha256Hex s l = some s') : Wired s' := by
  cases l with
  | authenticate c secret =>
    simp only [Server.step] at stepped
    split at stepped
    · rename_i idle _
      cases stepped
      exact h.set (fun station => by simp [idle]) fun _ => Connect.noConfusion
    · cases stepped
  | claim c version =>
    simp only [Server.step] at stepped
    split at stepped
    · rename_i station secret was
      split at stepped
      · cases stepped
        have moved : Wired (s.set c (.claimed station)) :=
          h.set (fun station => by simp [was]) fun _ => Connect.noConfusion
        exact ⟨moved.entry, moved.stored⟩
      · cases stepped
        exact h.set (fun station => by simp [was]) fun _ => Connect.noConfusion
    · cases stepped
  | register c =>
    simp only [Server.step] at stepped
    split at stepped
    · rename_i station was
      split at stepped
      · rename_i hub registered
        cases stepped
        exact h.register was registered
      · cases stepped
        exact h.set (fun station => by simp [was]) fun _ => Connect.noConfusion
    · cases stepped
  | hello c =>
    simp only [Server.step] at stepped
    split at stepped
    · cases stepped
      exact h.modify fun connection => ⟨ControlConnection.enqueue_id _ _, ControlConnection.enqueue_stationID _ _⟩
    · cases stepped
  | write c =>
    simp only [Server.step] at stepped
    split at stepped
    · cases stepped
      exact h.modify fun connection => ⟨rfl, rfl⟩
    · cases stepped
  | renew c =>
    simp only [Server.step] at stepped
    split at stepped
    · split at stepped
      · cases stepped
        exact ⟨h.entry, h.stored⟩
      · cases stepped
        exact h.modify fun connection => ⟨rfl, rfl⟩
    · cases stepped
  | unregister c =>
    simp only [Server.step] at stepped
    split at stepped
    · rename_i was found
      cases stepped
      exact h.unregister was found
    · cases stepped
  | release c =>
    simp only [Server.step] at stepped
    split at stepped
    · rename_i station was
      split at stepped
      · cases stepped
        have moved : Wired (s.set c .finished) :=
          h.set (fun station => by simp [was]) fun _ => Connect.noConfusion
        exact ⟨moved.entry, moved.stored⟩
      · cases stepped
    · cases stepped
  | tick =>
    cases stepped
    exact ⟨h.entry, h.stored⟩

end Woodgate.Stations.Server
