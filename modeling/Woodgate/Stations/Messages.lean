import Mathlib.Data.List.Nodup
import Mathlib.Data.List.Perm.Basic
import Woodgate.Stations.Cleanup

/-!
# What a station is told

The steps of the hub with a history for each connection: the message `writeLoop` has in
hand, what it has put on the socket, and how many notifications have selected the
connection. `register` makes the connection visible before `serve` queues its hello, so a
notification can come first (`configuration_before_hello`), and four of them leave no room
for the hello at all. Where no notification reaches the channel before the hello
(`Greeted`), the socket carries the hello and then one message for each notification
(`messages_in_order`).
-/

namespace Woodgate.Stations.Cleanup

open Library Library.ReadCommitted Library.Runs

/-- The history of a connection. -/
structure Record where
  /-- whose connection it is -/
  station : Option Station := none
  /-- the hello is in the channel, or was -/
  greeted : Bool := false
  /-- a message found no room, which closes the socket as fallen behind -/
  behind : Bool := false
  selected : Nat := 0
  /-- received by `writeLoop` and not written -/
  inHand : Option ServerMessage := none
  written : List ServerMessage := []
  deriving DecidableEq, Repr

/-- The channel of `c` takes another message. -/
def hasRoom (s : State) (c : String) : Bool := (s.sockets c).any fun connection => decide (connection.send.length < controlBuffer)

/-- A notification finds `c` under the mutex. -/
def selects (s : State) (c : String) : Label → Bool
  | .configurationChanged stationID _ => decide (s.conns.row stationID = some c)
  | .configurationChangedForLocation locationID => s.conns.exists? fun _ p =>
      decide (p = c) && (s.sockets p).any fun connection => decide (connection.locationID = locationID)
  | _ => false

/-- What a step adds to the history of `c`. -/
def Record.note (s : State) (c : String) (l : Label) (r : Record) : Record :=
  match l with
  | .serve p station _ _ => if p = c then { r with station := some station } else r
  | .hello p true =>
    if p = c then if hasRoom s c then { r with greeted := true } else { r with behind := true } else r
  | .write p => if p = c then { r with inHand := (s.sockets c).bind fun connection => connection.send.head? } else r
  | .call i =>
    match s.calls[i]? with
    | some (.enqueue p _) => if p = c ∧ hasRoom s c = false then { r with behind := true } else r
    | _ => r
  | l => if selects s c l then { r with selected := r.selected + 1 } else r

structure Traffic where
  state : State
  records : String → Record

inductive TrafficLabel where
  | hub (l : Label)
  /-- `ws.Write` returns -/
  | put (c : String)
  /-- and does not -/
  | fail (c : String)

namespace Traffic

def init (d : Db) (clock : Time) (build : String) : Traffic := ⟨.init d clock build, fun _ => {}⟩

/-- `writeLoop` is at its `select`, and a message it receives is there. -/
def ready (t : Traffic) : Label → Bool
  | .write c => (t.records c).inHand.isNone && (t.state.sockets c).any fun connection => !connection.send.isEmpty
  | .ping c _ | .stop c => (t.records c).inHand.isNone
  | _ => true

def set (t : Traffic) (c : String) (r : Record) : Traffic := { t with records := Function.update t.records c r }

variable (sha256Hex : String → String)

def step (t : Traffic) : TrafficLabel → Option Traffic
  | .hub l =>
    if t.ready l then (t.state.step sha256Hex l).map fun state => ⟨state, fun c => (t.records c).note t.state c l⟩
    else none
  | .put c =>
    match (t.records c).inHand, (t.state.serves c).writing with
    | some message, true => some (t.set c { t.records c with inHand := none, written := (t.records c).written ++ [message] })
    | _, _ => none
  | .fail c =>
    if (t.records c).inHand.isSome then (t.state.step sha256Hex (.stop c)).map fun state => { t with state } else none

end Traffic

/-- The `serverMessage` of `serve`. -/
def helloMessage (build : String) (station : Station) : ServerMessage :=
  .hello station.id station.name station.locationID protocolVersion build

/-- The call finds a connection whose hello is queued, if it is for a notification. -/
def Traffic.greets (t : Traffic) : SocketCall → Bool
  | .enqueue c _ => (t.records c).greeted
  | .close _ _ => true

/-- The socket call a step makes. -/
def TrafficLabel.call? (s : State) : TrafficLabel → Option SocketCall
  | .hub (.call i) => s.calls[i]?
  | _ => none

/-- No notification reaches a channel before the hello. -/
def Greeted (t : Traffic) (l : TrafficLabel) : Prop := ∀ call ∈ l.call? t.state, t.greets call = true

instance (t : Traffic) (l : TrafficLabel) : Decidable (Greeted t l) :=
  inferInstanceAs (Decidable (∀ call ∈ l.call? t.state, t.greets call = true))

/-- The socket carries the hello of the station, then one message for each notification that
selected the connection. -/
structure InOrder (build : String) (station : Station) (r : Record) : Prop where
  written : r.written <+: helloMessage build station :: List.replicate r.selected .configurationChanged
  behind : r.behind = true → r.greeted = true

section Steady

variable {sha256Hex : String → String} {s s₁ s' : State} {c : String}

/-- The channel of `c`. -/
def queue (s : State) (c : String) : Option (List ServerMessage) := (s.sockets c).map ControlConnection.send

/-- The notifications that have selected `c` and not queued their message yet. -/
def due (s : State) (c : String) : Nat := s.calls.count (.enqueue c .configurationChanged)

/-- Whose connection it is, from the claim on. -/
def Phase.station : Phase → Option Station
  | .claiming station _ _ => some station
  | phase => phase.owner

/-- The hello is not queued. -/
def Phase.early : Phase → Bool
  | .absent | .claiming _ _ _ | .registering _ | .replacing _ _ | .greeting _ => true
  | _ => false

/-- A step after which `c` has the same messages before it. -/
structure Steady (s s' : State) (c : String) : Prop where
  build : s'.build = s.build
  queue : queue s' c = queue s c
  due : due s' c = due s c
  station : ∀ station, (s'.serves c).phase.station = some station → (s.serves c).phase.station = some station
  early : (s'.serves c).phase.early = true → (s.serves c).phase.early = true

theorem Steady.refl (s : State) (c : String) : Steady s s c := ⟨rfl, rfl, rfl, fun _ => id, id⟩

theorem Steady.trans (first : Steady s s₁ c) (second : Steady s₁ s' c) : Steady s s' c where
  build := second.build.trans first.build
  queue := second.queue.trans first.queue
  due := second.due.trans first.due
  station owner known := first.station owner (second.station owner known)
  early before := first.early (second.early before)

/-- A call on a socket that leaves its channel alone. -/
theorem steady_modify {p : String} {f : ControlConnection → ControlConnection}
    (keeps : ∀ connection, (f connection).send = connection.send) : Steady s (s.modify p f) c where
  build := rfl
  queue := by
    show (Function.update s.sockets p ((s.sockets p).map f) c).map ControlConnection.send = (s.sockets c).map ControlConnection.send
    by_cases same : c = p
    · subst same
      rw [Function.update_self, Option.map_map]
      exact congrArg (fun f => (s.sockets c).map f) (funext keeps)
    · rw [Function.update_of_ne same]
  due := rfl
  station _ := id
  early := id

/-- A serve past its hello is not early. -/
theorem late {P : Prop} (early : false = true) : P := by cases early

/-- A serve that ends has no station. -/
theorem elsewhere {S : Type} {P : S → Prop} (station : S) (ended : none = some station) : P station := by cases ended

/-- A serve that moves on. -/
theorem Steady.put {p : String} {v : Serve} {phase : Phase} (base : Steady s s₁ c) (serves : s₁.serves = s.serves)
    (was : (s.serves p).phase = phase) (station : ∀ station, v.phase.station = some station → phase.station = some station)
    (early : v.phase.early = true → phase.early = true) : Steady s (s₁.put p v) c := by
  refine ⟨base.build, base.queue, base.due, ?_, ?_⟩
  all_goals
    by_cases same : c = p
    · subst same
      rw [serves_put_self, was]
      assumption
    · rw [serves_put_ne same, serves]
      simp

/-- The phases of another serve. -/
theorem steady_put_ne {p : String} {v : Serve} (ne : c ≠ p) : Steady s (s.put p v) c :=
  ⟨rfl, rfl, rfl, by simp [serves_put_ne ne], by simp [serves_put_ne ne]⟩

theorem steady_closes {conns : Table ID String} {closed : Bool} {calls : List SocketCall}
    (closes : ∀ call ∈ calls, ∃ p reason, call = .close p reason) :
    Steady s { s with conns, closed, calls := s.calls ++ calls } c := by
  refine ⟨rfl, rfl, ?_, fun _ => id, id⟩
  have none : calls.count (.enqueue c .configurationChanged) = 0 := by
    refine List.count_eq_zero.2 fun mem => ?_
    obtain ⟨p, reason, same⟩ := closes _ mem
    cases same
  show (s.calls ++ calls).count _ = _
  rw [List.count_append, none, Nat.add_zero, due]

/-- The steps that neither begin a serve nor touch a channel. -/
def Label.quiet : Label → Bool
  | .serve _ _ _ _ | .register _ | .hello _ true | .write _ | .configurationChanged _ _
  | .configurationChangedForLocation _ | .call _ => false
  | _ => true

theorem steady_step {l : Label} (quiet : l.quiet = true) (stepped : s.step sha256Hex l = some s') : Steady s s' c := by
  have same := Steady.refl s c
  have rows : ∀ db, Steady s { s with db } c := fun _ => ⟨rfl, rfl, rfl, fun _ => id, id⟩
  have closed : ∀ p reason, Steady s (s.modify p (.close reason)) c := fun _ _ => steady_modify fun _ => rfl
  cases l with
  | serve | register | write | configurationChanged | configurationChangedForLocation | call => cases quiet
  | claim p reach =>
    simp only [State.step] at stepped
    split at stepped
    · rename_i was
      split at stepped <;> cases stepped
      · exact (rows _).put rfl was (fun _ => id) fun _ => rfl
      · exact (rows _).put rfl was elsewhere late
    · cases stepped
  | replace p =>
    simp only [State.step] at stepped
    split at stepped <;> cases stepped
    rename_i station previous was
    cases previous with
    | none => exact same.put rfl was (fun _ => id) fun _ => rfl
    | some q => exact (closed q _).put rfl was (fun _ => id) fun _ => rfl
  | hello p marshals =>
    cases marshals with
    | true => cases quiet
    | false =>
      simp only [State.step] at stepped
      split at stepped <;> cases stepped
      rename_i was
      exact same.put rfl was (fun _ => id) late
  | read p incoming =>
    simp only [State.step] at stepped
    split at stepped <;> cases stepped <;> rename_i was
    · exact same.put rfl was (fun _ => id) late
    · exact same.put rfl was (fun _ => id) late
    · exact (closed p _).put rfl was (fun _ => id) late
  | renew p reach =>
    simp only [State.step] at stepped
    split at stepped
    · rename_i was
      have changed : ∀ db, Steady s (State.modify { s with db } p (.close "station session changed")) c :=
        fun db => (rows db).trans (steady_modify fun _ => rfl)
      split at stepped <;> cases stepped
      · exact (rows _).put rfl was (fun _ => id) late
      · exact (changed _).put rfl was (fun _ => id) late
    · cases stepped
  | join p =>
    simp only [State.step] at stepped
    split at stepped <;> cases stepped
    rename_i was _
    exact same.put rfl was (fun _ => id) late
  | unregister p =>
    simp only [State.step] at stepped
    split at stepped <;> cases stepped
    rename_i was
    have conns : ∀ conns, Steady s { s with conns } c := fun _ => ⟨rfl, rfl, rfl, fun _ => id, id⟩
    exact (conns _).put rfl was (fun _ => id) late
  | release p reach =>
    simp only [State.step] at stepped
    split at stepped <;> cases stepped
    rename_i was
    exact (rows _).put rfl was elsewhere late
  | ping p reach =>
    simp only [State.step] at stepped
    split at stepped
    · split at stepped <;> cases stepped
      · exact rows _
      · exact (rows _).put rfl rfl (fun _ => id) id
    · cases stepped
  | stop p =>
    simp only [State.step] at stepped
    split at stepped <;> cases stepped
    exact same.put rfl rfl (fun _ => id) id
  | disconnect k reason =>
    simp only [State.step] at stepped
    split at stepped <;> cases stepped
    · rename_i p _
      exact steady_closes fun call mem => ⟨p, reason, List.mem_singleton.1 mem⟩
    · exact same
  | close =>
    simp only [State.step] at stepped
    split at stepped <;> cases stepped
    · exact same
    · refine steady_closes fun call mem => ?_
      obtain ⟨entry, _, rfl⟩ := List.mem_map.1 mem
      exact ⟨_, _, rfl⟩
  | others db =>
    simp only [State.step] at stepped
    split at stepped <;> cases stepped
    exact rows db
  | tick elapsed =>
    cases stepped
    exact ⟨rfl, rfl, rfl, fun _ => id, id⟩

/-- A quiet step adds nothing to a history. -/
theorem note_quiet {l : Label} (quiet : l.quiet = true) (r : Record) : r.note s c l = r := by
  cases l with
  | serve | register | write | configurationChanged | configurationChangedForLocation | call => cases quiet
  | hello p marshals =>
    cases marshals with
    | true => cases quiet
    | false => simp [Record.note, selects]
  | _ => simp [Record.note, selects]

end Steady

section Order

variable {sha256Hex : String → String} {s s' : State} {c : String} {r : Record}

/-- A connection and its history: nothing happens before the hello is queued, and then the
messages written, in hand and in the channel are the hello and one for each notification
whose turn has come. -/
structure Told (s : State) (c : String) (r : Record) : Prop where
  station : ∀ station, (s.serves c).phase.station = some station → r.station = some station
  early : (s.serves c).phase.early = true → r.greeted = false
  silent : r.greeted = false →
    r.written = [] ∧ r.inHand = none ∧ (queue s c).getD [] = [] ∧ r.behind = false ∧ due s c = r.selected
  told : r.greeted = true → ∃ station waiting n, r.station = some station ∧ queue s c = some waiting ∧
    r.written ++ r.inHand.toList ++ waiting = helloMessage s.build station :: List.replicate n .configurationChanged ∧
    n + due s c ≤ r.selected ∧ (r.behind = false → n + due s c = r.selected)

theorem Told.steady (h : Told s c r) (steady : Steady s s' c) : Told s' c r := by
  obtain ⟨build, queue, due, station, early⟩ := steady
  constructor
  · exact fun owner known => h.station owner (station owner known)
  · exact fun before => h.early (early before)
  · rw [queue, due]
    exact h.silent
  · rw [queue, due, build]
    exact h.told

theorem told_init (d : Db) (clock : Time) (build : String) : Told (State.init d clock build) c {} where
  station _ := nofun
  early _ := rfl
  silent _ := ⟨rfl, rfl, rfl, rfl, rfl⟩
  told := nofun

/-- What has been told is in order. -/
theorem Told.inOrder {station : Station} (h : Told s c r) (own : r.station = some station) : InOrder s.build station r := by
  cases greeted : r.greeted with
  | false =>
    obtain ⟨written, _, _, behind, _⟩ := h.silent greeted
    refine ⟨?_, ?_⟩
    · rw [written]
      exact List.nil_prefix
    · simp [behind]
  | true =>
    obtain ⟨owner, waiting, n, known, _, messages, bound, _⟩ := h.told greeted
    cases own.symm.trans known
    refine ⟨?_, fun _ => greeted⟩
    have reached : r.written <+: helloMessage s.build station :: List.replicate n .configurationChanged := by
      rw [← messages, List.append_assoc]
      exact List.prefix_append ..
    have more : List.replicate n ServerMessage.configurationChanged <+: List.replicate r.selected .configurationChanged := by
      rw [List.prefix_replicate_iff, List.length_replicate]
      exact ⟨by omega, rfl⟩
    exact reached.trans (List.cons_prefix_cons.2 ⟨rfl, more⟩)

/-- A serve begins. -/
theorem Told.serve {station : Station} {secret version : String} (h : Told s c r) (was : (s.serves c).phase = .absent) :
    Told (s.move c (.claiming station secret version)) c { r with station := some station } := by
  have ungreeted := h.early (by rw [was]; rfl)
  refine ⟨fun owner known => ?_, fun _ => ungreeted, h.silent, fun greeted => absurd (ungreeted.symm.trans greeted) nofun⟩
  rw [State.move, serves_put_self] at known
  exact known

/-- The connection gets its channel. -/
theorem Told.register {station : Station} {conns : Table ID String} {previous : Option String} (h : Told s c r)
    (was : (s.serves c).phase = .registering station) :
    Told ({ s with
      conns, sockets := Function.update s.sockets c (some (Server.newConnection c station)) }.move c
        (.replacing station previous)) c r := by
  have ungreeted := h.early (by rw [was]; rfl)
  obtain ⟨written, inHand, _, behind, due⟩ := h.silent ungreeted
  refine ⟨fun owner known => ?_, fun _ => ungreeted, fun _ => ⟨written, inHand, ?_, behind, due⟩,
    fun greeted => absurd (ungreeted.symm.trans greeted) nofun⟩
  · rw [State.move, serves_put_self] at known
    refine h.station owner ?_
    rw [was]
    exact known
  · show ((Function.update s.sockets c (some (Server.newConnection c station)) c).map ControlConnection.send).getD [] = []
    rw [Function.update_self]
    rfl

/-- The hello is the first message. -/
theorem Told.hello {station : Station} {connection : ControlConnection} (h : Told s c r)
    (was : (s.serves c).phase = .greeting station) (stored : s.sockets c = some connection) :
    hasRoom s c = true ∧ Told ((s.modify c (.enqueue (helloMessage s.build station))).move c (.reading station)) c
      { r with greeted := true } := by
  obtain ⟨written, inHand, empty, behind, due⟩ := h.silent (h.early (by rw [was]; rfl))
  have empty : connection.send = [] := by
    rw [queue, stored] at empty
    exact empty
  have room : connection.send.length < controlBuffer := by simp [empty, controlBuffer]
  refine ⟨by simp [hasRoom, stored, room], ?_, ?_, nofun, fun _ => ?_⟩
  · intro owner known
    rw [State.move, serves_put_self] at known
    refine h.station owner ?_
    rw [was]
    exact known
  · intro early
    rw [State.move, serves_put_self] at early
    cases early
  · refine ⟨station, [helloMessage s.build station], 0, h.station station (by rw [was]; rfl), ?_, ?_, ?_, fun _ => ?_⟩
    · show (Function.update s.sockets c _ c).map ControlConnection.send = _
      rw [Function.update_self, stored, Option.map_some, Option.map_some, ControlConnection.enqueue_of_room _ room, empty]
      rfl
    · simp [written, inHand]
      rfl
    · exact (Nat.zero_add _).trans_le due.le
    · exact (Nat.zero_add _).trans due

/-- `writeLoop` receives a message. -/
theorem Told.write {connection : ControlConnection} (h : Told s c r) (idle : r.inHand = none)
    (stored : s.sockets c = some connection) (waiting : connection.send ≠ []) :
    Told (s.modify c fun connection => { connection with send := connection.send.tail }) c
      { r with inHand := (s.sockets c).bind fun connection => connection.send.head? } := by
  have before : queue s c = some connection.send := by rw [queue, stored]; rfl
  have after : queue (s.modify c fun connection => { connection with send := connection.send.tail }) c =
      some connection.send.tail := by
    show (Function.update s.sockets c _ c).map ControlConnection.send = _
    rw [Function.update_self, stored]
    rfl
  refine ⟨h.station, h.early, fun ungreeted => ?_, fun greeted => ?_⟩
  · obtain ⟨_, _, empty, _⟩ := h.silent ungreeted
    rw [before] at empty
    exact absurd empty waiting
  · obtain ⟨station, messages, n, own, found, order, bound, exact⟩ := h.told greeted
    cases before.symm.trans found
    refine ⟨station, connection.send.tail, n, own, after, ?_, bound, exact⟩
    rw [stored]
    show r.written ++ connection.send.head?.toList ++ connection.send.tail =
      helloMessage s.build station :: List.replicate n .configurationChanged
    cases contents : connection.send with
    | nil => exact absurd contents waiting
    | cons m rest =>
      rw [contents, idle] at order
      simpa using order

/-- A notification selects the connection. -/
theorem Told.select (h : Told s c r) (build : s'.build = s.build) (serves : s'.serves = s.serves)
    (kept : queue s' c = queue s c) (more : due s' c = due s c + 1) : Told s' c { r with selected := r.selected + 1 } := by
  constructor
  · rw [serves]
    exact h.station
  · rw [serves]
    exact h.early
  · intro ungreeted
    obtain ⟨written, inHand, empty, behind, due⟩ := h.silent ungreeted
    exact ⟨written, inHand, kept ▸ empty, behind, by rw [more, due]⟩
  · intro greeted
    obtain ⟨station, waiting, n, own, found, order, bound, exact⟩ := h.told greeted
    refine ⟨station, waiting, n, own, kept.trans found, by rw [build]; exact order, ?_, fun kept => ?_⟩
    · show n + Cleanup.due s' c ≤ r.selected + 1
      omega
    · have := exact kept
      show n + Cleanup.due s' c = r.selected + 1
      omega

/-- And its message reaches the channel, or finds it full. -/
theorem Told.enqueue {connection : ControlConnection} {calls : List SocketCall} (h : Told s c r) (greeted : r.greeted = true)
    (stored : s.sockets c = some connection) (fewer : due s c = calls.count (.enqueue c .configurationChanged) + 1) :
    Told { s.modify c (.enqueue .configurationChanged) with calls } c
      (if hasRoom s c = false then { r with behind := true } else r) := by
  obtain ⟨station, waiting, n, own, found, order, bound, exact⟩ := h.told greeted
  have contents : waiting = connection.send := by
    rw [queue, stored] at found
    exact (Option.some.inj found).symm
  have after : queue { s.modify c (.enqueue .configurationChanged) with calls } c =
      some (connection.enqueue .configurationChanged).send := by
    show (Function.update s.sockets c _ c).map ControlConnection.send = _
    rw [Function.update_self, stored]
    rfl
  by_cases room : connection.send.length < controlBuffer
  · rw [if_neg (by simp [hasRoom, stored, room])]
    refine ⟨h.station, h.early, fun ungreeted => absurd (ungreeted.symm.trans greeted) nofun, fun _ => ?_⟩
    refine ⟨station, _, n + 1, own, after, ?_, ?_, fun kept => ?_⟩
    · rw [ControlConnection.enqueue_of_room _ room, ← List.append_assoc, ← contents, order, List.replicate_succ']
      rfl
    · show n + 1 + calls.count _ ≤ r.selected
      omega
    · have := exact kept
      show n + 1 + calls.count _ = r.selected
      omega
  · rw [if_pos (by simp [hasRoom, stored, room])]
    refine ⟨h.station, h.early, fun ungreeted => absurd (ungreeted.symm.trans greeted) nofun, fun _ => ?_⟩
    refine ⟨station, _, n, own, after, ?_, ?_, nofun⟩
    · rw [ControlConnection.enqueue, if_neg room]
      rw [contents] at order
      exact order
    · show n + calls.count _ ≤ r.selected
      omega

/-- Each selected connection is due one message more: nobody is registered twice. -/
theorem due_select {locationID : ID} (mapped : Mapped s) :
    ((s.conns.toList.filter fun entry => (s.sockets entry.2).any fun connection => decide (connection.locationID = locationID)).map
      fun entry => SocketCall.enqueue entry.2 .configurationChanged).count (.enqueue c .configurationChanged) =
      if selects s c (.configurationChangedForLocation locationID) then 1 else 0 := by
  have alone : ∀ e ∈ s.conns.toList, ∀ e' ∈ s.conns.toList, e.2 = e'.2 → e = e' := by
    rintro ⟨k, p⟩ mem ⟨k', p'⟩ mem' same
    cases same
    obtain ⟨station, registered, rfl⟩ := mapped.entry k p (Table.mem_toList.1 mem)
    obtain ⟨station', registered', rfl⟩ := mapped.entry k' p (Table.mem_toList.1 mem')
    cases registered.symm.trans registered'
    rfl
  have once : ((s.conns.toList.filter fun entry =>
      (s.sockets entry.2).any fun connection => decide (connection.locationID = locationID)).map
        fun entry => SocketCall.enqueue entry.2 .configurationChanged).Nodup := by
    refine List.Nodup.map_on ?_ ((Table.nodup_toList _).filter _)
    intro e mem e' mem' same
    exact alone e (List.mem_of_mem_filter mem) e' (List.mem_of_mem_filter mem') (SocketCall.enqueue.inj same).1
  rw [once.count]
  refine if_congr ?_ rfl rfl
  simp only [List.mem_map, List.mem_filter, selects, Table.exists?_iff, Bool.and_eq_true, decide_eq_true_eq]
  constructor
  · rintro ⟨⟨k, p⟩, ⟨mem, located⟩, same⟩
    cases same
    exact ⟨k, p, Table.mem_toList.1 mem, rfl, located⟩
  · rintro ⟨k, p, found, rfl, located⟩
    exact ⟨(k, p), ⟨Table.mem_toList.2 found, located⟩, rfl⟩

/-- All messages that are due are of notifications. -/
theorem step_calls {l : Label} {p : String} {message : ServerMessage} (stepped : s.step sha256Hex l = some s')
    (mem : SocketCall.enqueue p message ∈ s'.calls) : SocketCall.enqueue p message ∈ s.calls ∨ message = .configurationChanged := by
  cases l <;> simp only [State.step] at stepped
  case replace =>
    split at stepped <;> cases stepped
    rename_i previous _
    cases previous <;> exact .inl mem
  case configurationChanged =>
    split at stepped <;> cases stepped
    · rcases List.mem_append.1 mem with mem | mem
      · exact .inl mem
      · cases List.mem_singleton.1 mem
        exact .inr rfl
    · exact .inl mem
  case configurationChangedForLocation =>
    cases stepped
    rcases List.mem_append.1 mem with mem | mem
    · exact .inl mem
    · obtain ⟨entry, _, same⟩ := List.mem_map.1 mem
      cases same
      exact .inr rfl
  case disconnect =>
    split at stepped <;> cases stepped
    · rcases List.mem_append.1 mem with mem | mem
      · exact .inl mem
      · cases List.mem_singleton.1 mem
    · exact .inl mem
  case close =>
    split at stepped <;> cases stepped
    · exact .inl mem
    · rcases List.mem_append.1 mem with mem | mem
      · exact .inl mem
      · obtain ⟨entry, _, same⟩ := List.mem_map.1 mem
        cases same
  case call =>
    obtain ⟨call, _, rfl⟩ := Option.map_eq_some_iff.1 stepped
    exact .inl (List.mem_of_mem_eraseIdx mem)
  all_goals
    repeat' split at stepped
    all_goals first
      | cases stepped; exact .inl mem
      | cases stepped

/-- What holds in every state of a run that greets first. -/
structure Ordered (t : Traffic) : Prop where
  mapped : Mapped t.state
  calls : ∀ p message, SocketCall.enqueue p message ∈ t.state.calls → message = .configurationChanged
  told : ∀ c, Told t.state c (t.records c)

variable {t t' : Traffic}

/-- The other connections at a step of one. -/
theorem Told.other {p : String} {v : Serve} (h : Told s c r) (base : Steady s s' c) (ne : c ≠ p) : Told (s'.put p v) c r :=
  h.steady (base.trans (steady_put_ne ne))

/-- A call on the socket of another connection. -/
theorem steady_modify_ne {p : String} {f : ControlConnection → ControlConnection} (ne : c ≠ p) : Steady s (s.modify p f) c where
  build := rfl
  queue := congrArg (Option.map ControlConnection.send) (Function.update_of_ne ne ..)
  due := rfl
  station _ := id
  early := id

theorem told_call {i : Nat} (h : Ordered t) (good : Greeted t (.hub (.call i)))
    (stepped : t.state.step sha256Hex (.call i) = some s') : Told s' c ((t.records c).note t.state c (.call i)) := by
  obtain ⟨call, found, rfl⟩ := Option.map_eq_some_iff.1 stepped
  obtain ⟨inside, is⟩ := List.getElem?_eq_some_iff.1 found
  have perm : (call :: t.state.calls.eraseIdx i).Perm t.state.calls := is ▸ List.getElem_cons_eraseIdx_perm inside
  have counted : due t.state c = (call :: t.state.calls.eraseIdx i).count (.enqueue c .configurationChanged) :=
    (perm.count_eq _).symm
  cases call with
  | close p reason =>
    have note : (t.records c).note t.state c (.call i) = t.records c := by simp [Record.note, found]
    rw [note]
    have closed : Steady t.state (t.state.modify p (.close reason)) c := steady_modify fun _ => rfl
    have skipped : due t.state c = (t.state.calls.eraseIdx i).count (.enqueue c .configurationChanged) := by
      rw [counted]
      exact List.count_cons_of_ne (by simp)
    exact (h.told c).steady ⟨closed.build, closed.queue, skipped.symm, closed.station, closed.early⟩
  | enqueue p message =>
    cases h.calls p message (is ▸ List.getElem_mem inside)
    by_cases own : c = p
    · subst own
      have greeted : (t.records c).greeted = true := good _ found
      have note : (t.records c).note t.state c (.call i) =
          if hasRoom t.state c = false then { t.records c with behind := true } else t.records c := by
        simp [Record.note, found]
      rw [note]
      obtain ⟨_, waiting, _, _, stored, _⟩ := (h.told c).told greeted
      obtain ⟨connection, stored, _⟩ := Option.map_eq_some_iff.1 stored
      exact (h.told c).enqueue greeted stored (counted.trans List.count_cons_self)
    · have note : (t.records c).note t.state c (.call i) = t.records c := by simp [Record.note, found, Ne.symm own]
      rw [note]
      have other : Steady t.state (t.state.modify p (.enqueue .configurationChanged)) c := steady_modify_ne own
      have skipped : due t.state c = (t.state.calls.eraseIdx i).count (.enqueue c .configurationChanged) := by
        rw [counted]
        exact List.count_cons_of_ne (by simp [Ne.symm own])
      exact (h.told c).steady ⟨other.build, other.queue, skipped.symm, other.station, other.early⟩

/-- One step of the hub. -/
theorem Ordered.hub {l : Label} (h : Ordered t) (ready : t.ready l = true) (good : Greeted t (.hub l))
    (stepped : t.state.step sha256Hex l = some s') : Told s' c ((t.records c).note t.state c l) := by
  have same := Steady.refl t.state c
  have told := h.told c
  cases quiet : l.quiet with
  | true =>
    rw [note_quiet quiet]
    exact told.steady (steady_step quiet stepped)
  | false =>
    cases l with
    | serve p station secret version =>
      simp only [State.step] at stepped
      split at stepped <;> cases stepped
      rename_i fresh
      by_cases own : p = c
      · subst own
        simp only [Record.note, if_pos]
        exact told.serve fresh.1
      · rw [Record.note, if_neg own]
        exact told.other same (Ne.symm own)
    | register p =>
      have note : (t.records c).note t.state c (.register p) = t.records c := by simp [Record.note, selects]
      rw [note]
      simp only [State.step] at stepped
      split at stepped
      · rename_i station was
        split at stepped <;> cases stepped
        · exact told.steady (same.put rfl was (fun _ => id) late)
        · by_cases own : p = c
          · subst own
            exact told.register was
          · refine told.other ⟨rfl, ?_, rfl, fun _ => id, id⟩ (Ne.symm own)
            exact congrArg (Option.map ControlConnection.send) (Function.update_of_ne (Ne.symm own) ..)
      · cases stepped
    | hello p marshals =>
      cases marshals with
      | false => cases quiet
      | true =>
        simp only [State.step] at stepped
        split at stepped <;> cases stepped
        rename_i station was
        by_cases own : p = c
        · subst own
          obtain ⟨connection, stored, _⟩ := h.mapped.stored p station (by rw [was]; rfl)
          obtain ⟨room, told⟩ := told.hello was stored
          simp only [Record.note, if_pos, room]
          exact told
        · rw [Record.note, if_neg own]
          exact told.other (steady_modify_ne (Ne.symm own)) (Ne.symm own)
    | write p =>
      simp only [State.step] at stepped
      split at stepped <;> cases stepped
      by_cases own : p = c
      · subst own
        simp only [Traffic.ready, Bool.and_eq_true, Option.isNone_iff_eq_none, Option.any_eq_true_iff_get,
          Bool.not_eq_true', List.isEmpty_eq_false_iff] at ready
        obtain ⟨idle, found, waiting⟩ := ready
        simp only [Record.note, if_pos]
        exact told.write idle (Option.eq_some_of_isSome found) waiting
      · rw [Record.note, if_neg own]
        exact told.steady (steady_modify_ne (Ne.symm own))
    | configurationChanged k locationID =>
      simp only [State.step] at stepped
      split at stepped <;> cases stepped
      · rename_i p found
        have moved : Steady t.state (t.state.modify p fun connection => { connection with locationID }) c :=
          steady_modify fun _ => rfl
        by_cases own : p = c
        · subst own
          have note : (t.records p).note t.state p (.configurationChanged k locationID) =
              { t.records p with selected := (t.records p).selected + 1 } := by simp [Record.note, selects, found]
          rw [note]
          refine told.select rfl rfl moved.queue ?_
          show (t.state.calls ++ _).count _ = _
          rw [List.count_append, List.count_singleton_self, due]
        · have note : (t.records c).note t.state c (.configurationChanged k locationID) = t.records c := by
            simp [Record.note, selects, found, own]
          rw [note]
          refine told.steady ⟨rfl, moved.queue, ?_, fun _ => id, id⟩
          show (t.state.calls ++ _).count _ = _
          have elsewhere : [SocketCall.enqueue p .configurationChanged].count (.enqueue c .configurationChanged) = 0 :=
            List.count_eq_zero.2 (by simp [Ne.symm own])
          rw [List.count_append, elsewhere]
          rfl
      · rename_i absent
        have note : (t.records c).note t.state c (.configurationChanged k locationID) = t.records c := by
          simp [Record.note, selects, absent]
        rw [note]
        exact told
    | configurationChangedForLocation locationID =>
      cases stepped
      have counted := @due_select t.state c locationID h.mapped
      cases selected : selects t.state c (.configurationChangedForLocation locationID) with
      | true =>
        have note : (t.records c).note t.state c (.configurationChangedForLocation locationID) =
            { t.records c with selected := (t.records c).selected + 1 } := by simp [Record.note, selected]
        rw [note]
        refine told.select rfl rfl rfl ?_
        show (t.state.calls ++ _).count _ = _
        rw [List.count_append, counted, selected, due]
        rfl
      | false =>
        have note : (t.records c).note t.state c (.configurationChangedForLocation locationID) = t.records c := by
          simp [Record.note, selected]
        rw [note]
        refine told.steady ⟨rfl, rfl, ?_, fun _ => id, id⟩
        show (t.state.calls ++ _).count _ = _
        rw [List.count_append, counted, selected, due]
        rfl
    | call i => exact told_call h good stepped
    | _ => cases quiet

/-- `writeLoop` has written the message it had in hand. -/
theorem Told.put {message : ServerMessage} (h : Told s c r) (inHand : r.inHand = some message) :
    Told s c { r with inHand := none, written := r.written ++ [message] } := by
  refine ⟨h.station, h.early, fun ungreeted => ?_, fun greeted => ?_⟩
  · obtain ⟨_, none, _⟩ := h.silent ungreeted
    exact absurd (inHand.symm.trans none) nofun
  · obtain ⟨station, waiting, n, own, found, order, counts⟩ := h.told greeted
    refine ⟨station, waiting, n, own, found, ?_, counts⟩
    rw [inHand] at order
    simpa using order

/-- Every step that greets first keeps the order. -/
theorem Ordered.kept {l : TrafficLabel} (h : Ordered t) (good : Greeted t l) (stepped : t.step sha256Hex l = some t') :
    Ordered t' := by
  have moves : ∀ {l s'}, t.state.step sha256Hex l = some s' →
      ∀ p message, SocketCall.enqueue p message ∈ s'.calls → message = .configurationChanged :=
    fun stepped p message mem => (step_calls stepped mem).elim (h.calls p message) id
  cases l with
  | hub l =>
    simp only [Traffic.step] at stepped
    split at stepped
    · rename_i ready
      obtain ⟨s', moved, rfl⟩ := Option.map_eq_some_iff.1 stepped
      exact ⟨h.mapped.step moved, moves moved, fun c => h.hub ready good moved⟩
    · cases stepped
  | put c =>
    simp only [Traffic.step] at stepped
    split at stepped <;> cases stepped
    rename_i message inHand _
    refine ⟨h.mapped, h.calls, fun p => ?_⟩
    show Told t.state p (Function.update t.records c _ p)
    by_cases own : p = c
    · subst own
      rw [Function.update_self]
      exact (h.told p).put inHand
    · rw [Function.update_of_ne own]
      exact h.told p
  | fail c =>
    simp only [Traffic.step] at stepped
    split at stepped
    · obtain ⟨s', moved, rfl⟩ := Option.map_eq_some_iff.1 stepped
      exact ⟨h.mapped.step moved, moves moved, fun p => (h.told p).steady (steady_step rfl moved)⟩
    · cases stepped

theorem ordered_init (d : Db) (clock : Time) (build : String) : Ordered (.init d clock build) where
  mapped := mapped_init d clock build
  calls _ _ := nofun
  told _ := told_init d clock build

end Order

/-- **What a station is told.** In every run in which no notification reaches a channel before
the hello, the socket of each connection carries the hello and then one message for each
notification that selected it, as far as it has got; and no connection falls behind before
its hello is queued. -/
theorem messages_in_order (sha256Hex : String → String) (d : Db) (clock : Time) (build : String)
    (labels : List TrafficLabel) (t : Traffic) (greeted : Guarded (Traffic.step sha256Hex) Greeted (.init d clock build) labels)
    (reached : run (Traffic.step sha256Hex) (.init d clock build) labels = some t) (c : String) (station : Station)
    (own : (t.records c).station = some station) : InOrder t.state.build station (t.records c) :=
  have ordered := greeted.run_invariant Ordered (fun _ _ _ h good stepped => h.kept good stepped) (ordered_init d clock build) reached
  (ordered.told c).inOrder own

/-- Nothing is lost on the way to a connection that keeps up. -/
theorem every_change_told (sha256Hex : String → String) (d : Db) (clock : Time) (build : String)
    (labels : List TrafficLabel) (t : Traffic) (greeted : Guarded (Traffic.step sha256Hex) Greeted (.init d clock build) labels)
    (reached : run (Traffic.step sha256Hex) (.init d clock build) labels = some t) (c : String)
    (hello : (t.records c).greeted = true) (kept : (t.records c).behind = false) :
    ∃ station waiting n, queue t.state c = some waiting ∧
      (t.records c).written ++ (t.records c).inHand.toList ++ waiting =
        helloMessage t.state.build station :: List.replicate n .configurationChanged ∧
      n + due t.state c = (t.records c).selected := by
  have ordered := greeted.run_invariant Ordered (fun _ _ _ h good stepped => h.kept good stepped) (ordered_init d clock build) reached
  obtain ⟨station, waiting, n, _, found, order, _, exact⟩ := (ordered.told c).told hello
  exact ⟨station, waiting, n, found, order, exact kept⟩

/-- A device connects. -/
def connecting : List TrafficLabel :=
  [.hub (.serve "a" desk "wgst_a" "1.0"), .hub (.claim "a" .answered), .hub (.register "a"), .hub (.replace "a")]

/-- Its station moves once it has the hello. -/
def connected : List TrafficLabel := connecting ++ [.hub (.hello "a" true), .hub (.write "a"), .put "a",
  .hub (.configurationChanged 1 2), .hub (.call 0), .hub (.write "a"), .put "a"]

/-- The hello comes first, and the change after it. -/
theorem messages_in_order_connected :
    ∃ t, run (Traffic.step sampleHash) (.init sampleDb 0 "1.0") connected = some t ∧
      (t.records "a").written = [helloMessage "1.0" desk, .configurationChanged] ∧ InOrder t.state.build desk (t.records "a") := by
  have ends : ((run (Traffic.step sampleHash) (.init sampleDb 0 "1.0") connected).map fun t =>
      ((t.records "a").station, (t.records "a").written)) =
      some (some desk, [helloMessage "1.0" desk, .configurationChanged]) := by decide +kernel
  have greeted : Guarded (Traffic.step sampleHash) Greeted (.init sampleDb 0 "1.0") connected := by decide +kernel
  obtain ⟨t, reached, ends⟩ := Option.map_eq_some_iff.1 ends
  obtain ⟨own, written⟩ := Prod.mk.inj ends
  exact ⟨t, reached, written, messages_in_order sampleHash sampleDb 0 "1.0" connected t greeted reached "a" desk own⟩

/-- Its station moves before. -/
def early : List TrafficLabel := connecting ++ [.hub (.configurationChanged 1 2), .hub (.call 0), .hub (.hello "a" true),
  .hub (.write "a"), .put "a"]

/-- Its station moves five times before. -/
def crowded : List TrafficLabel := connecting ++ List.replicate 5 (.hub (.configurationChanged 1 2)) ++
  List.replicate 5 (.hub (.call 0))

/-- A change is the first message, and four leave no room for the fifth before the hello is
queued. -/
theorem configuration_before_hello :
    (∃ t, run (Traffic.step sampleHash) (.init sampleDb 0 "1.0") early = some t ∧ (t.records "a").station = some desk ∧
      (t.records "a").written = [.configurationChanged] ∧ ¬ InOrder t.state.build desk (t.records "a")) ∧
    ∃ t, run (Traffic.step sampleHash) (.init sampleDb 0 "1.0") crowded = some t ∧
      (t.state.sockets "a").map ControlConnection.closes = some ["station fell behind"] ∧
      (t.state.serves "a").phase = .greeting desk ∧ ¬ InOrder t.state.build desk (t.records "a") := by
  have first : ((run (Traffic.step sampleHash) (.init sampleDb 0 "1.0") early).map fun t =>
      ((t.records "a").station, (t.records "a").written)) = some (some desk, [.configurationChanged]) := by decide +kernel
  have full : ((run (Traffic.step sampleHash) (.init sampleDb 0 "1.0") crowded).map fun t =>
      ((t.state.sockets "a").map ControlConnection.closes, (t.state.serves "a").phase,
        (t.records "a").behind, (t.records "a").greeted)) =
      some (some ["station fell behind"], .greeting desk, true, false) := by decide +kernel
  obtain ⟨t, reached, ends⟩ := Option.map_eq_some_iff.1 first
  obtain ⟨own, written⟩ := Prod.mk.inj ends
  obtain ⟨t', reached', ends⟩ := Option.map_eq_some_iff.1 full
  obtain ⟨closes, ends⟩ := Prod.mk.inj ends
  obtain ⟨phase, ends⟩ := Prod.mk.inj ends
  obtain ⟨behind, ungreeted⟩ := Prod.mk.inj ends
  refine ⟨⟨t, reached, own, written, fun ordered => ?_⟩, t', reached', closes, phase, fun ordered => ?_⟩
  · have hello := ordered.written
    rw [written, List.cons_prefix_cons] at hello
    exact absurd hello.1 (by simp [helloMessage])
  · exact absurd (ungreeted.symm.trans (ordered.behind behind)) nofun

end Woodgate.Stations.Cleanup
