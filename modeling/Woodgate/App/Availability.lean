import Woodgate.App.Storage

/-!
# Unavailable stations

A station that is unavailable shows a card instead of the check-in screen. The step that takes
the card away should have fetched a configuration whose location is enabled, or forgotten the
pairing. `unavailableState(for:)` knows no state for some errors, and `bootstrap` and a refresh
that fail with one of them take it away as well: `run_unavailable` is about the runs in which
none does (`Reported`), and `failed_refresh_restores` is a run in which one does.
-/

namespace Woodgate.App

open Library.Runs

/-- The step stores and shows what one of the fetches has got: a configuration with an enabled location. -/
def Restores (foundation : Foundation) (s : State) (a : Attempt) (s' : State) : Prop :=
  ∃ task routine session build configuration people lastSyncedAt,
    s.persisting foundation a.label = some (task, routine, session) ∧ routine.fetching = some build ∧
    build.point = .images configuration people lastSyncedAt ∧ configuration.location.enabled = true ∧
    session.location = configuration.location ∧ s'.Stores session ∧ s'.currentSession = some session

/-- A session of a disabled location is not on the screen. -/
def State.Screened (s : State) : Prop :=
  ∀ session, s.currentSession = some session → session.location.enabled = false → s.unavailableState ≠ none

/-- When `bootstrap` or a refresh fails with an error without a state of its own, the station was available and the
session it leaves is one of an enabled location. -/
def Reported (foundation : Foundation) (s : State) (a : Attempt) : Prop :=
  ∀ screen ∈ s.givesUp foundation a, screen.2 = none →
    s.unavailableState = none ∧ ∀ session ∈ screen.1, session.location.enabled = true

instance (foundation : Foundation) (s : State) (a : Attempt) : Decidable (Reported foundation s a) :=
  inferInstanceAs (Decidable (∀ screen ∈ s.givesUp foundation a, screen.2 = none → _))

section Steps

variable {foundation : Foundation} {s s' : State} {a : Attempt}

/-- One step. -/
theorem attempt_unavailable (screened : s.Screened) (reported : Reported foundation s a)
    (taken : attempt foundation s a = some s') :
    (s.unavailableState ≠ none → s'.unavailableState = none →
      Restores foundation s a s' ∨ a.label = .forgetPairing none) ∧ s'.Screened := by
  cases attempt_shows taken with
  | keeps screen =>
    obtain ⟨session, state⟩ := Prod.mk.inj screen
    unfold State.Screened
    rw [session, state]
    exact ⟨fun gone shown => absurd shown gone, screened⟩
  | reports state screen =>
    obtain ⟨_, state⟩ := Prod.mk.inj screen
    unfold State.Screened
    simp [state]
  | empties screen =>
    obtain ⟨session, state⟩ := Prod.mk.inj screen
    unfold State.Screened
    simp only [session, state]
    exact ⟨fun gone shown => absurd shown gone, by simp⟩
  | forgets label screen =>
    obtain ⟨session, _⟩ := Prod.mk.inj screen
    unfold State.Screened
    exact ⟨fun _ _ => .inr label, by simp [session]⟩
  | givesUp given =>
    have reported := reported s'.screen given
    refine ⟨fun gone shown => absurd (reported shown).1 gone, fun session current disabled shown => ?_⟩
    have enabled := (reported shown).2 session current
    rw [disabled] at enabled
    cases enabled
  | stores task routine session persisting stored screen =>
    obtain ⟨current, state⟩ := Prod.mk.inj screen
    refine ⟨fun _ shown => .inl ?_, fun other there disabled => ?_⟩
    · obtain ⟨answer, now, cancelled, _, _, persists⟩ := persisting_eq_some persisting
      obtain ⟨build, configuration, people, lastSyncedAt, background, logo, _, fetching, point, rfl⟩ := persists_eq_some persists
      have enabled : configuration.location.enabled = true := by
        have shown : (if configuration.location.enabled then none else some UnavailableState.locationDisabled) = none :=
          state.symm.trans shown
        by_contra disabled
        rw [if_neg disabled] at shown
        cases shown
      exact ⟨task, routine, _, build, configuration, people, lastSyncedAt, persisting, fetching, point, enabled,
        rfl, stored, current⟩
    · cases current.symm.trans there
      rw [state, disabled]
      simp

end Steps

/-- **A failed refresh does not make an unavailable station available**: in a run in which every failure of a fetch is
reported, a step that ends the unavailability has stored a configuration whose location is enabled or has forgotten
the pairing, and the check-in screen is never that of a disabled location. -/
theorem run_unavailable (foundation : Foundation) {s₀ s s' : State} {as : List Attempt} {a : Attempt}
    (start : s₀.Screened) (reported : Guarded (attempt foundation) (Reported foundation) s₀ (as ++ [a]))
    (reached : run (attempt foundation) s₀ as = some s) (taken : attempt foundation s a = some s') :
    (s.unavailableState ≠ none → s'.unavailableState = none →
      Restores foundation s a s' ∨ a.label = .forgetPairing none) ∧
    (∀ session, s'.currentSession = some session → session.location.enabled = false → s'.unavailableState ≠ none) ∧
    ∀ session, s'.rootView = .checkinHome session → session.location.enabled = true := by
  have screened : s.Screened :=
    reported.left.run_invariant State.Screened (fun _ _ _ inv good taken => (attempt_unavailable inv good taken).2) start reached
  have own : Reported foundation s a := (reported.right reached).1
  obtain ⟨ends, screened'⟩ := attempt_unavailable screened own taken
  refine ⟨ends, screened', fun session shown => ?_⟩
  unfold State.rootView at shown
  split at shown
  · cases shown
  · rename_i other current available
    cases shown
    by_contra disabled
    exact screened' session current (Bool.eq_false_iff.2 disabled) available
  · split at shown <;> cases shown

/-! ## A refresh with an answer of no state -/

def closedConfiguration : StationConfiguration :=
  { deskConfiguration with location := { deskConfiguration.location with enabled := false } }

/-- The answers of a fetch while the location is closed. -/
def closedAnswers (task : TaskID) : List Label :=
  [.resume task (.configuration (.ok closedConfiguration)) 20 false,
    .resume task (.images (.error (.other "none")) (.error (.other "none"))) 20 false]

/-- The desk starts while its location is closed, and a refresh is under way. -/
def closedDesk : List Attempt :=
  attempts ([.bootstrap none] ++ closedAnswers 0 ++ [.refreshSession, .resume 2 .resumed 30 false])

/-- The check-in screen of a closed location. -/
def Screen.closedHome : Screen → Bool
  | .checkinHome session => !session.location.enabled
  | _ => false

def refused (statusCode : Int) : Attempt := { label := .resume 2 (.configuration (.error (.apiError statusCode ""))) 40 false }

/-- The refresh is refused, and the next one gets to its images. -/
def reopening : List Attempt :=
  closedDesk ++ [refused 409] ++ attempts [.resume 3 .resumed 40 false, .refreshSession, .resume 4 .resumed 50 false,
    .resume 4 (.configuration (.ok deskConfiguration)) 50 false, .resume 4 (.people (.ok [])) 50 false]

def reopened : Attempt := { label := .resume 4 (.images (.error (.other "none")) (.error (.other "none"))) 50 false }

/-- The last answer takes the card away. -/
theorem run_unavailable_desk : ∃ s s', run (attempt deskFoundation) deskState reopening = some s ∧
    attempt deskFoundation s reopened = some s' ∧ s.unavailableState = some .locationDisabled ∧
    s'.unavailableState = none ∧ Restores deskFoundation s reopened s' := by
  have ends : ((run (attempt deskFoundation) deskState reopening).bind fun s => (attempt deskFoundation s reopened).map
      fun s' => (s.unavailableState, s'.unavailableState)) = some (some .locationDisabled, none) := by decide +kernel
  obtain ⟨s, reached, rest⟩ := Option.bind_eq_some_iff.1 ends
  obtain ⟨s', taken, states⟩ := Option.map_eq_some_iff.1 rest
  obtain ⟨closed, opened⟩ := Prod.mk.inj states
  have start : deskState.Screened := fun _ absent => by cases absent
  obtain ⟨restores, _⟩ := run_unavailable deskFoundation start (by decide +kernel) reached taken
  refine ⟨s, s', reached, taken, closed, opened, ?_⟩
  rcases restores (by simp [closed]) opened with restores | forgotten
  · exact restores
  · cases forgotten

/-- A refresh that fails with 404 shows the check-in screen of the closed location. -/
theorem failed_refresh_restores : ∃ s s', run (attempt deskFoundation) deskState closedDesk = some s ∧
    attempt deskFoundation s (refused 404) = some s' ∧ s.unavailableState = some .locationDisabled ∧
    s'.unavailableState = none ∧ ¬ Restores deskFoundation s (refused 404) s' ∧
    ∃ session, s'.rootView = .checkinHome session ∧ session.location.enabled = false := by
  have ends : ((run (attempt deskFoundation) deskState closedDesk).bind fun s =>
      (attempt deskFoundation s (refused 404)).map fun s' =>
        (s.unavailableState, s'.unavailableState, (s.persisting deskFoundation (refused 404).label).isNone,
          s'.rootView.closedHome)) = some (some .locationDisabled, none, true, true) := by decide +kernel
  obtain ⟨s, reached, rest⟩ := Option.bind_eq_some_iff.1 ends
  obtain ⟨s', taken, seen⟩ := Option.map_eq_some_iff.1 rest
  simp only [Prod.mk.injEq, Option.isNone_iff_eq_none] at seen
  obtain ⟨closed, opened, idle, view⟩ := seen
  refine ⟨s, s', reached, taken, closed, opened, ?_, ?_⟩
  · rintro ⟨task, routine, session, _, _, _, _, persisting, _⟩
    cases idle.symm.trans persisting
  · cases shown : s'.rootView with
    | checkinHome session => exact ⟨session, rfl, by simpa [shown, Screen.closedHome] using view⟩
    | _ =>
      rw [shown] at view
      cases view

end Woodgate.App
