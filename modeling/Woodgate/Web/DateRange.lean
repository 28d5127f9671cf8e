import Mathlib.Data.Int.LeastGreatest
import Woodgate.Checkin.Lists
import Woodgate.Library.LocalTime

/-!
# Check-ins by day

`checkinBounds` in the browser's time zone, and `ListCheckins` with its two instants. A
`Date` is a number of milliseconds; `setHours` and `setDate` of a `Date` find the instant of
a local time as `Zone.utc` does. A day begins at midnight or where the clock skips midnight,
and `addDays` keeps the time of day at which the last day has begun for the day after it.
-/

namespace Woodgate.Web

open Library.LocalTime Checkin

/-- The milliseconds of a day on the clock. -/
def msPerDay : Int := 86400000

section Dates

variable (z : Zone)

/-- The local date at an instant, as a number of days. -/
def localDate (t : Int) : Int := z.localTime t / msPerDay

/-- The local date never goes back. -/
def Forward : Prop := ∀ ⦃t t' : Int⦄, t ≤ t' → localDate z t ≤ localDate z t'

/-- 00:00 of a date. -/
def midnight (date : Int) : Int := date * msPerDay

/-- `startOfDay` of date-fns: `setHours(0, 0, 0, 0)`. -/
def startOfDay (date : Int) : Int := z.utc (midnight (localDate z date))

/-- `addDays` of date-fns: `setDate(getDate() + amount)`. -/
def addDays (date amount : Int) : Int := if amount = 0 then date else z.utc (z.localTime date + amount * msPerDay)

end Dates

/-- A `DateRange`. -/
structure DateRange where
  from_ : Option Int
  to_ : Option Int := none
  deriving DecidableEq, Repr

structure CheckinBounds where
  occurredFrom : Option Time
  occurredBefore : Option Time
  deriving DecidableEq, Repr

/-- The instant of a `toISOString`, as the server reads it. -/
def instant (date : Int) : Time := date * 1000

/-- `checkinBounds` -/
def checkinBounds (z : Zone) (range : Option DateRange) : CheckinBounds where
  occurredFrom := (range.bind DateRange.from_).map fun date => instant (startOfDay z date)
  occurredBefore := (range.bind DateRange.to_).map fun date => instant (addDays z (startOfDay z date) 1)

/-- The list with these bounds and no other filter. -/
def CheckinBounds.params (bounds : CheckinBounds) : CheckinListParams :=
  { occurredFrom := bounds.occurredFrom, occurredBefore := bounds.occurredBefore }

/-- The list shows a check-in exactly if its local date is one of these. -/
def SelectsDays (z : Zone) (bounds : CheckinBounds) (first last : Int) : Prop :=
  ∀ (locale : Postgres.DbLocale) (c : CheckinListRow), checkinWhere locale bounds.params c = true ↔
    first ≤ localDate z (c.checkin.occurredAt / 1000) ∧ localDate z (c.checkin.occurredAt / 1000) ≤ last

section Days

variable {z : Zone} {d e f t : Int}

/-- `e` is the first instant of date `d` or a later one. -/
structure Begins (z : Zone) (d e : Int) : Prop where
  before : ∀ t, t < e → localDate z t < d
  begun : d ≤ localDate z e

theorem midnight_le_iff {l : Int} : midnight d ≤ l ↔ d ≤ l / msPerDay := by
  unfold midnight msPerDay
  omega

/-- A date that comes begins. -/
theorem begins_exists (forward : Forward z) (comes : d ≤ localDate z f) : ∃ e, Begins z d e := by
  obtain ⟨b, early⟩ := (z.reads (midnight d - 1)).exists_le
  have early : localDate z b < d := Int.not_le.1 fun le => by
    have := midnight_le_iff.2 le
    unfold Zone.localTime at this
    omega
  obtain ⟨e, begun, least⟩ := Int.exists_least_of_bdd (P := fun t => d ≤ localDate z t)
    ⟨b, fun t begun => Int.not_lt.1 fun lt => absurd (forward lt.le) (by omega)⟩ ⟨f, comes⟩
  exact ⟨e, fun t lt => Int.not_le.1 fun le => absurd (least t le) (Int.not_le.2 lt), begun⟩

theorem Begins.le_iff (begins : Begins z d e) (forward : Forward z) : d ≤ localDate z t ↔ e ≤ t := by
  constructor
  · intro le
    exact Int.not_lt.1 fun lt => absurd (begins.before t lt) (Int.not_lt.2 le)
  · intro le
    exact begins.begun.trans (forward le)

/-- The dates from `d` to that of `t` are the instants between two beginnings, and those only. -/
theorem interval_iff {a b : Int} (forward : Forward z) (first : localDate z f = d) (le : d ≤ localDate z t) :
    (∀ i, a ≤ i ∧ i < b ↔ d ≤ localDate z i ∧ localDate z i ≤ localDate z t) ↔
      Begins z d a ∧ Begins z (localDate z t + 1) b := by
  constructor
  · intro exact
    have inside := (exact f).2 ⟨first.ge, first.le.trans le⟩
    have start := (exact a).1 ⟨Int.le_refl a, by omega⟩
    refine ⟨⟨fun i before => ?_, start.1⟩, ⟨fun i before => ?_, ?_⟩⟩
    · have outside := mt (exact i).2 (by omega)
      have := forward before.le
      omega
    · rcases Int.le_total a i with after | after
      · have := (exact i).1 ⟨after, before⟩
        omega
      · have := forward after
        omega
    · have outside := mt (exact b).2 (by omega)
      have := forward (inside.2.le)
      omega
  · rintro ⟨begins, ends⟩ i
    rw [← begins.le_iff forward, ← Int.not_le, ← ends.le_iff forward]
    omega

end Days

/-- Only the two bounds filter the list. -/
theorem checkinWhere_params {locale : Postgres.DbLocale} {bounds : CheckinBounds} {c : CheckinListRow} :
    checkinWhere locale bounds.params c = true ↔ (∀ occurredFrom ∈ bounds.occurredFrom, occurredFrom ≤ c.checkin.occurredAt) ∧
      ∀ occurredBefore ∈ bounds.occurredBefore, c.checkin.occurredAt < occurredBefore := by
  obtain ⟨occurredFrom, occurredBefore⟩ := bounds
  cases occurredFrom <;> cases occurredBefore <;> simp [checkinWhere, CheckinBounds.params, Postgres.matchesSearch]

/-- A check-in at a time. -/
def rowAt (occurredAt : Time) : CheckinListRow where
  id := 1
  checkin := {
    appID := 0, userID := 1, locationID := 1, direction := .directionIn, actorKind := "app_key", actorAppID := 0
    occurredAt, createdAt := 0, updatedAt := 0 }
  user := { appID := 0, email := "", createdAt := 0, updatedAt := 0 }
  location := { appID := 0, name := "", createdAt := 0, updatedAt := 0 }

theorem mul_le_iff (t time : Int) : t * 1000 ≤ time ↔ t ≤ time / 1000 := by omega

theorem lt_mul_iff (t time : Int) : time < t * 1000 ↔ time / 1000 < t := by omega

/-- What the list shows are the instants between the bounds. -/
theorem selectsDays_iff {z : Zone} {a b first last : Int} :
    SelectsDays z ⟨some (instant a), some (instant b)⟩ first last ↔
      ∀ i, a ≤ i ∧ i < b ↔ first ≤ localDate z i ∧ localDate z i ≤ last := by
  have bounds : ∀ (locale : Postgres.DbLocale) (c : CheckinListRow),
      checkinWhere locale (CheckinBounds.params ⟨some (instant a), some (instant b)⟩) c = true ↔
        a ≤ c.checkin.occurredAt / 1000 ∧ c.checkin.occurredAt / 1000 < b := by
    intro locale c
    rw [checkinWhere_params]
    simp only [instant, Option.mem_some_iff, forall_eq']
    exact and_congr (mul_le_iff a _) (lt_mul_iff b _)
  constructor
  · intro exact i
    have shown := (bounds .c (rowAt (i * 1000))).symm.trans (exact .c (rowAt (i * 1000)))
    have same : (rowAt (i * 1000)).checkin.occurredAt / 1000 = i := Int.mul_ediv_cancel i (by decide)
    rwa [same] at shown
  · intro exact locale c
    exact (bounds locale c).trans (exact _)

section Bounds

variable {z : Zone} {from_ to_ : Int}

/-- The bounds are where the first date begins and where the one after the last does. -/
theorem selectsDays_checkinBounds (forward : Forward z) (le : localDate z from_ ≤ localDate z to_) :
    SelectsDays z (checkinBounds z (some ⟨some from_, some to_⟩)) (localDate z from_) (localDate z to_) ↔
      Begins z (localDate z from_) (startOfDay z from_) ∧
        Begins z (localDate z to_ + 1) (z.utc (z.localTime (startOfDay z to_) + msPerDay)) := by
  have bounds : checkinBounds z (some ⟨some from_, some to_⟩) =
      ⟨some (instant (startOfDay z from_)), some (instant (addDays z (startOfDay z to_) 1))⟩ := rfl
  have next : addDays z (startOfDay z to_) 1 = z.utc (z.localTime (startOfDay z to_) + msPerDay) := by
    rw [addDays, if_neg (by decide), Int.one_mul]
  rw [bounds, selectsDays_iff, interval_iff forward rfl le, next]

/-- The start of a day is where the clock comes to its 00:00. -/
theorem startOfDay_of_reads {e : Int} (reads : Reads z.offset (midnight (localDate z from_)) e) :
    startOfDay z from_ = e := by
  rw [startOfDay, Zone.utc_eq_iff.2 reads]

end Bounds

/-- A date that begins at 00:00. -/
theorem reads_midnight {z : Zone} {d e : Int} (begins : Begins z d e) (shows : z.localTime e = midnight d) :
    Reads z.offset (midnight d) e := by
  refine .shows shows fun t before same => absurd (begins.before t before) (Int.not_lt.2 ?_)
  exact midnight_le_iff.1 same.ge

/-- Dates that begin at 00:00, and end at 24:00, are shown as they are. -/
theorem checkinBounds_of_midnights {z : Zone} (forward : Forward z) {from_ to_ e start e' : Int}
    (le : localDate z from_ ≤ localDate z to_) (first : Begins z (localDate z from_) e)
    (first_midnight : z.localTime e = midnight (localDate z from_)) (last : Begins z (localDate z to_) start)
    (last_midnight : z.localTime start = midnight (localDate z to_)) (next : Begins z (localDate z to_ + 1) e')
    (next_midnight : z.localTime e' = midnight (localDate z to_ + 1)) :
    SelectsDays z (checkinBounds z (some ⟨some from_, some to_⟩)) (localDate z from_) (localDate z to_) := by
  have day : z.localTime start + msPerDay = midnight (localDate z to_ + 1) := by
    rw [last_midnight, midnight, midnight, Int.add_mul, Int.one_mul]
  rw [selectsDays_checkinBounds forward le, startOfDay_of_reads (reads_midnight first first_midnight),
    startOfDay_of_reads (reads_midnight last last_midnight), day,
    Zone.utc_eq_iff.2 (reads_midnight next next_midnight)]
  exact ⟨first, next⟩

section Samples

end Samples

end Woodgate.Web
