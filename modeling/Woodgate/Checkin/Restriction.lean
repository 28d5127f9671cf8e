import Woodgate.Checkin.Eligibility
import Woodgate.Directory.Reconciliation

/-!
# Restricted locations under synchronisation

A location is restricted by the rows of `location_directory_groups`, and these follow their
groups out of the database. A synchronisation that deletes every group of a location leaves
it unrestricted; `restriction_kept_iff` says that this is the only way a synchronisation
lets in somebody who is in none of the groups, and that it always does when somebody
active is left.
-/

namespace Woodgate.Checkin

open Library Directory

/-- A group of the location is in the snapshot, or is not the provider's. -/
def KeepsGroup (source : Source) (snapshot : ProviderSnapshot) (d : Db) (l : ID) : Prop :=
  ∃ g row, (d.locationGroups.row (l, g)).isSome ∧ d.groups.row g = some row ∧
    (row.source = source → row.externalID ∈ snapshot.groups.map ProviderGroup.externalID)

/-- The snapshot enables nobody, and nobody of another source is active. -/
def LeavesNobody (source : Source) (snapshot : ProviderSnapshot) (d : Db) : Prop :=
  (∀ e w, snapshot.user e = some w → w.enabled = false) ∧
    ∀ id u, d.users.row id = some u → u.deletedAt = none → u.source = source

section Reconciled

variable {source : Source} {snapshot : ProviderSnapshot} {d d' : Db} {l p : ID}

/-- A group of the location that survives still restricts it. -/
theorem restricted_of_keepsGroup (h : Reconciled source snapshot d d') (keeps : KeepsGroup source snapshot d l) :
    Restricted d' l := by
  obtain ⟨g, row, restricts, found, staged⟩ := keeps
  refine ⟨g, ?_⟩
  have stays : (d'.groups.row g).isSome := by
    by_cases own : row.source = source
    · obtain ⟨row', found', _⟩ := (h.group_kept g row found).2 own (staged own)
      simp [found']
    · simp [(h.group_kept g row found).1 own]
  rw [h.locationGroups, if_pos stays]
  exact restricts

/-- Where no group of the location survives, nothing restricts it. -/
theorem unrestricted_of_not_keepsGroup (constraints : d.Constraints) (h : Reconciled source snapshot d d')
    (lost : ¬ KeepsGroup source snapshot d l) : ¬ Restricted d' l := by
  rintro ⟨g, restricts⟩
  rw [h.locationGroups] at restricts
  split at restricts
  · rename_i stays
    obtain ⟨row, found⟩ := Option.isSome_iff_exists.1 (constraints.locationGroupGroup l g restricts)
    obtain ⟨row', found'⟩ := Option.isSome_iff_exists.1 stays
    have same := h.group_identity g row row' found found'
    refine lost ⟨g, row, restricts, found, fun own => ?_⟩
    rw [← same.externalID]
    exact (h.groups _).1 ⟨g, row', found', same.source.trans own, rfl⟩
  · cases restricts

/-- Whoever is active after the synchronisation comes from the snapshot or from elsewhere. -/
theorem inactive_of_leavesNobody (h : Reconciled source snapshot d d') (nobody : LeavesNobody source snapshot d)
    {id : ID} {u : UserRow} (found : d'.users.row id = some u) : u.deletedAt ≠ none := by
  intro active
  by_cases own : u.source = source
  · obtain ⟨e, _, iff⟩ := h.user_active id u found own
    obtain ⟨w, winner, enabled⟩ := iff.1 active
    rw [nobody.1 e w winner] at enabled
    cases enabled
  · cases before : d.users.row id with
    | none => exact own (h.user_new id u before found).1
    | some old =>
      obtain ⟨u', found', same, foreign⟩ := h.user_kept id old before
      cases found'.symm.trans found
      have other : old.source ≠ source := fun eq => own (same.source.trans eq)
      rw [foreign other] at active
      exact other (nobody.2 id old before active)

/-- Somebody is active after the synchronisation, unless it leaves nobody. -/
theorem exists_active (h : Reconciled source snapshot d d') (somebody : ¬ LeavesNobody source snapshot d) :
    ∃ id u, d'.users.row id = some u ∧ u.deletedAt = none := by
  rw [LeavesNobody, not_and_or] at somebody
  rcases somebody with enabled | other
  · simp only [not_forall] at enabled
    obtain ⟨e, w, winner, enabled⟩ := enabled
    rw [Bool.not_eq_false] at enabled
    obtain ⟨id, u, found, own, external, _⟩ := h.users e w winner
    obtain ⟨e', external', iff⟩ := h.user_active id u found own
    cases external.symm.trans external'
    exact ⟨id, u, found, iff.2 ⟨w, winner, enabled⟩⟩
  · simp only [not_forall] at other
    obtain ⟨id, u, found, active, foreign⟩ := other
    obtain ⟨u', found', _, same⟩ := h.user_kept id u found
    exact ⟨id, u', found', (same foreign).symm ▸ active⟩

end Reconciled

/-- **Who a synchronisation lets in.** For any location and any synchronisation that commits,
everybody eligible afterwards is in one of the groups the location was restricted to,
exactly when one of these groups survives or nobody active is left. The three queries
agree on who is eligible. -/
theorem restriction_kept_iff (locale : Postgres.DbLocale) (now : Time) (source : Source) (snapshot : ProviderSnapshot)
    (d d' : Db) (constraints : d.Constraints) (l : ID)
    (h : transact (applyProviderSnapshot locale now source snapshot) d = .ok d') :
    ((∀ p, personEligible l p d' = true → ∃ g, (d.locationGroups.row (l, g)).isSome ∧ (d'.memberships.row (p, g)).isSome) ↔
      KeepsGroup source snapshot d l ∨ LeavesNobody source snapshot d) ∧
    (∀ p, (∃ row ∈ listPeople locale l d', row.id = p) ↔ personEligible l p d' = true) ∧
    ∀ p, (∃ pageIndex items count, 0 ≤ pageIndex ∧
      listEligiblePeople locale l { pageIndex, pageSize := 0 } d' = .ok (items, count) ∧ ∃ item ∈ items, item.id = p) ↔
      personEligible l p d' = true := by
  have reconciled : Reconciled source snapshot d d' := by
    obtain ⟨notLocal, groups, users, groupsApplied, usersApplied, rfl⟩ := applied_of_commit constraints h
    exact reconciled_outcome constraints notLocal groupsApplied usersApplied
  refine ⟨?_, fun p => mem_listPeople_iff, fun p => mem_listEligiblePeople_iff 0 (by decide) (by decide)⟩
  constructor
  · intro only
    by_contra neither
    rw [not_or] at neither
    obtain ⟨p, u, found, active⟩ := exists_active reconciled neither.2
    have unrestricted := unrestricted_of_not_keepsGroup constraints reconciled neither.1
    obtain ⟨g, was, member⟩ := only p
      (personEligible_iff.2 ⟨u, found, active, fun still => absurd still unrestricted⟩)
    -- the membership keeps its group, and with it the restriction
    refine unrestricted ⟨g, ?_⟩
    rw [reconciled.locationGroups, if_pos (reconciled.membership_group p g member)]
    exact was
  · rintro condition p eligible
    obtain ⟨u, found, active, allowed⟩ := personEligible_iff.1 eligible
    rcases condition with keeps | nobody
    · obtain ⟨g, still, member⟩ := allowed (restricted_of_keepsGroup reconciled keeps)
      rw [reconciled.locationGroups] at still
      split at still
      · exact ⟨g, still, member⟩
      · cases still
    · exact absurd active (inactive_of_leavesNobody reconciled nobody found)

/-- A location restricted to the staff, and a local user who is not. -/
def staffOnly : Db where
  users := .ofList [(1, { appID := 0, email := "visitor@example.invalid", createdAt := 0, updatedAt := 0 })]
  groups := .ofList [(1, {
    appID := 1, source := .sourceEntra, externalID := "staff", displayName := "Staff", createdAt := 0, updatedAt := 0 })]
  locations := .ofList [(1, { appID := 2, name := "Office", createdAt := 0, updatedAt := 0 })]
  locationGroups := .ofList [((1, 1), ())]
  seq := { users := 2, groups := 2, locations := 2, uuid := 3 }

theorem staffOnly_constraints : staffOnly.Constraints := by
  decide +kernel

/-- As long as the provider returns the staff, the visitor stays out. -/
theorem staff_stays_restricted :
    ∃ d', transact (applyProviderSnapshot .c 5 .sourceEntra sampleSnapshot) staffOnly = .ok d' ∧
      ∀ p, personEligible 1 p d' = true →
        ∃ g, (staffOnly.locationGroups.row (1, g)).isSome ∧ (d'.memberships.row (p, g)).isSome := by
  refine ⟨_, rfl, ?_⟩
  refine (restriction_kept_iff .c 5 .sourceEntra sampleSnapshot staffOnly _ staffOnly_constraints 1 rfl).1.2 ?_
  exact .inl ⟨1, _, rfl, rfl, fun _ => by decide⟩

/-- The provider stops returning the staff, and the visitor may check in. -/
theorem lost_group_opens_location :
    ∃ d', transact (applyProviderSnapshot .c 5 .sourceEntra {}) staffOnly = .ok d' ∧ Restricted staffOnly 1 ∧
      personEligible 1 1 staffOnly = false ∧ personEligible 1 1 d' = true ∧
      ¬ ∃ g, (staffOnly.locationGroups.row (1, g)).isSome ∧ (d'.memberships.row (1, g)).isSome := by
  refine ⟨_, rfl, ⟨1, rfl⟩, rfl, rfl, ?_⟩
  rintro ⟨g, _, member⟩
  cases member

end Woodgate.Checkin
