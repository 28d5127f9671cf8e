import Mathlib.Algebra.Order.BigOperators.Group.List
import Mathlib.Algebra.Order.Group.Nat
import Woodgate.Directory.ProviderStore
import Woodgate.Library.Table
import Woodgate.Library.Worklist

/-!
# Fetching Entra snapshots

`Client.Fetch` and `Service.Sync`. The Graph SDK is a parameter: what it answers in each
round (`Batch`), and in which order Go visits the responses. `Graph` below says what the
answers are if every response is present and successful.
-/

namespace Woodgate.Directory.Entra

open Library

/-- `graphPageSize` -/
def graphPageSize : Int := 999

/-- `deref` -/
def deref (value : Option String) : String := value.getD ""

/-- `enabled` -/
def enabled (value : Option Bool) : Bool := value.getD true

/-- The fields `fetchUsers` selects. -/
structure GraphUser where
  id : Option String
  userPrincipalName : Option String := none
  mail : Option String := none
  mailNickname : Option String := none
  displayName : Option String := none
  givenName : Option String := none
  surname : Option String := none
  department : Option String := none
  accountEnabled : Option Bool := none

/-- The fields `fetchGroups` selects. -/
structure GraphGroup where
  id : Option String
  displayName : Option String := none
  mailNickname : Option String := none

/-- What `fetchUsers` appends for each user the iterator visits. -/
def GraphUser.providerUser (user : GraphUser) : ProviderUser where
  externalID := deref user.id
  userPrincipalName := deref user.userPrincipalName
  mail := deref user.mail
  mailNickname := deref user.mailNickname
  displayName := deref user.displayName
  givenName := deref user.givenName
  familyName := deref user.surname
  department := deref user.department
  enabled := enabled user.accountEnabled

/-- What `fetchGroups` appends. -/
def GraphGroup.providerGroup (group : GraphGroup) : ProviderGroup where
  externalID := deref group.id
  displayName := deref group.displayName
  mailNickname := deref group.mailNickname

/-- A `graphMembershipRequest`. -/
structure MembershipRequest where
  userID : String
  nextLink : String := ""
  deriving DecidableEq, Repr

/-- What is sent to Graph. -/
inductive RequestInformation where
  | memberOf (transitive : Bool) (userID : String) (select : List String) (top : Int)
  | url (link : String)
  deriving DecidableEq, Repr

/-- `membershipRequestInfo` -/
def membershipRequestInfo (transitiveGroups : Bool) (request : MembershipRequest) : RequestInformation :=
  if request.nextLink ≠ "" then .url request.nextLink
  else .memberOf transitiveGroups request.userID ["id"] graphPageSize

/-- A `GroupCollectionResponse`, each group by its id. -/
structure GroupPage where
  value : List (Option String)
  odataNextLink : Option String := none
  deriving DecidableEq, Repr

/-- The SDK and the runtime in one round. -/
structure Batch where
  /-- the error of `ToGetRequestInformation` -/
  build : RequestInformation → Except String Unit
  /-- `AddBatchRequestStep` for the i-th request, with the id it gives the item -/
  add : Nat → RequestInformation → Except String (Option String)
  /-- `batch.Send`, with the response for each id -/
  send : Except String (String → Option (Except String GroupPage))
  /-- the order in which `range` visits `requestsByID` -/
  visit : List (String × MembershipRequest) → List (String × MembershipRequest)

/-- The group ids by user. -/
abbrev Memberships : Type := Table String (List String)

/-- `out[userID]`, nil if there is none. -/
def Memberships.of (out : Memberships) (userID : String) : List String := (out.row userID).getD []

section Fetch

variable (transitiveGroups : Bool)

/-- The first loop of `applyMembershipBatch`, from the i-th request on. -/
def addRequests (batch : Batch) : Nat → List MembershipRequest → Table String MembershipRequest →
    Except String (Table String MembershipRequest)
  | _, [], requestsByID => .ok requestsByID
  | i, request :: requests, requestsByID =>
    let requestInfo := membershipRequestInfo transitiveGroups request
    match batch.build requestInfo with
    | .error e => .error ("build groups request for " ++ request.userID ++ ": " ++ e)
    | .ok _ =>
      match batch.add i requestInfo with
      | .error e => .error ("batch groups request for " ++ request.userID ++ ": " ++ e)
      | .ok none => .error ("batch groups request for " ++ request.userID ++ ": missing request ID")
      | .ok (some id) => addRequests batch (i + 1) requests (requestsByID.set id request)

/-- The requests a page leaves to make. -/
def followup (request : MembershipRequest) (page : GroupPage) : Option MembershipRequest :=
  if deref page.odataNextLink ≠ "" then some { userID := request.userID, nextLink := deref page.odataNextLink } else none

/-- The loop over the responses. -/
def readResponses (response : String → Option (Except String GroupPage)) :
    List (String × MembershipRequest) → List MembershipRequest → Memberships →
    Except String (List MembershipRequest × Memberships)
  | [], followups, out => .ok (followups, out)
  | (requestID, request) :: requests, followups, out =>
    match response requestID with
    | none => .error ("graph batch missing response for " ++ request.userID)
    | some (.error e) => .error ("fetch groups for " ++ request.userID ++ ": " ++ e)
    | some (.ok page) =>
      readResponses response requests (followups ++ (followup request page).toList)
        (out.set request.userID (out.of request.userID ++ page.value.map deref))

/-- `applyMembershipBatch` -/
def applyMembershipBatch (batch : Batch) (requests : List MembershipRequest) (out : Memberships) :
    Except String (List MembershipRequest × Memberships) :=
  match addRequests transitiveGroups batch 0 requests .empty with
  | .error e => .error e
  | .ok requestsByID =>
    match batch.send with
    | .error e => .error ("fetch user groups: " ++ e)
    | .ok response => readResponses response (batch.visit requestsByID.toList) [] out

/-- The loop of `fetchUsersGroupIDs`, cut off after so many rounds. -/
def fetchPending : Nat → (Nat → Batch) → List MembershipRequest → Memberships → Option (Except String Memberships)
  | 0, _, _, _ => none
  | rounds + 1, batches, pending, out =>
    if pending = [] then some (.ok out)
    else match applyMembershipBatch transitiveGroups (batches 0) pending out with
      | .error e => some (.error e)
      | .ok (followups, out) => fetchPending rounds (fun k => batches (k + 1)) followups out

/-- The first `pending` of `fetchUsersGroupIDs`. -/
def firstRequests (users : List ProviderUser) : List MembershipRequest := users.map fun user => { userID := user.externalID }

/-- Its first `out`. -/
def noGroups (users : List ProviderUser) : Memberships := .ofList (users.map fun user => (user.externalID, []))

/-- `fetchUsersGroupIDs` -/
def fetchUsersGroupIDs (rounds : Nat) (batches : Nat → Batch) (users : List ProviderUser) : Option (Except String Memberships) :=
  fetchPending transitiveGroups rounds batches (firstRequests users) (noGroups users)

/-- `Client.Fetch`, given what the iterators over users and groups yield. -/
def fetch (rounds : Nat) (batches : Nat → Batch) (users : Except String (List GraphUser))
    (groups : Except String (List GraphGroup)) : Option (Except String ProviderSnapshot) :=
  match users with
  | .error e => some (.error ("fetch users: " ++ e))
  | .ok users =>
    match groups with
    | .error e => some (.error ("fetch groups: " ++ e))
    | .ok groups =>
      let users := users.map GraphUser.providerUser
      (fetchUsersGroupIDs transitiveGroups rounds batches users).map fun fetched =>
        fetched.map fun groupIDsByUser => {
          users := users.map fun user => { user with groupExternalIDs := groupIDsByUser.of user.externalID }
          groups := groups.map GraphGroup.providerGroup }

end Fetch

/-- A `SyncResult`, without its duration. -/
structure SyncResult where
  users : Nat
  groups : Nat
  deriving DecidableEq, Repr

/-- `Service.Sync`, with what its fetcher returns. The applier acts on `W`. -/
def sync {W : Type} (fetcher : Option (Except String ProviderSnapshot))
    (applier : Option (Source → ProviderSnapshot → W → Except String Unit × W)) (w : W) : Except String SyncResult × W :=
  match fetcher with
  | none => (.error "entra: no fetcher configured", w)
  | some fetched =>
    match applier with
    | none => (.error "entra: no snapshot applier configured", w)
    | some applyProviderSnapshot =>
      match fetched with
      | .error e => (.error e, w)
      | .ok snapshot =>
        match applyProviderSnapshot .sourceEntra snapshot w with
        | (.error e, w) => (.error e, w)
        | (.ok _, w) => (.ok ⟨snapshot.users.length, snapshot.groups.length⟩, w)

section Round

variable {transitiveGroups : Bool} {batch : Batch} {requests : List MembershipRequest} {out : Memberships}

/-- Distinct requests of a batch get distinct ids. -/
def Batch.Distinct (batch : Batch) : Prop :=
  ∀ i j info info' id, batch.add i info = .ok (some id) → batch.add j info' = .ok (some id) → i = j

/-- Every response is visited once. -/
def Batch.VisitsAll (batch : Batch) : Prop := ∀ entries, (batch.visit entries).Perm entries

/-- The ids of the requests, the first of which is the i-th. -/
def Batch.entries (transitiveGroups : Bool) (batch : Batch) : Nat → List MembershipRequest → List (String × MembershipRequest)
  | _, [] => []
  | i, request :: requests =>
    match batch.add i (membershipRequestInfo transitiveGroups request) with
    | .ok (some id) => (id, request) :: batch.entries transitiveGroups (i + 1) requests
    | _ => batch.entries transitiveGroups (i + 1) requests

theorem exists_of_mem_entries {i : Nat} {id : String} {request : MembershipRequest}
    (mem : (id, request) ∈ batch.entries transitiveGroups i requests) :
    ∃ j, i ≤ j ∧ batch.add j (membershipRequestInfo transitiveGroups request) = .ok (some id) := by
  induction requests generalizing i with
  | nil => cases mem
  | cons first requests ih =>
    have later : (id, request) ∈ batch.entries transitiveGroups (i + 1) requests →
        ∃ j, i ≤ j ∧ batch.add j (membershipRequestInfo transitiveGroups request) = .ok (some id) := by
      intro mem
      obtain ⟨j, le, added⟩ := ih mem
      exact ⟨j, Nat.le_of_succ_le le, added⟩
    unfold Batch.entries at mem
    split at mem
    · rename_i added
      rcases List.mem_cons.1 mem with same | mem
      · cases same
        exact ⟨i, Nat.le_refl i, added⟩
      · exact later mem
    · exact later mem

/-- No id is used twice. -/
theorem nodup_entries (distinct : batch.Distinct) (i : Nat) (requests : List MembershipRequest) :
    ((batch.entries transitiveGroups i requests).map Prod.fst).Nodup := by
  induction requests generalizing i with
  | nil => exact List.nodup_nil
  | cons first requests ih =>
    unfold Batch.entries
    split
    · rename_i id added
      refine List.nodup_cons.2 ⟨fun used => ?_, ih (i + 1)⟩
      obtain ⟨⟨_, request⟩, mem, rfl⟩ := List.mem_map.1 used
      obtain ⟨j, le, again⟩ := exists_of_mem_entries mem
      have := distinct _ _ _ _ _ added again
      omega
    · exact ih (i + 1)

/-- What the first loop leaves: an entry for each request. -/
theorem addRequests_ok {i : Nat} {requestsByID requestsByID' : Table String MembershipRequest}
    (added : addRequests transitiveGroups batch i requests requestsByID = .ok requestsByID') :
    requestsByID' = (batch.entries transitiveGroups i requests).foldl (fun t r => t.set r.1 r.2) requestsByID ∧
      (batch.entries transitiveGroups i requests).map Prod.snd = requests := by
  induction requests generalizing i requestsByID with
  | nil =>
    cases added
    exact ⟨rfl, rfl⟩
  | cons request requests ih =>
    unfold addRequests at added
    unfold Batch.entries
    dsimp only at added
    split at added
    · cases added
    · split at added
      · cases added
      · cases added
      · rename_i id item
        obtain ⟨rows, all⟩ := ih added
        rw [item]
        exact ⟨rows, congrArg (request :: ·) all⟩

/-- The responses are those of the requests, in the order of the visit. -/
theorem visit_perm (distinct : batch.Distinct) (all : batch.VisitsAll) {requestsByID : Table String MembershipRequest}
    (added : addRequests transitiveGroups batch 0 requests .empty = .ok requestsByID) :
    (batch.visit requestsByID.toList).Perm (batch.entries transitiveGroups 0 requests) := by
  obtain ⟨rfl, _⟩ := addRequests_ok added
  exact (all _).trans (Table.toList_ofList (nodup_entries distinct 0 requests))

/-- What Graph answers to a request. -/
def answer (transitiveGroups : Bool) (graph : RequestInformation → GroupPage) (request : MembershipRequest) :
    List String × Option MembershipRequest :=
  let page := graph (membershipRequestInfo transitiveGroups request)
  (page.value.map deref, followup request page)

theorem keepsOwner_answer (graph : RequestInformation → GroupPage) :
    Worklist.KeepsOwner (answer transitiveGroups graph) MembershipRequest.userID := by
  intro request next more
  simp only [answer, followup] at more
  split at more <;> cases more
  rfl

section Responses

variable {graph : RequestInformation → GroupPage} {response : String → Option (Except String GroupPage)}
  {order : List (String × MembershipRequest)} {followups : List MembershipRequest}

theorem of_set (u v : String) (groups : List String) :
    Memberships.of (out.set u groups) v = if v = u then groups else out.of v := by
  unfold Memberships.of
  rw [Table.row_set]
  split <;> rfl

/-- Responses that are all there are all collected. -/
theorem readResponses_ok
    (there : ∀ entry ∈ order, response entry.1 = some (.ok (graph (membershipRequestInfo transitiveGroups entry.2)))) :
    ∃ out', readResponses response order followups out =
        .ok (followups ++ Worklist.followups (answer transitiveGroups graph) (order.map Prod.snd), out') ∧
      (∀ u, out'.of u =
        Worklist.collect (answer transitiveGroups graph) MembershipRequest.userID (order.map Prod.snd) out.of u) ∧
      ∀ u, (out'.row u).isSome ↔ (out.row u).isSome ∨ ∃ request ∈ order.map Prod.snd, request.userID = u := by
  induction order generalizing followups out with
  | nil => exact ⟨out, by simp [readResponses, Worklist.followups], by simp [Worklist.collect], by simp⟩
  | cons entry order ih =>
    obtain ⟨requestID, request⟩ := entry
    obtain ⟨first, rest⟩ := List.forall_mem_cons.1 there
    obtain ⟨out', read, collected, keys⟩ := @ih _ _ rest
    unfold readResponses
    rw [first]
    refine ⟨out', read.trans ?_, fun u => ?_, fun u => ?_⟩
    · simp only [List.map_cons, Worklist.followups, List.filterMap_cons, answer]
      cases followup request (graph (membershipRequestInfo transitiveGroups request)) <;> simp
    · rw [collected, Worklist.collect, Worklist.collect, of_set]
      by_cases own : request.userID = u
      · subst own
        simp [answer]
      · simp [own, Ne.symm own]
    · rw [keys, Table.row_set]
      by_cases own : u = request.userID
      · simp [own]
      · simp [own, Ne.symm own]

/-- A response that is missing or an error is found. -/
theorem readResponses_error {entry : String × MembershipRequest} (mem : entry ∈ order)
    (bad : response entry.1 = none ∨ ∃ e, response entry.1 = some (.error e)) :
    ∃ e, readResponses response order followups out = .error e := by
  induction order generalizing followups out with
  | nil => cases mem
  | cons first order ih =>
    obtain ⟨requestID, request⟩ := first
    unfold readResponses
    split
    · exact ⟨_, rfl⟩
    · exact ⟨_, rfl⟩
    · rename_i page there
      rcases List.mem_cons.1 mem with rfl | mem
      · rcases bad with missing | ⟨e, failed⟩
        · exact absurd (there.symm.trans missing) nofun
        · exact absurd (there.symm.trans failed) nofun
      · exact ih mem

end Responses

/-- Every request of the round is made, and its response is there and is what Graph answers. -/
structure Batch.Serves (transitiveGroups : Bool) (batch : Batch) (graph : RequestInformation → GroupPage)
    (requests : List MembershipRequest) : Prop where
  added : ∃ requestsByID, addRequests transitiveGroups batch 0 requests .empty = .ok requestsByID
  answered : ∃ response, batch.send = .ok response ∧ ∀ entry ∈ batch.entries transitiveGroups 0 requests,
    response entry.1 = some (.ok (graph (membershipRequestInfo transitiveGroups entry.2)))

/-- The response to some request of the round is missing or an error. -/
def Batch.Fails (transitiveGroups : Bool) (batch : Batch) (requests : List MembershipRequest) : Prop :=
  ∀ response, batch.send = .ok response → ∃ entry ∈ batch.entries transitiveGroups 0 requests,
    response entry.1 = none ∨ ∃ e, response entry.1 = some (.error e)

/-- A round whose responses are there hands every user its groups, in some order of the
requests. -/
theorem applyMembershipBatch_ok {graph : RequestInformation → GroupPage} (distinct : batch.Distinct) (all : batch.VisitsAll)
    (serves : batch.Serves transitiveGroups graph requests) :
    ∃ order out', order.Perm requests ∧ applyMembershipBatch transitiveGroups batch requests out =
        .ok (Worklist.followups (answer transitiveGroups graph) order, out') ∧
      (∀ u, out'.of u = Worklist.collect (answer transitiveGroups graph) MembershipRequest.userID order out.of u) ∧
      ∀ u, (out'.row u).isSome ↔ (out.row u).isSome ∨ ∃ request ∈ order, request.userID = u := by
  obtain ⟨requestsByID, added⟩ := serves.added
  obtain ⟨response, sent, answered⟩ := serves.answered
  have perm := visit_perm distinct all added
  have there := fun entry mem => answered entry (perm.subset mem)
  obtain ⟨out', read, collected, keys⟩ := @readResponses_ok transitiveGroups out graph response _ [] there
  refine ⟨_, out', ?_, ?_, collected, keys⟩
  · exact (perm.map Prod.snd).trans (.of_eq (addRequests_ok added).2)
  · unfold applyMembershipBatch
    rw [added, sent]
    exact read

/-- A round without a response fails. -/
theorem applyMembershipBatch_error (distinct : batch.Distinct) (all : batch.VisitsAll)
    (fails : batch.Fails transitiveGroups requests) : ∃ e, applyMembershipBatch transitiveGroups batch requests out = .error e := by
  unfold applyMembershipBatch
  split
  · exact ⟨_, rfl⟩
  · rename_i requestsByID added
    split
    · exact ⟨_, rfl⟩
    · rename_i response sent
      obtain ⟨entry, mem, bad⟩ := fails response sent
      exact readResponses_error ((visit_perm distinct all added).mem_iff.2 mem) bad

end Round

section Rounds

variable {transitiveGroups : Bool} {batches : Nat → Batch} {pending : List MembershipRequest} {out : Memberships}

/-- What is pending, and collected, after `k` rounds that have gone well. -/
def after (transitiveGroups : Bool) : Nat → (Nat → Batch) → List MembershipRequest → Memberships →
    Option (List MembershipRequest × Memberships)
  | 0, _, pending, out => some (pending, out)
  | k + 1, batches, pending, out =>
    if pending = [] then none
    else match applyMembershipBatch transitiveGroups (batches 0) pending out with
      | .error _ => none
      | .ok (followups, out) => after transitiveGroups k (fun i => batches (i + 1)) followups out

/-- Round `k` is made, with these requests. -/
def Round (transitiveGroups : Bool) (batches : Nat → Batch) (pending : List MembershipRequest) (out : Memberships) (k : Nat)
    (requests : List MembershipRequest) : Prop :=
  requests ≠ [] ∧ ∃ got, after transitiveGroups k batches pending out = some (requests, got)

/-- Round `k + 1` is round `k` of what the first round leaves. -/
theorem round_succ_iff {followups : List MembershipRequest} {out' : Memberships} (left : pending ≠ [])
    (first : applyMembershipBatch transitiveGroups (batches 0) pending out = .ok (followups, out')) {k : Nat}
    {requests : List MembershipRequest} :
    Round transitiveGroups batches pending out (k + 1) requests ↔
      Round transitiveGroups (fun i => batches (i + 1)) followups out' k requests := by
  unfold Round
  rw [after, if_neg left, first]

/-- If all responses are there, the rounds end and every user has what was to come for it. -/
theorem fetchPending_ok {graph : RequestInformation → GroupPage} {n : Nat} (distinct : ∀ k, (batches k).Distinct)
    (all : ∀ k, (batches k).VisitsAll)
    (serves : ∀ k requests, Round transitiveGroups batches pending out k requests →
      (batches k).Serves transitiveGroups graph requests)
    (within : ∀ request ∈ pending, Worklist.Within (answer transitiveGroups graph) n request)
    (known : ∀ request ∈ pending, (out.row request.userID).isSome) :
    ∃ out', (∀ rounds, n < rounds → fetchPending transitiveGroups rounds batches pending out = some (.ok out')) ∧
      (∀ u, (out'.row u).isSome ↔ (out.row u).isSome) ∧ ∀ u,
        (out'.of u).Perm (Worklist.total (answer transitiveGroups graph) MembershipRequest.userID n pending out.of u) ∧
        ((pending.filter fun request => request.userID = u).length ≤ 1 →
          out'.of u = Worklist.total (answer transitiveGroups graph) MembershipRequest.userID n pending out.of u) := by
  induction n generalizing batches pending out with
  | zero =>
    have done : pending = [] := List.eq_nil_iff_forall_not_mem.2 fun request mem =>
      Worklist.not_within_zero (within request mem)
    subst done
    refine ⟨out, fun rounds more => ?_, fun u => Iff.rfl, fun u => ?_⟩
    · obtain ⟨rounds, rfl⟩ := Nat.exists_eq_succ_of_ne_zero (Nat.ne_of_gt more)
      rfl
    · simp [Worklist.total]
  | succ n ih =>
    by_cases left : pending = []
    · subst left
      refine ⟨out, fun rounds more => ?_, fun u => Iff.rfl, fun u => ?_⟩
      · obtain ⟨rounds, rfl⟩ := Nat.exists_eq_succ_of_ne_zero (Nat.ne_of_gt (Nat.lt_of_le_of_lt (Nat.zero_le _) more))
        rfl
      · simp [Worklist.total]
    · have keeps := @keepsOwner_answer transitiveGroups graph
      obtain ⟨order, out₁, perm, first, collected, keys⟩ :=
        @applyMembershipBatch_ok _ _ _ out _ (distinct 0) (all 0) (serves 0 pending ⟨left, out, rfl⟩)
      have collected : out₁.of = Worklist.collect (answer transitiveGroups graph) MembershipRequest.userID order out.of :=
        funext collected
      have kept : ∀ u, (out₁.row u).isSome ↔ (out.row u).isSome := by
        intro u
        rw [keys]
        refine or_iff_left_of_imp ?_
        rintro ⟨request, mem, rfl⟩
        exact known request (perm.subset mem)
      have known₁ : ∀ request ∈ Worklist.followups (answer transitiveGroups graph) order, (out₁.row request.userID).isSome := by
        intro next mem
        obtain ⟨request, asked, more⟩ := List.mem_filterMap.1 mem
        rw [kept, keeps request next more]
        exact known request (perm.subset asked)
      have serves₁ : ∀ k requests, Round transitiveGroups (fun i => batches (i + 1))
          (Worklist.followups (answer transitiveGroups graph) order) out₁ k requests →
          (batches (k + 1)).Serves transitiveGroups graph requests :=
        fun k requests made => serves (k + 1) requests ((round_succ_iff left first).2 made)
      obtain ⟨out', ends, keys', has⟩ := ih (fun k => distinct (k + 1)) (fun k => all (k + 1)) serves₁
        (Worklist.followups_within perm within) known₁
      refine ⟨out', fun rounds more => ?_, fun u => (keys' u).trans (kept u), fun u => ⟨?_, fun alone => ?_⟩⟩
      · obtain ⟨rounds, rfl⟩ := Nat.exists_eq_succ_of_ne_zero (Nat.ne_of_gt (Nat.lt_of_le_of_lt (Nat.zero_le _) more))
        unfold fetchPending
        rw [if_neg left, first]
        exact ends rounds (Nat.lt_of_succ_lt_succ more)
      · refine (has u).1.trans ?_
        rw [collected]
        exact Worklist.round_perm keeps perm out.of
      · rw [(has u).2 (Worklist.round_alone keeps perm alone), collected]
        exact Worklist.round_eq keeps perm out.of alone

/-- A round that fails ends the fetch. -/
theorem fetchPending_error {k : Nat} {requests : List MembershipRequest} (distinct : ∀ k, (batches k).Distinct)
    (all : ∀ k, (batches k).VisitsAll) (made : Round transitiveGroups batches pending out k requests)
    (fails : (batches k).Fails transitiveGroups requests) :
    ∃ e, ∀ rounds, k < rounds → fetchPending transitiveGroups rounds batches pending out = some (.error e) := by
  induction k generalizing batches pending out with
  | zero =>
    obtain ⟨left, got, same⟩ := made
    cases same
    obtain ⟨e, failed⟩ := @applyMembershipBatch_error _ _ _ out (distinct 0) (all 0) fails
    refine ⟨e, fun rounds more => ?_⟩
    obtain ⟨rounds, rfl⟩ := Nat.exists_eq_succ_of_ne_zero (Nat.ne_of_gt more)
    unfold fetchPending
    rw [if_neg left, failed]
  | succ k ih =>
    have left : pending ≠ [] := by
      rintro rfl
      obtain ⟨_, got, same⟩ := made
      cases same
    cases first : applyMembershipBatch transitiveGroups (batches 0) pending out with
    | error e =>
      obtain ⟨_, got, same⟩ := made
      rw [after, if_neg left, first] at same
      cases same
    | ok result =>
      obtain ⟨followups, out₁⟩ := result
      obtain ⟨e, ends⟩ := ih (fun k => distinct (k + 1)) (fun k => all (k + 1)) ((round_succ_iff left first).1 made) fails
      refine ⟨e, fun rounds more => ?_⟩
      obtain ⟨rounds, rfl⟩ := Nat.exists_eq_succ_of_ne_zero (Nat.ne_of_gt (Nat.lt_of_le_of_lt (Nat.zero_le _) more))
      unfold fetchPending
      rw [if_neg left, first]
      exact ends rounds (Nat.lt_of_succ_lt_succ more)

end Rounds

section Start

variable {users : List ProviderUser} {id : String}

/-- A user has as many first requests as entries. -/
theorem filter_firstRequests :
    (firstRequests users).filter (fun request => request.userID = id) =
      List.replicate ((users.map ProviderUser.externalID).count id) { userID := id } := by
  unfold firstRequests
  induction users with
  | nil => rfl
  | cons user users ih =>
    by_cases own : user.externalID = id
    · simp [own, ih, List.replicate_succ]
    · simp [own, ih]

theorem noGroups_row : (noGroups users).row id = if id ∈ users.map ProviderUser.externalID then some [] else none := by
  have rows : ∀ t : Memberships, ((users.map fun user => (user.externalID, ([] : List String))).foldl (fun t r => t.set r.1 r.2) t).row id =
      if id ∈ users.map ProviderUser.externalID then some [] else t.row id := by
    induction users with
    | nil => simp
    | cons user users ih =>
      intro t
      rw [List.map_cons, List.foldl_cons, ih, Table.row_set, List.map_cons]
      by_cases own : id = user.externalID <;> simp [own]
  exact rows .empty

theorem noGroups_of : (noGroups users).of id = [] := by
  unfold Memberships.of
  rw [noGroups_row]
  split <;> rfl

end Start

/-- **Memberships are complete or not applied.** If the users' pages form finite chains and all
responses of all rounds are there, `fetchUsersGroupIDs` ends, and each user gets the groups on
its pages, in order if it is listed once. If a response is missing or an error, `Fetch` fails
and `Sync` leaves everything to itself. -/
theorem fetch_memberships (transitiveGroups : Bool) (batches : Nat → Batch) (distinct : ∀ k, (batches k).Distinct)
    (all : ∀ k, (batches k).VisitsAll) (graphUsers : List GraphUser) (graphGroups : List GraphGroup) :
    let users := graphUsers.map GraphUser.providerUser
    let made := Round transitiveGroups batches (firstRequests users) (noGroups users)
    (∀ (graph : RequestInformation → GroupPage) (pages : String → List (List String)),
      (∀ user ∈ users, Worklist.Chain (answer transitiveGroups graph) { userID := user.externalID } (pages user.externalID)) →
      (∀ k requests, made k requests → (batches k).Serves transitiveGroups graph requests) →
      ∃ n out,
        (∀ rounds, n < rounds → fetchUsersGroupIDs transitiveGroups rounds batches users = some (.ok out) ∧
          fetch transitiveGroups rounds batches (.ok graphUsers) (.ok graphGroups) = some (.ok {
            users := users.map fun user => { user with groupExternalIDs := out.of user.externalID }
            groups := graphGroups.map GraphGroup.providerGroup })) ∧
        (∀ id, (out.row id).isSome ↔ id ∈ users.map ProviderUser.externalID) ∧
        (∀ id ∈ users.map ProviderUser.externalID, ∀ g, g ∈ out.of id ↔ g ∈ (pages id).flatten) ∧
        ∀ id, (users.map ProviderUser.externalID).count id = 1 → out.of id = (pages id).flatten) ∧
    ∀ k requests, made k requests → (batches k).Fails transitiveGroups requests →
      ∃ n e, ∀ rounds, n < rounds →
        fetch transitiveGroups rounds batches (.ok graphUsers) (.ok graphGroups) = some (.error e) ∧
        ∀ (W : Type) (applier : Source → ProviderSnapshot → W → Except String Unit × W) (w : W),
          sync (some (.error e)) (some applier) w = (.error e, w) := by
  intro users made
  refine ⟨fun graph pages chains serves => ?_, fun k requests round fails => ?_⟩
  · -- as many rounds as the longest chain has pages
    let n := (users.map fun user => (pages user.externalID).length).sum
    have bound : ∀ user ∈ users, (pages user.externalID).length ≤ n := fun user mem =>
      List.le_sum_of_mem (List.mem_map_of_mem mem)
    have within : ∀ request ∈ firstRequests users, Worklist.Within (answer transitiveGroups graph) n request := by
      intro request mem
      obtain ⟨user, listed, rfl⟩ := List.mem_map.1 mem
      exact ⟨_, chains user listed, bound user listed⟩
    have known : ∀ request ∈ firstRequests users, ((noGroups users).row request.userID).isSome := by
      intro request mem
      obtain ⟨user, listed, rfl⟩ := List.mem_map.1 mem
      rw [noGroups_row, if_pos (List.mem_map_of_mem listed)]
      rfl
    obtain ⟨out, ends, keys, has⟩ := fetchPending_ok distinct all serves within known
    have share : ∀ id ∈ users.map ProviderUser.externalID,
        Worklist.elements (answer transitiveGroups graph) n { userID := id } = (pages id).flatten := by
      intro id mem
      obtain ⟨user, listed, rfl⟩ := List.mem_map.1 mem
      exact Worklist.elements_of_chain (chains user listed) (bound user listed)
    have total : ∀ id, Worklist.total (answer transitiveGroups graph) MembershipRequest.userID n (firstRequests users)
        (noGroups users).of id = (List.replicate ((users.map ProviderUser.externalID).count id)
          (Worklist.elements (answer transitiveGroups graph) n { userID := id })).flatten := by
      intro id
      unfold Worklist.total
      rw [noGroups_of, filter_firstRequests, List.nil_append, List.flatMap_def, List.map_replicate]
    refine ⟨n, out, fun rounds more => ⟨ends rounds more, ?_⟩, fun id => ?_, fun id mem g => ?_, fun id once => ?_⟩
    · show (fetchUsersGroupIDs transitiveGroups rounds batches users).map _ = _
      rw [fetchUsersGroupIDs, ends rounds more]
      rfl
    · rw [keys, noGroups_row]
      split <;> simp [*]
    · rw [(has id).1.mem_iff, total, share id mem]
      have some : (users.map ProviderUser.externalID).count id ≠ 0 := fun none => List.count_eq_zero.1 none mem
      simp [List.mem_flatten, List.mem_replicate, some]
    · have alone : ((firstRequests users).filter fun request => request.userID = id).length ≤ 1 := by
        rw [filter_firstRequests, List.length_replicate, once]
      have mem : id ∈ users.map ProviderUser.externalID := List.count_pos_iff.1 (by omega)
      rw [(has id).2 alone, total, once, share id mem]
      simp
  · obtain ⟨e, ends⟩ := fetchPending_error distinct all round fails
    refine ⟨k, e, fun rounds more => ⟨?_, fun W applier w => rfl⟩⟩
    show (fetchUsersGroupIDs transitiveGroups rounds batches users).map _ = _
    rw [fetchUsersGroupIDs, ends rounds more]
    rfl

/-- Two users, the first with two pages. -/
def sampleUsers : List GraphUser := [{ id := some "u-1" }, { id := some "u-2", accountEnabled := some false }]

def sampleLink : String := "https://graph.test/v1.0/users/u-1/memberOf/graph.group?$skiptoken=membership-2"

def sampleGraph : RequestInformation → GroupPage
  | .memberOf _ "u-1" _ _ => { value := [some "g-1"], odataNextLink := some sampleLink }
  | .memberOf _ _ _ _ => { value := [some "g-2"] }
  | .url _ => { value := [some "g-3"] }

/-- The last response comes first, and the ids are drawn once. -/
def sampleBatch (responses : List (String × GroupPage)) : Batch where
  build _ := .ok ()
  add i _ := .ok (some (String.ofList (List.replicate i 'i')))
  send := .ok fun id => (responses.lookup id).map .ok
  visit := List.reverse

/-- All responses of both rounds. -/
def sampleBatches : Nat → Batch
  | 0 => sampleBatch [("", sampleGraph (.memberOf false "u-1" ["id"] 999)), ("i", sampleGraph (.memberOf false "u-2" ["id"] 999))]
  | _ => sampleBatch [("", sampleGraph (.url sampleLink))]

theorem sampleBatch_distinct (responses : List (String × GroupPage)) : (sampleBatch responses).Distinct := by
  intro i j _ _ id first second
  have same := Option.some.inj (Except.ok.inj (first.trans second.symm))
  have lengths := congrArg List.length (String.ofList_inj.1 same)
  simpa using lengths

theorem sampleBatch_visitsAll (responses : List (String × GroupPage)) : (sampleBatch responses).VisitsAll := List.reverse_perm

/-- The second page is missing. -/
def cutOff : Nat → Batch
  | 0 => sampleBatches 0
  | _ => sampleBatch []

def samplePages : String → List (List String)
  | "u-1" => [["g-1"], ["g-3"]]
  | _ => [["g-2"]]

/-- The first round leaves one request. -/
theorem sample_first (batches : Nat → Batch) (same : batches 0 = sampleBatches 0) :
    ∃ out, applyMembershipBatch false (batches 0) (firstRequests (sampleUsers.map GraphUser.providerUser))
      (noGroups (sampleUsers.map GraphUser.providerUser)) = .ok ([{ userID := "u-1", nextLink := sampleLink }], out) := by
  rw [same]
  exact ⟨_, rfl⟩

/-- The pages of both users arrive, and without the second page nothing is applied. -/
theorem fetch_memberships_sample :
    (∃ n out, ∀ rounds, n < rounds →
      fetchUsersGroupIDs false rounds sampleBatches (sampleUsers.map GraphUser.providerUser) = some (.ok out) ∧
      out.of "u-1" = ["g-1", "g-3"] ∧ out.of "u-2" = ["g-2"]) ∧
    ∃ n e, ∀ rounds, n < rounds → fetch false rounds cutOff (.ok sampleUsers) (.ok []) = some (.error e) := by
  have distinct : ∀ k, (sampleBatches k).Distinct ∧ (cutOff k).Distinct := by
    rintro (_ | k) <;> exact ⟨sampleBatch_distinct _, sampleBatch_distinct _⟩
  have all : ∀ k, (sampleBatches k).VisitsAll ∧ (cutOff k).VisitsAll := by
    rintro (_ | k) <;> exact ⟨sampleBatch_visitsAll _, sampleBatch_visitsAll _⟩
  have left : firstRequests (sampleUsers.map GraphUser.providerUser) ≠ [] := nofun
  constructor
  · have chains : ∀ user ∈ sampleUsers.map GraphUser.providerUser,
        Worklist.Chain (answer false sampleGraph) { userID := user.externalID } (samplePages user.externalID) := by
      intro user mem
      rcases List.mem_cons.1 mem with rfl | mem
      · exact .more rfl (.last rfl)
      · cases List.mem_singleton.1 mem
        exact .last rfl
    have serves : ∀ k requests, Round false sampleBatches (firstRequests (sampleUsers.map GraphUser.providerUser))
        (noGroups (sampleUsers.map GraphUser.providerUser)) k requests → (sampleBatches k).Serves false sampleGraph requests := by
      intro k requests made
      obtain ⟨out, first⟩ := sample_first sampleBatches rfl
      rcases k with _ | _ | k
      · obtain ⟨_, got, same⟩ := made
        cases same
        exact ⟨⟨_, rfl⟩, _, rfl, by decide⟩
      · obtain ⟨_, got, same⟩ := (round_succ_iff left first).1 made
        cases same
        exact ⟨⟨_, rfl⟩, _, rfl, by decide⟩
      · -- the second round leaves nothing
        have made := (round_succ_iff (by simp) rfl).1 ((round_succ_iff left first).1 made)
        obtain ⟨some, got, same⟩ := made
        cases k <;> cases same
        exact absurd rfl some
    obtain ⟨n, out, ends, _, _, alone⟩ := (fetch_memberships false sampleBatches (fun k => (distinct k).1)
      (fun k => (all k).1) sampleUsers []).1 sampleGraph samplePages chains serves
    exact ⟨n, out, fun rounds more => ⟨(ends rounds more).1, alone "u-1" (by decide), alone "u-2" (by decide)⟩⟩
  · obtain ⟨out, first⟩ := sample_first cutOff rfl
    have fails : (cutOff 1).Fails false [{ userID := "u-1", nextLink := sampleLink }] := by
      intro response sent
      cases sent
      exact ⟨("", { userID := "u-1", nextLink := sampleLink }), List.mem_singleton.2 rfl, .inl rfl⟩
    obtain ⟨n, e, ends⟩ := (fetch_memberships false cutOff (fun k => (distinct k).2) (fun k => (all k).2) sampleUsers []).2 1
      [{ userID := "u-1", nextLink := sampleLink }] ((round_succ_iff left first).2 ⟨by simp, out, rfl⟩) fails
    exact ⟨n, e, fun rounds more => (ends rounds more).1⟩

end Woodgate.Directory.Entra
