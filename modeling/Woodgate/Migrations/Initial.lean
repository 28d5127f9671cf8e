import Woodgate.Constraints

/-!
# The first schema

The tables of `001_initial.sql` that the later migrations read, with its constraints. The rows of a
table come in any order. A UUID is a number of 128 bits, and `uuidText` is its text.
-/

namespace Woodgate.Migrations

section Uuids

def hexDigits : Nat → Nat → List Char
  | 0, _ => []
  | n + 1, u => hexDigits n (u / 16) ++ [Nat.digitChar (u % 16)]

/-- How many numbers have `n` hexadecimal digits. -/
def hexCount : Nat → Nat
  | 0 => 1
  | n + 1 => 16 * hexCount n

/-- `uuid::text`: groups of 8, 4, 4, 4 and 12 digits. -/
def uuidText (u : UUID) : String :=
  let digits := hexDigits 32 u
  String.ofList (digits.take 8 ++ ['-'] ++ (digits.drop 8).take 4 ++ ['-'] ++ (digits.drop 12).take 4 ++ ['-'] ++
    (digits.drop 16).take 4 ++ ['-'] ++ digits.drop 20)

theorem digitChar_inj : ∀ a < 16, ∀ b < 16, Nat.digitChar a = Nat.digitChar b → a = b := by decide

theorem digitChar_ne_dash : ∀ a < 16, Nat.digitChar a ≠ '-' := by decide

theorem dash_notMem_hexDigits {n u : Nat} : ∀ c ∈ hexDigits n u, c ≠ '-' := by
  induction n generalizing u with
  | zero =>
    intro c mem
    cases mem
  | succ n ih =>
    intro c mem
    obtain mem | mem := List.mem_append.1 mem
    · exact ih c mem
    · rw [List.mem_singleton.1 mem]
      exact digitChar_ne_dash _ (Nat.mod_lt _ (by omega))

theorem hexDigits_inj {n u v : Nat} (same : hexDigits n u = hexDigits n v) : u % hexCount n = v % hexCount n := by
  induction n generalizing u v with
  | zero => simp [hexCount, Nat.mod_one]
  | succ n ih =>
    obtain ⟨high, low⟩ := List.append_inj' same rfl
    have digit : u % 16 = v % 16 :=
      digitChar_inj _ (Nat.mod_lt _ (by omega)) _ (Nat.mod_lt _ (by omega)) (List.singleton_inj.1 low)
    rw [hexCount, Nat.mod_mul, Nat.mod_mul, digit, ih high]

/-- The digits are what is left of the text without the dashes. -/
theorem uuidText_digits {u : UUID} : (uuidText u).toList.filter (fun c => decide (c ≠ '-')) = hexDigits 32 u := by
  have digits : ∀ l : List Char, (∀ c ∈ l, c ∈ hexDigits 32 u) → l.filter (fun c => decide (c ≠ '-')) = l := by
    intro l part
    exact List.filter_eq_self.2 fun c mem => decide_eq_true (dash_notMem_hexDigits c (part c mem))
  have dash : ['-'].filter (fun c => decide (c ≠ '-')) = [] := by decide
  unfold uuidText
  dsimp only
  rw [String.toList_ofList]
  simp only [List.filter_append, dash, List.append_nil]
  rw [digits _ fun c mem => List.mem_of_mem_take mem, digits _ fun c mem => List.mem_of_mem_drop (List.mem_of_mem_take mem),
    digits _ fun c mem => List.mem_of_mem_drop (List.mem_of_mem_take mem),
    digits _ fun c mem => List.mem_of_mem_drop (List.mem_of_mem_take mem), digits _ fun c mem => List.mem_of_mem_drop mem]
  rw [List.append_assoc, List.append_assoc, List.append_assoc]
  have rest : ∀ k, (((hexDigits 32 u).drop k).take 4) ++ (hexDigits 32 u).drop (k + 4) = (hexDigits 32 u).drop k := by
    intro k
    rw [← List.drop_drop, List.take_append_drop]
  rw [rest 16, rest 12, rest 8, List.take_append_drop]

theorem uuidText_inj {u v : UUID} (first : u < hexCount 32) (second : v < hexCount 32) (same : uuidText u = uuidText v) : u = v := by
  have digits : hexDigits 32 u = hexDigits 32 v := by rw [← uuidText_digits, ← uuidText_digits, same]
  have numbers := hexDigits_inj digits
  rwa [Nat.mod_eq_of_lt first, Nat.mod_eq_of_lt second] at numbers

end Uuids

section Tables

/-- A row of `users`. -/
structure OldUser where
  id : UUID
  upn : String := ""
  displayName : String := ""
  department : String := ""
  source : String
  createdAt : Time
  updatedAt : Time
  deriving DecidableEq, Repr

/-- A row of `groups`. -/
structure OldGroup where
  id : UUID
  name : String
  description : String := ""
  createdAt : Time
  updatedAt : Time
  deriving DecidableEq, Repr

/-- A row of `group_memberships`. -/
structure OldMembership where
  id : UUID
  groupID : UUID
  userID : UUID
  createdAt : Time
  updatedAt : Time
  deriving DecidableEq, Repr

/-- A row of `locations`. An element of an array may be `NULL`. -/
structure OldLocation where
  id : UUID
  name : String
  description : String := ""
  enabled : Bool := true
  notes : Bool := false
  photo : Bool := false
  groupIDs : List (Option UUID) := []
  createdAt : Time
  updatedAt : Time
  deriving DecidableEq, Repr

/-- A row of `api_keys`. -/
structure OldKey where
  id : UUID
  name : String
  keyPrefix : String
  keyHash : String
  lastUsedAt : Option Time := none
  expiresAt : Option Time := none
  createdAt : Time
  deriving DecidableEq, Repr

/-- A row of `permissions`. -/
structure OldPermission where
  subjectKind : String
  subjectID : UUID
  resource : String
  action : String
  locationID : Option UUID := none
  assetType : Option String := none
  deriving DecidableEq, Repr

/-- A row of `principal_roles`. -/
@[ext]
structure OldRole where
  principalKind : String
  principalID : UUID
  role : String
  deriving DecidableEq, Repr

/-- A row of `checkins`. -/
structure OldCheckin where
  id : UUID
  userID : UUID
  locationID : UUID
  direction : String
  notes : String := ""
  createdByKind : String
  createdByID : UUID
  createdAt : Time
  deriving DecidableEq, Repr

structure Initial where
  users : List OldUser := []
  groups : List OldGroup := []
  memberships : List OldMembership := []
  locations : List OldLocation := []
  apiKeys : List OldKey := []
  permissions : List OldPermission := []
  principalRoles : List OldRole := []
  checkins : List OldCheckin := []
  deriving DecidableEq, Repr

/-- The constraints of `001_initial.sql`, as far as the translation rests on them. Neither
`group_ids` nor the principals refer to anything. -/
structure Initial.Constraints (old : Initial) : Prop where
  userID : (old.users.map OldUser.id).Nodup
  userUUID : ∀ u ∈ old.users, u.id < hexCount 32
  userUPN : ((old.users.map OldUser.upn).filter fun upn => decide (upn ≠ "")).Nodup
  groupID : (old.groups.map OldGroup.id).Nodup
  groupUUID : ∀ g ∈ old.groups, g.id < hexCount 32
  membershipUnique : (old.memberships.map fun m => (m.groupID, m.userID)).Nodup
  membershipGroup : ∀ m ∈ old.memberships, m.groupID ∈ old.groups.map OldGroup.id
  membershipUser : ∀ m ∈ old.memberships, m.userID ∈ old.users.map OldUser.id
  locationID : (old.locations.map OldLocation.id).Nodup
  locationName : ∀ l ∈ old.locations, nameCheck l.name = true
  keyID : (old.apiKeys.map OldKey.id).Nodup
  keyHash : (old.apiKeys.map OldKey.keyHash).Nodup
  keyName : ∀ k ∈ old.apiKeys, nameCheck k.name = true
  roleUnique : old.principalRoles.Nodup
  roleAdmin : ∀ r ∈ old.principalRoles, r.role = "admin"
  checkinID : (old.checkins.map OldCheckin.id).Nodup
  checkinUser : ∀ c ∈ old.checkins, c.userID ∈ old.users.map OldUser.id
  checkinLocation : ∀ c ∈ old.checkins, c.locationID ∈ old.locations.map OldLocation.id
  checkinDirection : ∀ c ∈ old.checkins, c.direction = "check_in" ∨ c.direction = "check_out"
  checkinKind : ∀ c ∈ old.checkins, c.createdByKind = "user" ∨ c.createdByKind = "api_key"

end Tables

end Woodgate.Migrations
