import Woodgate.Constraints
import Woodgate.Go.Strings
import Woodgate.Library.Results

/-!
# Check-ins and locations

What the check-in service takes and returns, and the checks a request passes before
anything is sent to the database. Each check accepts exactly the values its `Valid`
predicate describes.
-/

namespace Woodgate.Checkin

open Library.Results

section Values

/-- The texts of the `checkin_direction` enumeration. -/
def directionIn : String := "check_in"
def directionOut : String := "check_out"

def parseDirection (direction : String) : Option Direction :=
  if direction = directionIn then some .directionIn
  else if direction = directionOut then some .directionOut
  else none

def directionText : Direction → String
  | .directionIn => directionIn
  | .directionOut => directionOut

theorem parseDirection_directionText (direction : Direction) : parseDirection (directionText direction) = some direction := by
  cases direction <;> rfl

def backgroundObjectPrefix : String := "checkin/backgrounds"
def logoObjectPrefix : String := "checkin/logos"
def photoObjectPrefix : String := "checkin/photos"

structure AttachmentFile where
  filename : String
  contentType : String
  sizeBytes : Int
  sha256 : String
  deriving DecidableEq, Repr

/-- A `directory.GroupSummary`. -/
structure GroupSummary where
  id : ID
  source : Source
  displayName : String
  mailNickname : String
  deriving DecidableEq, Repr

structure Location where
  id : ID
  name : String
  description : String
  enabled : Bool
  notes : Bool
  photo : Bool
  backgroundObjectID : Option ID
  backgroundFile : Option AttachmentFile
  backgroundURL : String
  logoObjectID : Option ID
  logoFile : Option AttachmentFile
  logoURL : String
  groups : List GroupSummary := []
  createdAt : Time
  updatedAt : Time
  deriving DecidableEq, Repr

structure PersonSummary where
  id : ID
  name : String
  email : String
  department : String
  deriving DecidableEq, Repr

structure LocationSummary where
  id : ID
  name : String
  deriving DecidableEq, Repr

structure StationSummary where
  id : ID
  name : String
  deriving DecidableEq, Repr

/-- A `directory.UserSummary`. -/
structure UserSummary where
  id : ID
  name : String
  email : String
  deriving DecidableEq, Repr

set_option linter.dupNamespace false in
structure Checkin where
  id : ID
  appID : UUID
  person : PersonSummary
  location : LocationSummary
  direction : String
  notes : String
  photoObjectID : Option ID
  photoFile : Option AttachmentFile
  photoURL : String
  actorName : String
  station : Option StationSummary
  actorKind : String
  actorAppID : UUID
  createdBy : Option UserSummary
  occurredAt : Time
  createdAt : Time
  updatedAt : Time
  deriving DecidableEq, Repr

/-- Attribution that outlives an account or a credential. -/
structure Actor where
  kind : String
  appID : UUID
  userID : Option ID := none
  stationID : Option ID := none
  appKeyID : Option ID := none
  deriving DecidableEq, Repr

/-- `attachmentURL` -/
def attachmentURL (basePath : String) : Option ID → String
  | none => ""
  | some objectID => if objectID ≤ 0 then "" else basePath ++ "/" ++ toString objectID ++ "/content"

def backgroundURL : Option ID → String := attachmentURL "/api/locations/backgrounds"

def logoURL : Option ID → String := attachmentURL "/api/locations/logos"

/-- `photoURL` -/
def photoURL (checkinID : ID) : Option ID → String
  | none => ""
  | some objectID => if objectID ≤ 0 then "" else "/api/checkins/" ++ toString checkinID ++ "/photo"

end Values

section Requests

structure LocationMutation where
  name : String
  description : String
  enabled : Bool
  notes : Bool
  photo : Bool
  backgroundObjectID : Option ID
  logoObjectID : Option ID
  groupIDs : List ID
  deriving DecidableEq, Repr

structure CheckinCreate where
  userID : ID
  locationID : ID
  direction : String
  notes : String
  deriving DecidableEq, Repr

structure CheckinMutation where
  userID : ID
  locationID : ID
  direction : String
  notes : String
  occurredAt : Time
  deriving DecidableEq, Repr

/-- Each value once, in the order of their first occurrences. -/
def uniquePositiveIDs (values : List ID) : List ID := values.reverse.dedup.reverse

/-- `pointerIDs` -/
def pointerIDs (values : List (Option ID)) : List ID := values.filterMap id

def LocationMutation.normalize (mutation : LocationMutation) : LocationMutation :=
  { mutation with
    name := Go.trimSpace mutation.name
    description := Go.trimSpace mutation.description
    groupIDs := uniquePositiveIDs mutation.groupIDs }

def CheckinCreate.normalize (create : CheckinCreate) : CheckinCreate := { create with notes := Go.trimSpace create.notes }

def CheckinMutation.normalize (mutation : CheckinMutation) : CheckinMutation :=
  { mutation with notes := Go.trimSpace mutation.notes }

/-- Go's zero `time.Time`, the first instant of the year 1. -/
def zeroTime : Time := -62135596800000000

/-- One `validate` tag of a field: the text of its error, unless the field passes. -/
def requireField (passes : Bool) (message : String) : Except Err Unit :=
  if passes then .ok () else .error (.invalidInput message)

/-- The tags that `CheckinCreate` and `CheckinMutation` share. -/
def validateRecord (userID locationID : ID) (direction : String) : Except Err Unit := do
  requireField (decide (1 ≤ userID)) "UserID must be at least 1"
  requireField (decide (1 ≤ locationID)) "LocationID must be at least 1"
  requireField (decide (direction = directionIn ∨ direction = directionOut)) "Direction must be one of check_in check_out"

def CheckinCreate.validate (create : CheckinCreate) : Except Err Unit :=
  validateRecord create.userID create.locationID create.direction

def CheckinMutation.validate (mutation : CheckinMutation) : Except Err Unit := do
  validateRecord mutation.userID mutation.locationID mutation.direction
  requireField (decide (mutation.occurredAt ≠ zeroTime)) "OccurredAt is required"

def LocationMutation.validate (mutation : LocationMutation) : Except Err Unit := do
  requireField (decide (mutation.name ≠ "")) "Name is required"
  requireField (decide (Go.trimSpace mutation.name ≠ "")) "Name must not be blank"
  requireField ((mutation.groupIDs ++ pointerIDs [mutation.backgroundObjectID, mutation.logoObjectID]).all
    fun id => decide (1 ≤ id)) "identifiers must be positive"

/-- `ValidateSubmission` -/
def validateSubmission (location : Location) (notes : String) (hasPhoto : Bool) : Except Err Unit :=
  if !location.enabled then .error (.invalidInput "location is disabled")
  else if !location.notes && decide (notes ≠ "") then .error (.invalidInput "notes are disabled for this location")
  else if location.photo && !hasPhoto then .error (.invalidInput "photo is required")
  else .ok ()

end Requests

section Checks

theorem requireField_ok {passes : Bool} {message : String} : requireField passes message = .ok () ↔ passes = true := by
  cases passes <;> simp [requireField]

theorem validateRecord_ok {userID locationID : ID} {direction : String} :
    validateRecord userID locationID direction = .ok () ↔
      1 ≤ userID ∧ 1 ≤ locationID ∧ ∃ parsed, parseDirection direction = some parsed := by
  have parses : (∃ parsed, parseDirection direction = some parsed) ↔ direction = directionIn ∨ direction = directionOut := by
    unfold parseDirection
    split
    · simp [*]
    · split
      · simp [*]
      · simp [*]
  rw [parses]
  simp only [validateRecord, bind_unit_ok, requireField_ok, decide_eq_true_eq]

/-- A check-in that passes its checks names a person, a location and a direction. -/
theorem CheckinCreate.validate_ok {create : CheckinCreate} : create.validate = .ok () ↔
    1 ≤ create.userID ∧ 1 ≤ create.locationID ∧ ∃ parsed, parseDirection create.direction = some parsed :=
  validateRecord_ok

theorem CheckinMutation.validate_ok {mutation : CheckinMutation} : mutation.validate = .ok () ↔
    (1 ≤ mutation.userID ∧ 1 ≤ mutation.locationID ∧ ∃ parsed, parseDirection mutation.direction = some parsed) ∧
      mutation.occurredAt ≠ zeroTime := by
  simp only [validate, bind_unit_ok, requireField_ok, validateRecord_ok, decide_eq_true_eq]

/-- A station may submit what the location asks for, and nothing it has switched off. -/
theorem validateSubmission_ok {location : Location} {notes : String} {hasPhoto : Bool} :
    validateSubmission location notes hasPhoto = .ok () ↔
      location.enabled = true ∧ (location.notes = true ∨ notes = "") ∧ (location.photo = true → hasPhoto = true) := by
  unfold validateSubmission
  cases location.enabled <;> cases location.notes <;> cases location.photo <;> cases hasPhoto <;>
    by_cases blank : notes = "" <;> simp [blank]

end Checks

end Woodgate.Checkin
