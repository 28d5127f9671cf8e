import Woodgate.Calls

/-!
# The check-in service

The functions of `Store` that send more than one call, and of `Service`, as programs. A
function that continues after an error uses `handle`; `notifier` is the one the server is
wired with.
-/

namespace Woodgate.Checkin

open Library
open Library.Program hiding send
open Postgres Woodgate.Service

variable {libs : Libraries}

section Attachments

/-- `DeleteUnreferenced`: whatever comes of it, the caller continues. -/
def deleteUnreferenced (objectIDs : List ID) : Service libs Unit := .call (.deleteUnreferenced objectIDs) fun _ => pure ()

/-- `replacedObjectIDs` -/
def replacedObjectIDs (oldID newID : Option ID) : List ID :=
  match oldID with
  | none => []
  | some old => if newID = some old then [] else [old]

/-- The media types `requireImage` takes. -/
def isImage (mimetype : Mimetype) (contentType : String) : Bool :=
  match mimetype.lookup contentType with
  | none => false
  | some detected =>
    mimetype.is detected "image/png" || mimetype.is detected "image/jpeg" || mimetype.is detected "image/webp"

/-- What `requireImage` asks of the row it locks. -/
def checkImage (libs : Libraries) (object : ObjectRow) (objectPrefix : String) : Except Err Unit :=
  if object.objectPrefix ≠ objectPrefix then .error (.invalidInput "object belongs to a different attachment gallery")
  else if !libs.objects.available object then .error (.invalidInput "object upload is not complete")
  else if !isImage libs.mimetype object.contentType then
    .error (.invalidInput "attachment must be a PNG, JPEG, or WebP image")
  else .ok ()

/-- `Store.requireImage` -/
def requireImage (objectID : ID) (objectPrefix : String) : Service libs Unit := do
  let object : ObjectRow ← mapError getError (send (.selectImage objectID))
  lift (checkImage libs object objectPrefix)

/-- One attachment, if there is one. -/
def requireAttachment (gallery objectPrefix : String) : Option ID → Service libs Unit
  | none => pure ()
  | some objectID => mapError (.wrapped gallery) (requireImage objectID objectPrefix)

/-- `Store.validateLocationAttachments` -/
def validateLocationAttachments (backgroundObjectID logoObjectID : Option ID) : Service libs Unit := do
  requireAttachment "background" backgroundObjectPrefix backgroundObjectID
  requireAttachment "logo" logoObjectPrefix logoObjectID

/-- The loop of `finalizeLocationAttachments`; `objectIDs` are the objects finalized so far. -/
def finalizeAttachments : List (Option ID × String) → List ID → Service libs (List ID)
  | [], objectIDs => pure objectIDs
  | (none, _) :: rest, objectIDs => finalizeAttachments rest objectIDs
  | (some id, objectPrefix) :: rest, objectIDs => .call (.finalizeObject id objectPrefix) fun
    | .ok (objectID : ID) => finalizeAttachments rest (objectIDs ++ [objectID])
    | .error e => do
      deleteUnreferenced objectIDs
      throw e

/-- `Service.finalizeLocationAttachments` -/
def finalizeLocationAttachments (mutation : LocationMutation) : Service libs (List ID) :=
  finalizeAttachments
    [(mutation.backgroundObjectID, backgroundObjectPrefix), (mutation.logoObjectID, logoObjectPrefix)] []

end Attachments

namespace Store

/-- `Store.GetLocation` -/
def getLocation (id : ID) : Service libs Location := do
  let location : Location ← mapError getError (send (.selectLocation id))
  let groups : List GroupSummary ← send (.selectLocationGroups id)
  pure { location with groups }

/-- `replaceLocationGroups` -/
def replaceLocationGroups (locationID : ID) (groupIDs : List ID) : Service libs Unit := do
  send (.deleteLocationGroups locationID)
  forEach (fun groupID => mapError mutationError (send (.insertLocationGroup locationID groupID))) groupIDs

/-- The transaction of `Store.CreateLocation`. -/
def insertLocation (mutation : LocationMutation) : Service libs ID := do
  validateLocationAttachments mutation.backgroundObjectID mutation.logoObjectID
  let id : ID ← mapError mutationError (send (.insertLocation mutation))
  replaceLocationGroups id mutation.groupIDs
  pure id

/-- `Store.CreateLocation` -/
def createLocation (mutation : LocationMutation) : Service libs Location := do
  let id ← transaction (insertLocation mutation)
  getLocation id

/-- The transaction of `Store.UpdateLocation`. -/
def replaceLocation (id : ID) (mutation : LocationMutation) : Service libs (Option ID × Option ID) := do
  let old : Option ID × Option ID ← mapError getError (send (.lockLocation id))
  validateLocationAttachments mutation.backgroundObjectID mutation.logoObjectID
  mapError mutationError (send (.updateLocation id mutation))
  replaceLocationGroups id mutation.groupIDs
  pure old

/-- `Store.UpdateLocation` -/
def updateLocation (id : ID) (mutation : LocationMutation) : Service libs Location := do
  let old ← transaction (replaceLocation id mutation)
  deleteUnreferenced (replacedObjectIDs old.1 mutation.backgroundObjectID)
  deleteUnreferenced (replacedObjectIDs old.2 mutation.logoObjectID)
  getLocation id

/-- `Store.DeleteLocation` -/
def deleteLocation (id : ID) : Service libs Unit := do
  let old : Option ID × Option ID ← mapError (deleteConflict "location is still referenced") (send (.deleteLocation id))
  deleteUnreferenced (pointerIDs [old.1, old.2])

/-- `Store.GetCheckin` -/
def getCheckin (id : ID) : Service libs Checkin := mapError getError (send (.selectCheckin id))

/-- `Store.UserActor` -/
def userActor (id : ID) : Service libs Actor := do
  let appID : UUID ← mapError getError (send (.userActor id))
  pure { kind := "user", appID, userID := some id }

/-- `Store.StationActor` -/
def stationActor (id : ID) : Service libs Actor := do
  let appID : UUID ← mapError getError (send (.stationActor id))
  pure { kind := "station", appID, stationID := some id }

/-- `Store.CreateCheckin` -/
def createCheckin (create : CheckinCreate) (actor : Actor) (photoObjectID : Option ID) : Service libs Checkin := do
  let id : ID ← mapError mutationError (send (.insertCheckin create actor photoObjectID))
  getCheckin id

/-- `Store.UpdateCheckin` -/
def updateCheckin (id : ID) (mutation : CheckinMutation) : Service libs Checkin := do
  mapError mutationError (send (.updateCheckin id mutation))
  getCheckin id

end Store

/-- A `station.CheckinSubmission`. -/
structure CheckinSubmission where
  stationID : ID
  locationID : ID
  personID : ID
  direction : String
  notes : String
  photo : List UInt8
  deriving DecidableEq, Repr

/-- A `station.CheckinReceipt`. -/
structure CheckinReceipt where
  id : ID
  personID : ID
  locationID : ID
  direction : String
  deriving DecidableEq, Repr

namespace Service

/-- `Service.CreateLocation` -/
def createLocation (mutation : LocationMutation) : Service libs Location := do
  let mutation := mutation.normalize
  lift mutation.validate
  let objectIDs ← finalizeLocationAttachments mutation
  (Store.createLocation mutation).handle fun
    | .ok item => pure item
    | .error e => do
      deleteUnreferenced objectIDs
      throw e

/-- `Service.UpdateLocation` -/
def updateLocation (id : ID) (mutation : LocationMutation) : Service libs Location := do
  let mutation := mutation.normalize
  lift mutation.validate
  let objectIDs ← finalizeLocationAttachments mutation
  (Store.updateLocation id mutation).handle fun
    | .ok item => do
      announce (.locationChanged id)
      pure item
    | .error e => do
      deleteUnreferenced objectIDs
      throw e

/-- `Service.DeleteLocation` -/
def deleteLocation (id : ID) : Service libs Unit := Store.deleteLocation id

/-- `Service.validatePerson` -/
def validatePerson (locationID userID : ID) : Service libs Unit := do
  let eligible : Bool ← send (.personEligible locationID userID)
  lift (if eligible then .ok () else .error (.invalidInput "person is not eligible for this location"))

/-- What `Submit` asks of the location. -/
def checkLocation (location : Location) (actor : Actor) (notes : String) (hasPhoto : Bool) : Except Err Unit :=
  if !location.enabled then
    if actor.kind = "station" then .error (.conflict "location is disabled")
    else .error (.invalidInput "location is disabled")
  else if actor.kind = "station" then validateSubmission location notes hasPhoto
  else .ok ()

/-- The photo of `Submit`. -/
def writePhoto (photo : List UInt8) : Service libs (Option ID) :=
  if photo.isEmpty then pure none
  else
    let contentType := libs.mimetype.detect photo
    if !libs.mimetype.is contentType "image/jpeg" && !libs.mimetype.is contentType "image/png" then
      throw (.invalidInput "photo must be a PNG or JPEG image")
    else do
      let filename := if libs.mimetype.is contentType "image/png" then "photo.png" else "photo.jpg"
      let objectID : ID ← send (.writeObject photoObjectPrefix filename contentType photo)
      pure (some objectID)

/-- `Service.Submit` -/
def submit (create : CheckinCreate) (actor : Actor) (photo : List UInt8) : Service libs Checkin := do
  let create := create.normalize
  lift create.validate
  let location ← Store.getLocation create.locationID
  lift (checkLocation location actor create.notes (!photo.isEmpty))
  validatePerson create.locationID create.userID
  let photoObjectID ← writePhoto photo
  (Store.createCheckin create actor photoObjectID).handle fun
    | .ok item => pure item
    | .error e => match photoObjectID with
      | some objectID => do
        deleteUnreferenced [objectID]
        throw e
      | none => throw e

/-- `Service.CreateCheckin` -/
def createCheckin (create : CheckinCreate) (actorUserID : ID) : Service libs Checkin := do
  let actor ← Store.userActor actorUserID
  submit create actor []

/-- What `UpdateCheckin` asks of a new pair of location and person. -/
def validateMove (mutation : CheckinMutation) : Service libs Unit := do
  let location ← Store.getLocation mutation.locationID
  lift (if location.enabled then .ok () else .error (.invalidInput "location is disabled"))
  validatePerson mutation.locationID mutation.userID

/-- `Service.UpdateCheckin` -/
def updateCheckin (id : ID) (mutation : CheckinMutation) : Service libs Checkin := do
  let mutation := mutation.normalize
  lift mutation.validate
  let current ← Store.getCheckin id
  if mutation.locationID ≠ current.location.id ∨ mutation.userID ≠ current.person.id then
    validateMove mutation
  Store.updateCheckin id mutation

/-- `Service.SubmitStationCheckin` -/
def submitStationCheckin (submission : CheckinSubmission) : Service libs CheckinReceipt := do
  let actor ← Store.stationActor submission.stationID
  let item ← submit { userID := submission.personID, locationID := submission.locationID, direction := submission.direction
                      notes := submission.notes } actor submission.photo
  pure { id := item.id, personID := item.person.id, locationID := item.location.id, direction := item.direction }

end Service

section Plain

variable {P : Call → Prop} {id : ID}

theorem plain_requireImage {objectID : ID} {objectPrefix : String} (meets : ∀ id, P (.selectImage id)) :
    (requireImage objectID objectPrefix : Service libs Unit).Plain P :=
  (plain_send (meets _)).bind fun _ => trivial

theorem plain_validateLocationAttachments {backgroundObjectID logoObjectID : Option ID} (meets : ∀ id, P (.selectImage id)) :
    (validateLocationAttachments backgroundObjectID logoObjectID : Service libs Unit).Plain P := by
  have one : ∀ gallery objectPrefix object, (requireAttachment gallery objectPrefix object : Service libs Unit).Plain P := by
    intro gallery objectPrefix object
    cases object with
    | none => trivial
    | some objectID => exact plain_mapError (plain_requireImage meets)
  exact (one _ _ _).bind fun _ => one _ _ _

theorem plain_deleteUnreferenced (objectIDs : List ID) : (deleteUnreferenced objectIDs : Service libs Unit).Plain Call.Quiet :=
  ⟨trivial, fun _ => trivial⟩

theorem plain_finalizeAttachments (attachments : List (Option ID × String)) (objectIDs : List ID) :
    (finalizeAttachments attachments objectIDs : Service libs (List ID)).Plain Call.Quiet := by
  induction attachments generalizing objectIDs with
  | nil => trivial
  | cons attachment attachments ih =>
    obtain ⟨object, objectPrefix⟩ := attachment
    cases object with
    | none => exact ih objectIDs
    | some objectID =>
      refine ⟨trivial, fun r => ?_⟩
      cases r with
      | ok objectID => exact ih _
      | error e => exact (plain_deleteUnreferenced objectIDs).bind fun _ => trivial

theorem plain_getLocation : (Store.getLocation id : Service libs Location).Plain Call.Quiet :=
  (plain_send trivial).bind fun _ => Plain.bind (Plain.send trivial) fun _ => trivial

theorem plain_validatePerson {userID : ID} : (Service.validatePerson id userID : Service libs Unit).Plain Call.Quiet :=
  Plain.bind (Plain.send trivial) fun _ => trivial

theorem plain_validateMove {mutation : CheckinMutation} : (Service.validateMove mutation : Service libs Unit).Plain Call.Quiet :=
  plain_getLocation.bind fun _ => Plain.bind (p := lift _) trivial fun _ => plain_validatePerson

theorem plain_writePhoto {photo : List UInt8} : (Service.writePhoto photo : Service libs (Option ID)).Plain Call.Quiet := by
  unfold Service.writePhoto
  split
  · trivial
  · dsimp only
    split
    · trivial
    · exact Plain.bind (Plain.send trivial) fun _ => trivial

/-- The calls of `Service.Submit`: it writes nothing but one check-in and the object store. -/
def SubmitCall (c : Call) : Prop := c.Quiet ∨ ∃ create actor photoObjectID, c = .insertCheckin create actor photoObjectID

theorem plain_submit {create : CheckinCreate} {actor : Actor} {photo : List UInt8} :
    (Service.submit create actor photo : Service libs Checkin).Plain SubmitCall := by
  have quiet : ∀ {A : Type} {p : Service libs A}, p.Plain Call.Quiet → p.Plain SubmitCall :=
    fun plain => plain.mono fun _ => .inl
  refine Plain.bind (p := lift _) trivial fun _ => ?_
  refine (quiet plain_getLocation).bind fun location => ?_
  refine Plain.bind (p := lift _) trivial fun _ => ?_
  refine (quiet plain_validatePerson).bind fun _ => ?_
  refine (quiet plain_writePhoto).bind fun photoObjectID => ?_
  have inserts : SubmitCall (.insertCheckin create.normalize actor photoObjectID) := .inr ⟨_, _, _, rfl⟩
  have created : (Store.createCheckin create.normalize actor photoObjectID : Service libs Checkin).Plain SubmitCall :=
    (plain_send inserts).bind fun id => quiet (plain_send (c := .selectCheckin id) trivial)
  refine created.handle fun r => ?_
  cases r with
  | ok item => trivial
  | error e =>
    cases photoObjectID with
    | none => trivial
    | some objectID => exact (quiet (plain_deleteUnreferenced [objectID])).bind fun _ => trivial

/-- The calls of `Service.UpdateCheckin`: it writes nothing but its check-in. -/
def UpdateCall (id : ID) (c : Call) : Prop := c.Quiet ∨ ∃ mutation, c = .updateCheckin id mutation

theorem plain_updateCheckin {mutation : CheckinMutation} :
    (Service.updateCheckin id mutation : Service libs Checkin).Plain (UpdateCall id) := by
  have quiet : ∀ {A : Type} {p : Service libs A}, p.Plain Call.Quiet → p.Plain (UpdateCall id) :=
    fun plain => plain.mono fun _ => .inl
  have updates : UpdateCall id (.updateCheckin id mutation.normalize) := .inr ⟨_, rfl⟩
  have stored : (Store.updateCheckin id mutation.normalize : Service libs Checkin).Plain (UpdateCall id) :=
    (plain_send updates).bind fun _ => quiet (plain_send (c := .selectCheckin id) trivial)
  refine Plain.bind (p := lift _) trivial fun _ => ?_
  refine (quiet (plain_send (c := .selectCheckin id) trivial)).bind fun current => ?_
  split
  · exact (quiet plain_validateMove).bind fun _ => stored
  · exact stored

theorem plain_replaceLocationGroups {groupIDs : List ID} (deletes : P (.deleteLocationGroups id))
    (inserts : ∀ groupID, P (.insertLocationGroup id groupID)) :
    (Store.replaceLocationGroups id groupIDs : Service libs Unit).Plain P :=
  (Plain.send deletes).bind fun _ => plain_forEach (fun groupID => plain_send (inserts groupID)) groupIDs

theorem plain_insertLocation {mutation : LocationMutation} (selects : ∀ id, P (.selectImage id))
    (inserts : P (.insertLocation mutation)) (deletes : ∀ id, P (.deleteLocationGroups id))
    (adds : ∀ id groupID, P (.insertLocationGroup id groupID)) : (Store.insertLocation mutation : Service libs ID).Plain P :=
  (plain_validateLocationAttachments selects).bind fun _ =>
    (plain_send inserts).bind fun id => (plain_replaceLocationGroups (deletes id) (adds id)).bind fun _ => trivial

theorem plain_replaceLocation {mutation : LocationMutation} (locks : P (.lockLocation id)) (selects : ∀ id, P (.selectImage id))
    (updates : P (.updateLocation id mutation)) (deletes : P (.deleteLocationGroups id))
    (inserts : ∀ groupID, P (.insertLocationGroup id groupID)) :
    (Store.replaceLocation id mutation : Service libs _).Plain P :=
  (plain_send locks).bind fun _ => (plain_validateLocationAttachments selects).bind fun _ =>
    (plain_send updates).bind fun _ => (plain_replaceLocationGroups deletes inserts).bind fun _ => trivial

end Plain

end Woodgate.Checkin
