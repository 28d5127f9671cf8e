import Woodgate.Checkin.Service

/-!
# The station service

`Service.Create`, `Update`, `Delete` and `RotateKey` as programs, with the functions of `Store`
behind them. The locations come from the check-in service; the hub is the one the server
is wired with. `token` is what the generator of random tokens yields.
-/

namespace Woodgate.Stations

open Library
open Library.Program hiding send
open Postgres Woodgate.Service

variable {libs : Libraries}

/-- What a created or rotated station is paired with. -/
structure Pairing where
  station : Station
  url : String
  serverURL : String
  key : String
  deriving DecidableEq, Repr

/-- The station-facing projection of its location. -/
structure LocationConfiguration where
  id : ID
  name : String
  enabled : Bool
  notes : Bool
  photo : Bool
  backgroundObjectID : Option ID
  logoObjectID : Option ID
  updatedAt : Time
  deriving DecidableEq, Repr

section Requests

def StationMutation.normalize (mutation : StationMutation) : StationMutation :=
  { mutation with name := Go.trimSpace mutation.name }

def StationMutation.validate (mutation : StationMutation) : Except Err Unit := do
  Checkin.requireField (decide (mutation.name ≠ "")) "Name is required"
  Checkin.requireField (decide (Go.trimSpace mutation.name ≠ "")) "Name must not be blank"
  Checkin.requireField (decide (1 ≤ mutation.locationID)) "LocationID must be at least 1"

/-- `newKey`: the key and its hash. -/
def newKey (sha256Hex : String → String) (token : Except Err String) : Except Err (String × String) :=
  match token with
  | .error e => .error (.wrapped "generate station key" e)
  | .ok token =>
    let key := "wgst_" ++ token
    .ok (key, hashSecret sha256Hex key)

/-- `Service.pairing` -/
def pairing (serverURL : String) (station : Station) (key : String) : Pairing where
  station := station
  url := "woodgate://pair?key=" ++ Go.queryEscape key ++ "&server=" ++ Go.queryEscape serverURL
  serverURL := serverURL
  key := key

end Requests

namespace Store

/-- `Store.Get` -/
def get (id : ID) : Service libs Station := mapError getError (send (.selectStation id))

/-- `Store.create` -/
def create (mutation : StationMutation) (secretHash : String) : Service libs Station := do
  let id : ID ← mapError mutationError (send (.insertStation mutation secretHash))
  get id

/-- `clearClientStates` -/
def clearClientStates (stationID : ID) : Service libs Unit := do
  send (.deleteSession stationID)
  send (.deleteRejection stationID)

/-- The transaction of `Store.update`. -/
def updateRow (id : ID) (mutation : StationMutation) : Service libs Unit := do
  send (.updateStation id mutation)
  if mutation.enabled then pure () else clearClientStates id

/-- `Store.update` -/
def update (id : ID) (mutation : StationMutation) : Service libs Station := do
  mapError mutationError (transaction (updateRow id mutation))
  get id

/-- `Store.delete` -/
def delete (id : ID) : Service libs Unit := mapError (deleteConflict "station is still referenced") (send (.deleteStation id))

/-- The transaction of `Store.rotateKey`. -/
def replaceHash (id : ID) (secretHash : String) : Service libs Unit := do
  send (.updateSecretHash id secretHash)
  clearClientStates id

/-- `Store.rotateKey` -/
def rotateKey (id : ID) (secretHash : String) : Service libs Station := do
  mapError mutationError (transaction (replaceHash id secretHash))
  get id

end Store

namespace Service

/-- `GetStationLocation` of the check-in service. -/
def getStationLocation (id : ID) : Service libs LocationConfiguration := do
  let location ← Checkin.Store.getLocation id
  pure {
    id := location.id, name := location.name, enabled := location.enabled, notes := location.notes, photo := location.photo
    backgroundObjectID := location.backgroundObjectID, logoObjectID := location.logoObjectID, updatedAt := location.updatedAt }

/-- `Service.requireLocation` -/
def requireLocation (locationID : ID) : Service libs Unit :=
  (getStationLocation locationID).handle fun
    | .ok _ => pure ()
    | .error .notFound => throw .notFound
    | .error e => throw (.wrapped "get station location" e)

variable (sha256Hex : String → String) (serverURL : String)

/-- `Service.Create` -/
def create (mutation : StationMutation) (token : Except Err String) : Service libs Pairing := do
  let mutation := mutation.normalize
  lift mutation.validate
  requireLocation mutation.locationID
  let (key, hash) ← lift (newKey sha256Hex token)
  let created ← Store.create mutation hash
  pure (pairing serverURL created key)

/-- What `Service.Update` tells the hub. -/
def updateNotice (id : ID) (updated : Station) : Notice :=
  if updated.enabled then .configurationChanged id updated.locationID else .disconnect id "station disabled"

/-- `Service.Update` -/
def update (id : ID) (mutation : StationMutation) : Service libs Station := do
  let mutation := mutation.normalize
  lift mutation.validate
  requireLocation mutation.locationID
  let updated ← Store.update id mutation
  announce (updateNotice id updated)
  pure updated

/-- `Service.Delete` -/
def delete (id : ID) : Service libs Unit := do
  Store.delete id
  announce (.disconnect id "station deleted")

/-- `Service.RotateKey` -/
def rotateKey (id : ID) (token : Except Err String) : Service libs Pairing := do
  let (key, hash) ← lift (newKey sha256Hex token)
  let updated ← Store.rotateKey id hash
  announce (.disconnect id "station key rotated")
  pure (pairing serverURL updated key)

end Service

section Plain

variable {id : ID}

theorem plain_requireLocation : (Service.requireLocation id : Service libs Unit).Plain Call.Quiet := by
  have reads : (Service.getStationLocation id : Service libs _).Plain Call.Quiet :=
    Checkin.plain_getLocation.bind fun _ => trivial
  refine reads.handle fun r => ?_
  split <;> trivial

end Plain

end Woodgate.Stations
