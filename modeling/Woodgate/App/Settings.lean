import Woodgate.Go.Strings

/-!
# The companion app's settings

`AppSettings`, the sessions and the API client of the app. What Foundation and UIKit do
with texts and bytes is a parameter; `#if DEBUG` is one of its fields.
-/

namespace Woodgate.App

/-- A parsed `URL`. -/
structure URL where
  absoluteString : String
  scheme : Option String
  host : Option String
  user : Option String := none
  password : Option String := none
  query : Option String := none
  fragment : Option String := none
  deriving DecidableEq, Repr

/-- The bytes of a `UIImage`. -/
abbrev UIImage := List UInt8

structure Foundation where
  /-- `URL(string:)` -/
  url : String → Option URL
  lowercased : String → String
  /-- `UIImage(data:)` -/
  image : List UInt8 → Option UIImage
  debug : Bool

/-- `trimmingCharacters(in: .whitespacesAndNewlines)`: the characters `strings.TrimSpace` cuts. -/
def trimmed (s : String) : String := Go.trimSpace s

structure PairingPayload where
  baseURL : String
  stationKey : String
  deriving DecidableEq, Repr

structure ActiveLocation where
  id : Int
  name : String
  enabled : Bool
  notes : Bool
  photo : Bool
  backgroundObjectID : Option Int
  logoObjectID : Option Int
  deriving DecidableEq, Repr

structure PersonSummary where
  id : Int
  displayName : String
  email : String
  deriving DecidableEq, Repr

structure ActiveSession where
  baseURLString : String
  stationID : Int
  stationName : String
  location : ActiveLocation
  people : List PersonSummary
  backgroundImage : Option UIImage
  logoImage : Option UIImage
  lastSyncedAt : Int
  deriving DecidableEq, Repr

/-- A `WoodGateStationConfigurationResponse`; its location has the fields of the session's. -/
structure StationConfiguration where
  stationID : Int
  stationName : String
  location : ActiveLocation
  deriving DecidableEq, Repr

/-- `AppSettings.shared`, as `UserDefaults` and the keychain hold it. -/
structure AppSettings where
  baseURLString : String := ""
  stationSecret : String := ""
  stationID : Option Int := none
  stationName : String := ""
  locationID : Option Int := none
  locationName : String := ""
  locationEnabled : Bool := false
  notes : Bool := false
  photo : Bool := false
  backgroundObjectID : Option Int := none
  logoObjectID : Option Int := none
  lastSyncedAt : Option Int := none
  deriving DecidableEq, Repr

/-- A `WoodGateAPIClient`. -/
structure WoodGateAPIClient where
  baseURL : URL
  stationSecret : String
  deriving DecidableEq, Repr

namespace AppSettings

variable (foundation : Foundation) (settings : AppSettings)

def hasPairing : Bool := settings.baseURLString ≠ "" && settings.stationSecret ≠ ""

def clear (removeStationSecret : Bool) : AppSettings :=
  { stationSecret := if removeStationSecret then "" else settings.stationSecret }

/-- `AppSettings.serverURL(_:)` -/
def serverURL (value : String) : Option URL := do
  let url ← foundation.url (trimmed value)
  let scheme := foundation.lowercased (← url.scheme)
  let host ← url.host
  if ["http", "https"].contains scheme && host ≠ "" && url.user.isNone && url.password.isNone && url.query.isNone &&
      url.fragment.isNone && (foundation.debug || scheme = "https") then some url
  else none

/-- `woodGateClient(baseURLString:stationSecret:)` -/
def client (baseURLString stationSecret : String) : Option WoodGateAPIClient :=
  match serverURL foundation baseURLString with
  | none => none
  | some baseURL => if stationSecret = "" then none else some { baseURL, stationSecret }

/-- `woodGateClient()` -/
def woodGateClient : Option WoodGateAPIClient := client foundation settings.baseURLString settings.stationSecret

/-- The fields `persist` writes. -/
def store (session : ActiveSession) (stationSecret : String) : AppSettings where
  baseURLString := session.baseURLString
  stationSecret := stationSecret
  stationID := some session.stationID
  stationName := session.stationName
  locationID := some session.location.id
  locationName := session.location.name
  locationEnabled := session.location.enabled
  notes := session.location.notes
  photo := session.location.photo
  backgroundObjectID := session.location.backgroundObjectID
  logoObjectID := session.location.logoObjectID
  lastSyncedAt := some session.lastSyncedAt

variable {foundation} {settings}

theorem client_secret {baseURLString stationSecret : String} {c : WoodGateAPIClient}
    (h : client foundation baseURLString stationSecret = some c) : stationSecret ≠ "" := by
  rintro rfl
  unfold client at h
  split at h <;> cases h

/-- Without a key there is no client. -/
theorem woodGateClient_secret (h : (settings.woodGateClient foundation).isSome) : settings.stationSecret ≠ "" := by
  obtain ⟨c, found⟩ := Option.isSome_iff_exists.1 h
  exact client_secret found

end AppSettings

/-- An error of the app: of the URL loading system, of the server, or another one. -/
inductive AppError where
  | urlError (cancelled : Bool) (message : String)
  | apiError (statusCode : Int) (detail : String)
  | woodGateError (message : String)
  | other (message : String)
  deriving DecidableEq, Repr

namespace AppError

def localizedDescription : AppError → String
  | .urlError _ message | .apiError _ message | .woodGateError message | .other message => message

end AppError

inductive UnavailableState where
  | connectivity
  | authorization
  | locationDisabled
  deriving DecidableEq, Repr

/-- `unavailableState(for:)` -/
def unavailableStateFor : AppError → Option UnavailableState
  | .urlError cancelled _ => if cancelled then none else some .connectivity
  | .apiError statusCode _ =>
    if statusCode = 401 ∨ statusCode = 403 then some .authorization
    else if statusCode = 409 then some .locationDisabled
    else if 500 ≤ statusCode ∧ statusCode ≤ 599 then some .connectivity
    else none
  | .woodGateError _ | .other _ => none

structure AlertItem where
  title : String
  message : String
  deriving DecidableEq, Repr

end Woodgate.App
