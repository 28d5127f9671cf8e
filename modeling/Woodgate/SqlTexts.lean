import Woodgate.Lists
import Woodgate.Postgres.Where

/-!
# The texts of the list queries

What the stores send for a list: the `WHERE` with its arguments, and the query around it. The order
keys are those of the queries in `Lists`. `sql_texts` says that the text depends on nothing but the
shape of a request, and that each placeholder stands for the value given for its place.
-/

namespace Woodgate.SqlTexts

open Library.Placeholders Postgres

section Users

def userColumnExprs : List String :=
  ["id", "email", "name", "password_hash", "api_key", "api_key_created_at", "source::text AS source",
    "external_id", "user_principal_name", "mail_nickname", "given_name", "family_name", "department",
    "deleted_at", "created_at", "updated_at"]

/-- The columns of a user, each with the alias before it. -/
def userColumnsSQL (userAlias : String) : String :=
  let before := if userAlias ≠ "" then userAlias ++ "." else ""
  ", ".intercalate (userColumnExprs.map fun column => before ++ column)

/-- The `SELECT` of `UserStore.List`, which joins the memberships for a group. -/
def userListSelectSQL (params : Directory.UserListParams) : String :=
  let selectSQL := "SELECT " ++ userColumnsSQL "u" ++ "\nFROM users u"
  if params.groupID ≤ 0 then selectSQL
  else selectSQL ++ "\nJOIN directory_group_memberships gm ON gm.user_id = u.id"

/-- The condition that the user has a role, its own or that of a group. -/
def effectiveRoleExistsSQL (userAlias : String) : String :=
  let userAlias := if userAlias ≠ "" then userAlias ++ "." else userAlias
  "EXISTS (\n    SELECT 1 FROM authz_user_roles AS direct_role WHERE direct_role.user_id = " ++ userAlias ++
    "id
    UNION ALL
    SELECT 1
    FROM directory_group_memberships AS membership
    JOIN authz_group_roles AS group_role ON group_role.group_id = membership.group_id
    WHERE membership.user_id = " ++ userAlias ++
    "id\n)"

/-- The role ids among the values of the filter; `none` is not one. -/
def roleIDs (values : List String) : List Int := (values.filter fun value => decide (value ≠ "none")).map Go.parseInt

/-- The condition for some of the roles. -/
def rolesSQL (roleArg : String) : String :=
  "EXISTS (
            SELECT 1 FROM authz_user_roles AS direct_role
            WHERE direct_role.user_id = u.id AND direct_role.role_id = ANY(" ++ roleArg ++
      "::bigint[])
            UNION ALL
            SELECT 1
            FROM directory_group_memberships AS membership
            JOIN authz_group_roles AS group_role ON group_role.group_id = membership.group_id
            WHERE membership.user_id = u.id AND group_role.role_id = ANY(" ++ roleArg ++
      "::bigint[])\n        )"

/-- The filter by role: one of those named, or none at all. -/
def roleFilterSQL (b : WhereBuilder) (values : List String) : WhereBuilder × String :=
  let none := if values.contains "none" then ["NOT " ++ effectiveRoleExistsSQL "u"] else []
  if roleIDs values ≠ [] then
    let (b, roleArg) := b.arg (.bigints (roleIDs values))
    (b, "(" ++ " OR ".intercalate ([rolesSQL roleArg] ++ none) ++ ")")
  else (b, "(" ++ " OR ".intercalate none ++ ")")

/-- The search of `userWhere`. -/
def userSearchSQL (search : String) : String :=
  "(\n\t\t\tu.email ILIKE " ++ search ++
    "\n\t\t\tOR u.user_principal_name ILIKE " ++ search ++
    "\n\t\t\tOR u.mail_nickname ILIKE " ++ search ++
    "\n\t\t\tOR u.name ILIKE " ++ search ++
    "\n\t\t\tOR u.given_name ILIKE " ++ search ++
    "\n\t\t\tOR u.family_name ILIKE " ++ search ++
    "\n\t\t\tOR u.department ILIKE " ++ search ++
    "\n\t\t)"

/-- The `WHERE` of `UserStore.List`. -/
def userWhere (params : Directory.UserListParams) : WhereBuilder :=
  let b := WhereBuilder.add {} "u.deleted_at IS NULL"
  let b := b.when (0 < params.groupID) fun b => b.addf "gm.group_id = %s" [.bigint params.groupID]
  let b := b.when (params.listParams.q ≠ "") fun b =>
    let (b, search) := b.arg (.text ("%" ++ params.listParams.q ++ "%"))
    b.add (userSearchSQL search)
  let b := b.when (params.values ≠ []) fun b =>
    b.addf "u.id::text = ANY(%s::text[])" [.texts (normalizeValues params.values)]
  let b := b.when (params.roleValues ≠ []) fun b =>
    let filter := roleFilterSQL b params.roleValues
    filter.1.add filter.2
  let b := b.when (params.source = "local") fun b => b.add "u.source = 'local'"
  b.when (params.source = "entra") fun b => b.add "u.source = 'entra'"

end Users

section Groups

def groupSelectSQL : String :=
  "SELECT
\t\tg.id,
\t\tg.source::text AS source,
\t\tg.external_id,
\t\tg.display_name,
\t\tCOALESCE(g.mail_nickname, '') AS mail_nickname,
\t\tcount(u.id)::integer AS member_count,
\t\tg.created_at,
\t\tg.updated_at
\tFROM directory_groups g
\tLEFT JOIN directory_group_memberships gm ON gm.group_id = g.id
\tLEFT JOIN users u ON u.id = gm.user_id AND u.deleted_at IS NULL
\t"

/-- The search of `groupWhere`. -/
def groupSearchSQL (search : String) : String :=
  "(\n\t\t\tg.display_name ILIKE " ++ search ++
    "\n\t\t\tOR g.mail_nickname ILIKE " ++ search ++
    "\n\t\t\tOR g.external_id ILIKE " ++ search ++
    "\n\t\t)"

/-- The `WHERE` of `GroupStore.List`. -/
def groupWhere (params : Directory.GroupListParams) : WhereBuilder :=
  let b : WhereBuilder := {}
  let b := b.when (params.listParams.q ≠ "") fun b =>
    let (b, search) := b.arg (.text ("%" ++ params.listParams.q ++ "%"))
    b.add (groupSearchSQL search)
  b.when (params.values ≠ []) fun b =>
    let (b, values) := b.arg (.texts (normalizeValues params.values))
    b.add ("g.id::text = ANY(" ++ values ++ "::text[])")

end Groups

section Checkins

/-- The parameters of `ListCheckins`; the direction is a text here. -/
structure CheckinTextParams where
  listParams : Params := {}
  locationID : ID := 0
  userID : ID := 0
  direction : String := ""
  departments : List String := []
  occurredFrom : Option Time := none
  occurredBefore : Option Time := none
  deriving DecidableEq, Repr

def checkinSelectSQL : String :=
  "SELECT c.id,c.app_id,c.actor_kind,c.actor_app_id,c.user_id,u.name AS user_name,u.email AS user_email,COALESCE(u.department,'') AS department,
    c.location_id,l.name AS location_name,c.direction::text AS direction,c.notes,c.photo_object_id,
    photo.filename AS photo_filename,photo.content_type AS photo_content_type,
    photo.size_bytes AS photo_size_bytes,photo.sha256 AS photo_sha256,
    COALESCE(NULLIF(creator.name,''),NULLIF(creator.email,''),k.name,station.name,'') AS actor_name,
    c.station_id,COALESCE(station.name,'') AS station_name,
    c.created_by_user_id,COALESCE(creator.name,'') AS created_by_name,
    COALESCE(creator.email,'') AS created_by_email,c.occurred_at,c.created_at,c.updated_at
FROM checkins c
JOIN users u ON u.id=c.user_id
JOIN locations l ON l.id=c.location_id
LEFT JOIN storage_objects photo ON photo.id=c.photo_object_id
LEFT JOIN users creator ON creator.id=c.created_by_user_id
LEFT JOIN app_keys k ON k.id=c.app_key_id
LEFT JOIN stations station ON station.id=c.station_id"

/-- The `WHERE` of `Store.ListCheckins`. -/
def checkinWhere (params : CheckinTextParams) : WhereBuilder :=
  let q := Value.text params.listParams.q
  let b : WhereBuilder := {}
  let b := b.when (params.listParams.q ≠ "") fun b =>
    b.addf "(u.name ILIKE '%%'||%s||'%%' OR u.email ILIKE '%%'||%s||'%%' OR l.name ILIKE '%%'||%s||'%%' OR c.notes ILIKE '%%'||%s||'%%')" [q, q, q, q]
  let b := b.when (0 < params.locationID) fun b => b.addf "c.location_id=%s" [.bigint params.locationID]
  let b := b.when (0 < params.userID) fun b => b.addf "c.user_id=%s" [.bigint params.userID]
  let b := b.when (params.direction ≠ "") fun b => b.addf "c.direction=%s" [.text params.direction]
  let b := b.when (params.departments ≠ []) fun b => b.addf "u.department=ANY(%s::text[])" [.texts params.departments]
  let b := b.when params.occurredFrom.isSome fun b =>
    b.addf "c.occurred_at >= %s" [.timestamp (params.occurredFrom.getD 0)]
  b.when params.occurredBefore.isSome fun b => b.addf "c.occurred_at < %s" [.timestamp (params.occurredBefore.getD 0)]

end Checkins

section Locations

def locationSelectSQL : String :=
  "SELECT l.id, l.name, l.description, l.enabled, l.notes, l.photo,
    l.background_object_id,
    background.filename AS background_filename,
    background.content_type AS background_content_type,
    background.size_bytes AS background_size_bytes,
    background.sha256 AS background_sha256,
    l.logo_object_id,
    logo.filename AS logo_filename,
    logo.content_type AS logo_content_type,
    logo.size_bytes AS logo_size_bytes,
    logo.sha256 AS logo_sha256,
    l.created_at, l.updated_at
FROM locations l
LEFT JOIN storage_objects background ON background.id = l.background_object_id
LEFT JOIN storage_objects logo ON logo.id = l.logo_object_id"

/-- The `WHERE` of `Store.ListLocations`. -/
def locationWhere (params : Checkin.LocationListParams) : WhereBuilder :=
  let q := Value.text params.listParams.q
  let b : WhereBuilder := {}
  let b := b.when (params.listParams.q ≠ "") fun b =>
    b.addf "(l.name ILIKE '%%' || %s || '%%' OR l.description ILIKE '%%' || %s || '%%')" [q, q]
  b.when params.enabled.isSome fun b => b.addf "l.enabled = %s" [.boolean (params.enabled.getD false)]

end Locations

section Stations

def stationSelectSQL : String :=
  "SELECT " ++
  "s.id, s.name, s.location_id, l.name AS location_name, s.enabled,
    CASE
        WHEN session.station_id IS NOT NULL THEN 'online'
        WHEN rejection.station_id IS NOT NULL THEN 'incompatible'
        ELSE 'offline'
    END AS state,
    COALESCE(session.version, rejection.version, '') AS version,
    COALESCE(session.protocol_version, rejection.protocol_version) AS protocol_version,
    s.created_at, s.updated_at" ++
  "
FROM stations AS s
JOIN locations AS l ON l.id = s.location_id
LEFT JOIN station_sessions AS session
    ON session.station_id = s.id AND session.expires_at > now()
LEFT JOIN station_rejections AS rejection
    ON rejection.station_id = s.id AND rejection.expires_at > now()"

/-- The `WHERE` of `Store.List`. -/
def stationWhere (params : Stations.StationListParams) : WhereBuilder :=
  let q := Value.text params.listParams.q
  let b : WhereBuilder := {}
  let b := b.when (params.listParams.q ≠ "") fun b =>
    b.addf "(s.name ILIKE '%%' || %s || '%%' OR l.name ILIKE '%%' || %s || '%%')" [q, q]
  let b := b.when (0 < params.locationID) fun b => b.addf "s.location_id = %s" [.bigint params.locationID]
  b.when params.enabled.isSome fun b => b.addf "s.enabled = %s" [.boolean (params.enabled.getD false)]

end Stations

section People

/-- The condition that the location is open to the user, as a format. -/
def eligiblePeopleSQL : String :=
  "(NOT EXISTS (SELECT 1 FROM location_directory_groups WHERE location_id=%[1]s)
 OR EXISTS (SELECT 1 FROM location_directory_groups lg JOIN directory_group_memberships gm ON gm.group_id=lg.group_id WHERE lg.location_id=%[1]s AND gm.user_id=u.id))"

/-- The `WHERE` that `PersonEligible` and `ListEligiblePeople` share. -/
def eligiblePeopleWhere (locationID : ID) : WhereBuilder :=
  let b := WhereBuilder.add {} "u.deleted_at IS NULL"
  let (b, location) := b.arg (.bigint locationID)
  b.add (sprintf eligiblePeopleSQL [location])

/-- The query of `Store.PersonEligible` with its `WHERE`. -/
def personSQL (built : String × List Value) : String × List Value := ("SELECT true FROM users u " ++ built.1, built.2)

/-- `Store.PersonEligible` -/
def personEligible (locationID userID : ID) : String × List Value :=
  personSQL ((eligiblePeopleWhere locationID).addf "u.id=%s" [.bigint userID]).build

/-- The `WHERE` of `Store.ListEligiblePeople`. -/
def listEligiblePeopleWhere (locationID : ID) (params : Params) : WhereBuilder :=
  let q := Value.text params.q
  (eligiblePeopleWhere locationID).when (params.q ≠ "") fun b =>
    b.addf "(u.name ILIKE '%%' || %s || '%%' OR u.email ILIKE '%%' || %s || '%%' OR u.department ILIKE '%%' || %s || '%%')" [q, q, q]

end People

section Calls

variable (locale : DbLocale)

/-- A list that is asked for, with the parameters its query is built from. -/
inductive ListRequest where
  | users (params : Directory.UserListParams)
  | groups (params : Directory.GroupListParams)
  | checkins (params : CheckinTextParams)
  | locations (params : Checkin.LocationListParams)
  | stations (params : Stations.StationListParams)
  | eligiblePeople (locationID : ID) (params : Params)

namespace ListRequest

/-- What the rows of the list are made of. -/
def Row : ListRequest → Type
  | .users _ | .eligiblePeople _ _ => ID × UserRow
  | .groups _ => Directory.GroupListRow
  | .checkins _ => Checkin.CheckinListRow
  | .locations _ => ID × LocationRow
  | .stations _ => Stations.Station

/-- A query with its texts. -/
def listText {R : Type} (q : ListQuery R) (selectSQL groupBySQL : String) (b : WhereBuilder) (params : Params) : ListText R where
  selectSQL := selectSQL
  whereSQL := b.build.1
  groupBySQL := groupBySQL
  args := b.build.2
  orderKeys := q.orderKeys
  defaultOrder := q.defaultOrder
  params := params

/-- The query that the store builds. -/
def text : (r : ListRequest) → ListText r.Row
  | .users params =>
    listText (Directory.userListQuery locale params {}) (userListSelectSQL params) "" (userWhere params) params.listParams
  | .groups params =>
    listText (Directory.groupListQuery locale params {}) groupSelectSQL "GROUP BY g.id" (groupWhere params) params.listParams
  | .checkins params =>
    listText (Checkin.listCheckinsQuery locale {} {}) checkinSelectSQL "" (checkinWhere params) params.listParams
  | .locations params =>
    let params := { params with listParams := params.listParams.normalize }
    listText (Checkin.locationQuery locale params {}) locationSelectSQL "" (locationWhere params) params.listParams
  | .stations params =>
    listText (Stations.stationListQuery locale 0 params {}) stationSelectSQL "" (stationWhere params) params.listParams
  | .eligiblePeople locationID params =>
    listText (Checkin.eligiblePeopleQuery locale locationID params {})
      "SELECT u.id,u.name,u.email,COALESCE(u.department,'') AS department FROM users u" ""
      (listEligiblePeopleWhere locationID params) params

/-- The values in the places of the filters, in the order of the text. -/
def values : ListRequest → List Value
  | .users params =>
    (if 0 < params.groupID then [.bigint params.groupID] else []) ++
    (if params.listParams.q ≠ "" then List.replicate 7 (.text ("%" ++ params.listParams.q ++ "%")) else []) ++
    (if params.values ≠ [] then [.texts (normalizeValues params.values)] else []) ++
    if roleIDs params.roleValues ≠ [] then List.replicate 2 (.bigints (roleIDs params.roleValues)) else []
  | .groups params =>
    (if params.listParams.q ≠ "" then List.replicate 3 (.text ("%" ++ params.listParams.q ++ "%")) else []) ++
    if params.values ≠ [] then [.texts (normalizeValues params.values)] else []
  | .checkins params =>
    (if params.listParams.q ≠ "" then List.replicate 4 (.text params.listParams.q) else []) ++
    (if 0 < params.locationID then [.bigint params.locationID] else []) ++
    (if 0 < params.userID then [.bigint params.userID] else []) ++
    (if params.direction ≠ "" then [.text params.direction] else []) ++
    (if params.departments ≠ [] then [.texts params.departments] else []) ++
    (if params.occurredFrom.isSome then [.timestamp (params.occurredFrom.getD 0)] else []) ++
    if params.occurredBefore.isSome then [.timestamp (params.occurredBefore.getD 0)] else []
  | .locations params =>
    let q := params.listParams.normalize.q
    (if q ≠ "" then List.replicate 2 (.text q) else []) ++
    if params.enabled.isSome then [.boolean (params.enabled.getD false)] else []
  | .stations params =>
    (if params.listParams.q ≠ "" then List.replicate 2 (.text params.listParams.q) else []) ++
    (if 0 < params.locationID then [.bigint params.locationID] else []) ++
    if params.enabled.isSome then [.boolean (params.enabled.getD false)] else []
  | .eligiblePeople locationID params =>
    List.replicate 2 (.bigint locationID) ++ if params.q ≠ "" then List.replicate 3 (.text params.q) else []

end ListRequest

end Calls

section Registered

variable {locale : DbLocale} {args : List Value} {n : Nat} {v : Value}

/-- The search names its placeholder seven times. -/
theorem userSearchSQL_refers (known : args[n]? = some v) :
    Refers args (userSearchSQL (placeholder (n + 1))) (List.replicate 7 v) := by
  have start : Refers args "(\n\t\t\tu.email ILIKE " [] := .literal (by decide)
  exact ((((((start.hole known (by decide) rfl).hole known (by decide) rfl).hole known (by decide) rfl).hole known
    (by decide) rfl).hole known (by decide) rfl).hole known (by decide) rfl).hole known (by decide) rfl

set_option maxRecDepth 4000 in
/-- The `WHERE` of the check-ins has its values in the order of the text. The same holds of each of the others. -/
theorem checkinWhere_registers {params : CheckinTextParams} :
    (checkinWhere params).Registers (ListRequest.values (.checkins params)) := by
  unfold checkinWhere ListRequest.values
  dsimp only
  exact .whenAddf (.whenAddf (.whenAddf (.whenAddf (.whenAddf (.whenAddf (.firstAddf .empty rfl rfl)
    rfl rfl) rfl rfl) rfl rfl) rfl rfl) rfl rfl) rfl rfl

set_option maxRecDepth 4000 in
theorem locationWhere_registers {params : Checkin.LocationListParams} :
    (locationWhere { params with listParams := params.listParams.normalize }).Registers (ListRequest.values (.locations params)) := by
  unfold locationWhere ListRequest.values
  dsimp only
  exact .whenAddf (.firstAddf .empty rfl rfl) rfl rfl

set_option maxRecDepth 4000 in
theorem stationWhere_registers {params : Stations.StationListParams} :
    (stationWhere params).Registers (ListRequest.values (.stations params)) := by
  unfold stationWhere ListRequest.values
  dsimp only
  exact .whenAddf (.whenAddf (.firstAddf .empty rfl rfl) rfl rfl) rfl rfl

theorem groupSearchSQL_refers (known : args[n]? = some v) :
    Refers args (groupSearchSQL (placeholder (n + 1))) (List.replicate 3 v) := by
  have start : Refers args "(\n\t\t\tg.display_name ILIKE " [] := .literal (by decide)
  exact ((start.hole known (by decide) rfl).hole known (by decide) rfl).hole known (by decide) rfl

theorem valuesSQL_refers (known : args[n]? = some v) :
    Refers args ("g.id::text = ANY(" ++ placeholder (n + 1) ++ "::text[])") [v] := by
  have start : Refers args "g.id::text = ANY(" [] := .literal (by decide)
  exact start.hole known (by decide) rfl

theorem groupWhere_registers {params : Directory.GroupListParams} :
    (groupWhere params).Registers (ListRequest.values (.groups params)) := by
  unfold groupWhere ListRequest.values
  dsimp only
  exact .whenArg (fun values => "g.id::text = ANY(" ++ values ++ "::text[])")
    (.firstArg groupSearchSQL .empty fun _ _ known => groupSearchSQL_refers known) fun _ _ known => valuesSQL_refers known

/-- A format that is filled with one placeholder refers to it once a verb. -/
theorem refers_sprintf {format : List Char} {is : List Nat} (known : args[n]? = some v)
    (good : fits 1 (pieces 0 format) = true) (which : verbs (pieces 0 format) = is) :
    Refers args (sprintf (String.ofList format) [placeholder (n + 1)]) (is.filterMap fun i => [v][i]?) := by
  have stand : Stand args [placeholder (n + 1)] [v] := .cons ⟨n, rfl, known⟩ .nil
  unfold sprintf
  rw [String.toList_ofList, ← which]
  exact refers_pieces stand good

set_option maxRecDepth 8000 in
/-- The condition names the location twice. -/
theorem eligiblePeopleSQL_refers (known : args[n]? = some v) :
    Refers args (sprintf eligiblePeopleSQL [placeholder (n + 1)]) (List.replicate 2 v) := by
  unfold eligiblePeopleSQL
  exact refers_sprintf known (by decide +kernel) (by decide +kernel : _ = [0, 0])

theorem active_registers : (WhereBuilder.add {} "u.deleted_at IS NULL").Registers [] := by
  have plain : Refers ([] : List Value) "u.deleted_at IS NULL" [] := .literal (by decide)
  have registers : (WhereBuilder.add {} "u.deleted_at IS NULL").Registers ([] ++ []) := .add .empty plain
  exact registers

/-- The argument is registered before the condition that names it. -/
theorem eligiblePeopleWhere_eq {locationID : ID} :
    eligiblePeopleWhere locationID =
      ((WhereBuilder.add {} "u.deleted_at IS NULL").arg (.bigint locationID)).1.add
        (sprintf eligiblePeopleSQL [((WhereBuilder.add {} "u.deleted_at IS NULL").arg (.bigint locationID)).2]) := rfl

theorem eligiblePeopleWhere_registers {locationID : ID} :
    (eligiblePeopleWhere locationID).Registers (List.replicate 2 (.bigint locationID)) := by
  rw [eligiblePeopleWhere_eq]
  exact WhereBuilder.Registers.argAdd (fun location => sprintf eligiblePeopleSQL [location]) active_registers
    fun _ _ known => eligiblePeopleSQL_refers known

theorem personSQL_refers {built : String × List Value} {values : List Value} (refers : Refers built.2 built.1 values) :
    Refers (personSQL built).2 (personSQL built).1 values := Refers.after_plain (by decide) refers

/-- `PersonEligible` names the location twice and the user once. -/
theorem personEligible_refers {locationID userID : ID} :
    Refers (personEligible locationID userID).2 (personEligible locationID userID).1
      (List.replicate 2 (.bigint locationID) ++ [.bigint userID]) := by
  have registers : ((eligiblePeopleWhere locationID).addf "u.id=%s" [.bigint userID]).Registers
      (List.replicate 2 (.bigint locationID) ++ [.bigint userID]) := eligiblePeopleWhere_registers.addf rfl
  unfold personEligible
  exact personSQL_refers registers.build

theorem listEligiblePeopleWhere_registers {locationID : ID} {params : Params} :
    (listEligiblePeopleWhere locationID params).Registers (ListRequest.values (.eligiblePeople locationID params)) := by
  unfold listEligiblePeopleWhere ListRequest.values
  dsimp only
  exact .whenAddf eligiblePeopleWhere_registers rfl rfl

set_option maxRecDepth 8000 in
/-- The ids of the roles are asked for among the direct roles and among those of the groups. -/
theorem rolesSQL_refers (known : args[n]? = some v) : Refers args (rolesSQL (placeholder (n + 1))) (List.replicate 2 v) := by
  have start : Refers args "EXISTS (
            SELECT 1 FROM authz_user_roles AS direct_role
            WHERE direct_role.user_id = u.id AND direct_role.role_id = ANY(" [] := .literal (by decide)
  exact (start.hole known (by decide) rfl).hole known (by decide) rfl

set_option maxRecDepth 8000 in
theorem effectiveRoleExistsSQL_plain {userAlias : String} (plain : '$' ∉ userAlias.toList) :
    '$' ∉ (effectiveRoleExistsSQL userAlias).toList := by
  have dotted : '$' ∉ (if userAlias ≠ "" then userAlias ++ "." else userAlias).toList := by
    split
    · exact notMem_append plain (by decide)
    · exact plain
  unfold effectiveRoleExistsSQL
  dsimp only
  generalize (if userAlias ≠ "" then userAlias ++ "." else userAlias) = before at dotted ⊢
  refine notMem_append (notMem_append (notMem_append (notMem_append ?_ dotted) ?_) dotted) ?_
  · exact notMem_literal (by decide)
  · exact notMem_literal (by decide)
  · exact notMem_literal (by decide)

theorem or_breaks (t : String) : Breaks (" OR " ++ t) := breaks_of_head (by simp)

/-- The roles are asked for twice, if any are named. -/
theorem roleFilterSQL_registers {b : WhereBuilder} {values : List Value} (registers : b.Registers values)
    (roleValues : List String) :
    ((roleFilterSQL b roleValues).1.add (roleFilterSQL b roleValues).2).Registers (values ++
      if roleIDs roleValues ≠ [] then List.replicate 2 (.bigints (roleIDs roleValues)) else []) := by
  have none : ∀ args : List Value, ∃ valuess, valuess.flatten = [] ∧ List.Forall₂ (Refers args)
      (if roleValues.contains "none" then ["NOT " ++ effectiveRoleExistsSQL "u"] else []) valuess := by
    intro args
    split
    · refine ⟨[[]], rfl, .cons (.plain ?_) .nil⟩
      exact notMem_append (by decide) (effectiveRoleExistsSQL_plain (by decide))
    · exact ⟨[], rfl, .nil⟩
  have closed : ∀ (args : List Value) (text : String) (more : List Value), Refers args text more →
      Refers args ("(" ++ text ++ ")") more := by
    intro args text more refers
    have opened : Refers args ("(" ++ text) more := .after_plain (by decide) refers
    have whole := opened.append (.plain (by decide) : Refers args ")" []) (breaks_of_head (by decide))
    rwa [List.append_nil] at whole
  unfold roleFilterSQL
  dsimp only
  split
  · refine WhereBuilder.Registers.argAdd (fun roleArg => "(" ++ " OR ".intercalate ([rolesSQL roleArg] ++
      if roleValues.contains "none" then ["NOT " ++ effectiveRoleExistsSQL "u"] else []) ++ ")") registers fun args n known => ?_
    obtain ⟨valuess, empty, each⟩ := none args
    have joined := Refers.intercalate (by decide) or_breaks
      (List.rel_append (List.Forall₂.cons (rolesSQL_refers known) .nil) each)
    rw [List.flatten_append, empty] at joined
    exact closed _ _ _ joined
  · obtain ⟨valuess, empty, each⟩ := none b.args
    have joined := Refers.intercalate (by decide) or_breaks each
    rw [empty] at joined
    exact registers.add (closed _ _ _ joined)

/-- The filters of `UserStore.List`, of which only the group, the search, the values and the roles have arguments. -/
theorem userWhere_registers {params : Directory.UserListParams} :
    (userWhere params).Registers (ListRequest.values (.users params)) := by
  have roles : ∀ {b : WhereBuilder} {values : List Value}, b.Registers values →
      (b.when (params.roleValues ≠ []) fun b =>
        (roleFilterSQL b params.roleValues).1.add (roleFilterSQL b params.roleValues).2).Registers (values ++
        if roleIDs params.roleValues ≠ [] then List.replicate 2 (.bigints (roleIDs params.roleValues)) else []) := by
    intro b values registers
    refine (registers.when (roleFilterSQL_registers registers _)).of_eq ?_
    split
    · rfl
    · rename_i empty
      rw [not_not.1 empty]
      rfl
  unfold userWhere ListRequest.values
  dsimp only
  exact .whenAdd (.whenAdd (roles (.whenAddf (.whenArg userSearchSQL (.firstAddf active_registers rfl rfl)
    fun _ _ known => userSearchSQL_refers known) rfl rfl)) (by decide)) (by decide)

end Registered

section Plain

variable {locale : DbLocale}

/-- No column of the order has a `$`, if none of the listed texts has one. -/
theorem plain_of_texts {R : Type} {exprs : List (OrderExpr R)} (sqls : List String) (texts : exprs.map OrderExpr.sql = sqls)
    (plain : (sqls.all fun sql => !sql.toList.contains '$') = true) : ∀ expr ∈ exprs, '$' ∉ expr.sql.toList := by
  intro expr mem
  have known : expr.sql ∈ sqls := texts ▸ List.mem_map_of_mem mem
  simpa using List.all_eq_true.1 plain _ known

set_option maxRecDepth 20000 in
theorem groups_plain {params : Directory.GroupListParams} : ((ListRequest.groups params).text locale).Plain where
  select := by
    show '$' ∉ groupSelectSQL.toList
    unfold groupSelectSQL
    exact notMem_literal (by decide +kernel)
  groupBy := by
    show '$' ∉ "GROUP BY g.id".toList
    exact notMem_literal (by decide)
  orders := plain_of_texts ["lower(g.display_name)", "lower(g.mail_nickname)", "member_count", "g.source",
    "lower(g.display_name)", "g.id"] rfl (by decide)

theorem users_plain {params : Directory.UserListParams} : ((ListRequest.users params).text locale).Plain where
  select := by
    have columns : '$' ∉ (userColumnsSQL "u").toList := by
      unfold userColumnsSQL userColumnExprs
      refine notMem_intercalate (by decide) ?_
      simp only [List.forall_mem_map]
      have each : ∀ column ∈ userColumnExprs, '$' ∉ column.toList := by
        have all := (by decide : (userColumnExprs.all fun column => !column.toList.contains '$') = true)
        intro column mem
        simpa using List.all_eq_true.1 all column mem
      intro column mem
      exact notMem_append (by decide) (each column mem)
    show '$' ∉ (userListSelectSQL params).toList
    unfold userListSelectSQL
    dsimp only
    have all : '$' ∉ ("SELECT " ++ userColumnsSQL "u" ++ "\nFROM users u").toList :=
      notMem_append (notMem_append (by decide) columns) (by decide)
    split
    · exact all
    · exact notMem_append all (notMem_literal (by decide))
  groupBy := by
    show '$' ∉ "".toList
    decide
  orders := plain_of_texts ["lower(u.name)", "lower(u.email)", "lower(u.department)", "u.created_at", "u.updated_at",
    "lower(u.name)", "lower(u.email)", "u.id"] rfl (by decide)

set_option maxRecDepth 20000 in
theorem checkins_plain {params : CheckinTextParams} : ((ListRequest.checkins params).text locale).Plain where
  select := by
    show '$' ∉ checkinSelectSQL.toList
    unfold checkinSelectSQL
    exact notMem_literal (by decide +kernel)
  groupBy := by
    show '$' ∉ "".toList
    decide
  orders := plain_of_texts ["c.id", "lower(u.name)", "lower(u.department)", "lower(l.name)", "c.direction", "c.occurred_at",
    "c.occurred_at", "c.id"] rfl (by decide)

set_option maxRecDepth 20000 in
theorem locations_plain {params : Checkin.LocationListParams} : ((ListRequest.locations params).text locale).Plain where
  select := by
    show '$' ∉ locationSelectSQL.toList
    unfold locationSelectSQL
    exact notMem_literal (by decide +kernel)
  groupBy := by
    show '$' ∉ "".toList
    decide
  orders := plain_of_texts ["l.id", "lower(l.name)", "l.enabled", "l.created_at", "l.updated_at", "lower(l.name)", "l.id"]
    rfl (by decide)

set_option maxRecDepth 20000 in
theorem stations_plain {params : Stations.StationListParams} : ((ListRequest.stations params).text locale).Plain where
  select := by
    show '$' ∉ stationSelectSQL.toList
    unfold stationSelectSQL
    refine notMem_append (notMem_append (by decide) ?_) ?_
    · exact notMem_literal (by decide +kernel)
    · exact notMem_literal (by decide +kernel)
  groupBy := by
    show '$' ∉ "".toList
    decide
  orders := plain_of_texts ["s.id", "lower(s.name)", "lower(l.name)", "s.enabled",
    "lower(COALESCE(session.version, rejection.version, ''))", "s.created_at", "s.updated_at", "lower(s.name)", "s.id"]
    rfl (by decide)

set_option maxRecDepth 20000 in
theorem eligiblePeople_plain {locationID : ID} {params : Params} :
    ((ListRequest.eligiblePeople locationID params).text locale).Plain where
  select := by
    show '$' ∉ "SELECT u.id,u.name,u.email,COALESCE(u.department,'') AS department FROM users u".toList
    exact notMem_literal (by decide +kernel)
  groupBy := by
    show '$' ∉ "".toList
    decide
  orders := plain_of_texts ["lower(u.name)", "lower(u.name)", "u.id"] rfl (by decide)

/-- What does not come from a filter has no `$`. -/
theorem text_plain (locale : DbLocale) : ∀ r : ListRequest, (r.text locale).Plain
  | .users _ => users_plain
  | .groups _ => groups_plain
  | .checkins _ => checkins_plain
  | .locations _ => locations_plain
  | .stations _ => stations_plain
  | .eligiblePeople _ _ => eligiblePeople_plain

/-- The placeholders of each `WHERE` stand for the values of the request. -/
theorem text_registers (locale : DbLocale) : ∀ r : ListRequest, Refers (r.text locale).args (r.text locale).whereSQL r.values
  | .users _ => userWhere_registers.build
  | .groups _ => groupWhere_registers.build
  | .checkins _ => checkinWhere_registers.build
  | .locations _ => locationWhere_registers.build
  | .stations _ => stationWhere_registers.build
  | .eligiblePeople _ _ => listEligiblePeopleWhere_registers.build

end Plain

section Shapes

variable {locale : DbLocale}

/-- The source that is asked for, if it is one of the two. -/
def enumeratedSource (source : String) : Option Source :=
  if source = "local" then some .sourceLocal else if source = "entra" then some .sourceEntra else none

/-- The column and the direction that an accepted sort asks for. -/
def resolvedSort (params : Params) : Option (String × Bool) :=
  match parseSortColumn params.normalize.sort with
  | .ok column => column
  | .error _ => none

/-- Which filters are there, and how the list is sorted. -/
inductive Shape where
  | users (group search values roleIDs none : Bool) (source : Option Source) (sort : Option (String × Bool))
  | groups (search values : Bool) (sort : Option (String × Bool))
  | checkins (search location user direction departments occurredFrom occurredBefore : Bool) (sort : Option (String × Bool))
  | locations (search enabled : Bool) (sort : Option (String × Bool))
  | stations (search location enabled : Bool) (sort : Option (String × Bool))
  | eligiblePeople (search : Bool) (sort : Option (String × Bool))
  deriving DecidableEq, Repr

/-- The shape of a request: which filters it has, and the sort as it is read. -/
def ListRequest.shape : ListRequest → Shape
  | .users params =>
    .users (0 < params.groupID) (params.listParams.q ≠ "") (params.values ≠ []) (roleIDs params.roleValues ≠ [])
      (params.roleValues.contains "none") (enumeratedSource params.source) (resolvedSort params.listParams)
  | .groups params => .groups (params.listParams.q ≠ "") (params.values ≠ []) (resolvedSort params.listParams)
  | .checkins params =>
    .checkins (params.listParams.q ≠ "") (0 < params.locationID) (0 < params.userID) (params.direction ≠ "")
      (params.departments ≠ []) params.occurredFrom.isSome params.occurredBefore.isSome (resolvedSort params.listParams)
  | .locations params =>
    .locations (params.listParams.normalize.q ≠ "") params.enabled.isSome (resolvedSort params.listParams.normalize)
  | .stations params =>
    .stations (params.listParams.q ≠ "") (0 < params.locationID) params.enabled.isSome (resolvedSort params.listParams)
  | .eligiblePeople _ params => .eligiblePeople (params.q ≠ "") (resolvedSort params)

/-- The filter for roles is there if it has ids or `none`. -/
theorem roleValues_ne_nil {values : List String} : values ≠ [] ↔ roleIDs values ≠ [] ∨ values.contains "none" = true := by
  constructor
  · intro some
    obtain ⟨value, mem⟩ := List.exists_mem_of_ne_nil _ some
    by_cases named : value = "none"
    · exact .inr (List.contains_iff_mem.2 (named ▸ mem))
    · refine .inl (List.ne_nil_of_mem (a := Go.parseInt value) ?_)
      exact List.mem_map_of_mem (List.mem_filter.2 ⟨mem, decide_eq_true named⟩)
  · rintro (ids | none) rfl
    · exact ids rfl
    · cases none

/-- The filter by role depends on whether ids are named and whether `none` is. -/
theorem roleFilterSQL_alike {b b' : WhereBuilder} (alike : b.Alike b') {values values' : List String}
    (ids : roleIDs values ≠ [] ↔ roleIDs values' ≠ []) (none : values.contains "none" = values'.contains "none") :
    ((roleFilterSQL b values).1.add (roleFilterSQL b values).2).Alike
      ((roleFilterSQL b' values').1.add (roleFilterSQL b' values').2) := by
  unfold roleFilterSQL
  dsimp only
  rw [none]
  by_cases some : roleIDs values ≠ []
  · rw [if_pos some, if_pos (ids.1 some)]
    exact alike.argAdd fun roleArg => "(" ++ " OR ".intercalate ([rolesSQL roleArg] ++
      if values'.contains "none" then ["NOT " ++ effectiveRoleExistsSQL "u"] else []) ++ ")"
  · rw [if_neg some, if_neg fun some' => some (ids.2 some')]
    exact alike.add rfl

theorem enumeratedSource_local {source : String} : source = "local" ↔ enumeratedSource source = some .sourceLocal := by
  unfold enumeratedSource
  grind

theorem enumeratedSource_entra {source : String} : source = "entra" ↔ enumeratedSource source = some .sourceEntra := by
  unfold enumeratedSource
  grind


variable {R R' : Type} {sql sql' : String} {args args' : List Value}

/-- Queries of one kind have one text, if their `WHERE`s have. -/
theorem listText_alike {q : ListQuery R} {q' : ListQuery R} {selectSQL selectSQL' groupBySQL : String}
    {b b' : WhereBuilder} {params params' : Params} (keys : q.orderKeys = q'.orderKeys)
    (order : q.defaultOrder = q'.defaultOrder) (select : selectSQL = selectSQL') (alike : b.Alike b')
    (sort : parseSortColumn params.normalize.sort = parseSortColumn params'.normalize.sort) :
    (ListRequest.listText q selectSQL groupBySQL b params).Alike
      (ListRequest.listText q' selectSQL' groupBySQL b' params') where
  select := select
  filter := alike.build.1
  groupBy := rfl
  args := alike.build.2
  orderKeys := keys
  defaultOrder := order
  sort := sort

/-- The sort of an accepted query is resolved. -/
theorem resolvedSort_of_build {q : ListText R} (built : q.build = .ok (sql, args)) :
    parseSortColumn q.params.normalize.sort = .ok (resolvedSort q.params) := by
  obtain ⟨parts, ordered, -, -⟩ := ListText.build_eq_ok built
  obtain ⟨column, parsed, -⟩ := Library.Results.bind_ok.1 ordered
  rw [resolvedSort, parsed]

/-- Users of one shape are asked for with one `WHERE`. The same holds of each of the others. -/
theorem users_alike {params params' : Directory.UserListParams}
    (same : (ListRequest.users params).shape = (ListRequest.users params').shape) :
    (userWhere params).Alike (userWhere params') := by
  simp only [ListRequest.shape, Shape.users.injEq, decide_eq_decide] at same
  obtain ⟨group, search, values, ids, none, source, -⟩ := same
  have roles : params.roleValues ≠ [] ↔ params'.roleValues ≠ [] := by
    rw [roleValues_ne_nil, roleValues_ne_nil, ids, none]
  have filters : ∀ {b b' : WhereBuilder}, b.Alike b' →
      (b.when (params.roleValues ≠ []) fun b =>
        (roleFilterSQL b params.roleValues).1.add (roleFilterSQL b params.roleValues).2).Alike
      (b'.when (params'.roleValues ≠ []) fun b =>
        (roleFilterSQL b params'.roleValues).1.add (roleFilterSQL b params'.roleValues).2) :=
    fun alike => alike.when roles (roleFilterSQL_alike alike ids none)
  have isLocal : params.source = "local" ↔ params'.source = "local" := by
    rw [enumeratedSource_local, enumeratedSource_local, source]
  have isEntra : params.source = "entra" ↔ params'.source = "entra" := by
    rw [enumeratedSource_entra, enumeratedSource_entra, source]
  unfold userWhere
  dsimp only
  refine .whenAdd (.whenAdd (filters (.whenAddf (.whenArg (.whenAddf (.refl _) group ?_) userSearchSQL search) values ?_))
    isLocal) isEntra
  · rfl
  · rfl

theorem groups_alike {params params' : Directory.GroupListParams}
    (same : (ListRequest.groups params).shape = (ListRequest.groups params').shape) :
    (groupWhere params).Alike (groupWhere params') := by
  simp only [ListRequest.shape, Shape.groups.injEq, decide_eq_decide] at same
  obtain ⟨search, values, -⟩ := same
  unfold groupWhere
  dsimp only
  exact .whenArg (.whenArg (.refl _) groupSearchSQL search) (fun values => "g.id::text = ANY(" ++ values ++ "::text[])") values

theorem checkins_alike {params params' : CheckinTextParams}
    (same : (ListRequest.checkins params).shape = (ListRequest.checkins params').shape) :
    (checkinWhere params).Alike (checkinWhere params') := by
  simp only [ListRequest.shape, Shape.checkins.injEq, decide_eq_decide] at same
  obtain ⟨search, location, user, direction, departments, occurredFrom, occurredBefore, -⟩ := same
  unfold checkinWhere
  dsimp only
  refine .whenAddf (.whenAddf (.whenAddf (.whenAddf (.whenAddf (.whenAddf (.whenAddf (.refl _) search ?_) location ?_)
    user ?_) direction ?_) departments ?_) (Bool.eq_iff_iff.1 occurredFrom) ?_) (Bool.eq_iff_iff.1 occurredBefore) ?_
  all_goals rfl

theorem locations_alike {params params' : Checkin.LocationListParams}
    (same : (ListRequest.locations params).shape = (ListRequest.locations params').shape) :
    (locationWhere { params with listParams := params.listParams.normalize }).Alike
      (locationWhere { params' with listParams := params'.listParams.normalize }) := by
  simp only [ListRequest.shape, Shape.locations.injEq, decide_eq_decide] at same
  obtain ⟨search, enabled, -⟩ := same
  unfold locationWhere
  dsimp only
  refine .whenAddf (.whenAddf (.refl _) search ?_) (Bool.eq_iff_iff.1 enabled) ?_
  · rfl
  · rfl

theorem stations_alike {params params' : Stations.StationListParams}
    (same : (ListRequest.stations params).shape = (ListRequest.stations params').shape) :
    (stationWhere params).Alike (stationWhere params') := by
  simp only [ListRequest.shape, Shape.stations.injEq, decide_eq_decide] at same
  obtain ⟨search, location, enabled, -⟩ := same
  unfold stationWhere
  dsimp only
  refine .whenAddf (.whenAddf (.whenAddf (.refl _) search ?_) location ?_) (Bool.eq_iff_iff.1 enabled) ?_
  all_goals rfl

theorem eligiblePeopleWhere_alike {locationID locationID' : ID} :
    (eligiblePeopleWhere locationID).Alike (eligiblePeopleWhere locationID') := by
  rw [eligiblePeopleWhere_eq, eligiblePeopleWhere_eq]
  exact WhereBuilder.Alike.argAdd (.refl _) fun location => sprintf eligiblePeopleSQL [location]

theorem eligiblePeople_alike {locationID locationID' : ID} {params params' : Params}
    (same : (ListRequest.eligiblePeople locationID params).shape = (ListRequest.eligiblePeople locationID' params').shape) :
    (listEligiblePeopleWhere locationID params).Alike (listEligiblePeopleWhere locationID' params') := by
  simp only [ListRequest.shape, Shape.eligiblePeople.injEq, decide_eq_decide] at same
  unfold listEligiblePeopleWhere
  dsimp only
  refine eligiblePeopleWhere_alike.whenAddf same.1 ?_
  rfl

theorem personSQL_alike {built built' : String × List Value} (alike : built.1 = built'.1 ∧ built.2.length = built'.2.length) :
    (personSQL built).1 = (personSQL built').1 ∧ (personSQL built).2.length = (personSQL built').2.length :=
  ⟨congrArg ("SELECT true FROM users u " ++ ·) alike.1, alike.2⟩

theorem personEligible_alike {locationID locationID' userID userID' : ID} :
    (personEligible locationID userID).1 = (personEligible locationID' userID').1 ∧
      (personEligible locationID userID).2.length = (personEligible locationID' userID').2.length := by
  have alike : ((eligiblePeopleWhere locationID).addf "u.id=%s" [.bigint userID]).Alike
      ((eligiblePeopleWhere locationID').addf "u.id=%s" [.bigint userID']) := by
    refine eligiblePeopleWhere_alike.addf _ ?_
    rfl
  unfold personEligible
  exact personSQL_alike alike.build

/-- How the list is sorted. -/
def Shape.sort : Shape → Option (String × Bool)
  | .users _ _ _ _ _ _ sort | .groups _ _ sort | .checkins _ _ _ _ _ _ _ sort | .locations _ _ sort
  | .stations _ _ _ sort | .eligiblePeople _ sort => sort

/-- The sort of a shape is the sort of its query. -/
theorem shape_sort (r : ListRequest) : r.shape.sort = resolvedSort (r.text locale).params := by
  cases r <;> simp only [ListRequest.shape, Shape.sort, ListRequest.text, ListRequest.listText]

/-- The `SELECT` depends on whether a group is asked for. -/
theorem userListSelectSQL_alike {params params' : Directory.UserListParams} (group : 0 < params.groupID ↔ 0 < params'.groupID) :
    userListSelectSQL params = userListSelectSQL params' := by
  have without : params.groupID ≤ 0 ↔ params'.groupID ≤ 0 := by rw [← Int.not_lt, ← Int.not_lt, group]
  unfold userListSelectSQL
  dsimp only
  by_cases none : params.groupID ≤ 0
  · rw [if_pos none, if_pos (without.1 none)]
  · rw [if_neg none, if_neg fun none' => none (without.2 none')]

/-- What `Alike` says of the list and of its count. -/
theorem alike_texts {q q' : ListText R} (alike : q.Alike q') (built : q.build = .ok (sql, args))
    (built' : q'.build = .ok (sql', args')) :
    sql = sql' ∧ args.length = args'.length ∧ q.buildCount.1 = q'.buildCount.1 ∧
      q.buildCount.2.length = q'.buildCount.2.length := by
  obtain ⟨text, many⟩ := alike.build built built'
  exact ⟨text, many, alike.buildCount⟩

/-- Two accepted requests of one shape are sent as one text. -/
theorem shape_texts {r r' : ListRequest} (same : r.shape = r'.shape) (built : (r.text locale).build = .ok (sql, args))
    (built' : (r'.text locale).build = .ok (sql', args')) :
    sql = sql' ∧ args.length = args'.length ∧ (r.text locale).buildCount.1 = (r'.text locale).buildCount.1 ∧
      (r.text locale).buildCount.2.length = (r'.text locale).buildCount.2.length := by
  have sort : parseSortColumn (r.text locale).params.normalize.sort = parseSortColumn (r'.text locale).params.normalize.sort := by
    rw [resolvedSort_of_build built, resolvedSort_of_build built', ← shape_sort, ← shape_sort, same]
  cases r with
  | users params =>
    cases r' with
    | users params' =>
      have group := same
      simp only [ListRequest.shape, Shape.users.injEq, decide_eq_decide] at group
      exact alike_texts (listText_alike rfl rfl (userListSelectSQL_alike group.1) (users_alike same) sort) built built'
    | _ => cases same
  | groups params =>
    cases r' with
    | groups params' => exact alike_texts (listText_alike rfl rfl rfl (groups_alike same) sort) built built'
    | _ => cases same
  | checkins params =>
    cases r' with
    | checkins params' => exact alike_texts (listText_alike rfl rfl rfl (checkins_alike same) sort) built built'
    | _ => cases same
  | locations params =>
    cases r' with
    | locations params' => exact alike_texts (listText_alike rfl rfl rfl (locations_alike same) sort) built built'
    | _ => cases same
  | stations params =>
    cases r' with
    | stations params' => exact alike_texts (listText_alike rfl rfl rfl (stations_alike same) sort) built built'
    | _ => cases same
  | eligiblePeople locationID params =>
    cases r' with
    | eligiblePeople locationID' params' =>
      exact alike_texts (listText_alike rfl rfl rfl (eligiblePeople_alike same) sort) built built'
    | _ => cases same

/-- A sort by something else is an error. -/
theorem build_unknown {q : ListText R} {id : String} {desc : Bool}
    (parsed : parseSortColumn q.params.normalize.sort = .ok (some (id, desc))) (unknown : id ∉ q.orderKeys.map Prod.fst) :
    ∃ err, q.build = .error err := by
  cases built : q.build with
  | error err => exact ⟨err, rfl⟩
  | ok sent =>
    obtain ⟨parts, ordered, -, -⟩ := @ListText.build_eq_ok _ q sent.1 sent.2 built
    obtain ⟨column, asked, ordered⟩ := Library.Results.bind_ok.1 ordered
    cases parsed.symm.trans asked
    have none : (q.orderKeys.find? fun entry => decide (entry.1 = id)) = none := by
      rw [List.find?_eq_none]
      intro entry mem named
      exact unknown (of_decide_eq_true named ▸ List.mem_map_of_mem mem)
    dsimp only at ordered
    rw [none] at ordered
    cases ordered

/-- **The text of a list query depends on nothing but the shape of the request**, and each placeholder stands for the
value that was given for its place: `LIMIT` and `OFFSET` for the last two, and the count has those before them. -/
theorem sql_texts (locale : DbLocale) :
    (∀ (r r' : ListRequest) (sql sql' : String) (args args' : List Value), r.shape = r'.shape →
      (r.text locale).build = .ok (sql, args) → (r'.text locale).build = .ok (sql', args') →
      sql = sql' ∧ args.length = args'.length ∧ (r.text locale).buildCount.1 = (r'.text locale).buildCount.1 ∧
        (r.text locale).buildCount.2.length = (r'.text locale).buildCount.2.length) ∧
    (∀ (r : ListRequest) (sql : String) (args : List Value), (r.text locale).build = .ok (sql, args) →
      Refers args sql (r.values ++ (r.text locale).page) ∧ (∀ n ∈ numbers sql, 1 ≤ n ∧ n ≤ args.length) ∧
      args = (r.text locale).buildCount.2 ++ (r.text locale).page ∧
      (∃ text, sql = text ++ "LIMIT " ++ placeholder (args.length - 1) ++ " OFFSET " ++ placeholder args.length) ∧
      Refers (r.text locale).buildCount.2 (r.text locale).buildCount.1 r.values ∧
      ∀ n ∈ numbers (r.text locale).buildCount.1, 1 ≤ n ∧ n ≤ (r.text locale).buildCount.2.length) ∧
    (∀ (r : ListRequest) (id : String) (desc : Bool),
      parseSortColumn (r.text locale).params.normalize.sort = .ok (some (id, desc)) →
      id ∉ (r.text locale).orderKeys.map Prod.fst → ∃ err, (r.text locale).build = .error err) ∧
    (∀ locationID locationID' userID userID' : ID,
      (personEligible locationID userID).1 = (personEligible locationID' userID').1 ∧
        (personEligible locationID userID).2.length = (personEligible locationID' userID').2.length) ∧
    ∀ locationID userID : ID,
      Refers (personEligible locationID userID).2 (personEligible locationID userID).1
        [.bigint locationID, .bigint locationID, .bigint userID] ∧
      ∀ n ∈ numbers (personEligible locationID userID).1, 1 ≤ n ∧ n ≤ (personEligible locationID userID).2.length := by
  refine ⟨?shapes, ?placed, ?unknown, ?persons, ?person⟩
  case shapes => exact fun r r' sql sql' args args' same built built' => shape_texts same built built'
  case placed =>
    intro r sql args built
    obtain ⟨given, refers, last⟩ := (text_plain locale r).build (text_registers locale r) built
    have count := (text_plain locale r).buildCount (text_registers locale r)
    exact ⟨refers, refers.inside, given, last, count, count.inside⟩
  case unknown => exact fun r id desc parsed unknown => build_unknown parsed unknown
  case persons => exact fun locationID locationID' userID userID' => personEligible_alike
  case person => exact fun locationID userID => ⟨personEligible_refers, personEligible_refers.inside⟩

/-- Two searches among the users of a role, whose texts look like placeholders and like SQL. -/
def dollarSearch : ListRequest :=
  .users { listParams := { q := "$1' OR ''='", sort := "name.desc" }, roleValues := ["none", "7"], source := "local" }

def percentSearch : ListRequest :=
  .users { listParams := { q := "100%s of \"$9\"", sort := "name.desc" }, roleValues := ["3", "none", "4"], source := "local" }

/-- Both are sent as one text, in which each placeholder stands for its own value. -/
theorem sql_texts_searches : ∃ sql args args',
    (dollarSearch.text .c).build = .ok (sql, args) ∧ (percentSearch.text .c).build = .ok (sql, args') ∧
      Refers args sql (List.replicate 7 (.text "%$1' OR ''='%") ++ List.replicate 2 (.bigints [7]) ++
        [.bigint 50, .bigint 0]) ∧
      Refers args' sql (List.replicate 7 (.text "%100%s of \"$9\"%") ++ List.replicate 2 (.bigints [3, 4]) ++
        [.bigint 50, .bigint 0]) := by
  obtain ⟨shapes, placed, -⟩ := sql_texts .c
  obtain ⟨sql, args, built⟩ : ∃ sql args, (dollarSearch.text .c).build = .ok (sql, args) := ⟨_, _, rfl⟩
  obtain ⟨sql', args', built'⟩ : ∃ sql args, (percentSearch.text .c).build = .ok (sql, args) := ⟨_, _, rfl⟩
  obtain ⟨rfl, -⟩ := shapes dollarSearch percentSearch sql sql' args args' (by decide) built built'
  exact ⟨sql, args, args', built, built', (placed _ sql args built).1, (placed _ sql args' built').1⟩

end Shapes

end Woodgate.SqlTexts
