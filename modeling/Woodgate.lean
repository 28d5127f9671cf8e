import Woodgate.App.Availability
import Woodgate.App.Branding
import Woodgate.App.Connections
import Woodgate.App.Control
import Woodgate.App.Device
import Woodgate.App.Edits
import Woodgate.App.ModelData
import Woodgate.App.Pairing
import Woodgate.App.PairingFailure
import Woodgate.App.PairingLink
import Woodgate.App.Settings
import Woodgate.App.Storage
import Woodgate.Calls
import Woodgate.Checkin.Attribution
import Woodgate.Checkin.Eligibility
import Woodgate.Checkin.Lists
import Woodgate.Checkin.Model
import Woodgate.Checkin.Restriction
import Woodgate.Checkin.Rules
import Woodgate.Checkin.Service
import Woodgate.Checkin.Store
import Woodgate.Config
import Woodgate.Constraints
import Woodgate.Deletions
import Woodgate.Directory.EffectiveRoles
import Woodgate.Directory.Entra
import Woodgate.Directory.GroupStore
import Woodgate.Directory.Identity
import Woodgate.Directory.ProviderStore
import Woodgate.Directory.Reconciliation
import Woodgate.Directory.Roles
import Woodgate.Directory.Service
import Woodgate.Directory.SnapshotFailure
import Woodgate.Directory.UserStore
import Woodgate.Go.Strconv
import Woodgate.Go.Strings
import Woodgate.Go.Url
import Woodgate.Library.GrowingPages
import Woodgate.Library.Interleaving
import Woodgate.Library.Joins
import Woodgate.Library.Latest
import Woodgate.Library.Lease
import Woodgate.Library.LocalTime
import Woodgate.Library.Paging
import Woodgate.Library.Placeholders
import Woodgate.Library.Programs
import Woodgate.Library.ReadCommitted
import Woodgate.Library.Replacement
import Woodgate.Library.Results
import Woodgate.Library.Runs
import Woodgate.Library.Table
import Woodgate.Library.Trimming
import Woodgate.Library.Upsert
import Woodgate.Library.Worklist
import Woodgate.Lists
import Woodgate.Migrations.Initial
import Woodgate.Migrations.Preserved
import Woodgate.Migrations.SharedFoundations
import Woodgate.Migrations.Translated
import Woodgate.Migrations.Upgrade
import Woodgate.Outcomes
import Woodgate.OwnedSets
import Woodgate.PairingLinks
import Woodgate.Postgres.Errors
import Woodgate.Postgres.Like
import Woodgate.Postgres.Listing
import Woodgate.Postgres.Locale
import Woodgate.Postgres.Pages
import Woodgate.Postgres.Where
import Woodgate.Rbac.Store
import Woodgate.Schema
import Woodgate.Searches
import Woodgate.SqlTexts
import Woodgate.Stations.Cleanup
import Woodgate.Stations.Display
import Woodgate.Stations.Hub
import Woodgate.Stations.Messages
import Woodgate.Stations.Notifications
import Woodgate.Stations.Protocol
import Woodgate.Stations.Routing
import Woodgate.Stations.Server
import Woodgate.Stations.Service
import Woodgate.Stations.SessionAuthority
import Woodgate.Stations.Sessions
import Woodgate.Stations.Store
import Woodgate.Stations.Takeover
import Woodgate.Stations.Wiring
import Woodgate.Web.DateRange
import Woodgate.Web.Pagination
import Woodgate.Web.Session
import Woodgate.Web.Sorting
