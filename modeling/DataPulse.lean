import DataPulse.Access.Stores
import DataPulse.Access.Switches
import DataPulse.Audit.Retention
import DataPulse.Auth.Links
import DataPulse.Auth.Resets
import DataPulse.Catalog.References
import DataPulse.ConnectorHealth.Heartbeats
import DataPulse.Connectors.Credentials
import DataPulse.Erpnext.Eligibility
import DataPulse.Inventory.Exactness
import DataPulse.Inventory.Mirrors
import DataPulse.ItemMaps.Targets
import DataPulse.Memberships.Readmission
import DataPulse.Memberships.StoreAccess
import DataPulse.Migrations.Runner
import DataPulse.Operators.Agreement
import DataPulse.Operators.Replays
import DataPulse.Outbox.Connections
import DataPulse.Outbox.Metadata
import DataPulse.Outbox.Redelivery
import DataPulse.Outbox.Retention
import DataPulse.Pairing.Codes
import DataPulse.Policies.Catalog
import DataPulse.Policies.Pool
import DataPulse.PosAudit.Payloads
import DataPulse.PosAudit.Stuck
import DataPulse.ProductRuns.Reconciled
import DataPulse.ReadDown.Amounts
import DataPulse.ReadDown.Overrides
import DataPulse.Sales.Amounts
import DataPulse.Sales.Hashes
import DataPulse.Sales.Postings
import DataPulse.Sales.Quarantines
import DataPulse.Settlement.Codecs
import DataPulse.Settlement.Remittances
import DataPulse.Stock.Completed
import DataPulse.Stock.Feed
import DataPulse.SyncOps.RunHistory
import DataPulse.Unknowns.Bulk
import DataPulse.Unknowns.Linkable
