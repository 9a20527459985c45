import FeatureGate.Config.Environment
import FeatureGate.Config.File
import FeatureGate.Expiration
import FeatureGate.Inspect
import FeatureGate.Log.Setup
import FeatureGate.Session
import FeatureGate.Store.Gated
import FeatureGate.Race
import FeatureGate.Redis.Glob
import FeatureGate.Redis.Deployment
import FeatureGate.Proofs.Context.Separation
import FeatureGate.Proofs.Resolution.Values
import FeatureGate.Proofs.Gating.Fixpoint
import FeatureGate.Proofs.Gating.Base
import FeatureGate.Proofs.Gating.Resolution
import FeatureGate.Proofs.Caching.Faithful
import FeatureGate.Proofs.Caching.Mirror
import FeatureGate.Proofs.Caching.Reads
import FeatureGate.Proofs.Caching.Transparency
import FeatureGate.Proofs.Interference
import FeatureGate.Proofs.Resolution.Race
import FeatureGate.Proofs.Isolation.Readers
import FeatureGate.Proofs.Isolation.Scopes
import FeatureGate.Proofs.Isolation.Tenants
import FeatureGate.Proofs.Persistence.FirstValue
import FeatureGate.Proofs.Context.Aliases
import FeatureGate.Proofs.Resolution.Interleaved
import FeatureGate.Proofs.Nesting.Termination
import FeatureGate.Proofs.Context.Nobody
import FeatureGate.Proofs.Persistence.Lasting
import FeatureGate.Proofs.Redis.Agreement
import FeatureGate.Proofs.Redis.Namespaces
import FeatureGate.Proofs.Redis.Purging
import FeatureGate.Proofs.Variants
import FeatureGate.Proofs.Persistence.Frail
import FeatureGate.Proofs.Nesting.Passing
import FeatureGate.Proofs.Resolution.Touched
import FeatureGate.Proofs.Expiry.Finality
import FeatureGate.Proofs.Expiry.Doomed
import FeatureGate.Proofs.Expiry.Window
import FeatureGate.Proofs.Reports
import FeatureGate.Proofs.Resolution.Lookup
import FeatureGate.Proofs.Shares
import FeatureGate.Proofs.Building
import FeatureGate.Proofs.Resolution.Budget
import FeatureGate.Proofs.Gating.Queries
import FeatureGate.Proofs.Caching.Loading
import FeatureGate.Proofs.Store.Recording
import FeatureGate.Proofs.Context.Equality
import FeatureGate.Proofs.Resolution.Inheritance
import FeatureGate.Proofs.Formats
import FeatureGate.Proofs.Store.Listings
import FeatureGate.Proofs.Caching.Flat
