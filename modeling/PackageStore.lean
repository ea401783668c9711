import PackageStore.Scenario.Binder
import PackageStore.Scenario.Catalog
import PackageStore.Scenario.Client
import PackageStore.Scenario.Wallet
import PackageStore.Registry.Client
import PackageStore.Schema.Heading
import PackageStore.Proofs.Address.Checksum
import PackageStore.Proofs.Address.Reading
import PackageStore.Proofs.Binding.Decision
import PackageStore.Proofs.Binding.Answers
import PackageStore.Proofs.Binding.WriteAccess
import PackageStore.Proofs.Binding.Initialization
import PackageStore.Proofs.Binding.Course
import PackageStore.Proofs.Binding.Reports
import PackageStore.Proofs.Binding.Cancellation
import PackageStore.Proofs.Catalog.Accounting
import PackageStore.Proofs.Catalog.History
import PackageStore.Proofs.Catalog.Interleaving
import PackageStore.Proofs.Catalog.Narrowing
import PackageStore.Proofs.Catalog.Containment
import PackageStore.Proofs.Catalog.Session
import PackageStore.Proofs.Catalog.Sorting
import PackageStore.Proofs.Catalog.DisplayKeys
import PackageStore.Proofs.Catalog.View
import PackageStore.Proofs.Json.Members
import PackageStore.Proofs.Schema.Decides
import PackageStore.Proofs.Registry.Grammar
import PackageStore.Proofs.Registry.Classification
import PackageStore.Proofs.Network.Announcement
import PackageStore.Proofs.Network.Slots
import PackageStore.Proofs.Network.Visit
import PackageStore.Proofs.Network.Session
import PackageStore.Proofs.Network.Projection
import PackageStore.Proofs.Network.Convergence
import PackageStore.Proofs.Network.Sweep
import PackageStore.Proofs.Network.Observing
import PackageStore.Proofs.Network.Observed
import PackageStore.Proofs.Network.Faultless
import PackageStore.Proofs.Network.Isolation
import PackageStore.Proofs.Client.Frame
import PackageStore.Proofs.Client.Assembly
import PackageStore.Proofs.Client.Session
import PackageStore.Proofs.Client.Closing
import PackageStore.Proofs.Client.Pass
import PackageStore.Proofs.Client.Audience
import PackageStore.Proofs.Client.Standing
import PackageStore.Proofs.Client.FailedStart
import PackageStore.Proofs.Client.Subscription
import PackageStore.Proofs.Client.Course
import PackageStore.Proofs.Client.Converging
import PackageStore.Proofs.Client.Following
import PackageStore.Proofs.Catalog.Likeness
import PackageStore.Proofs.Deployment.Construction
import PackageStore.Proofs.Deployment.Merging
import PackageStore.Proofs.Deployment.Rejection
import PackageStore.Proofs.Deployment.Escape
import PackageStore.Proofs.Number.NotANumber
import PackageStore.Proofs.Settings.Intervals
import PackageStore.Proofs.Settings.Tables
import PackageStore.Proofs.Client.Startup
import PackageStore.Proofs.Wallet.Session
import PackageStore.Proofs.Wallet.Notifications
import PackageStore.Proofs.Wallet.Subscriptions
import PackageStore.Proofs.Wallet.Signing
import PackageStore.Proofs.Ticket.Order
