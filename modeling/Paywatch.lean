import Paywatch.Main
import Paywatch.Proofs.Feed.Reentrancy
import Paywatch.Proofs.Feed.Registry
import Paywatch.Proofs.Link.Delivery
import Paywatch.Proofs.Link.Ownership
import Paywatch.Proofs.Listener.Backoff
import Paywatch.Proofs.Listener.Dispatch
import Paywatch.Proofs.Listener.Protocol
import Paywatch.Proofs.Listener.Schedule
import Paywatch.Proofs.Listener.Stop
import Paywatch.Proofs.Monitor.Registration
import Paywatch.Proofs.Payment.Accounting
import Paywatch.Proofs.Payment.Attempt
import Paywatch.Proofs.Payment.Commits
import Paywatch.Proofs.Payment.Conservation
import Paywatch.Proofs.Payment.Correspondence
import Paywatch.Proofs.Payment.Delay
import Paywatch.Proofs.Payment.Discard
import Paywatch.Proofs.Payment.Isolation
import Paywatch.Proofs.Payment.Pricing
import Paywatch.Proofs.Payment.Retry
import Paywatch.Proofs.Payment.Worth
import Paywatch.Proofs.Rates.Cache
import Paywatch.Proofs.Rates.Sessions
import Paywatch.Proofs.Settings.Floating
import Paywatch.Proofs.Settings.Summary
import Paywatch.Proofs.Url.Credentials
import Paywatch.Proofs.Url.Replacement
import Paywatch.Records
import Paywatch.Scenario.Adapter
import Paywatch.Scenario.Database
import Paywatch.Scenario.Link
import Paywatch.Scenario.Rates
import Paywatch.Scenario.Session
import Paywatch.Scenario.Watch
