import WalletTrust.Failure.Named
import WalletTrust.Main
import WalletTrust.Meters.Call
import WalletTrust.Session.Basic
import WalletTrust.Settings
import WalletTrust.Text.Lines
import WalletTrust.Proofs.Outcome
import WalletTrust.Proofs.Registry.Call
import WalletTrust.Proofs.Registry.Records
import WalletTrust.Proofs.Registry.LastWrite
import WalletTrust.Proofs.Registry.EventLog
import WalletTrust.Proofs.Registry.Reachable
import WalletTrust.Proofs.Registry.Projection
import WalletTrust.Proofs.Registry.Locality
import WalletTrust.Proofs.Registry.Reads
import WalletTrust.Proofs.Observer.Settling
import WalletTrust.Proofs.Observer.FanOut
import WalletTrust.Proofs.Authority.GuardedCall
import WalletTrust.Proofs.Authority.Confinement
import WalletTrust.Proofs.Authority.Refusal
import WalletTrust.Proofs.Store.Connection
import WalletTrust.Proofs.Store.Transaction
import WalletTrust.Proofs.Store.RoundTrip
import WalletTrust.Proofs.Store.Masking
import WalletTrust.Proofs.Store.Restoring
import WalletTrust.Proofs.Store.Blocking
import WalletTrust.Proofs.Store.Reporting
import WalletTrust.Proofs.Meters.Tally
import WalletTrust.Proofs.Binary64.Integers
import WalletTrust.Proofs.Http.Change
import WalletTrust.Proofs.Http.Persistence
import WalletTrust.Proofs.Http.Durability
import WalletTrust.Proofs.Http.Refinement
import WalletTrust.Proofs.Http.Observation
import WalletTrust.Proofs.Http.RequestMeters
import WalletTrust.Proofs.Http.Complaint
import WalletTrust.Proofs.Http.ChangeMeters
import WalletTrust.Proofs.Http.Target
import WalletTrust.Proofs.Http.Reads
import WalletTrust.Proofs.Http.Scores
import WalletTrust.Proofs.Obtainable
import WalletTrust.Proofs.Session.Failing
import WalletTrust.Proofs.Session.Replacement
import WalletTrust.Proofs.Restart
import WalletTrust.Proofs.Configuration
import WalletTrust.Proofs.Status.Grammar
import WalletTrust.Proofs.Record
import WalletTrust.Proofs.Json.Obstacles
import WalletTrust.Proofs.Json.Printable
import WalletTrust.Proofs.Log.Record
import WalletTrust.Proofs.Log.Lines
import WalletTrust.Proofs.Environment.File
import WalletTrust.Proofs.Environment.Loading
import WalletTrust.Proofs.Settings
