import LintServer.Failure.System
import LintServer.Main
import LintServer.Session.Quiet
import LintServer.Proofs.Outcomes
import LintServer.Proofs.Selection
import LintServer.Proofs.Stability
import LintServer.Proofs.Offers
import LintServer.Proofs.Units
import LintServer.Proofs.Edits
import LintServer.Proofs.Interleaving
import LintServer.Proofs.LastPass
import LintServer.Proofs.VersionGuard
import LintServer.Proofs.FailedPass
import LintServer.Proofs.Joining
import LintServer.Proofs.Verdicts
import LintServer.Proofs.LonePass
import LintServer.Proofs.Moments
import LintServer.Proofs.Closing
import LintServer.Proofs.Attempts
import LintServer.Proofs.BatchOrder
import LintServer.Proofs.Scan
import LintServer.Proofs.Legality
import LintServer.Proofs.Loading
import LintServer.Proofs.Stillness
import LintServer.Proofs.Disabled
import LintServer.Proofs.Tidings
import LintServer.Proofs.Notices
import LintServer.Proofs.BrokenFiles
import LintServer.Proofs.LineEnds
import LintServer.Proofs.EngineFailures
import LintServer.Proofs.RoundTrips
import LintServer.Proofs.Reconsiderations
import LintServer.Proofs.Probing
import LintServer.Proofs.Written
import LintServer.Proofs.Options
import LintServer.Proofs.Distinct
import LintServer.Proofs.Checks
import LintServer.Proofs.Sources
import LintServer.Proofs.Refusals
import LintServer.Proofs.Readings
import LintServer.Proofs.Banners
import LintServer.Proofs.Folders
import LintServer.Proofs.Installs
import LintServer.Proofs.Departures
import LintServer.Proofs.Filings
