import UiBootstrap.Session
import UiBootstrap.Main
import UiBootstrap.Proofs.Merge.Seeding
import UiBootstrap.Proofs.Merge.Outcomes
import UiBootstrap.Proofs.Merge.OrderIndependence
import UiBootstrap.Proofs.Merge.Noninterference
import UiBootstrap.Proofs.Reinjection
import UiBootstrap.Proofs.Overlay
import UiBootstrap.Proofs.Agreement
import UiBootstrap.Proofs.Merge.Effects
import UiBootstrap.Proofs.Sessions
import UiBootstrap.Proofs.Explaining
import UiBootstrap.Proofs.OverridesText
import UiBootstrap.Proofs.Histories
import UiBootstrap.Proofs.Trimming
import UiBootstrap.Proofs.Entries
import UiBootstrap.Proofs.Faults
import UiBootstrap.Proofs.PropertyNames
import UiBootstrap.Proofs.Json.Report
import UiBootstrap.Proofs.Account
import UiBootstrap.Proofs.Readable
