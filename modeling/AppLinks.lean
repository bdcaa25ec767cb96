import AppLinks.Session
import AppLinks.Settings.Load
import AppLinks.Proofs.Route.Components
import AppLinks.Proofs.Route.Whole
import AppLinks.Proofs.Route.NormalForm
import AppLinks.Proofs.Router.Containment
import AppLinks.Proofs.Session.SingleDelivery
import AppLinks.Proofs.Session.Registry
import AppLinks.Proofs.Session.ApplicationLinks
import AppLinks.Proofs.Route.LeadingSlash
import AppLinks.Proofs.Text.Percent
import AppLinks.Proofs.Url.Hosted
import AppLinks.Proofs.Router.Literals
import AppLinks.Proofs.Json.Ordered
import AppLinks.Proofs.Settings.Record
import AppLinks.Proofs.Settings.Overlay
import AppLinks.Proofs.Settings.Layers
import AppLinks.Proofs.Router.FromSettings
import AppLinks.Proofs.Route.Values
import AppLinks.Proofs.Route.WholeComponents
import AppLinks.Proofs.Router.Signals
import AppLinks.Proofs.Router.Handlers
import AppLinks.Proofs.Session.HandlerOutcome
import AppLinks.Proofs.Route.Idempotence
import AppLinks.Proofs.Session.FirstMatch
import AppLinks.Proofs.Text.ReadBack
import AppLinks.Proofs.Route.RoundTrip
import AppLinks.Proofs.Router.Acceptance
import AppLinks.Proofs.Toml.Distinct
import AppLinks.Proofs.Settings.Effect
import AppLinks.Proofs.Link.Lookup
import AppLinks.Proofs.Session.Target
import AppLinks.Proofs.Settings.Successive
