import PageTelemetry.Delivery.Beacon
import PageTelemetry.Delivery.Post
import PageTelemetry.Main
import PageTelemetry.Session
import PageTelemetry.Proofs.Binary64
import PageTelemetry.Proofs.Dwell
import PageTelemetry.Proofs.History
import PageTelemetry.Proofs.Replay.Flat
import PageTelemetry.Proofs.Replay.Matching
import PageTelemetry.Proofs.Settling
import PageTelemetry.Proofs.Replay.Mirror
import PageTelemetry.Proofs.Replay.FlatRun
import PageTelemetry.Proofs.Rules
import PageTelemetry.Proofs.Sequence
import PageTelemetry.Proofs.Patching.Chain
import PageTelemetry.Proofs.Patching.Register
import PageTelemetry.Proofs.Patching.Patched
import PageTelemetry.Proofs.Agenda
import PageTelemetry.Proofs.Restoring
import PageTelemetry.Proofs.Ownership
import PageTelemetry.Proofs.Observing
import PageTelemetry.Proofs.Paths
import PageTelemetry.Proofs.Redirecting
import PageTelemetry.Proofs.Journal
import PageTelemetry.Proofs.Sending
import PageTelemetry.Proofs.Tenancy
import PageTelemetry.Proofs.Discarding
import PageTelemetry.Proofs.Trimming
import PageTelemetry.Proofs.Layering
import PageTelemetry.Proofs.OptingOut
import PageTelemetry.Proofs.Reinstalling
import PageTelemetry.Proofs.Url.Pieces
import PageTelemetry.Proofs.Url.Percent
import PageTelemetry.Proofs.Url.Segments
import PageTelemetry.Proofs.Url.Address
import PageTelemetry.Proofs.Url.Host
import PageTelemetry.Proofs.Url.Authority
import PageTelemetry.Proofs.Url.Reference
import PageTelemetry.Proofs.Url.Reading
import PageTelemetry.Proofs.Url.Normal
import PageTelemetry.Proofs.Url.RoundTrip
import PageTelemetry.Proofs.Url.Route
import PageTelemetry.Proofs.Routing
import PageTelemetry.Proofs.Json.Members
import PageTelemetry.Proofs.Json.RoundTrip
import PageTelemetry.Proofs.Bodies
import PageTelemetry.Proofs.Durations
import PageTelemetry.Proofs.Url.Form
import PageTelemetry.Proofs.Url.Extension
import PageTelemetry.Proofs.SiteKey
import PageTelemetry.Proofs.Url.Legible
import PageTelemetry.Proofs.Url.Alike
import PageTelemetry.Proofs.Locations
import PageTelemetry.Proofs.Discretion.Twins
import PageTelemetry.Proofs.Discretion.Reports
import PageTelemetry.Proofs.Discretion.Steps
import PageTelemetry.Proofs.Discretion.Replays
import PageTelemetry.Proofs.Discretion.Sessions
import PageTelemetry.Proofs.Discretion
import PageTelemetry.Proofs.Posting
import PageTelemetry.Proofs.ShuttingDown
import PageTelemetry.Proofs.Rerouting
import PageTelemetry.Proofs.Rehearsing
import PageTelemetry.Proofs.Keeping
import PageTelemetry.Proofs.Loading.Waiting
import PageTelemetry.Proofs.Loading.Marks
import PageTelemetry.Proofs.Loading.Burden
import PageTelemetry.Proofs.Loading
import PageTelemetry.Proofs.Browsing
import PageTelemetry.Proofs.Url.Joining
import PageTelemetry.Proofs.Navigating
import PageTelemetry.Proofs.Installing
import PageTelemetry.Proofs.Overriding
import PageTelemetry.Proofs.Composing
import PageTelemetry.Proofs.Pairing
import PageTelemetry.Proofs.Campaigns
import PageTelemetry.Proofs.Directories
import PageTelemetry.Proofs.Replay.Timeline
import PageTelemetry.Proofs.Replay.Elapsing
