import Conformance.Main
import Conformance.Shutdown
import Conformance.Proofs.Deviation.Assignment
import Conformance.Proofs.Deviation.Equality
import Conformance.Proofs.Deviation.Insertion
import Conformance.Proofs.Deviation.PlainTemplate
import Conformance.Proofs.Device.Routing
import Conformance.Proofs.Fleet.Attribution
import Conformance.Proofs.Fleet.Permits
import Conformance.Proofs.Fleet.Survey
import Conformance.Proofs.Fleet.Watch
import Conformance.Proofs.Refresh.Convergence
import Conformance.Proofs.Refresh.Failure
import Conformance.Proofs.Refresh.Limits
import Conformance.Proofs.Refresh.Preview
import Conformance.Proofs.Refresh.Refinement
import Conformance.Proofs.Refresh.Session
import Conformance.Proofs.Refresh.Tally
import Conformance.Proofs.Refresh.Verification
import Conformance.Proofs.Settings.Concurrency
import Conformance.Proofs.Settings.Selection
import Conformance.Proofs.Shutdown
import Conformance.Proofs.Store.Atomicity
import Conformance.Proofs.Store.ReportFile
import Conformance.Proofs.Template.Boundary
import Conformance.Proofs.Template.Composition
import Conformance.Proofs.Template.Fragments
import Conformance.Proofs.Template.Resolution
import Conformance.Proofs.Template.Tightening
import Conformance.Proofs.Text.CommandPattern
import Conformance.Proofs.Time.Latest
import Conformance.Proofs.Time.Search
