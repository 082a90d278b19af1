import RoutineVisibility.Service.Basic
import RoutineVisibility.Json.Writer
import RoutineVisibility.Proofs.Controls.Graph
import RoutineVisibility.Proofs.Controls.Search
import RoutineVisibility.Proofs.Controls.CyclePath
import RoutineVisibility.Proofs.Controls.Dependents
import RoutineVisibility.Proofs.Controls.References
import RoutineVisibility.Proofs.Service.Stores
import RoutineVisibility.Proofs.Authoring.Outcome
import RoutineVisibility.Proofs.Authoring.Acyclic
import RoutineVisibility.Proofs.Authoring.Judgement
import RoutineVisibility.Proofs.Authoring.Replacement
import RoutineVisibility.Proofs.Store.Distinct
import RoutineVisibility.Proofs.Calendar.Civil
import RoutineVisibility.Proofs.Except
import RoutineVisibility.Proofs.Reset.Boundary
import RoutineVisibility.Proofs.Evaluation.Lifetime
import RoutineVisibility.Proofs.Evaluation.Breakdown
import RoutineVisibility.Proofs.Evaluation.Clock
import RoutineVisibility.Proofs.Evaluation.Irrelevance
import RoutineVisibility.Proofs.Evaluation.Shown
import RoutineVisibility.Proofs.Evaluation.Batch
import RoutineVisibility.Proofs.Authoring.Influence
import RoutineVisibility.Proofs.Authoring.Renewal
import RoutineVisibility.Proofs.Authoring.Interchange
import RoutineVisibility.Proofs.Service.Startup
import RoutineVisibility.Proofs.Evaluation.Missing
import RoutineVisibility.Proofs.Service.Handling
import RoutineVisibility.Proofs.Service.Report
import RoutineVisibility.Proofs.Evaluation.Recording
import RoutineVisibility.Proofs.Evaluation.Spelling
import RoutineVisibility.Proofs.Calendar.Written
import RoutineVisibility.Proofs.Record.RoundTrip
import RoutineVisibility.Proofs.Evaluation.Unchecked
import RoutineVisibility.Proofs.Reset.Period
import RoutineVisibility.Proofs.Record.WellFormed
import RoutineVisibility.Proofs.Evaluation.Faults
import RoutineVisibility.Proofs.Evaluation.Progress
import RoutineVisibility.Proofs.Evaluation.Adopted
import RoutineVisibility.Proofs.Evaluation.Numerals
import RoutineVisibility.Proofs.Evaluation.Share
import RoutineVisibility.Proofs.Recipe.Template
import RoutineVisibility.Proofs.Recipe.Catalog
import RoutineVisibility.Proofs.Calendar.DateText
import RoutineVisibility.Proofs.Evaluation.DateRange
import RoutineVisibility.Proofs.Evaluation.Counts
import RoutineVisibility.Proofs.Calendar.ClockText
import RoutineVisibility.Proofs.Controls.Turns
import RoutineVisibility.Proofs.Store.Edits
import RoutineVisibility.Proofs.Store.History
import RoutineVisibility.Proofs.Store.Listing
