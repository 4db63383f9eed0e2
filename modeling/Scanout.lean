import Scanout.Main
import Scanout.Session
import Scanout.Buffer
import Scanout.Protection
import Scanout.Proofs.Range.Containment
import Scanout.Proofs.Range.Spanning
import Scanout.Proofs.Budget.Plain
import Scanout.Proofs.Budget.Video
import Scanout.Proofs.PlaneCounts
import Scanout.Proofs.Pass.Optimality
import Scanout.Proofs.Pass.CommitSafety
import Scanout.Proofs.Pass.ReservedPlanes
import Scanout.Proofs.PlaneItems
import Scanout.Proofs.Pass.Equations
import Scanout.Proofs.Trace.Tally
import Scanout.Proofs.Pass.Agreement
import Scanout.Proofs.Trace.RoundTrip
import Scanout.Proofs.Run
import Scanout.Proofs.Run.Blocks
import Scanout.Proofs.Run.Counters
import Scanout.Proofs.DecidedStacks
import Scanout.Proofs.Pass.PlainStacks
import Scanout.Proofs.Run.Ordering
import Scanout.Proofs.Checked.Cost
import Scanout.Proofs.Checked.Budget
import Scanout.Proofs.Checked.Pass
import Scanout.Proofs.Run.StillFrames
import Scanout.Proofs.Pass.StaleDecisions
import Scanout.Proofs.Trace.Cursor
import Scanout.Proofs.Trace.Rerecording
import Scanout.Proofs.Trace.Slices
import Scanout.Proofs.Run.Fleet
import Scanout.Proofs.Flattening.Absorption
import Scanout.Proofs.Flattening.FieldChange
import Scanout.Proofs.Budget.CheapestWindow
import Scanout.Proofs.Budget.Mirror
import Scanout.Proofs.Budget.KeptLayers
import Scanout.Proofs.Budget.Relaxation
import Scanout.Proofs.Checked.DirectSum
import Scanout.Proofs.AuditExactness
import Scanout.Proofs.PlanPartition
import Scanout.Proofs.TargetBounds
import Scanout.Proofs.LoadHistory
import Scanout.Proofs.Buffer.Lifecycle
import Scanout.Proofs.Buffer.Region
import Scanout.Proofs.Range.FlaggedLayers
