import Offload.Text.Blank
import Offload.Text.Column
import Offload.Element.Scalar
import Offload.Element.Cell
import Offload.Container.FloatMatrix
import Offload.Container.Matrix4
import Offload.Step
import Offload.Device.Target
import Offload.Memory.Allocation
import Offload.Kernel.Execution
import Offload.Linear.Routine
import Offload.Linear.Kernel
import Offload.Kernel.Script
import Offload.Device.Basic
import Offload.SlotTable
import Offload.Graph.Error
import Offload.Graph.Profile
import Offload.Graph.Execution
import Offload.Registry
import Offload.Main
import Offload.Proofs.Reach
import Offload.Proofs.Binding
import Offload.Proofs.HostGrowth
import Offload.Proofs.Workspace
import Offload.Proofs.Transfer
import Offload.Proofs.Exchange
import Offload.Proofs.System
import Offload.Proofs.History
import Offload.Proofs.StepLogic
import Offload.Proofs.Progress
import Offload.Proofs.Building
import Offload.Proofs.Running
import Offload.Proofs.Command
import Offload.Proofs.Fleet
import Offload.Proofs.Alike
import Offload.Proofs.Mirror
import Offload.Proofs.Parallel
import Offload.Proofs.CopyOnce
import Offload.Proofs.Twins
import Offload.Proofs.Functional
import Offload.Proofs.Rerun
import Offload.Proofs.Renaming
import Offload.Proofs.Replay
import Offload.Proofs.NoTrace
import Offload.Proofs.Ledger
import Offload.Proofs.Caching
import Offload.Proofs.Ownership
import Offload.Proofs.Station
import Offload.Proofs.Production
import Offload.Proofs.Typing
import Offload.Proofs.Launching
import Offload.Proofs.Safety
import Offload.Proofs.Lifecycle
import Offload.Proofs.Refusal
import Offload.Proofs.Surroundings
import Offload.Proofs.Confinement
import Offload.Proofs.Stopping
import Offload.Proofs.Veil
import Offload.Proofs.Preparation
import Offload.Proofs.Ahead
import Offload.Proofs.Lagging
import Offload.Proofs.Readiness
import Offload.Proofs.Warmup
import Offload.Proofs.Rounding
import Offload.Proofs.Verdict
import Offload.Proofs.Leakage
import Offload.Proofs.Elements
import Offload.Proofs.Filling
import Offload.Proofs.Tameness
import Offload.Proofs.LinearRoutines
import Offload.Proofs.LinearKernels
import Offload.Proofs.Supply
import Offload.Proofs.Delivery
import Offload.Proofs.Plans
import Offload.Proofs.Agreement
import Offload.Proofs.Benchmark
import Offload.Proofs.ReadBack
import Offload.Proofs.Warmth
import Offload.Proofs.Writing
import Offload.Proofs.Compilers
import Offload.Proofs.CompileOnce
import Offload.Proofs.Sweep
import Offload.Proofs.Enumeration
import Offload.Proofs.Extremes
import Offload.Proofs.Protocol
import Offload.Proofs.Measures
import Offload.Proofs.Numerals
import Offload.Proofs.Naming
import Offload.Proofs.Protection
import Offload.Proofs.Contexts
import Offload.Proofs.RowMajor
import Offload.Proofs.Products
import Offload.Proofs.Cells
import Offload.Proofs.RoundTrip
import Offload.Proofs.Shapes
import Offload.Proofs.Shortage
import Offload.Proofs.Precedence
import Offload.Proofs.Accounts
import Offload.Proofs.Averages
import Offload.Proofs.Sharing
