import Tidex.Foundation.Chain
import Tidex.Knowledge.Completion
import Tidex.Engine.HeadChain
import Tidex.Learning.Coverage
import Tidex.Learning.Recorded
import Tidex.Receiver.Runs
import Tidex.Learning.Hindsight
import Tidex.Capability.Capacity
import Tidex.Governance.BankHistory
import Tidex.Foundation.Sketch
import Tidex.Knowledge.Conflicts
import Tidex.Governance.GateExact
import Tidex.Capability.IrForm
import Tidex.Foundation.FileMove
import Tidex.Foundation.DirectoryMove
import Tidex.Foundation.DvecWrite
import Tidex.Solver.Spectral
import Tidex.Solver.Portfolio
import Tidex.Governance.Pareto
import Tidex.Governance.Budget
import Tidex.Learning.Known
import Tidex.Analysis.Reconcile
import Tidex.Analysis.Persistence
import Tidex.Operator.Workspace
import Tidex.Receiver.Reading
import Tidex.Receiver.Readout
import Tidex.Analysis.FailsClosed
import Tidex.Analysis.Assimilation
import Tidex.Runtime.OutputBudget
import Tidex.Learning.Shapley
import Tidex.Materialization.Universality
import Tidex.Foundation.Solve
import Tidex.Engine.ParametricProgram
