import CaseGraphen.StoreAuthority
import CaseGraphen.ExpansionIdentity
import CaseGraphen.PacketRuns
import CaseGraphen.ControlPlaneAdoption
import CaseGraphen.TransitionClasses
import CaseGraphen.AllocatorDispositions
import CaseGraphen.TopologyRedesign
import CaseGraphen.ParallelWidth
import CaseGraphen.OperateRounds
import CaseGraphen.SimulationOrder
import CaseGraphen.VerificationQuorum
import CaseGraphen.HistoryFiltration
import CaseGraphen.ReviewProjection
import CaseGraphen.MemoryConsistency
import CaseGraphen.MemoryAccounting
import CaseGraphen.ImportFailures
import CaseGraphen.LiftTrust
import CaseGraphen.MemoryTime
import CaseGraphen.RuntimeTime
import CaseGraphen.ControlPlaneCrash
import CaseGraphen.PlanReviews
import CaseGraphen.WorkerCapture
