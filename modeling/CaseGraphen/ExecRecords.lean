import CaseGraphen.NativeModel

/-!
# Execution plans and traces

An execution plan names, for each step, the work cell it is for, the worker that does
it, the evidence that must come of it and the transitions it may make. Every dispatch of
a step is recorded as a trace: started before the worker runs, completed or failed
after.
-/

namespace CaseGraphen

structure AllowedTransitionClass where
  morphismType : CaseMorphismType
  targetCellTypes : List CaseCellType
  toLifecycles : List CaseCellLifecycle
deriving DecidableEq

structure ExecutionStep where
  stepId : Id
  workCellId : Id
  workerBindingId : Id
  successEvidenceRequirementIds : List Id
  allowedTransitionClasses : List AllowedTransitionClass
deriving DecidableEq

structure ExecutionPlan where
  planId : Id
  caseSpaceId : Id
  steps : List ExecutionStep
deriving DecidableEq

inductive ExecutionDispatchState where
  | started
  | completed
  | failed
deriving DecidableEq

structure ExecutionObstruction where
  obstructionType : String
  summary : String
  witnessIds : List Id
  blocking : Bool
deriving DecidableEq

structure ExecutionTrace where
  traceId : Id
  planId : Id
  stepId : Id
  workCellId : Id
  appendedEntryIds : List Id
  dispatchState : ExecutionDispatchState
  transitionApplied : Bool
  obstructions : List ExecutionObstruction
  startedAt : String
  finishedAt : String
deriving DecidableEq

def ExecutionTrace.isOf (plan : ExecutionPlan) (step : ExecutionStep) (trace : ExecutionTrace) :
    Bool :=
  trace.planId == plan.planId && trace.stepId == step.stepId

end CaseGraphen
