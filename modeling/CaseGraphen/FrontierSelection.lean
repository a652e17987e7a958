import CaseGraphen.HaltReasons

/-!
# The selection of a round

A round takes the steps of an accepted plan that nothing stands against: no dispatch of theirs
is under way, none was applied, none failed without a retry being asked for, and their work cell
is active and on the frontier. The gate can then refuse all of them, and of several steps for one
work cell only the first is kept. What stood against a step is written down as its reasons, and
the halts of the round are read off these.
-/

namespace CaseGraphen

open Checked Json Std OrderedMap

inductive RoundError where
  | usage (message : String)
  | invalid (message : String)
  | evaluation (violations : List NativeEvalViolation)
deriving DecidableEq

/-! ## Traces that are given up -/

structure SupersedeDecision where
  traceIdsByStep : ExtTreeMap Id (List Id)
  blockingStepIds : Finset Id

section Supersede

variable (plan : ExecutionPlan) (traces : List ExecutionTrace)

/-- The started trace of the plan that an operator says is dead. -/
def supersededTrace (assertedTraceId : Id) : Except RoundError ExecutionTrace :=
  match traces.filter fun trace => trace.traceId == assertedTraceId with
  | [] => throw (.invalid (s!"supersede trace {assertedTraceId} is unknown; --supersede-trace " ++
      s!"must name a started trace of plan {plan.planId}"))
  | trace :: others => do
      ensure (others = []) (.invalid (s!"supersede trace {assertedTraceId} is ambiguous because " ++
        "more than one trace has that id"))
      ensure (trace.planId = plan.planId) (.invalid (s!"supersede trace {assertedTraceId} " ++
        s!"belongs to plan {trace.planId}, not requested plan {plan.planId}"))
      ensure (trace.stepId ∈ plan.steps.map (·.stepId)) (.invalid
        (s!"supersede trace {assertedTraceId} belongs to step {trace.stepId}, which is not a " ++
          s!"step of plan {plan.planId}"))
      ensure (trace.transitionApplied = false ∧ trace.dispatchState ≠ .completed) (.invalid
        (s!"supersede trace {assertedTraceId} was already applied; only a started trace can be " ++
          "superseded"))
      ensure (trace.dispatchState ≠ .failed) (.invalid
        (s!"supersede trace {assertedTraceId} already failed; --retry-step {trace.stepId} " ++
          "retries that failed step"))
      pure trace

def decideSupersededTraces (assertedTraceIds : List Id) :
    Except RoundError SupersedeDecision := do
  let superseded ← (distinct assertedTraceIds).mapM (supersededTrace plan traces)
  pure {
    traceIdsByStep := superseded.foldl (fun byStep trace =>
      byStep.insert trace.stepId (byStep[trace.stepId]?.getD [] ++ [trace.traceId])) ∅
    blockingStepIds := ((traces.filter fun trace => trace.planId == plan.planId &&
      decide (trace.stepId ∈ plan.steps.map (·.stepId)) && trace.dispatchState == .started &&
      !decide (trace.traceId ∈ assertedTraceIds)).map (·.stepId)).toFinset }

end Supersede

/-! ## Which steps are eligible -/

structure StepReasons where
  stepId : Id
  workCellId : Id
  eligible : Bool
  reasons : List String
deriving DecidableEq

/-- The steps a round takes are places of the plan. -/
structure StepSelection (plan : ExecutionPlan) where
  stepIndices : List (Fin plan.steps.length)
  stepReasons : List StepReasons
  obstructions : List ExecutionObstruction
  retriedTraceIdsByStep : ExtTreeMap Id (List Id)

def stepCaseEligibilityReasons (step : ExecutionStep) (caseSpace : CaseSpace)
    (frontierCellIds : List Id) : List String :=
  (if step.workCellId ∈ frontierCellIds then [] else ["work_cell_not_on_frontier"]) ++
  match caseSpace.caseCells.find? fun cell => cell.id = step.workCellId with
  | some cell => if cell.lifecycle = .active then [] else ["work_cell_lifecycle_not_active"]
  | none => ["work_cell_missing"]

section Select

variable (plan : ExecutionPlan) (caseSpace : CaseSpace) (frontierCellIds : List Id)
  (traces : List ExecutionTrace) (retryStepIds blockingStartedStepIds : Finset Id)

def failedTraceIds (step : ExecutionStep) : List Id :=
  distinct ((traces.filter fun trace => trace.isOf plan step && trace.dispatchState == .failed).map
    (·.traceId))

def priorApplied (step : ExecutionStep) : Bool :=
  traces.any fun trace => trace.isOf plan step && trace.transitionApplied

/-- Everything that stands against a step. -/
def selectionReasons (step : ExecutionStep) : List String :=
  (if step.stepId ∈ blockingStartedStepIds then ["dispatch_in_progress"] else []) ++
  (if priorApplied plan traces step = true then ["already_executed"] else []) ++
  (if failedTraceIds plan traces step ≠ [] ∧ step.stepId ∉ retryStepIds then
    ["prior_failed_trace_requires_retry"] else []) ++
  stepCaseEligibilityReasons step caseSpace frontierCellIds

def selectionObstructions (step : ExecutionStep) : List ExecutionObstruction :=
  (if step.stepId ∈ blockingStartedStepIds then
    [⟨"dispatch_in_progress", s!"step {step.stepId} already has a dispatch in progress",
      [step.stepId], true⟩] else []) ++
  (if failedTraceIds plan traces step ≠ [] ∧ step.stepId ∉ retryStepIds then
    [⟨"retry_required", s!"step {step.stepId} has a failed execution trace; pass --retry-step " ++
      s!"{step.stepId} to retry it", [step.stepId], true⟩] else [])

def isEligible (step : ExecutionStep) : Bool :=
  (selectionReasons plan caseSpace frontierCellIds traces retryStepIds blockingStartedStepIds
    step).isEmpty

def selectSteps : StepSelection plan where
  stepIndices := (List.finRange plan.steps.length).filter fun index =>
    isEligible plan caseSpace frontierCellIds traces retryStepIds blockingStartedStepIds
      plan.steps[index]
  stepReasons := plan.steps.map fun step =>
    { stepId := step.stepId
      workCellId := step.workCellId
      eligible := isEligible plan caseSpace frontierCellIds traces retryStepIds
        blockingStartedStepIds step
      reasons := selectionReasons plan caseSpace frontierCellIds traces retryStepIds
        blockingStartedStepIds step }
  obstructions := plan.steps.flatMap
    (selectionObstructions plan traces retryStepIds blockingStartedStepIds)
  retriedTraceIdsByStep := plan.steps.foldl (fun byStep step =>
    if isEligible plan caseSpace frontierCellIds traces retryStepIds blockingStartedStepIds step &&
        !(failedTraceIds plan traces step).isEmpty then
      byStep.insert step.stepId (failedTraceIds plan traces step)
    else byStep) ∅

end Select

/-! ## What a round adds -/

structure BindingRejection where
  obstructionType : String
  bindingContentHash : String
  obstruction : ExecutionObstruction
deriving DecidableEq

inductive BindingInspection where
  | verified
  | rejected (rejection : BindingRejection)
deriving DecidableEq

def StepReasons.refuse (reason : String) (row : StepReasons) : StepReasons :=
  { row with eligible := false, reasons := row.reasons ++ [reason] }

section Round

variable {plan : ExecutionPlan}

/-- The gate refuses every step that was selected. -/
def StepSelection.gateRejected (selection : StepSelection plan) : StepSelection plan :=
  { selection with
    stepIndices := []
    stepReasons := selection.stepIndices.foldl (fun rows index =>
      rows.modify index (StepReasons.refuse "operation_gate_rejected")) selection.stepReasons }

/-- The selected steps whose worker is not the one the plan was accepted with. -/
def frontierBindingRejections (inspect : ExecutionStep → Except RoundError BindingInspection)
    (selection : StepSelection plan) : List (Fin plan.steps.length × BindingRejection) :=
  selection.stepIndices.filterMap fun index =>
    match inspect plan.steps[index] with
    | .ok (.rejected rejection) => some (index, rejection)
    | _ => none

/-- Of the steps for one work cell the first is kept; a step whose worker is refused counts for
no work cell. -/
def limitSteps (rejected : List (Fin plan.steps.length)) :
    List (Fin plan.steps.length) → List Id → List StepReasons →
      List (Fin plan.steps.length) × List StepReasons
  | [], _, rows => ([], rows)
  | index :: indices, selectedWorkCellIds, rows =>
      let workCellId := plan.steps[index].workCellId
      if index ∈ rejected then
        let (selected, rows) := limitSteps rejected indices selectedWorkCellIds rows
        (index :: selected, rows)
      else if workCellId ∉ selectedWorkCellIds then
        let (selected, rows) := limitSteps rejected indices (workCellId :: selectedWorkCellIds) rows
        (index :: selected, rows)
      else
        limitSteps rejected indices selectedWorkCellIds
          (rows.modify index (StepReasons.refuse "work_cell_already_selected_this_round"))

def limitOneStepPerWorkCell (selection : StepSelection plan)
    (bindingRejections : List (Fin plan.steps.length × BindingRejection)) : StepSelection plan :=
  let (selected, rows) := limitSteps (bindingRejections.map Prod.fst) selection.stepIndices []
    selection.stepReasons
  { selection with stepIndices := selected, stepReasons := rows }

structure FrontierSelection (plan : ExecutionPlan) where
  selection : StepSelection plan
  bindingRejections : List (Fin plan.steps.length × BindingRejection)
  evaluation : HaltEvaluation
  traces : List ExecutionTrace
  supersededTraceIdsByStep : ExtTreeMap Id (List Id)
  retriedTraceIdsByStep : ExtTreeMap Id (List Id)

/-- The gate, asked about dispatching. -/
def gateOpen (caseSpace : CaseSpace) (gate : NativeOperationGate) : Bool :=
  (checkOperationGate caseSpace gate "dispatch").isOk

end Round

section Frontier

variable (plan : ExecutionPlan) (caseSpace : CaseSpace) (traces : List ExecutionTrace)
  (gate : NativeOperationGate) (retryStepIds : Finset Id)

/-- The steps the gate lets through. -/
def gatedSelection (frontierCellIds : List Id) (blockingStartedStepIds : Finset Id) :
    StepSelection plan :=
  let selection := selectSteps plan caseSpace frontierCellIds traces retryStepIds
    blockingStartedStepIds
  if gateOpen caseSpace gate then selection else selection.gateRejected

def selectFrontierRound (supersedeTraceIds : List Id)
    (inspect : ExecutionStep → Except RoundError BindingInspection) :
    Except RoundError (FrontierSelection plan) := do
  let evaluation ← (evaluateForHalt caseSpace).mapError .evaluation
  let supersede ← decideSupersededTraces plan traces supersedeTraceIds
  let selection := gatedSelection plan caseSpace traces gate retryStepIds
    evaluation.frontierCellIds supersede.blockingStepIds
  let bindingRejections := frontierBindingRejections inspect selection
  let limited := limitOneStepPerWorkCell selection bindingRejections
  pure {
    selection := limited
    bindingRejections := bindingRejections
    evaluation := evaluation
    traces := traces
    supersededTraceIdsByStep := supersede.traceIdsByStep
    retriedTraceIdsByStep := limited.retriedTraceIdsByStep }

end Frontier

/-! ## The halts of a round -/

/-- The steps a failed trace alone stands against. -/
def solelyRetryBlockedStepIds (stepReasons : List StepReasons) : Finset Id :=
  ((stepReasons.filter fun row => row.reasons == ["prior_failed_trace_requires_retry"]).map
    (·.stepId)).toFinset

def inFlightStepIds (stepReasons : List StepReasons) : Finset Id :=
  ((stepReasons.filter fun row => row.reasons.any (· == "dispatch_in_progress")).map
    (·.stepId)).toFinset

def haltReportsFromFrontierSelection (store : String) (caseSpaceId : Id) (plan : ExecutionPlan)
    (completedThrough : Id) (frontier : FrontierSelection plan) (budgetExhausted : Bool) :
    List HaltReport :=
  let dispatchable := !frontier.selection.stepIndices.isEmpty
  let retryBlocked := solelyRetryBlockedStepIds frontier.selection.stepReasons
  let inFlight := inFlightStepIds frontier.selection.stepReasons
  (deriveHalts dispatchable budgetExhausted frontier.evaluation plan frontier.traces retryBlocked
    inFlight).map fun halt =>
      buildHaltReport halt store caseSpaceId plan completedThrough frontier.evaluation
        frontier.traces retryBlocked inFlight

/-! ## Which steps a round takes -/

section Selected

variable {plan : ExecutionPlan} {caseSpace : CaseSpace} {frontierCellIds : List Id}
  {traces : List ExecutionTrace}
  {retryStepIds blockingStepIds : Finset Id}

theorem mem_selectSteps {index : Fin plan.steps.length} :
    index ∈ (selectSteps plan caseSpace frontierCellIds traces retryStepIds blockingStepIds
      ).stepIndices ↔ selectionReasons plan caseSpace frontierCellIds traces retryStepIds
        blockingStepIds plan.steps[index] = [] := by
  unfold selectSteps isEligible
  rw [List.mem_filter]
  simp

/-- Nothing stands against a step but that it failed once. -/
structure OnlyFailed (plan : ExecutionPlan) (caseSpace : CaseSpace) (frontierCellIds : List Id)
    (traces : List ExecutionTrace) (blockingStepIds : Finset Id) (step : ExecutionStep) :
    Prop where
  notStarted : step.stepId ∉ blockingStepIds
  notApplied : priorApplied plan traces step = false
  failed : failedTraceIds plan traces step ≠ []
  ready : stepCaseEligibilityReasons step caseSpace frontierCellIds = []

theorem retryReason_not_mem_caseReasons (step : ExecutionStep) :
    "prior_failed_trace_requires_retry" ∉
      stepCaseEligibilityReasons step caseSpace frontierCellIds := by
  intro h
  rcases List.mem_append.mp h with h | h
  · split at h <;> simp at h
  · split at h
    · split at h <;> simp at h
    · simp at h

variable {step : ExecutionStep}

theorem selectionReasons_retry
    (h : selectionReasons plan caseSpace frontierCellIds traces retryStepIds blockingStepIds step =
      ["prior_failed_trace_requires_retry"]) :
    OnlyFailed plan caseSpace frontierCellIds traces blockingStepIds step := by
  have hcase := @retryReason_not_mem_caseReasons caseSpace frontierCellIds step
  unfold selectionReasons at h
  by_cases hstarted : step.stepId ∈ blockingStepIds
  · simp [hstarted] at h
  by_cases happlied : priorApplied plan traces step = true
  · simp [hstarted, happlied] at h
  by_cases hfailed : failedTraceIds plan traces step ≠ [] ∧ step.stepId ∉ retryStepIds
  · rw [if_neg hstarted, if_neg happlied, if_pos hfailed, List.nil_append, List.nil_append] at h
    exact ⟨hstarted, Bool.eq_false_iff.mpr happlied, hfailed.1, (List.cons.inj h).2⟩
  · rw [if_neg hstarted, if_neg happlied, if_neg hfailed, List.nil_append, List.nil_append,
      List.nil_append] at h
    rw [h] at hcase
    exact absurd List.mem_cons_self hcase

theorem OnlyFailed.selected
    (h : OnlyFailed plan caseSpace frontierCellIds traces blockingStepIds step)
    (hretry : step.stepId ∈ retryStepIds) :
    selectionReasons plan caseSpace frontierCellIds traces retryStepIds blockingStepIds step =
      [] := by
  unfold selectionReasons
  rw [if_neg h.notStarted, h.notApplied, h.ready]
  simp [hretry]

theorem selectionReasons_of_not_mem {retried : Finset Id}
    (h : selectionReasons plan caseSpace frontierCellIds traces retried blockingStepIds step = [])
    (hnot : step.stepId ∉ retried) :
    selectionReasons plan caseSpace frontierCellIds traces retryStepIds blockingStepIds step =
      [] := by
  unfold selectionReasons at h ⊢
  simp only [List.append_eq_nil_iff, ite_eq_right_iff] at h ⊢
  obtain ⟨⟨⟨hstarted, happlied⟩, hfailed⟩, hcase⟩ := h
  refine ⟨⟨⟨hstarted, happlied⟩, fun hboth => hfailed ⟨hboth.1, hnot⟩⟩, hcase⟩

/-! ## What a round leaves of the rows -/

/-- Rows of a selection, some of them with one of the reasons a round adds. -/
def Amended (before after : List StepReasons) : Prop :=
  ∀ row ∈ after, row ∈ before ∨ "operation_gate_rejected" ∈ row.reasons ∨
    "work_cell_already_selected_this_round" ∈ row.reasons

theorem Amended.refl (rows : List StepReasons) : Amended rows rows := fun _ h => .inl h

theorem mem_refuse (reason : String) (row : StepReasons) : reason ∈ (row.refuse reason).reasons :=
  List.mem_append_right _ List.mem_cons_self

theorem Amended.modify {before after : List StepReasons} (h : Amended before after) (place : Nat)
    {reason : String} (hreason : reason = "operation_gate_rejected" ∨
      reason = "work_cell_already_selected_this_round") :
    Amended before (after.modify place (StepReasons.refuse reason)) := by
  intro row hrow
  obtain ⟨i, hi⟩ := List.mem_iff_getElem?.mp hrow
  rw [List.getElem?_modify] at hi
  obtain ⟨old, hold, rfl⟩ := Option.map_eq_some_iff.mp hi
  split
  · rcases hreason with rfl | rfl
    · exact .inr (.inl (mem_refuse _ _))
    · exact .inr (.inr (mem_refuse _ _))
  · exact h old (List.mem_of_getElem? hold)

theorem amended_gateRejected (selection : StepSelection plan) :
    Amended selection.stepReasons selection.gateRejected.stepReasons := by
  unfold StepSelection.gateRejected
  generalize selection.stepIndices = indices
  have hkept : ∀ rows, Amended selection.stepReasons rows → Amended selection.stepReasons
      (indices.foldl (fun rows index =>
        rows.modify index (StepReasons.refuse "operation_gate_rejected")) rows) := by
    induction indices with
    | nil => exact fun rows h => h
    | cons index indices ih => exact fun rows h => ih _ (h.modify index (.inl rfl))
  exact hkept _ (Amended.refl _)

variable {rows : List StepReasons}

theorem amended_limitSteps {rejected indices : List (Fin plan.steps.length)}
    {selectedWorkCellIds : List Id} {before : List StepReasons} (h : Amended before rows) :
    Amended before (limitSteps rejected indices selectedWorkCellIds rows).2 := by
  induction indices generalizing selectedWorkCellIds rows with
  | nil => exact h
  | cons index indices ih =>
      rw [limitSteps]
      split
      · exact ih h
      · split
        · exact ih h
        · exact ih (h.modify index (.inr rfl))

theorem limitSteps_subset {rejected indices : List (Fin plan.steps.length)}
    {selectedWorkCellIds : List Id} :
    (limitSteps rejected indices selectedWorkCellIds rows).1 ⊆ indices := by
  induction indices generalizing selectedWorkCellIds rows with
  | nil => exact List.Subset.refl _
  | cons index indices ih =>
      rw [limitSteps]
      split
      · exact List.cons_subset_cons _ ih
      · split
        · exact List.cons_subset_cons _ ih
        · exact List.Subset.trans ih (List.subset_cons_self _ _)

theorem limitSteps_ne_nil {rejected indices : List (Fin plan.steps.length)} (h : indices ≠ []) :
    (limitSteps rejected indices [] rows).1 ≠ [] := by
  cases indices with
  | nil => exact absurd rfl h
  | cons index indices =>
      rw [limitSteps]
      split
      · exact List.cons_ne_nil _ _
      · rw [if_pos List.not_mem_nil]
        exact List.cons_ne_nil _ _

end Selected

/-! ## The named retry -/

section Retry

variable {plan : ExecutionPlan} {caseSpace : CaseSpace} {traces : List ExecutionTrace}
  {gate : NativeOperationGate} {retryStepIds : Finset Id} {supersedeTraceIds : List Id}
  {inspect : ExecutionStep → Except RoundError BindingInspection}
  {frontier : FrontierSelection plan}

section

variable (h : selectFrontierRound plan caseSpace traces gate retryStepIds supersedeTraceIds inspect
  = .ok frontier)

include h

/-- What a round that can be made is made of. -/
theorem selectFrontierRound_eq_ok :
    ∃ evaluation supersede, evaluateForHalt caseSpace = .ok evaluation ∧
      decideSupersededTraces plan traces supersedeTraceIds = .ok supersede ∧
      frontier.traces = traces ∧
      frontier.selection = limitOneStepPerWorkCell
        (gatedSelection plan caseSpace traces gate retryStepIds evaluation.frontierCellIds
          supersede.blockingStepIds) frontier.bindingRejections := by
  obtain ⟨evaluation, heval, h⟩ := bind_eq_ok.mp h
  obtain ⟨supersede, hsupersede, h⟩ := bind_eq_ok.mp h
  obtain rfl := pure_eq_ok.mp h
  exact ⟨evaluation, supersede, mapError_eq_ok.mp heval, hsupersede, rfl, rfl⟩

theorem selectFrontierRound_retry (retried : Finset Id) :
    ∃ again, selectFrontierRound plan caseSpace traces gate retried supersedeTraceIds inspect =
      .ok again := by
  obtain ⟨evaluation, supersede, heval, hsupersede, -, -⟩ := selectFrontierRound_eq_ok h
  unfold selectFrontierRound
  rw [heval, hsupersede]
  exact ⟨_, rfl⟩

end

variable {frontierCellIds : List Id} {blockingStepIds : Finset Id}

theorem stepIndices_eq_nil_of_closed {rejections : List (Fin plan.steps.length × BindingRejection)}
    (hclosed : gateOpen caseSpace gate = false) :
    (limitOneStepPerWorkCell (gatedSelection plan caseSpace traces gate retryStepIds
      frontierCellIds blockingStepIds) rejections).stepIndices = [] := by
  unfold gatedSelection
  rw [hclosed]
  rfl

/-- An open gate leaves a step when something was selected. -/
theorem stepIndices_ne_nil_of_open {rejections : List (Fin plan.steps.length × BindingRejection)}
    (hopen : gateOpen caseSpace gate = true)
    (hselected : (selectSteps plan caseSpace frontierCellIds traces retryStepIds blockingStepIds
      ).stepIndices ≠ []) :
    (limitOneStepPerWorkCell (gatedSelection plan caseSpace traces gate retryStepIds
      frontierCellIds blockingStepIds) rejections).stepIndices ≠ [] := by
  unfold gatedSelection
  rw [hopen]
  exact limitSteps_ne_nil hselected

theorem stepIndices_subset {rejections : List (Fin plan.steps.length × BindingRejection)} :
    (limitOneStepPerWorkCell (gatedSelection plan caseSpace traces gate retryStepIds
        frontierCellIds blockingStepIds) rejections).stepIndices ⊆
      (selectSteps plan caseSpace frontierCellIds traces retryStepIds blockingStepIds
        ).stepIndices := by
  unfold gatedSelection
  cases gateOpen caseSpace gate with
  | true => exact limitSteps_subset
  | false => exact List.nil_subset _

/-- Against a step that is named alone for a retry stands only that it failed. -/
theorem onlyFailed_of_solelyBlocked
    {rejections : List (Fin plan.steps.length × BindingRejection)} {stepId : Id}
    (h : stepId ∈ solelyRetryBlockedStepIds (limitOneStepPerWorkCell (gatedSelection plan
    caseSpace traces gate retryStepIds frontierCellIds blockingStepIds) rejections ).stepReasons) :
    ∃ step ∈ plan.steps, step.stepId = stepId ∧
      OnlyFailed plan caseSpace frontierCellIds traces blockingStepIds step := by
  have hamended : Amended (selectSteps plan caseSpace frontierCellIds traces retryStepIds
      blockingStepIds).stepReasons (limitOneStepPerWorkCell (gatedSelection plan caseSpace traces
        gate retryStepIds frontierCellIds blockingStepIds) rejections).stepReasons := by
    refine amended_limitSteps ?_
    unfold gatedSelection
    cases gateOpen caseSpace gate with
    | true => exact Amended.refl _
    | false => exact amended_gateRejected _
  obtain ⟨row, hrow, rfl⟩ := List.mem_map.mp (List.mem_toFinset.mp h)
  obtain ⟨hrow, hreasons⟩ := List.mem_filter.mp hrow
  have hsole := eq_of_beq hreasons
  rcases hamended row hrow with hbefore | hgate | hcell
  · obtain ⟨step, hstep, rfl⟩ := List.mem_map.mp hbefore
    exact ⟨step, hstep, rfl, selectionReasons_retry hsole⟩
  · rw [hsole] at hgate
    simp at hgate
  · rw [hsole] at hcell
    simp at hcell

/-- A halt that names a step for a retry comes of a round that takes nothing. -/
theorem retry_of_report {store : String} {caseSpaceId completedThrough : Id}
    {budgetExhausted : Bool} {report : HaltReport} {stepId : Id}
    (hreport : report ∈ haltReportsFromFrontierSelection store caseSpaceId plan completedThrough
      frontier budgetExhausted)
    (hhalt : report.halt = .needsRetryDecision) (hnamed : stepId ∈ report.targetIds) :
    frontier.selection.stepIndices = [] ∧
      stepId ∈ solelyRetryBlockedStepIds frontier.selection.stepReasons := by
  obtain ⟨halt, hin, rfl⟩ := List.mem_map.mp hreport
  obtain rfl : halt = .needsRetryDecision := hhalt
  constructor
  · by_contra hsome
    have hdispatchable : (!frontier.selection.stepIndices.isEmpty) = true := by
      simp [hsome]
    unfold deriveHalts at hin
    rw [hdispatchable] at hin
    cases budgetExhausted <;> simp at hin
  · obtain ⟨row, hrow, hstep⟩ := List.mem_map.mp hnamed
    obtain ⟨hrow, hneeds⟩ := List.mem_filter.mp hrow
    obtain ⟨step, -, hclass⟩ := List.mem_filterMap.mp hrow
    split at hclass
    · cases hclass
    · split at hclass
      · cases hclass
      · split at hclass
        · obtain rfl := Option.some.inj hclass
          cases hneeds
        · split at hclass
          · rename_i hsole
            obtain rfl := Option.some.inj hclass
            rwa [← hstep]
          · cases hclass

/-- A step the halts name for a retry is selected when it is retried exactly when the gate lets
steps be dispatched. -/
theorem named_retry_selected_iff
    (h : selectFrontierRound plan caseSpace traces gate retryStepIds supersedeTraceIds inspect =
      .ok frontier) {store : String} {caseSpaceId completedThrough : Id} {budgetExhausted : Bool}
    {report : HaltReport} {stepId : Id}
    (hreport : report ∈ haltReportsFromFrontierSelection store caseSpaceId plan completedThrough
      frontier budgetExhausted) (hhalt : report.halt = .needsRetryDecision)
    (hnamed : stepId ∈ report.targetIds) :
    (∃ again, selectFrontierRound plan caseSpace traces gate {stepId} supersedeTraceIds inspect =
        .ok again ∧ ∃ index ∈ again.selection.stepIndices, plan.steps[index].stepId = stepId) ↔
      checkOperationGate caseSpace gate "dispatch" = .ok () := by
  obtain ⟨evaluation, supersede, heval, hsupersede, -, hselection⟩ := selectFrontierRound_eq_ok h
  obtain ⟨hnothing, hsole⟩ := retry_of_report hreport hhalt hnamed
  have hgate : gateOpen caseSpace gate = true ↔
      checkOperationGate caseSpace gate "dispatch" = .ok () := by
    unfold gateOpen
    cases checkOperationGate caseSpace gate "dispatch" with
    | error e => simp [Except.isOk, Except.toBool]
    | ok u => simp [Except.isOk, Except.toBool]
  rw [← hgate]
  constructor
  · rintro ⟨again, hagain, index, hindex, -⟩
    obtain ⟨other, decision, -, -, -, hchosen⟩ := selectFrontierRound_eq_ok hagain
    by_contra hclosed
    rw [hchosen, stepIndices_eq_nil_of_closed (Bool.eq_false_iff.mpr hclosed)] at hindex
    cases hindex
  · intro hopen
    obtain ⟨again, hagain⟩ := selectFrontierRound_retry h {stepId}
    obtain ⟨other, decision, hother, hdecision, -, hchosen⟩ := selectFrontierRound_eq_ok hagain
    rw [← Except.ok.inj (heval.symm.trans hother),
      ← Except.ok.inj (hsupersede.symm.trans hdecision)] at hchosen
    rw [hselection] at hnothing hsole
    obtain ⟨step, hstep, rfl, honly⟩ := onlyFailed_of_solelyBlocked hsole
    -- nothing else can be selected, for it would have been selected before
    have hothers : ∀ index ∈ (selectSteps plan caseSpace evaluation.frontierCellIds traces
        {step.stepId} supersede.blockingStepIds).stepIndices,
        plan.steps[index].stepId = step.stepId := by
      intro index hindex
      by_contra hne
      refine stepIndices_ne_nil_of_open hopen ?_ hnothing
      exact List.ne_nil_of_mem (mem_selectSteps.mpr (selectionReasons_of_not_mem
        (mem_selectSteps.mp hindex) (Finset.notMem_singleton.mpr hne)))
    obtain ⟨place, hplace, hget⟩ := List.getElem_of_mem hstep
    have hselected : (⟨place, hplace⟩ : Fin plan.steps.length) ∈ (selectSteps plan caseSpace
        evaluation.frontierCellIds traces {step.stepId} supersede.blockingStepIds
          ).stepIndices := by
      rw [mem_selectSteps]
      show selectionReasons _ _ _ _ _ _ plan.steps[place] = []
      rw [hget]
      exact honly.selected (Finset.mem_singleton_self _)
    have hsome : again.selection.stepIndices ≠ [] := by
      rw [hchosen]
      exact stepIndices_ne_nil_of_open hopen (List.ne_nil_of_mem hselected)
    obtain ⟨index, hindex⟩ := List.exists_mem_of_ne_nil _ hsome
    refine ⟨again, hagain, index, hindex, hothers index ?_⟩
    rw [hchosen] at hindex
    exact stepIndices_subset hindex

end Retry

/-! ## A task that failed once -/

def readyDraft : CaseSpace :=
  { contractDraft with caseCells := [contractGoal, reviewingCapability, waitingTask] }

def readySpace : CaseSpace :=
  { readyDraft with
    morphismLog := [{ contractGenesis with
      morphism := materializedMorphism readyDraft contractGenesis.morphism }] }

theorem publishStep_ne_empty : "step:publish" ≠ "" := by decide

def failedPublication : ExecutionTrace where
  traceId := ⟨"execution_trace:publish:1", by decide⟩
  planId := waitingPlan.planId
  stepId := ⟨"step:publish", publishStep_ne_empty⟩
  workCellId := waitingTask.id
  appendedEntryIds := []
  dispatchState := .failed
  transitionApplied := false
  obstructions := [⟨"worker_execution_failed", "worker binding:publisher exited with Some(1)", [],
    true⟩]
  startedAt := "unix:1"
  finishedAt := "unix:2"

def dispatchingGate : NativeOperationGate := { contractGate with operation := "dispatch" }

def emptyGate : NativeOperationGate := { dispatchingGate with capabilityIds := [] }

/-- The round after the failure, with nothing retried. -/
def failedRound (gate : NativeOperationGate) : Except RoundError (FrontierSelection waitingPlan) :=
  selectFrontierRound waitingPlan readySpace [failedPublication] gate ∅ []
    fun _ => .ok .verified

def failedReports (frontier : FrontierSelection waitingPlan) : List HaltReport :=
  haltReportsFromFrontierSelection "store" contractSpaceId waitingPlan contractRevisionId frontier
    false

def failedRow : StepReasons :=
  ⟨failedPublication.stepId, waitingTask.id, false, ["prior_failed_trace_requires_retry"]⟩

theorem failedRound_named {gate : NativeOperationGate}
    (h : (failedRound gate).toOption.map (fun frontier =>
      (frontier.selection.stepIndices, frontier.selection.stepReasons)) = some ([], [failedRow])) :
    ∃ frontier, failedRound gate = .ok frontier ∧ ∃ report ∈ failedReports frontier,
      report.halt = .needsRetryDecision ∧ failedPublication.stepId ∈ report.targetIds ∧
        ∃ operation ∈ report.nextOperations, operation.command = "run --frontier" := by
  obtain ⟨frontier, hsome, hrows⟩ := Option.map_eq_some_iff.mp h
  obtain ⟨hindices, hreasons⟩ := Prod.mk.inj hrows
  have hround : failedRound gate = .ok frontier := by
    cases hresult : failedRound gate with
    | error e =>
        rw [hresult] at hsome
        cases hsome
    | ok other =>
        rw [hresult] at hsome
        exact congrArg Except.ok (Option.some.inj hsome)
  obtain ⟨-, -, -, -, htraces, -⟩ := selectFrontierRound_eq_ok hround
  have hsole : solelyRetryBlockedStepIds frontier.selection.stepReasons =
      {failedPublication.stepId} := by
    rw [hreasons]
    decide
  have hclassified : classifyFailedSteps waitingPlan [failedPublication]
      {failedPublication.stepId} = [(failedPublication.stepId, .needsRetryDecision)] := by
    decide
  refine ⟨frontier, hround, _, List.mem_map.mpr ⟨.needsRetryDecision, ?_, rfl⟩, rfl, ?_, ?_⟩
  · rw [hindices, htraces, hsole]
    exact (mem_deriveHalts (by decide)).mpr (.inr (.inl ⟨by rw [hclassified]; rfl, rfl⟩))
  · rw [htraces, hsole]
    show failedPublication.stepId ∈ failedStepIds _ _ _ _
    unfold failedStepIds
    rw [hclassified]
    exact List.mem_cons_self
  · refine ⟨_, List.mem_cons_self, ?_⟩
    rw [htraces, hsole]
    unfold failedStepIds
    rw [hclassified]
    rfl

theorem named_retry_selected_publication :
    ∃ again, selectFrontierRound waitingPlan readySpace [failedPublication] dispatchingGate
      {failedPublication.stepId} [] (fun _ => .ok .verified) = .ok again ∧
        ∃ index ∈ again.selection.stepIndices,
          waitingPlan.steps[index].stepId = failedPublication.stepId := by
  obtain ⟨frontier, hround, report, hreport, hhalt, hnamed, -⟩ :=
    @failedRound_named dispatchingGate (by decide +kernel)
  have hgate : checkOperationGate readySpace dispatchingGate "dispatch" = .ok () := by
    decide +kernel
  exact (named_retry_selected_iff hround hreport hhalt hnamed).mpr hgate

/-- A gate that refuses every dispatch is not a reason the named retry knows of. -/
theorem named_retry_not_selected :
    ¬ ∀ (plan : ExecutionPlan) (caseSpace : CaseSpace) (traces : List ExecutionTrace)
      (gate : NativeOperationGate) (retryStepIds : Finset Id) (supersedeTraceIds : List Id)
      (inspect : ExecutionStep → Except RoundError BindingInspection)
      (frontier : FrontierSelection plan), selectFrontierRound plan caseSpace traces gate
        retryStepIds supersedeTraceIds inspect = .ok frontier →
      ∀ (store : String) (caseSpaceId completedThrough : Id) (budgetExhausted : Bool),
      ∀ report ∈ haltReportsFromFrontierSelection store caseSpaceId plan completedThrough frontier
        budgetExhausted, ∀ stepId ∈ report.targetIds, report.halt = .needsRetryDecision →
      (∃ operation ∈ report.nextOperations, operation.command = "run --frontier") →
      ∃ again, selectFrontierRound plan caseSpace traces gate {stepId} supersedeTraceIds inspect =
        .ok again ∧ ∃ index ∈ again.selection.stepIndices, plan.steps[index].stepId = stepId := by
  intro hselected
  obtain ⟨frontier, hround, report, hreport, hhalt, hnamed, hretry⟩ :=
    @failedRound_named emptyGate (by decide +kernel)
  obtain ⟨again, hagain, index, hindex, -⟩ := hselected waitingPlan readySpace [failedPublication]
    emptyGate ∅ [] _ frontier hround "store" contractSpaceId contractRevisionId false report
    hreport _ hnamed hhalt hretry
  obtain ⟨evaluation, supersede, -, -, -, hchosen⟩ := selectFrontierRound_eq_ok hagain
  have hclosed : gateOpen readySpace emptyGate = false := by
    decide +kernel
  rw [hchosen, stepIndices_eq_nil_of_closed hclosed] at hindex
  cases hindex

end CaseGraphen
