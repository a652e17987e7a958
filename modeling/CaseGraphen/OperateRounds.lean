import CaseGraphen.FrontierSelection
import CaseGraphen.StoreInspect
import Mathlib.Algebra.Group.Action.Defs
import Mathlib.Algebra.Order.BigOperators.Group.List
import Mathlib.Algebra.GroupWithZero.Nat

/-!
# Rounds of an operation

One invocation repeats the round of a frontier run until a halt other than progress is reached
or its rounds are spent. A round dispatches every step it selected. How many workers run at the
same time is limited, by dispatching the steps in chunks, but not how many a round starts.
-/

namespace CaseGraphen

open Checked Json Std OrderedMap

/-- A list cut into pieces of `n`, the last one perhaps shorter. -/
def chunksFuel {α : Type} (n : Nat) : Nat → List α → List (List α)
  | 0, _ => []
  | fuel + 1, xs => if xs.isEmpty then [] else xs.take n :: chunksFuel n fuel (xs.drop n)

def chunks {α : Type} (n : Nat) (xs : List α) : List (List α) := chunksFuel n xs.length xs

theorem flatten_chunksFuel {α : Type} {n : Nat} (hn : 0 < n) :
    ∀ (fuel : Nat) (xs : List α), xs.length ≤ fuel → (chunksFuel n fuel xs).flatten = xs := by
  intro fuel
  induction fuel with
  | zero =>
      intro xs hlength
      obtain rfl : xs = [] := List.length_eq_zero_iff.mp (by omega)
      rfl
  | succ fuel ih =>
      intro xs hlength
      rw [chunksFuel]
      split
      · rename_i hempty
        rw [List.isEmpty_iff.mp hempty]
        rfl
      · rename_i hsome
        rw [List.flatten_cons, ih _ (by rw [List.length_drop]; omega), List.take_append_drop]

theorem flatten_chunks {α : Type} {n : Nat} (hn : 0 < n) (xs : List α) :
    (chunks n xs).flatten = xs :=
  flatten_chunksFuel hn _ xs (Nat.le_refl _)

/-! ## What a run meets -/

structure AppliedStep (plan : ExecutionPlan) where
  stepIndex : Fin plan.steps.length
  status : String
  trace : ExecutionTrace
  /-- A worker ran and reported. -/
  reported : Bool

/-- How the store, the run directories and the workers answer. `W` is everything outside the
process, `R` what is held of a reserved step, and `D` what comes of dispatching it. Whoever else
writes can do so at every answer that gives another `W`. -/
structure RunEffects (plan : ExecutionPlan) (W R D : Type) where
  replay : W → Except RoundError NativeCaseSpaceReplay × W
  requireAcceptedPlan : W → NativeCaseSpaceReplay → Except RoundError Unit
  readExecutionTraces : W → CaseSpace → Except RoundError (List ExecutionTrace)
  inspectWorkerBinding : W → ExecutionStep → Except RoundError BindingInspection
  reserve : Fin plan.steps.length → W → Except RoundError R × W
  recordReservationFailure : Fin plan.steps.length → RoundError → W →
    Except RoundError (AppliedStep plan) × W
  dispatchStepWorker : Fin plan.steps.length → R → Option BindingRejection → W → D × W
  applyStepResult : Fin plan.steps.length → R → D → W → Except RoundError (AppliedStep plan) × W

structure OperateOptions where
  caseSpaceId : Id
  gate : NativeOperationGate
  supersedeTraceIds : List Id
  maxRounds : Nat
  maxParallel : Nat

section Execute

variable {plan : ExecutionPlan} {W R D : Type} (effects : RunEffects plan W R D)

/-- A selected step is reserved, or its failure to be is on record. -/
abbrev Reservation (plan : ExecutionPlan) (R : Type) : Type :=
  (Fin plan.steps.length × R) ⊕ AppliedStep plan

def reserveStep (index : Fin plan.steps.length) (world : W) :
    Except RoundError (Reservation plan R) × W :=
  match effects.reserve index world with
  | (.ok reserved, world) => (.ok (.inl (index, reserved)), world)
  | (.error error, world) =>
      let (recorded, world) := effects.recordReservationFailure index error world
      (recorded.map .inr, world)

def reserveSteps : List (Fin plan.steps.length) → W →
    Except RoundError (List (Reservation plan R)) × W
  | [], world => (.ok [], world)
  | index :: indices, world =>
      match reserveStep effects index world with
      | (.error error, world) => (.error error, world)
      | (.ok reservation, world) =>
          let (rest, world) := reserveSteps indices world
          (rest.map (reservation :: ·), world)

def reservedSteps (reservations : List (Reservation plan R)) : List (Fin plan.steps.length × R) :=
  reservations.filterMap Sum.getLeft?

def reservationFailures (reservations : List (Reservation plan R)) : List (AppliedStep plan) :=
  reservations.filterMap Sum.getRight?

/-- The workers of a chunk, joined in the order of their steps. -/
def dispatchChunk (bindingRejections : List (Fin plan.steps.length × BindingRejection)) :
    List (Fin plan.steps.length × R) → W → List D × W
  | [], world => ([], world)
  | reserved :: chunk, world =>
      let (result, world) := effects.dispatchStepWorker reserved.1 reserved.2
        (bindingRejections.lookup reserved.1) world
      let (results, world) := dispatchChunk bindingRejections chunk world
      (result :: results, world)

/-- One chunk after the other, for all of them. -/
def dispatchChunks (bindingRejections : List (Fin plan.steps.length × BindingRejection)) :
    List (List (Fin plan.steps.length × R)) → W → List D × W
  | [], world => ([], world)
  | chunk :: chunks, world =>
      let (results, world) := dispatchChunk effects bindingRejections chunk world
      let (rest, world) := dispatchChunks bindingRejections chunks world
      (results ++ rest, world)

def applyStepResults : List ((Fin plan.steps.length × R) × D) → W →
    Except RoundError (List (AppliedStep plan)) × W
  | [], world => (.ok [], world)
  | (reserved, result) :: rest, world =>
      match effects.applyStepResult reserved.1 reserved.2 result world with
      | (.error error, world) => (.error error, world)
      | (.ok applied, world) =>
          let (others, world) := applyStepResults rest world
          (others.map (applied :: ·), world)

/-- The workers started, and the steps in the order of the plan. -/
def executeSelectedSteps (stepIndices : List (Fin plan.steps.length))
    (bindingRejections : List (Fin plan.steps.length × BindingRejection)) (maxParallel : Nat)
    (world : W) : Nat × Except RoundError (List (AppliedStep plan)) × W :=
  match reserveSteps effects stepIndices world with
  | (.error error, world) => (0, .error error, world)
  | (.ok reservations, world) =>
      let reserved := reservedSteps reservations
      let (results, world) := dispatchChunks effects bindingRejections
        (chunks maxParallel reserved) world
      let (applied, world) := applyStepResults effects (reserved.zip results) world
      (reserved.length, applied.map fun applied =>
        (reservationFailures reservations ++ applied).mergeSort fun left right =>
          left.stepIndex ≤ right.stepIndex, world)

end Execute

/-! ## A round -/

/-- What a round selected, how many workers it started and what it recorded. -/
structure DispatchedRound (plan : ExecutionPlan) where
  selected : List (Fin plan.steps.length)
  spawned : Nat
  traces : List ExecutionTrace

structure FrontierRoundOutcome where
  status : String
  traces : List ExecutionTrace
  stepReasons : List StepReasons
  appendedEntryIds : List Id
  resultRevisionId : Id
  domainFinding : Bool

/-- A step that did not run is no longer eligible, for the reason its trace gives. -/
def refuseUnreported {plan : ExecutionPlan} (rows : List StepReasons)
    (applied : List (AppliedStep plan)) : List StepReasons :=
  (applied.filter fun step => !step.reported).foldl (fun rows step =>
    rows.modify step.stepIndex fun row =>
      { row with
        eligible := false
        reasons := row.reasons ++ (step.trace.obstructions.head?.map (·.obstructionType)).toList })
    rows

def runResultsHaveDomainFinding (results : List (String × List ExecutionObstruction)) : Bool :=
  results.any fun result => result.1 == "step_failed" || (result.1 == "no_dispatchable_step" &&
    result.2.any fun obstruction => obstruction.obstructionType == "retry_required")

/-- The record of a round that dispatched. -/
def roundOutcome {plan : ExecutionPlan} (frontier : FrontierSelection plan)
    (applied : List (AppliedStep plan)) (resultRevisionId : Id) : FrontierRoundOutcome where
  status := if applied.any (·.reported) then "round_executed" else "no_dispatchable_step"
  traces := applied.map (·.trace)
  stepReasons := refuseUnreported frontier.selection.stepReasons applied
  appendedEntryIds := applied.flatMap (·.trace.appendedEntryIds)
  resultRevisionId := resultRevisionId
  domainFinding := runResultsHaveDomainFinding
    (applied.map fun step => (step.status, step.trace.obstructions))

section Operate

variable {plan : ExecutionPlan} {W R D : Type} (effects : RunEffects plan W R D)
  (options : OperateOptions) (store : String)

/-- The selection of a round, from what the store and the run directories say now. -/
def selectRound (replay : NativeCaseSpaceReplay) (world : W) :
    Except RoundError (FrontierSelection plan) := do
  let traces ← effects.readExecutionTraces world replay.caseSpace
  selectFrontierRound plan replay.caseSpace traces options.gate ∅ options.supersedeTraceIds
    (effects.inspectWorkerBinding world)

/-- The record of a round with nothing to dispatch. -/
def emptyOutcome (frontier : FrontierSelection plan) (resultRevisionId : Id) :
    FrontierRoundOutcome where
  status := "no_dispatchable_step"
  traces := []
  stepReasons := frontier.selection.stepReasons
  appendedEntryIds := []
  resultRevisionId := resultRevisionId
  domainFinding := runResultsHaveDomainFinding
    [("no_dispatchable_step", frontier.selection.obstructions)]

/-- The workers started, and what comes of the round. -/
def dispatchFrontierSelection (replay : NativeCaseSpaceReplay) (frontier : FrontierSelection plan)
    (world : W) : Nat × Except RoundError FrontierRoundOutcome × W :=
  if frontier.selection.stepIndices.isEmpty then
    (0, .ok (emptyOutcome frontier replay.currentRevisionId), world)
  else
    match executeSelectedSteps effects frontier.selection.stepIndices frontier.bindingRejections
      options.maxParallel world with
    | (spawned, .error error, world) => (spawned, .error error, world)
    | (spawned, .ok applied, world) =>
        let (final, world) := effects.replay world
        (spawned, final.map fun final => roundOutcome frontier applied final.currentRevisionId,
          world)

/-- What stops an operation. -/
structure OperateStop where
  halts : List HaltReport
  resultRevisionId : Id
  domainFinding : Bool

/-- The rounds of an operation, and how it ends. `roundsUsed` rounds came before. -/
def operateRounds : Nat → Nat → NativeCaseSpaceReplay → W →
    List (DispatchedRound plan) × Except RoundError OperateStop
  | 0, _, replay, _ => ([], .ok ⟨[], replay.currentRevisionId, false⟩)
  | fuel + 1, roundsUsed, replay, world =>
      match selectRound effects options replay world with
      | .error error => ([], .error error)
      | .ok frontier =>
          let budgetExhausted := decide (options.maxRounds ≤ roundsUsed)
          let halts := haltReportsFromFrontierSelection store options.caseSpaceId plan
            replay.currentRevisionId frontier budgetExhausted
          if !halts.isEmpty then
            ([], .ok ⟨halts, replay.currentRevisionId,
              halts.head?.any (·.halt == .roundBudgetExhausted) || runResultsHaveDomainFinding
                [("no_dispatchable_step", frontier.selection.obstructions)]⟩)
          else
            match dispatchFrontierSelection effects options replay frontier world with
            | (spawned, .error error, _) =>
                ([⟨frontier.selection.stepIndices, spawned, []⟩], .error error)
            | (spawned, .ok outcome, world) =>
                let round := ⟨frontier.selection.stepIndices, spawned, outcome.traces⟩
                match effects.replay world with
                | (.error error, _) => ([round], .error error)
                | (.ok replay, world) =>
                    let (rounds, stop) := operateRounds fuel (roundsUsed + 1) replay world
                    (round :: rounds, stop.map fun stop =>
                      { stop with domainFinding := outcome.domainFinding || stop.domainFinding })

structure OperateRun (plan : ExecutionPlan) where
  rounds : List (DispatchedRound plan)
  result : Except RoundError OperateStop

def OperateRun.roundsUsed (run : OperateRun plan) : Nat := run.rounds.length

/-- The number an invocation reports. -/
def OperateRun.stepsDispatched (run : OperateRun plan) : Nat :=
  (run.rounds.map fun round => round.traces.length).sum

/-- The workers an invocation started. -/
def OperateRun.spawned (run : OperateRun plan) : Nat :=
  (run.rounds.map (·.spawned)).sum

/-- The checks before the first round. -/
def startOperation (world : W) : Except RoundError NativeCaseSpaceReplay × W :=
  if options.maxParallel = 0 then (.error (.usage "--max-parallel must be at least 1"), world)
  else if options.maxRounds = 0 then (.error (.usage "--max-rounds must be at least 1"), world)
  else
    let (replay, world) := effects.replay world
    (replay.bind fun replay => (effects.requireAcceptedPlan world replay).map fun _ => replay, world)

/-- At most `maxRounds` rounds are dispatched, so one more turn of the loop is enough. -/
def operate (world : W) : OperateRun plan :=
  match startOperation effects options world with
  | (.error error, _) => ⟨[], .error error⟩
  | (.ok replay, world) =>
      let (rounds, result) := operateRounds effects options store (options.maxRounds + 1) 0 replay
        world
      ⟨rounds, result⟩

end Operate

/-! ## What a round dispatches -/

theorem map_eq_ok {ε α β : Type} {x : Except ε α} {f : α → β} {b : β} :
    x.map f = .ok b ↔ ∃ a, x = .ok a ∧ f a = b := by
  cases x <;> simp [Except.map]

section Counts

variable {plan : ExecutionPlan} {W R D : Type} {effects : RunEffects plan W R D}
  {options : OperateOptions} {store : String}

theorem length_reserveSteps {indices : List (Fin plan.steps.length)} {world next : W}
    {reservations : List (Reservation plan R)}
    (h : reserveSteps effects indices world = (.ok reservations, next)) :
    reservations.length = indices.length := by
  induction indices generalizing world next reservations with
  | nil =>
      obtain ⟨rfl, -⟩ := by simpa [reserveSteps] using h
      rfl
  | cons index indices ih =>
      rw [reserveSteps] at h
      rcases hfirst : reserveStep effects index world with ⟨error | reservation, middle⟩
      · rw [hfirst] at h
        simp at h
      · rcases hrest : reserveSteps effects indices middle with ⟨error | rest, last⟩
        · simp [hfirst, hrest, Except.map] at h
        · obtain ⟨rfl, -⟩ : reservation :: rest = reservations ∧ last = next := by
            simpa [hfirst, hrest, Except.map] using h
          rw [List.length_cons, List.length_cons, ih hrest]

theorem length_reservedSteps_add (reservations : List (Reservation plan R)) :
    (reservedSteps reservations).length + (reservationFailures reservations).length =
      reservations.length := by
  induction reservations with
  | nil => rfl
  | cons reservation rest ih =>
      unfold reservedSteps reservationFailures at ih ⊢
      cases reservation with
      | inl reserved =>
          simp only [List.filterMap_cons, Sum.getLeft?_inl, Sum.getRight?_inl, List.length_cons]
          omega
      | inr recorded =>
          simp only [List.filterMap_cons, Sum.getLeft?_inr, Sum.getRight?_inr, List.length_cons]
          omega

theorem length_dispatchChunk {rejections : List (Fin plan.steps.length × BindingRejection)}
    {chunk : List (Fin plan.steps.length × R)} {world : W} :
    (dispatchChunk effects rejections chunk world).1.length = chunk.length := by
  induction chunk generalizing world with
  | nil => rfl
  | cons reserved chunk ih => exact congrArg (· + 1) ih

theorem length_dispatchChunks {rejections : List (Fin plan.steps.length × BindingRejection)}
    {pieces : List (List (Fin plan.steps.length × R))} {world : W} :
    (dispatchChunks effects rejections pieces world).1.length = pieces.flatten.length := by
  induction pieces generalizing world with
  | nil => rfl
  | cons chunk pieces ih =>
      rw [dispatchChunks, List.flatten_cons]
      simp [length_dispatchChunk, ih]

theorem length_applyStepResults {results : List ((Fin plan.steps.length × R) × D)}
    {world next : W} {applied : List (AppliedStep plan)}
    (h : applyStepResults effects results world = (.ok applied, next)) :
    applied.length = results.length := by
  induction results generalizing world next applied with
  | nil =>
      obtain ⟨rfl, -⟩ := by simpa [applyStepResults] using h
      rfl
  | cons row results ih =>
      obtain ⟨reserved, result⟩ := row
      rw [applyStepResults] at h
      rcases hfirst : effects.applyStepResult reserved.1 reserved.2 result world with
        ⟨error | step, middle⟩
      · rw [hfirst] at h
        simp at h
      · rcases hrest : applyStepResults effects results middle with ⟨error | rest, last⟩
        · simp [hfirst, hrest, Except.map] at h
        · obtain ⟨rfl, -⟩ : step :: rest = applied ∧ last = next := by
            simpa [hfirst, hrest, Except.map] using h
          rw [List.length_cons, List.length_cons, ih hrest]

/-- Every selected step starts at most one worker, and all of them are on record when the steps
are executed. -/
theorem executeSelectedSteps_counts (hparallel : 0 < options.maxParallel)
    {indices : List (Fin plan.steps.length)}
    {rejections : List (Fin plan.steps.length × BindingRejection)} {world next : W}
    {spawned : Nat} {result : Except RoundError (List (AppliedStep plan))}
    (h : executeSelectedSteps effects indices rejections options.maxParallel world =
      (spawned, result, next)) :
    spawned ≤ indices.length ∧ ∀ applied, result = .ok applied →
      applied.length = indices.length := by
  unfold executeSelectedSteps at h
  rcases hreserved : reserveSteps effects indices world with ⟨error | reservations, middle⟩
  · rw [hreserved] at h
    obtain ⟨rfl, rfl, -⟩ := by simpa using h
    exact ⟨Nat.zero_le _, fun applied h => by cases h⟩
  · have hlength := length_reserveSteps hreserved
    have hparts := length_reservedSteps_add reservations
    rw [hreserved] at h
    dsimp only at h
    have hresults := @length_dispatchChunks plan W R D effects rejections
      (chunks options.maxParallel (reservedSteps reservations)) middle
    rw [flatten_chunks hparallel] at hresults
    rcases hdispatched : dispatchChunks effects rejections
      (chunks options.maxParallel (reservedSteps reservations)) middle with ⟨results, later⟩
    rw [hdispatched] at h hresults
    rcases happlied : applyStepResults effects ((reservedSteps reservations).zip results) later
      with ⟨error | applied, last⟩
    · rw [happlied] at h
      obtain ⟨rfl, rfl, -⟩ := by simpa [Except.map] using h
      exact ⟨by omega, fun applied h => by cases h⟩
    · rw [happlied] at h
      obtain ⟨rfl, rfl, -⟩ := by simpa [Except.map] using h
      refine ⟨by omega, ?_⟩
      rintro steps ⟨⟩
      have hcount := length_applyStepResults happlied
      rw [List.length_zip, hresults, Nat.min_self] at hcount
      rw [List.length_mergeSort, List.length_append]
      omega

/-- A round starts at most one worker for each step it selected, and records all of these. -/
theorem dispatchFrontierSelection_counts (hparallel : 0 < options.maxParallel)
    {replay : NativeCaseSpaceReplay} {frontier : FrontierSelection plan} {world next : W}
    {spawned : Nat} {result : Except RoundError FrontierRoundOutcome}
    (h : dispatchFrontierSelection effects options replay frontier world =
      (spawned, result, next)) :
    spawned ≤ frontier.selection.stepIndices.length ∧ ∀ outcome, result = .ok outcome →
      outcome.traces.length = frontier.selection.stepIndices.length := by
  unfold dispatchFrontierSelection at h
  split at h
  · rename_i hempty
    obtain ⟨rfl, rfl, -⟩ := by simpa using h
    refine ⟨Nat.zero_le _, ?_⟩
    rintro outcome ⟨⟩
    rw [List.isEmpty_iff.mp hempty]
    rfl
  · rcases hexecuted : executeSelectedSteps effects frontier.selection.stepIndices
      frontier.bindingRejections options.maxParallel world with ⟨count, error | applied, middle⟩
    · rw [hexecuted] at h
      obtain ⟨rfl, rfl, -⟩ := by simpa using h
      exact ⟨(executeSelectedSteps_counts hparallel hexecuted).1, fun outcome h => by cases h⟩
    · obtain ⟨hspawned, hcount⟩ := executeSelectedSteps_counts hparallel hexecuted
      rw [hexecuted] at h
      obtain ⟨rfl, rfl, -⟩ := h
      refine ⟨hspawned, fun outcome houtcome => ?_⟩
      obtain ⟨final, -, rfl⟩ := map_eq_ok.mp houtcome
      exact (List.length_map _).trans (hcount applied rfl)

theorem haltReports_ne_nil {caseSpaceId completedThrough : Id} {frontier : FrontierSelection plan} :
    (haltReportsFromFrontierSelection store caseSpaceId plan completedThrough frontier
      true).isEmpty = false := by
  unfold haltReportsFromFrontierSelection
  cases frontier.selection.stepIndices.isEmpty with
  | false => rfl
  | true =>
      have hsome : ∀ halts : List Halt,
          (if halts = [] then [.nothingEligible] else halts) ≠ [] := by
        intro halts
        split
        · exact List.cons_ne_nil _ _
        · assumption
      rw [List.isEmpty_eq_false_iff, ne_eq, List.map_eq_nil_iff]
      exact hsome _

/-- What the rounds of an operation come to: there are no more of them than are left, none
starts more workers than it selected steps, and when the operation ends each has a trace of every
step it selected. -/
theorem operateRounds_counts (hparallel : 0 < options.maxParallel) {fuel roundsUsed : Nat}
    {replay : NativeCaseSpaceReplay} {world : W} {rounds : List (DispatchedRound plan)}
    {result : Except RoundError OperateStop}
    (h : operateRounds effects options store fuel roundsUsed replay world = (rounds, result)) :
    rounds.length ≤ options.maxRounds - roundsUsed ∧
      (∀ round ∈ rounds, round.spawned ≤ round.selected.length ∧
        round.traces.length ≤ round.selected.length) ∧
      ∀ stop, result = .ok stop → ∀ round ∈ rounds,
        round.traces.length = round.selected.length := by
  induction fuel generalizing roundsUsed replay world rounds result with
  | zero =>
      obtain ⟨rfl, -⟩ := Prod.mk.inj h
      exact ⟨Nat.zero_le _, by simp, by simp⟩
  | succ fuel ih =>
      rw [operateRounds] at h
      split at h
      · obtain ⟨rfl, -⟩ := Prod.mk.inj h
        exact ⟨Nat.zero_le _, by simp, by simp⟩
      rename_i frontier hfrontier
      dsimp only at h
      split at h
      · obtain ⟨rfl, -⟩ := Prod.mk.inj h
        exact ⟨Nat.zero_le _, by simp, by simp⟩
      rename_i hprogress
      -- a round is dispatched only while rounds are left
      have hleft : roundsUsed < options.maxRounds := by
        by_contra hspent
        rw [decide_eq_true (by omega), haltReports_ne_nil] at hprogress
        exact hprogress rfl
      split at h
      · rename_i spawned error last hdispatched
        have hspawned := (dispatchFrontierSelection_counts hparallel hdispatched).1
        obtain ⟨rfl, rfl⟩ := Prod.mk.inj h
        refine ⟨by rw [List.length_singleton]; omega, fun round hround => ?_,
          fun stop hstop => by cases hstop⟩
        rw [List.mem_singleton.mp hround]
        exact ⟨hspawned, Nat.zero_le _⟩
      · rename_i spawned outcome middle hdispatched
        obtain ⟨hspawned, htraces⟩ := dispatchFrontierSelection_counts hparallel hdispatched
        have hsame := htraces outcome rfl
        split at h
        · obtain ⟨rfl, rfl⟩ := Prod.mk.inj h
          refine ⟨by rw [List.length_singleton]; omega, fun round hround => ?_,
            fun stop hstop => by cases hstop⟩
          rw [List.mem_singleton.mp hround]
          exact ⟨hspawned, hsame.le⟩
        · rename_i later next hreplay
          rcases hrest : operateRounds effects options store fuel (roundsUsed + 1) later next with
            ⟨others, last⟩
          rw [hrest] at h
          dsimp only at h
          obtain ⟨rfl, rfl⟩ := Prod.mk.inj h
          obtain ⟨hlength, hcounts, hended⟩ := ih hrest
          refine ⟨by rw [List.length_cons]; omega, fun round hround => ?_,
            fun stop hstop round hround => ?_⟩
          · rcases List.mem_cons.mp hround with rfl | hround
            · exact ⟨hspawned, hsame.le⟩
            · exact hcounts round hround
          · rcases List.mem_cons.mp hround with rfl | hround
            · exact hsame
            · obtain ⟨ended, rfl, -⟩ := map_eq_ok.mp hstop
              exact hended ended rfl round hround

theorem operate_counts (world : W) :
    (operate effects options store world).rounds.length ≤ options.maxRounds ∧
      (∀ round ∈ (operate effects options store world).rounds,
        round.spawned ≤ round.selected.length ∧
          round.traces.length ≤ round.selected.length) ∧
      ∀ stop, (operate effects options store world).result = .ok stop →
        ∀ round ∈ (operate effects options store world).rounds,
          round.traces.length = round.selected.length := by
  unfold operate
  rcases hstart : startOperation effects options world with ⟨error | replay, started⟩
  · exact ⟨Nat.zero_le _, by simp, by simp⟩
  have hparallel : 0 < options.maxParallel := by
    rw [Nat.pos_iff_ne_zero]
    intro hzero
    unfold startOperation at hstart
    rw [if_pos hzero] at hstart
    cases hstart
  rcases hrounds : operateRounds effects options store (options.maxRounds + 1) 0 replay started
    with ⟨rounds, result⟩
  have hcounts := operateRounds_counts hparallel hrounds
  dsimp only
  rw [hrounds]
  exact hcounts

/-- Steps and workers of an operation stay within its rounds times its parallelism when no round
selects more steps than may run at the same time. An operation that ends has dispatched exactly
the steps its rounds selected. -/
theorem operate_dispatches (world : W) :
    (∀ stop, (operate effects options store world).result = .ok stop →
        (operate effects options store world).stepsDispatched =
          ((operate effects options store world).rounds.map (·.selected.length)).sum) ∧
      ((∀ round ∈ (operate effects options store world).rounds,
          round.selected.length ≤ options.maxParallel) →
        (operate effects options store world).stepsDispatched ≤
            options.maxRounds * options.maxParallel ∧
          (operate effects options store world).spawned ≤
            options.maxRounds * options.maxParallel) := by
  obtain ⟨hlength, hcounts, hended⟩ := @operate_counts plan W R D effects options store world
  obtain ⟨run, hrun⟩ : ∃ run, operate effects options store world = run := ⟨_, rfl⟩
  rw [hrun] at hlength hcounts hended ⊢
  refine ⟨fun stop hstop => congrArg List.sum (List.map_congr_left (hended stop hstop)),
    fun hwithin => ⟨?_, ?_⟩⟩
  · have hsum := List.sum_le_card_nsmul (run.rounds.map fun round => round.traces.length)
      options.maxParallel fun count hcount => by
        obtain ⟨round, hround, rfl⟩ := List.mem_map.mp hcount
        exact (hcounts round hround).2.trans (hwithin round hround)
    rw [List.length_map, smul_eq_mul] at hsum
    exact hsum.trans (Nat.mul_le_mul_right _ hlength)
  · have hsum := List.sum_le_card_nsmul (run.rounds.map (·.spawned)) options.maxParallel
      fun count hcount => by
        obtain ⟨round, hround, rfl⟩ := List.mem_map.mp hcount
        exact (hcounts round hround).1.trans (hwithin round hround)
    rw [List.length_map, smul_eq_mul] at hsum
    exact hsum.trans (Nat.mul_le_mul_right _ hlength)

end Counts

/-! ## Two steps where one may run at a time -/

def archivingTask : CaseCell := contractTask ⟨"task:archive", by decide⟩

def archivingRelation : CaseRelation :=
  { goalRequires .dependsOn ⟨"relation:archive-publish", by decide⟩ waitingTask.id with
    fromId := archivingTask.id }

def releaseDraft (lifecycle : CaseCellLifecycle) : CaseSpace :=
  { contractDraft with
    caseCells := [contractGoal, reviewingCapability, { waitingTask with lifecycle := lifecycle },
      { announcingTask with lifecycle := lifecycle }, archivingTask]
    caseRelations := [archivingRelation] }

/-- The space with publishing and announcing open, or done. -/
def releaseSpace (lifecycle : CaseCellLifecycle) : CaseSpace :=
  { releaseDraft lifecycle with
    morphismLog := [{ contractGenesis with
      morphism := materializedMorphism (releaseDraft lifecycle) contractGenesis.morphism }] }

theorem publisherBinding_ne_empty : "binding:publisher" ≠ "" := by decide

theorem announceStep_ne_empty : "step:announce" ≠ "" := by decide

def releaseStep (stepId workCellId : Id) : ExecutionStep :=
  ⟨stepId, workCellId, ⟨"binding:publisher", publisherBinding_ne_empty⟩, [⟨"evidence:released", by decide⟩],
    [⟨.update, [.work], [.resolved]⟩]⟩

def releasePlan : ExecutionPlan where
  planId := ⟨"plan:release", by decide⟩
  caseSpaceId := contractSpaceId
  steps := [releaseStep ⟨"step:publish", publishStep_ne_empty⟩ waitingTask.id,
    releaseStep ⟨"step:announce", announceStep_ne_empty⟩ announcingTask.id,
    releaseStep ⟨"step:archive", by decide⟩ archivingTask.id]

def releaseReplay (lifecycle : CaseCellLifecycle) : NativeCaseSpaceReplay where
  schema := nativeCaseSpaceSchema
  schemaVersion := nativeCaseSpaceSchemaVersion
  caseSpaceId := contractSpaceId
  spaceId := contractDraft.spaceId
  currentRevisionId := contractRevisionId
  caseSpace := releaseSpace lifecycle
  history := (releaseSpace lifecycle).morphismLog

def releaseTrace (step : ExecutionStep) : ExecutionTrace where
  traceId := step.stepId
  planId := releasePlan.planId
  stepId := step.stepId
  workCellId := step.workCellId
  appendedEntryIds := []
  dispatchState := .completed
  transitionApplied := true
  obstructions := []
  startedAt := "unix:1"
  finishedAt := "unix:2"

/-- Everything goes well, and what a worker did is done at once. -/
def releaseEffects : RunEffects releasePlan CaseCellLifecycle Unit Unit where
  replay lifecycle := (.ok (releaseReplay lifecycle), lifecycle)
  requireAcceptedPlan _ _ := .ok ()
  readExecutionTraces lifecycle _ := .ok <| if lifecycle = .resolved then
    (releasePlan.steps.take 2).map releaseTrace else []
  inspectWorkerBinding _ _ := .ok .verified
  reserve _ lifecycle := (.ok (), lifecycle)
  recordReservationFailure _ error lifecycle := (.error error, lifecycle)
  dispatchStepWorker _ _ _ lifecycle := ((), lifecycle)
  applyStepResult index _ _ _ :=
    (.ok ⟨index, "step_executed", releaseTrace releasePlan.steps[index], true⟩, .resolved)

def releaseOptions (maxParallel : Nat) : OperateOptions where
  caseSpaceId := contractSpaceId
  gate := dispatchingGate
  supersedeTraceIds := []
  maxRounds := 1
  maxParallel := maxParallel

def releaseRun (maxParallel : Nat) : OperateRun releasePlan :=
  operate releaseEffects (releaseOptions maxParallel) "store" .active

theorem releaseRun_selected : (releaseRun 1).rounds.map (·.selected.length) = [2] ∧
    (releaseRun 2).rounds.map (·.selected.length) = [2] := by
  decide +kernel

theorem operate_dispatches_release : (releaseRun 2).stepsDispatched ≤ 1 * 2 := by
  refine ((operate_dispatches CaseCellLifecycle.active).2 fun round hround => ?_).1
  have hselected : round.selected.length ∈ (releaseRun 2).rounds.map (·.selected.length) :=
    List.mem_map_of_mem hround
  rw [releaseRun_selected.2] at hselected
  exact (List.mem_singleton.mp hselected).le

/-- One round, one worker at a time, two steps. -/
theorem operate_dispatches_more :
    ¬ ∀ (plan : ExecutionPlan) (W R D : Type) (effects : RunEffects plan W R D)
      (options : OperateOptions) (store : String) (world : W) (stop : OperateStop),
      (operate effects options store world).result = .ok stop →
        (operate effects options store world).stepsDispatched ≤
          options.maxRounds * options.maxParallel := by
  intro hbound
  have hended : (releaseRun 1).result.isOk = true := by
    decide +kernel
  obtain ⟨stop, hstop⟩ : ∃ stop, (releaseRun 1).result = .ok stop := by
    cases hresult : (releaseRun 1).result with
    | error error =>
        rw [hresult] at hended
        cases hended
    | ok stop => exact ⟨stop, rfl⟩
  have hcounts : ∀ round ∈ (releaseRun 1).rounds, round.traces.length = round.selected.length :=
    (operate_counts CaseCellLifecycle.active).2.2 stop hstop
  have htwo : (releaseRun 1).stepsDispatched = 2 := by
    unfold OperateRun.stepsDispatched
    rw [List.map_congr_left hcounts, releaseRun_selected.1]
    rfl
  have hle : (releaseRun 1).stepsDispatched ≤ 1 * 1 :=
    hbound releasePlan _ _ _ releaseEffects (releaseOptions 1) "store" .active stop hstop
  rw [htwo] at hle
  exact absurd hle (by decide)

end CaseGraphen
