import CaseGraphen.TopologyPatches

/-!
# Runs of the expansion controller

A controller is called in any order, and a refused call leaves it as it was. Each
candidate of a round changes little: it is decided, its fingerprint may be marked as seen,
and a proposal may be emitted. What that step keeps, every sequence of calls keeps.
-/

namespace CaseGraphen

open Checked Json Std OrderedMap Sorting Text

/-! ## Sequences of calls -/

inductive ExpansionCall where
  | beginAttempt (attemptId : String) (topology : ExecutionTopology)
  | processRound (attemptId : String) (candidates : List ExpansionCandidate)
      (accountedRoundCost : Option Rat) (accountedRoundLatencyMs : UInt64)
  | finishAttempt (attemptId : String)

/-- A round that was answered: what it was charged, unless the iterations were used up. -/
structure AnsweredRound where
  candidates : List ExpansionCandidate
  charged : Option (Rat × UInt64)
  result : ExpansionRoundResult

def ExpansionCall.candidates : ExpansionCall → List ExpansionCandidate
  | .processRound _ candidates _ _ => candidates
  | .beginAttempt .. | .finishAttempt _ => []

/-- The patches that calls ask to propose. -/
def offeredPatches (calls : List ExpansionCall) : List TopologyPatch :=
  ((calls.flatMap (·.candidates)).filter fun candidate =>
    candidate.requestedDisposition = .acceptForProposal).map (·.topologyPatch)

structure ExpansionHistory where
  controller : ExpansionController
  rounds : List AnsweredRound

namespace ExpansionHistory

/-- A call, answered or refused. -/
def step (env : Environment) (history : ExpansionHistory) : ExpansionCall → ExpansionHistory
  | .beginAttempt attemptId topology =>
      match history.controller.beginAttempt env attemptId topology with
      | .ok controller => { history with controller := controller }
      | .error _ => history
  | .finishAttempt attemptId =>
      match history.controller.finishAttempt attemptId with
      | .ok controller => { history with controller := controller }
      | .error _ => history
  | .processRound attemptId candidates cost latencyMs =>
      match history.controller.processRound env attemptId candidates cost latencyMs with
      | .ok (controller, result) =>
          { controller := controller
            rounds := history.rounds ++ [
              { candidates := candidates
                charged :=
                  if controller.iteration = history.controller.iteration then none
                  else cost.map fun cost => (cost, latencyMs)
                result := result }] }
      | .error _ => history

def run (env : Environment) (controller : ExpansionController) (calls : List ExpansionCall) :
    ExpansionHistory :=
  calls.foldl (step env) ⟨controller, []⟩

end ExpansionHistory

def emittedProposals (rounds : List AnsweredRound) : List ExpansionProposal :=
  rounds.flatMap (·.result.proposals)

def roundDecisions (rounds : List AnsweredRound) : List CandidateDecision :=
  rounds.flatMap (·.result.decisions)

def addedNodes (proposals : List ExpansionProposal) : Nat :=
  (proposals.map fun proposal => proposal.topologyDiff.addedNodeIds.length).sum

def accumulatedCost (rounds : List AnsweredRound) : Rat :=
  (rounds.map fun round => (round.charged.map Prod.fst).getD 0).sum

def accumulatedLatencyMs (rounds : List AnsweredRound) : Nat :=
  (rounds.map fun round => (round.charged.map fun charged => charged.2.toNat).getD 0).sum

/-- The decisions about a fingerprint that are more than finding it a duplicate. -/
def settledBy (fingerprint : String) (decision : CandidateDecision) : Bool :=
  decision.dedupeFingerprint = fingerprint ∧ decision.disposition ≠ .duplicate

/-! ## One candidate -/

/-- What decisions and proposals leave in a controller. -/
structure ExpansionKept (env : Environment) (policy : ExpansionPolicy) (base : ExecutionTopology)
    (offered : TopologyPatch → Prop) (controller : ExpansionController)
    (decisions : List CandidateDecision) (emitted : List ExpansionProposal) : Prop where
  policy_eq : controller.policy = policy
  base_eq : controller.baseTopology = base
  spawned : controller.spawnedNodes = min (addedNodes emitted) u32Max
  budget : controller.spawnedNodes ≤ policy.maxSpawnedNodes.toNat
  seen : ∀ decision ∈ decisions, decision.disposition ≠ .duplicate →
    decision.dedupeFingerprint = "" ∨ decision.dedupeFingerprint ∈ controller.seen
  once : ∀ fingerprint, fingerprint ≠ "" → decisions.countP (settledBy fingerprint) ≤ 1
  comesOf : ∀ proposal ∈ emitted, ∃ patch, offered patch ∧ proposal.ComesOf env base patch
  ids : (emitted.map (·.proposalId)).Nodup
  recorded : ∀ proposal ∈ emitted, proposal.proposalId ∈ controller.proposals

variable {env : Environment} {policy : ExpansionPolicy} {base : ExecutionTopology}
  {progress : RoundProgress} {candidate : ExpansionCandidate}
  {costExhausted latencyExhausted : Bool} {offered : TopologyPatch → Prop}
  {decisions : List CandidateDecision} {emitted : List ExpansionProposal}

section Candidate

variable {controller : ExpansionController}

theorem fingerprint_ne_empty {fingerprint : String}
    (h : CaseGraphen.fingerprint env policy candidate = .ok fingerprint) : fingerprint ≠ "" := by
  unfold CaseGraphen.fingerprint at h
  simp only [bind_eq_ok, pure_eq_ok] at h
  obtain ⟨-, -, selected, -, rfl⟩ := h
  intro hempty
  have hlength := congrArg String.length hempty
  rw [String.length_append] at hlength
  have hprefix : "sha256:".length = 7 := by decide
  have hnone : "".length = 0 := rfl
  omega

/-- The outcomes without a proposal, and the one with. -/
theorem outcome_cases :
    (∃ disposition finding, controller.outcome env candidate = (disposition, none, finding)) ∨
    ∃ built, controller.outcome env candidate = (.acceptedForProposal, some built, none) ∧
      candidate.requestedDisposition = .acceptForProposal ∧
      built.ComesOf env controller.baseTopology candidate.topologyPatch ∧
      ExpansionController.addedNodeCount built ≤
        controller.policy.maxSpawnedNodes.toNat - controller.spawnedNodes ∧
      built.proposalId ∉ controller.proposals := by
  unfold ExpansionController.outcome
  cases hrequest : candidate.requestedDisposition with
  | reject => exact .inl ⟨_, _, rfl⟩
  | defer => exact .inl ⟨_, _, rfl⟩
  | acceptForProposal =>
      cases hproposal : proposal env controller.baseTopology candidate.topologyPatch with
      | error finding => exact .inl ⟨_, _, rfl⟩
      | ok built =>
          simp only
          split
          · exact .inl ⟨_, _, rfl⟩
          · rename_i hbudget
            split
            · exact .inl ⟨_, _, rfl⟩
            · rename_i hnew
              exact .inr ⟨built, rfl, trivial, comesOf_of_proposal hproposal,
                Nat.le_of_not_lt hbudget, hnew⟩

theorem decideCandidate_cases :
    (∃ finding, decideCandidate env costExhausted latencyExhausted progress candidate =
      progress.decided ⟨"", .rejected, finding, none⟩) ∨
    (∃ fingerprint, decideCandidate env costExhausted latencyExhausted progress candidate =
      progress.decided ⟨fingerprint, .duplicate, none, none⟩) ∨
    (∃ fingerprint disposition finding, fingerprint ≠ "" ∧
      fingerprint ∉ progress.controller.seen ∧
      decideCandidate env costExhausted latencyExhausted progress candidate =
        (progress.marked fingerprint).decided ⟨fingerprint, disposition, finding, none⟩) ∨
    ∃ fingerprint built, fingerprint ≠ "" ∧ fingerprint ∉ progress.controller.seen ∧
      costExhausted = false ∧ latencyExhausted = false ∧
      candidate.requestedDisposition = .acceptForProposal ∧
      built.ComesOf env progress.controller.baseTopology candidate.topologyPatch ∧
      ExpansionController.addedNodeCount built ≤
        progress.controller.policy.maxSpawnedNodes.toNat - progress.controller.spawnedNodes ∧
      built.proposalId ∉ progress.controller.proposals ∧
      decideCandidate env costExhausted latencyExhausted progress candidate =
        ((progress.marked fingerprint).emitted built).decided
          ⟨fingerprint, .acceptedForProposal, none, some built.proposalId⟩ := by
  unfold decideCandidate
  cases hfingerprint : fingerprint env progress.controller.policy candidate with
  | error finding => exact .inl ⟨some finding, rfl⟩
  | ok fingerprint =>
      have hne := fingerprint_ne_empty hfingerprint
      by_cases hseen : fingerprint ∈ progress.controller.seen
      · simp only [hseen, if_true]
        exact .inr (.inl ⟨fingerprint, rfl⟩)
      · simp only [hseen, if_false]
        cases costExhausted with
        | true => exact .inr (.inr (.inl ⟨fingerprint, _, _, hne, hseen, rfl⟩))
        | false =>
            cases latencyExhausted with
            | true => exact .inr (.inr (.inl ⟨fingerprint, _, _, hne, hseen, rfl⟩))
            | false =>
                have houtcome := @outcome_cases env candidate progress.controller
                rcases houtcome with ⟨disposition, finding, houtcome⟩ |
                  ⟨built, houtcome, hrequest, hcomes, hbudget, hnew⟩
                · rw [houtcome]
                  exact .inr (.inr (.inl ⟨fingerprint, disposition, finding, hne, hseen, rfl⟩))
                · rw [houtcome]
                  exact .inr (.inr (.inr ⟨fingerprint, built, hne, hseen, rfl, rfl, hrequest,
                    hcomes, hbudget, hnew, rfl⟩))

namespace ExpansionKept

section

variable (h : ExpansionKept env policy base offered controller decisions emitted)

include h

theorem decide {decision : CandidateDecision}
    (hdecision : decision.disposition ≠ .duplicate → decision.dedupeFingerprint = "" ∨
      (decision.dedupeFingerprint ∈ controller.seen ∧
        ∀ earlier ∈ decisions, settledBy decision.dedupeFingerprint earlier = false)) :
    ExpansionKept env policy base offered controller (decisions ++ [decision]) emitted := by
  refine { h with seen := ?_, once := ?_ }
  · intro other hother hsettles
    rcases List.mem_append.mp hother with hother | hother
    · exact h.seen other hother hsettles
    · obtain rfl := List.mem_singleton.mp hother
      exact (hdecision hsettles).imp_right And.left
  · intro fingerprint hne
    have hearlier := h.once fingerprint hne
    rw [List.countP_append, List.countP_singleton]
    cases hsettled : settledBy fingerprint decision with
    | false => simpa using hearlier
    | true =>
        unfold settledBy at hsettled
        rw [decide_eq_true_iff] at hsettled
        obtain ⟨rfl, hsettles⟩ := hsettled
        rcases hdecision hsettles with hempty | ⟨-, hfirst⟩
        · exact absurd hempty hne
        · have hzero : decisions.countP (settledBy decision.dedupeFingerprint) = 0 := by
            rw [List.countP_eq_zero]
            intro earlier hmem
            rw [hfirst earlier hmem]
            exact Bool.false_ne_true
          rw [hzero]
          exact Nat.le_refl 1

theorem unsettled {fingerprint : String} (hne : fingerprint ≠ "")
    (hunseen : fingerprint ∉ controller.seen) :
    ∀ earlier ∈ decisions, settledBy fingerprint earlier = false := by
  intro earlier hmem
  unfold settledBy
  rw [decide_eq_false_iff_not]
  rintro ⟨hsame, hsettles⟩
  rcases h.seen earlier hmem hsettles with hempty | hseen
  · exact hne (hsame.symm.trans hempty)
  · rw [hsame] at hseen
    exact hunseen hseen

theorem mark (fingerprint : String) : ExpansionKept env policy base offered
      { controller with seen := controller.seen.insert fingerprint } decisions emitted := by
  refine { h with seen := ?_ }
  intro decision hmem hsettles
  exact (h.seen decision hmem hsettles).imp_right fun hseen => mem_insert.mpr (.inr hseen)

theorem emit {patch : TopologyPatch} {built : ExpansionProposal} (hoffered : offered patch)
    (hcomes : built.ComesOf env base patch) (hbudget : ExpansionController.addedNodeCount built ≤
      policy.maxSpawnedNodes.toNat - controller.spawnedNodes)
    (hnew : built.proposalId ∉ controller.proposals) :
    ExpansionKept env policy base offered (controller.emit built) decisions
      (emitted ++ [built]) := by
  have hspawned := h.spawned
  have hkept := h.budget
  have hall : addedNodes (emitted ++ [built]) =
      addedNodes emitted + built.topologyDiff.addedNodeIds.length := by
    simp [addedNodes]
  unfold ExpansionController.addedNodeCount at hbudget
  refine { h with spawned := ?_, budget := ?_, comesOf := ?_, ids := ?_, recorded := ?_ }
  · simp only [ExpansionController.emit, ExpansionController.addedNodeCount]
    rw [hall]
    omega
  · simp only [ExpansionController.emit, ExpansionController.addedNodeCount]
    omega
  · intro other hother
    rcases List.mem_append.mp hother with hother | hother
    · exact h.comesOf other hother
    · obtain rfl := List.mem_singleton.mp hother
      exact ⟨patch, hoffered, hcomes⟩
  · rw [List.map_append, List.map_singleton]
    refine List.Nodup.append h.ids (List.nodup_singleton _) ?_
    intro id hid hsame
    obtain ⟨other, hother, rfl⟩ := List.mem_map.mp hid
    rw [List.mem_singleton] at hsame
    rw [← hsame] at hnew
    exact hnew (h.recorded other hother)
  · intro other hother
    simp only [ExpansionController.emit, mem_map_insert]
    rcases List.mem_append.mp hother with hother | hother
    · exact .inr (h.recorded other hother)
    · obtain rfl := List.mem_singleton.mp hother
      exact .inl rfl

end

/-- Deciding a candidate keeps what the controller keeps. -/
theorem decideCandidate (h : ExpansionKept env policy base offered progress.controller
      (decisions ++ progress.decisions) (emitted ++ progress.created))
    (hoffered : candidate.requestedDisposition = .acceptForProposal →
      offered candidate.topologyPatch) :
    ExpansionKept env policy base offered
      (decideCandidate env costExhausted latencyExhausted progress candidate).controller
      (decisions ++
        (decideCandidate env costExhausted latencyExhausted progress candidate).decisions)
      (emitted ++
        (decideCandidate env costExhausted latencyExhausted progress candidate).created) := by
  have hcases := @decideCandidate_cases env progress candidate costExhausted latencyExhausted
  rcases hcases with ⟨finding, hcase⟩ | ⟨fingerprint, hcase⟩ |
    ⟨fingerprint, disposition, finding, hne, hunseen, hcase⟩ |
    ⟨fingerprint, built, hne, hunseen, -, -, hrequest, hcomes, hbudget, hnew, hcase⟩
  · rw [hcase]
    simp only [RoundProgress.decided, ← List.append_assoc]
    exact h.decide fun _ => .inl rfl
  · rw [hcase]
    simp only [RoundProgress.decided, ← List.append_assoc]
    exact h.decide fun hsettles => absurd rfl hsettles
  · rw [hcase]
    simp only [RoundProgress.decided, RoundProgress.marked, ← List.append_assoc]
    exact (h.mark fingerprint).decide fun _ =>
      .inr ⟨mem_insert.mpr (.inl rfl), h.unsettled hne hunseen⟩
  · rw [hcase]
    simp only [RoundProgress.decided, RoundProgress.emitted, RoundProgress.marked,
      ← List.append_assoc]
    rw [h.base_eq] at hcomes
    rw [h.policy_eq] at hbudget
    exact ((h.mark fingerprint).emit (hoffered hrequest) hcomes hbudget hnew).decide fun _ =>
      .inr ⟨mem_insert.mpr (.inl rfl), h.unsettled hne hunseen⟩

end ExpansionKept

/-- What deciding candidates never touches. -/
structure SameAccount (controller other : ExpansionController) : Prop where
  policy : other.policy = controller.policy
  baseTopologyHash : other.baseTopologyHash = controller.baseTopologyHash
  activeAttempt : other.activeAttempt = controller.activeAttempt
  iteration : other.iteration = controller.iteration
  totalCost : other.totalCost = controller.totalCost
  totalLatencyMs : other.totalLatencyMs = controller.totalLatencyMs

theorem sameAccount_decideCandidate : SameAccount progress.controller
    (decideCandidate env costExhausted latencyExhausted progress candidate).controller := by
  have hcases := @decideCandidate_cases env progress candidate costExhausted latencyExhausted
  rcases hcases with ⟨finding, hcase⟩ | ⟨fingerprint, hcase⟩ |
    ⟨fingerprint, disposition, finding, -, -, hcase⟩ |
    ⟨fingerprint, built, -, -, -, -, -, -, -, -, hcase⟩
  all_goals
    rw [hcase]
    exact ⟨rfl, rfl, rfl, rfl, rfl, rfl⟩

theorem created_decideCandidate_of_exhausted (h : costExhausted = true ∨ latencyExhausted = true) :
    (decideCandidate env costExhausted latencyExhausted progress candidate).created =
      progress.created := by
  have hcases := @decideCandidate_cases env progress candidate costExhausted latencyExhausted
  rcases hcases with ⟨finding, hcase⟩ | ⟨fingerprint, hcase⟩ |
    ⟨fingerprint, disposition, finding, -, -, hcase⟩ |
    ⟨fingerprint, built, -, -, hcost, hlatency, -⟩
  · rw [hcase]
    rfl
  · rw [hcase]
    rfl
  · rw [hcase]
    rfl
  · rw [hcost, hlatency] at h
    rcases h with h | h <;> cases h

end Candidate

variable {candidates : List ExpansionCandidate}

/-! ## One round -/

section Round

variable {controller after : ExpansionController} {attemptId : String} {accountedCost : Option Rat}
  {latencyMs : UInt64} {result : ExpansionRoundResult}

theorem ExpansionKept.foldl_decideCandidate
    (h : ExpansionKept env policy base offered progress.controller
      (decisions ++ progress.decisions) (emitted ++ progress.created))
    (hoffered : ∀ candidate ∈ candidates,
      candidate.requestedDisposition = .acceptForProposal → offered candidate.topologyPatch) :
    ExpansionKept env policy base offered
      (candidates.foldl (CaseGraphen.decideCandidate env costExhausted latencyExhausted)
        progress).controller
      (decisions ++ (candidates.foldl
        (CaseGraphen.decideCandidate env costExhausted latencyExhausted) progress).decisions)
      (emitted ++ (candidates.foldl
        (CaseGraphen.decideCandidate env costExhausted latencyExhausted) progress).created) := by
  induction candidates generalizing progress with
  | nil => exact h
  | cons candidate candidates ih =>
      exact ih (h.decideCandidate (hoffered candidate List.mem_cons_self)) fun other hother =>
        hoffered other (List.mem_cons_of_mem candidate hother)

theorem sameAccount_foldl : SameAccount progress.controller
    (candidates.foldl (decideCandidate env costExhausted latencyExhausted)
      progress).controller := by
  induction candidates generalizing progress with
  | nil => exact ⟨rfl, rfl, rfl, rfl, rfl, rfl⟩
  | cons candidate candidates ih =>
      have hstep := @sameAccount_decideCandidate env progress candidate costExhausted
        latencyExhausted
      have hrest := @ih (decideCandidate env costExhausted latencyExhausted progress candidate)
      exact ⟨hrest.policy.trans hstep.policy,
        hrest.baseTopologyHash.trans hstep.baseTopologyHash,
        hrest.activeAttempt.trans hstep.activeAttempt, hrest.iteration.trans hstep.iteration,
        hrest.totalCost.trans hstep.totalCost, hrest.totalLatencyMs.trans hstep.totalLatencyMs⟩

theorem created_foldl_of_exhausted (h : costExhausted = true ∨ latencyExhausted = true) :
    (candidates.foldl (decideCandidate env costExhausted latencyExhausted) progress).created =
      progress.created := by
  induction candidates generalizing progress with
  | nil => rfl
  | cons candidate candidates ih => rw [List.foldl_cons, ih, created_decideCandidate_of_exhausted h]

/-- A round is refused for good once the iterations are used up, or charged and decided. -/
theorem processRound_cases
    (h : controller.processRound env attemptId candidates accountedCost latencyMs =
      .ok (after, result)) :
    (after = controller ∧ result.decisions = [] ∧ result.proposals = []) ∨
    ∃ cost dryRounds, accountedCost = some cost ∧
      controller.iteration < controller.policy.maxIterations.toNat ∧
      after = { ((controller.charge cost latencyMs).decideAll env candidates).controller with
        dryRounds := dryRounds } ∧
      result.decisions = ((controller.charge cost latencyMs).decideAll env candidates).decisions ∧
      result.proposals = ((controller.charge cost latencyMs).decideAll env candidates).created := by
  unfold ExpansionController.processRound at h
  rw [bind_eq_ok] at h
  obtain ⟨-, -, h⟩ := h
  split at h
  · cases h
    exact .inl ⟨rfl, rfl, rfl⟩
  · rename_i hmore
    rw [bind_eq_ok] at h
    obtain ⟨cost, hcost, h⟩ := h
    cases h
    rw [orError_eq_ok, Option.filter_eq_some_iff] at hcost
    exact .inr ⟨cost, _, hcost.1, Nat.lt_of_not_le hmore, rfl, rfl, rfl⟩

end Round

/-! ## Whole runs -/

def WithinLimits (policy : ExpansionPolicy) (rounds : List AnsweredRound) : Prop :=
  (∀ maxCost, policy.maxCost = some maxCost → accumulatedCost rounds < maxCost) ∧
    accumulatedLatencyMs rounds < policy.maxLatencyMs.toNat

/-- What every sequence of calls keeps. -/
structure HistoryKept (env : Environment) (policy : ExpansionPolicy) (base : ExecutionTopology)
    (offered : TopologyPatch → Prop) (history : ExpansionHistory) : Prop where
  kept : ExpansionKept env policy base offered history.controller (roundDecisions history.rounds)
    (emittedProposals history.rounds)
  iteration : history.controller.iteration ≤ policy.maxIterations.toNat
  cost : history.controller.totalCost = accumulatedCost history.rounds
  latency : history.controller.totalLatencyMs =
    min (accumulatedLatencyMs history.rounds) u64Max
  within : ∀ earlier round later, history.rounds = earlier ++ round :: later →
    round.result.proposals ≠ [] → WithinLimits policy (earlier ++ [round])

section Runs

variable {controller after : ExpansionController} {rounds : List AnsweredRound}
  {round : AnsweredRound} {history : ExpansionHistory}

theorem accumulatedCost_concat : accumulatedCost (rounds ++ [round]) =
    accumulatedCost rounds + (round.charged.map Prod.fst).getD 0 := by
  unfold accumulatedCost
  rw [List.map_append, List.sum_append, List.map_singleton, List.sum_singleton]

theorem accumulatedLatencyMs_concat : accumulatedLatencyMs (rounds ++ [round]) =
    accumulatedLatencyMs rounds +
      (round.charged.map fun charged => charged.2.toNat).getD 0 := by
  unfold accumulatedLatencyMs
  rw [List.map_append, List.sum_append, List.map_singleton, List.sum_singleton]

/-- A round more, which may only propose within the limits. -/
theorem within_concat (h : ∀ earlier round later, rounds = earlier ++ round :: later →
      round.result.proposals ≠ [] → WithinLimits policy (earlier ++ [round]))
    (hround : round.result.proposals ≠ [] → WithinLimits policy (rounds ++ [round])) :
    ∀ earlier other later, rounds ++ [round] = earlier ++ other :: later →
      other.result.proposals ≠ [] → WithinLimits policy (earlier ++ [other]) := by
  intro earlier other later hsplit hproposals
  rcases List.eq_nil_or_concat later with rfl | ⟨later, last, rfl⟩
  · obtain ⟨rfl, hlast⟩ := List.append_inj' hsplit rfl
    cases hlast
    exact hround hproposals
  · rw [List.concat_eq_append, ← List.cons_append, ← List.append_assoc] at hsplit
    obtain ⟨hrounds, -⟩ := List.append_inj' hsplit rfl
    exact h earlier other later hrounds hproposals

theorem withinLimits_of_charge {cost : Rat} {latencyMs : UInt64}
    (hcost : controller.totalCost = accumulatedCost rounds)
    (hlatency : controller.totalLatencyMs = min (accumulatedLatencyMs rounds) u64Max)
    (hcharged : round.charged = some (cost, latencyMs))
    (hcostLeft : (controller.charge cost latencyMs).costExhausted = false)
    (hlatencyLeft : (controller.charge cost latencyMs).latencyExhausted = false) :
    WithinLimits controller.policy (rounds ++ [round]) := by
  constructor
  · intro maxCost hmax
    unfold ExpansionController.costExhausted ExpansionController.charge at hcostLeft
    rw [hmax, Option.any_some, decide_eq_false_iff_not, hcost] at hcostLeft
    rw [accumulatedCost_concat, hcharged]
    exact Rat.not_le.mp hcostLeft
  · unfold ExpansionController.latencyExhausted ExpansionController.charge at hlatencyLeft
    rw [decide_eq_false_iff_not] at hlatencyLeft
    have hbound := controller.policy.maxLatencyMs.toNat_lt
    rw [accumulatedLatencyMs_concat, hcharged]
    simp only [hlatency, u64Max] at hlatencyLeft
    simp only [Option.map_some, Option.getD_some]
    omega

theorem historyKept_new (h : ExpansionController.new env policy base = .ok controller) :
    HistoryKept env policy base offered ⟨controller, []⟩ := by
  unfold ExpansionController.new at h
  split at h
  · cases h
    refine ⟨⟨rfl, rfl, rfl, Nat.zero_le _, nofun, fun _ _ => Nat.zero_le 1, nofun,
      List.nodup_nil, nofun⟩, Nat.zero_le _, rfl, rfl, ?_⟩
    intro earlier round later hsplit
    simp at hsplit
  · cases h

section

variable (h : HistoryKept env policy base offered history)

include h

theorem HistoryKept.attempt (attempt : Option String) : HistoryKept env policy base offered
      { history with controller := { history.controller with activeAttempt := attempt } } := by
  exact ⟨{ h.kept with }, h.iteration, h.cost, h.latency, h.within⟩

theorem HistoryKept.idle (huncharged : round.charged = none)
    (hdecisions : round.result.decisions = []) (hproposals : round.result.proposals = []) :
    HistoryKept env policy base offered { history with rounds := history.rounds ++ [round] } := by
  have hdecided : roundDecisions (history.rounds ++ [round]) = roundDecisions history.rounds := by
    simp [roundDecisions, hdecisions]
  have hemitted : emittedProposals (history.rounds ++ [round]) =
      emittedProposals history.rounds := by
    simp [emittedProposals, hproposals]
  refine ⟨?_, h.iteration, ?_, ?_, within_concat h.within fun hsome => absurd hproposals hsome⟩
  · rw [hdecided, hemitted]
    exact h.kept
  · rw [accumulatedCost_concat, huncharged]
    exact h.cost.trans (Rat.add_zero _).symm
  · rw [accumulatedLatencyMs_concat, huncharged]
    exact h.latency

/-- A round that is charged and decided keeps it all. -/
theorem HistoryKept.decided {candidates : List ExpansionCandidate} {cost : Rat} {latencyMs : UInt64}
    {dryRounds : Nat} (hoffered : ∀ candidate ∈ candidates,
      candidate.requestedDisposition = .acceptForProposal → offered candidate.topologyPatch)
    (hmore : history.controller.iteration < history.controller.policy.maxIterations.toNat)
    (hafter : after =
      { ((history.controller.charge cost latencyMs).decideAll env candidates).controller with
        dryRounds := dryRounds }) (hcharged : round.charged = some (cost, latencyMs))
    (hdecisions : round.result.decisions =
      ((history.controller.charge cost latencyMs).decideAll env candidates).decisions)
    (hproposals : round.result.proposals =
      ((history.controller.charge cost latencyMs).decideAll env candidates).created) :
    HistoryKept env policy base offered ⟨after, history.rounds ++ [round]⟩ := by
  have hpolicy := h.kept.policy_eq
  have hcharge : ExpansionKept env policy base offered (history.controller.charge cost latencyMs)
      (roundDecisions history.rounds ++ []) (emittedProposals history.rounds ++ []) := by
    rw [List.append_nil, List.append_nil]
    exact { h.kept with }
  have hkept := @ExpansionKept.foldl_decideCandidate env policy base
    ⟨history.controller.charge cost latencyMs, 0, [], []⟩
    (history.controller.charge cost latencyMs).costExhausted
    (history.controller.charge cost latencyMs).latencyExhausted _ _ _ candidates hcharge hoffered
  have haccount := @sameAccount_foldl env
    ⟨history.controller.charge cost latencyMs, 0, [], []⟩
    (history.controller.charge cost latencyMs).costExhausted
    (history.controller.charge cost latencyMs).latencyExhausted candidates
  have hdecided : roundDecisions (history.rounds ++ [round]) =
      roundDecisions history.rounds ++ round.result.decisions := by
    simp [roundDecisions]
  have hemitted : emittedProposals (history.rounds ++ [round]) =
      emittedProposals history.rounds ++ round.result.proposals := by
    simp [emittedProposals]
  subst hafter
  refine ⟨?_, ?_, ?_, ?_, within_concat h.within fun hsome => ?_⟩
  · simp only [hdecided, hemitted, hdecisions, hproposals]
    exact { hkept with }
  · have hsucc := haccount.iteration
    rw [hpolicy] at hmore
    exact hsucc ▸ hmore
  · simp only [accumulatedCost_concat, hcharged]
    exact haccount.totalCost.trans (congrArg (· + cost) h.cost)
  · simp only [accumulatedLatencyMs_concat, hcharged]
    refine haccount.totalLatencyMs.trans ?_
    simp only [ExpansionController.charge, h.latency, Option.map_some, Option.getD_some]
    omega
  · rw [← hpolicy]
    -- an exhausted round creates nothing
    have hleft : ¬((history.controller.charge cost latencyMs).costExhausted = true ∨
        (history.controller.charge cost latencyMs).latencyExhausted = true) := by
      intro hexhausted
      exact hsome (hproposals.trans (created_foldl_of_exhausted hexhausted))
    rw [not_or, Bool.not_eq_true, Bool.not_eq_true] at hleft
    exact withinLimits_of_charge h.cost h.latency hcharged hleft.1 hleft.2

theorem HistoryKept.step {call : ExpansionCall} (hoffered : ∀ candidate ∈ call.candidates,
      candidate.requestedDisposition = .acceptForProposal → offered candidate.topologyPatch) :
    HistoryKept env policy base offered (history.step env call) := by
  cases call with
  | beginAttempt attemptId topology =>
      unfold ExpansionHistory.step
      cases hbegin : history.controller.beginAttempt env attemptId topology with
      | error finding =>
          simp only [hbegin]
          exact h
      | ok controller =>
          simp only [hbegin]
          unfold ExpansionController.beginAttempt at hbegin
          simp only [bind_eq_ok, pure_eq_ok] at hbegin
          obtain ⟨-, -, -, -, -, -, rfl⟩ := hbegin
          exact h.attempt _
  | finishAttempt attemptId =>
      unfold ExpansionHistory.step
      cases hfinish : history.controller.finishAttempt attemptId with
      | error finding =>
          simp only [hfinish]
          exact h
      | ok controller =>
          simp only [hfinish]
          unfold ExpansionController.finishAttempt at hfinish
          simp only [bind_eq_ok, pure_eq_ok] at hfinish
          obtain ⟨-, -, rfl⟩ := hfinish
          exact h.attempt _
  | processRound attemptId candidates cost latencyMs =>
      unfold ExpansionHistory.step
      cases hround : history.controller.processRound env attemptId candidates cost latencyMs with
      | error finding =>
          simp only [hround]
          exact h
      | ok answered =>
          obtain ⟨controller, result⟩ := answered
          simp only [hround]
          rcases processRound_cases hround with ⟨rfl, hdecisions, hproposals⟩ |
            ⟨cost, dryRounds, rfl, hmore, hafter, hdecisions, hproposals⟩
          · exact h.idle (if_pos rfl) hdecisions hproposals
          · refine h.decided hoffered hmore hafter (if_neg ?_) hdecisions hproposals
            have hsucc := (@sameAccount_foldl env
              ⟨history.controller.charge cost latencyMs, 0, [], []⟩
              (history.controller.charge cost latencyMs).costExhausted
              (history.controller.charge cost latencyMs).latencyExhausted candidates).iteration
            rw [hafter]
            exact fun hsame => Nat.succ_ne_self _ (hsucc.symm.trans hsame)

theorem HistoryKept.run {calls : List ExpansionCall}
    (hoffered : ∀ patch ∈ offeredPatches calls, offered patch) :
    HistoryKept env policy base offered (calls.foldl (ExpansionHistory.step env) history) := by
  induction calls generalizing history with
  | nil => exact h
  | cons call calls ih =>
      unfold offeredPatches at hoffered
      rw [List.flatMap_cons, List.filter_append, List.map_append] at hoffered
      refine ih (h.step fun candidate hcandidate hrequest => ?_) fun patch hpatch =>
        hoffered patch (List.mem_append.mpr (.inr hpatch))
      refine hoffered _ (List.mem_append.mpr (.inl (List.mem_map.mpr ⟨candidate, ?_, rfl⟩)))
      exact List.mem_filter.mpr ⟨hcandidate, decide_eq_true hrequest⟩

end

end Runs

/-! ## Offers that are taken -/

section Offers

variable {controller : ExpansionController} {fingerprint : String} {built : ExpansionProposal}

theorem beginAttempt_of_idle
    (hhash : executionTopologyContentHash env base = controller.baseTopologyHash)
    (hidle : controller.activeAttempt = none) :
    controller.beginAttempt env "attempt" base =
      .ok { controller with activeAttempt := some "attempt" } := by
  have hnamed : isBlank "attempt" = false := by decide
  unfold ExpansionController.beginAttempt
  rw [ensure_pos hhash, ok_bind, hidle, ensure_pos hnamed]
  rfl

/-- A free round, decided. -/
theorem processRound_of_active (hactive : controller.activeAttempt = some "attempt")
    (hmore : controller.iteration < controller.policy.maxIterations.toNat) :
    ∃ after result, controller.processRound env "attempt" candidates (some 0) 0 =
        .ok (after, result) ∧
      after.spawnedNodes =
        ((controller.charge 0 0).decideAll env candidates).controller.spawnedNodes ∧
      result.proposals = ((controller.charge 0 0).decideAll env candidates).created := by
  have hfree : (some (0 : Rat)).filter (fun cost => 0 ≤ cost) = some 0 := by decide
  unfold ExpansionController.processRound
  rw [ensure_pos hactive, ok_bind, if_neg (Nat.not_le.mpr hmore), hfree]
  exact ⟨_, _, rfl, rfl, rfl⟩

/-- A run of one attempt with one free round. -/
theorem run_round (hnew : ExpansionController.new env policy base = .ok controller)
    (hmore : 0 < policy.maxIterations.toNat) :
    ∃ charged : ExpansionController, charged.policy = policy ∧ charged.baseTopology = base ∧
      charged.seen = ∅ ∧ charged.spawnedNodes = 0 ∧ charged.totalCost = 0 ∧
      charged.totalLatencyMs = 0 ∧ charged.proposals = ∅ ∧
      (ExpansionHistory.run env controller [.beginAttempt "attempt" base,
        .processRound "attempt" candidates (some 0) 0]).controller.spawnedNodes =
          (charged.decideAll env candidates).controller.spawnedNodes ∧
      emittedProposals (ExpansionHistory.run env controller [.beginAttempt "attempt" base,
        .processRound "attempt" candidates (some 0) 0]).rounds =
          (charged.decideAll env candidates).created := by
  have hinitial : controller.policy = policy ∧ controller.baseTopology = base ∧
      controller.baseTopologyHash = executionTopologyContentHash env base ∧
      controller.activeAttempt = none ∧ controller.seen = ∅ ∧ controller.iteration = 0 ∧
      controller.spawnedNodes = 0 ∧ controller.totalCost = 0 ∧ controller.totalLatencyMs = 0 ∧
      controller.proposals = ∅ := by
    unfold ExpansionController.new at hnew
    split at hnew
    · cases hnew
      exact ⟨rfl, rfl, rfl, rfl, rfl, rfl, rfl, rfl, rfl, rfl⟩
    · cases hnew
  obtain ⟨hpolicy, hbase, hhash, hidle, hseen, hiteration, hspawned, hcost, hlatency,
    hproposals⟩ := hinitial
  obtain ⟨after, result, hround, hafter, hresult⟩ :=
    @processRound_of_active env candidates { controller with activeAttempt := some "attempt" } rfl
      (by rw [hiteration, hpolicy]; exact hmore)
  refine ⟨({ controller with activeAttempt := some "attempt" } : ExpansionController).charge 0 0,
    hpolicy, hbase, hseen, hspawned, ?_, ?_, hproposals, ?_⟩
  · exact (Rat.add_zero _).trans hcost
  · rw [hlatency]
    rfl
  · unfold ExpansionHistory.run
    simp only [List.foldl_cons, List.foldl_nil, ExpansionHistory.step,
      beginAttempt_of_idle hhash.symm hidle, hround]
    refine ⟨hafter, ?_⟩
    unfold emittedProposals
    rw [List.nil_append, List.flatMap_singleton]
    exact hresult

/-- A new candidate within the budgets whose patch applies is proposed. -/
theorem decideCandidate_of_offer (hrequest : candidate.requestedDisposition = .acceptForProposal)
    (hfingerprint : CaseGraphen.fingerprint env progress.controller.policy candidate =
      .ok fingerprint) (hunseen : fingerprint ∉ progress.controller.seen)
    (hproposal : proposal env progress.controller.baseTopology candidate.topologyPatch = .ok built)
    (hbudget : ExpansionController.addedNodeCount built ≤
      progress.controller.policy.maxSpawnedNodes.toNat - progress.controller.spawnedNodes)
    (hnew : built.proposalId ∉ progress.controller.proposals) :
    decideCandidate env false false progress candidate =
      ((progress.marked fingerprint).emitted built).decided
        ⟨fingerprint, .acceptedForProposal, none, some built.proposalId⟩ := by
  unfold decideCandidate ExpansionController.outcome
  simp only [hfingerprint, hunseen, hrequest, hproposal, Nat.not_lt.mpr hbudget, hnew, if_false]
  rfl

theorem fingerprint_of_value {key value : String}
    (hschema : candidate.candidateSchemaId = policy.candidateSchemaId)
    (hkey : policy.dedupeKey = [key]) (hvalues : candidate.dedupeValues[key]? = some value)
    (hvalue : value ≠ "") : CaseGraphen.fingerprint env policy candidate =
      .ok ("sha256:" ++ digest env (.object
        (((∅ : ExtTreeMap String String).insert key value).toList.map fun row =>
          (row.1, Json.string row.2)))) := by
  have hkept : (some value).filter (fun value => value ≠ "") = some value := by simp [hvalue]
  have hselected : selectedValues candidate policy.dedupeKey =
      .ok ((∅ : ExtTreeMap String String).insert key value) := by
    unfold selectedValues
    rw [hkey, List.foldlM_cons, hvalues, hkept]
    rfl
  unfold CaseGraphen.fingerprint
  rw [ensure_pos hschema, ok_bind, hselected]
  rfl

end Offers

end CaseGraphen
