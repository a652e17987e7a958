import CaseGraphen.Lib.OrderedMap
import CaseGraphen.ReviewTiers

/-!
# Collapsing duplicate findings

Findings of one author with one text at one place are collapsed to the first of them. The
key they are collapsed by reads neither the typename of the author nor whether the finding
was edited, and a merged finding is actionable when one of the duplicates was. So what was
decided before can change, and it is told when.
-/

namespace CaseGraphen.Github

open OrderedMap Sorting Std

/-! ## The collapse -/

/-- What duplicates agree on: author, text, path, review state, commit, thread, resolution. -/
abbrev CollapseKey : Type :=
  Pair (Pair String String) (Pair (Pair (Option String) (Option String))
    (Pair (Option String) (Pair (Option String) (Option Bool))))

def collapseKey (finding : ReviewFinding) (authorId : String) : CollapseKey :=
  ⟨⟨authorId, finding.bodyContentHash⟩, ⟨finding.path, finding.reviewState⟩,
    ⟨finding.commitSha, finding.thread.map (·.threadId), finding.thread.map (·.resolved)⟩⟩

def groupKey (finding : ReviewFinding) : Option CollapseKey :=
  finding.author.id.map (collapseKey finding)

/-- Findings in the order they were written, and then of their urls. -/
def authoredOrder : ReviewFinding → ReviewFinding → Ordering :=
  compareLex (compareOn ReviewFinding.authoredAt) (compareOn ReviewFinding.url)

instance : TransCmp authoredOrder :=
  inferInstanceAs
    (TransCmp (compareLex (compareOn ReviewFinding.authoredAt) (compareOn ReviewFinding.url)))

def groupOf (findings : List ReviewFinding) (key : CollapseKey) : List ReviewFinding :=
  findings.filter fun finding => groupKey finding = some key

/-- The first of a group stands for it, actionable when one of the group is. -/
def representative (group : List ReviewFinding) : Option ReviewFinding :=
  (sortBy authoredOrder group).head?.map fun first =>
    { first with
      duplicateCount := group.length
      actionable := group.any (·.actionable) }

def collapseDuplicateFindings (findings : List ReviewFinding) : List ReviewFinding :=
  let keys := distinct (findings.filterMap groupKey)
  let collapsed := keys.filterMap fun key => representative (groupOf findings key)
  let unattributed := findings.filter fun finding => finding.author.id = none
  sortBy authoredOrder (collapsed ++ unattributed)

variable {key : CollapseKey}

/-! ## What is left -/

section Survivors

variable {findings : List ReviewFinding} {finding other : ReviewFinding}

def Survives (findings : List ReviewFinding) (finding : ReviewFinding) : Prop :=
  finding ∈ findings ∧ ∀ key, groupKey finding = some key →
    FirstIn authoredOrder (groupOf findings key) finding

/-- A finding as it stands after the collapse, if it is still there. -/
def merged (findings : List ReviewFinding) (finding : ReviewFinding) : ReviewFinding :=
  match groupKey finding with
  | none => finding
  | some key =>
      { finding with
        duplicateCount := (groupOf findings key).length
        actionable := (groupOf findings key).any (·.actionable) }

theorem groupKey_eq_none : groupKey finding = none ↔ finding.author.id = none :=
  Option.map_eq_none_iff

theorem mem_groupOf :
    other ∈ groupOf findings key ↔ other ∈ findings ∧ groupKey other = some key := by
  simp [groupOf]

theorem of_groupKey_eq (h : groupKey finding = some key) (h' : groupKey other = some key) :
    finding.author.id = other.author.id ∧ finding.path = other.path ∧
      finding.reviewState = other.reviewState ∧ finding.commitSha = other.commitSha ∧
      finding.thread.map (·.threadId) = other.thread.map (·.threadId) ∧
      finding.thread.map (·.resolved) = other.thread.map (·.resolved) := by
  obtain ⟨id, hid, rfl⟩ := Option.map_eq_some_iff.mp h
  obtain ⟨id', hid', hkey⟩ := Option.map_eq_some_iff.mp h'
  simp only [collapseKey, Pair.mk.injEq] at hkey
  obtain ⟨⟨rfl, -⟩, ⟨hpath, hstate⟩, hcommit, hthread, hresolved⟩ := hkey
  exact ⟨hid.trans hid'.symm, hpath.symm, hstate.symm, hcommit.symm, hthread.symm, hresolved.symm⟩

@[simp] theorem merged_author : (merged findings finding).author = finding.author := by
  unfold merged
  split <;> rfl

@[simp] theorem merged_findingId : (merged findings finding).findingId = finding.findingId := by
  unfold merged
  split <;> rfl

@[simp] theorem merged_edited : (merged findings finding).edited = finding.edited := by
  unfold merged
  split <;> rfl

@[simp] theorem merged_reviewState :
    (merged findings finding).reviewState = finding.reviewState := by
  unfold merged
  split <;> rfl

@[simp] theorem merged_commitSha : (merged findings finding).commitSha = finding.commitSha := by
  unfold merged
  split <;> rfl

@[simp] theorem merged_path : (merged findings finding).path = finding.path := by
  unfold merged
  split <;> rfl

@[simp] theorem merged_thread : (merged findings finding).thread = finding.thread := by
  unfold merged
  split <;> rfl

theorem representative_eq_some {collapsed : ReviewFinding} :
    representative (groupOf findings key) = some collapsed ↔
      ∃ first, Survives findings first ∧ groupKey first = some key ∧
        collapsed = merged findings first := by
  unfold representative
  simp only [Option.map_eq_some_iff, head?_sortBy]
  constructor
  · rintro ⟨first, hfirst, rfl⟩
    obtain ⟨hmem, hkey⟩ := mem_groupOf.mp hfirst.mem
    refine ⟨first, ⟨hmem, fun other hother => ?_⟩, hkey, ?_⟩
    · obtain rfl : key = other := Option.some.inj (hkey.symm.trans hother)
      exact hfirst
    · unfold merged
      rw [hkey]
  · rintro ⟨first, ⟨-, hfirst⟩, hkey, rfl⟩
    refine ⟨first, hfirst key hkey, ?_⟩
    unfold merged
    rw [hkey]

theorem mem_collapse {collapsed : ReviewFinding} :
    collapsed ∈ collapseDuplicateFindings findings ↔
      ∃ finding, Survives findings finding ∧ collapsed = merged findings finding := by
  unfold collapseDuplicateFindings
  simp only [mem_sortBy, List.mem_append, List.mem_filterMap, mem_distinct, List.mem_filter,
    decide_eq_true_eq, representative_eq_some]
  constructor
  · rintro (⟨key, -, first, hfirst, -, rfl⟩ | ⟨hmem, hid⟩)
    · exact ⟨first, hfirst, rfl⟩
    · have hnone := groupKey_eq_none.mpr hid
      refine ⟨collapsed, ⟨hmem, fun key hkey => ?_⟩, ?_⟩
      · rw [hnone] at hkey
        cases hkey
      · unfold merged
        rw [hnone]
  · rintro ⟨finding, hsurvives, rfl⟩
    cases hkey : groupKey finding with
    | none =>
        right
        unfold merged
        rw [hkey]
        exact ⟨hsurvives.1, groupKey_eq_none.mp hkey⟩
    | some key =>
        exact .inl ⟨key, ⟨finding, hsurvives.1, hkey⟩, finding, hsurvives, hkey, rfl⟩

theorem exists_survivor (h : finding ∈ findings) :
    ∃ survivor, Survives findings survivor ∧ groupKey survivor = groupKey finding ∧
      (groupKey finding = none → survivor = finding) := by
  cases hkey : groupKey finding with
  | none =>
      refine ⟨finding, ⟨h, fun key hsome => ?_⟩, hkey, fun _ => rfl⟩
      rw [hkey] at hsome
      cases hsome
  | some key =>
      have hne : groupOf findings key ≠ [] :=
        List.ne_nil_of_mem (mem_groupOf.mpr ⟨h, hkey⟩)
      obtain ⟨first, hfirst⟩ := @exists_firstIn _ authoredOrder _ _ hne
      obtain ⟨hmem, hkey'⟩ := mem_groupOf.mp hfirst.mem
      refine ⟨first, ⟨hmem, fun other hother => ?_⟩, hkey', nofun⟩
      obtain rfl : key = other := Option.some.inj (hkey'.symm.trans hother)
      exact hfirst

theorem merged_actionable :
    (merged findings finding).actionable = true ↔
      (groupKey finding = none ∧ finding.actionable = true) ∨
        ∃ key, groupKey finding = some key ∧
          ∃ other ∈ findings, groupKey other = some key ∧ other.actionable = true := by
  unfold merged
  cases hkey : groupKey finding with
  | none => simp
  | some key => simp [List.any_eq_true, mem_groupOf, and_assoc]

theorem nodup_collapse (hids : (findings.map (·.findingId)).Nodup) :
    ((collapseDuplicateFindings findings).map (·.findingId)).Nodup := by
  have hinj := List.inj_on_of_nodup_map hids
  unfold collapseDuplicateFindings
  rw [((sortBy_perm _ _).map _).nodup_iff, List.map_append, List.nodup_append']
  refine ⟨?_, hids.sublist (List.filter_sublist.map _), fun id hcollapsed hunattributed => ?_⟩
  · rw [List.nodup_iff_pairwise_ne, List.pairwise_map, List.pairwise_filterMap]
    refine (nodup_distinct _).imp fun {key key'} hne a ha b hb heq => hne ?_
    obtain ⟨first, hfirst, hkey, rfl⟩ := representative_eq_some.mp ha
    obtain ⟨first', hfirst', hkey', rfl⟩ := representative_eq_some.mp hb
    rw [merged_findingId, merged_findingId] at heq
    obtain rfl : first = first' := hinj hfirst.1 hfirst'.1 heq
    exact Option.some.inj (hkey.symm.trans hkey')
  · -- a finding without an author is in no group
    obtain ⟨a, ha, rfl⟩ := List.mem_map.mp hcollapsed
    obtain ⟨b, hb, hid⟩ := List.mem_map.mp hunattributed
    obtain ⟨key, -, hrep⟩ := List.mem_filterMap.mp ha
    obtain ⟨first, hfirst, hkey, rfl⟩ := representative_eq_some.mp hrep
    obtain ⟨hmem, hnone⟩ := List.mem_filter.mp hb
    rw [merged_findingId] at hid
    obtain rfl : b = first := hinj hmem hfirst.1 hid
    rw [groupKey_eq_none.mpr (of_decide_eq_true hnone)] at hkey
    cases hkey

theorem groupKey_merged : groupKey (merged findings finding) = groupKey finding := by
  unfold merged
  split <;> rfl

end Survivors

/-! ## What the decisions read -/

section Decisions

variable (observation : PrObservation) (findings : List ReviewFinding)
  (checks : List CheckEvidence)

def RoleGiven (authorId : String) (role : EvidenceRole) : Prop :=
  ∃ finding ∈ findings, finding.author.id = some authorId ∧
    (findingRole observation findings checks finding).1 = role

def UnresolvedThread (requireIndependentReview : Bool) (threadId : String) : Prop :=
  ∃ finding ∈ findings,
    finding.findingId ∈ (evaluateIndependence observation findings checks
      requireIndependentReview).unresolvedActionableFindingIds ∧
    finding.thread.map (·.threadId) = some threadId

/-- The tier a finding has in the projection of a list of findings. -/
def TierGiven (requireIndependentReview : Bool) (finding : ReviewFinding) : ReviewTier → Prop :=
  AssignedTo (assignFindingTiers findings
    (evaluateIndependence observation findings checks requireIndependentReview)) finding.findingId

end Decisions

def ReviewTier.strength : ReviewTier → Nat
  | .mustReview => 2
  | .shouldReview => 1
  | .canSkim => 0

/-- Collapsing changes no decision: not the policy, the roles or the threads, and no finding
is in a weaker tier than a duplicate of it was. -/
structure DecisionsPreserved (observation : PrObservation) (findings : List ReviewFinding)
    (checks : List CheckEvidence) : Prop where
  satisfied : ∀ requireIndependentReview,
    (evaluateIndependence observation (collapseDuplicateFindings findings) checks
      requireIndependentReview).policy.satisfied =
    (evaluateIndependence observation findings checks requireIndependentReview).policy.satisfied
  roles : ∀ authorId role,
    RoleGiven observation (collapseDuplicateFindings findings) checks authorId role ↔
      RoleGiven observation findings checks authorId role
  threads : ∀ requireIndependentReview threadId,
    UnresolvedThread observation (collapseDuplicateFindings findings) checks
        requireIndependentReview threadId ↔
      UnresolvedThread observation findings checks requireIndependentReview threadId
  tiers : ∀ requireIndependentReview, ∀ member ∈ findings,
    ∀ collapsed ∈ collapseDuplicateFindings findings, ∀ key,
      groupKey member = some key → groupKey collapsed = some key → ∀ tier tier',
        TierGiven observation findings checks requireIndependentReview member tier →
        TierGiven observation (collapseDuplicateFindings findings) checks
          requireIndependentReview collapsed tier' →
        tier.strength ≤ tier'.strength

def Outsider (observation : PrObservation) (id : String) : Prop :=
  id ∉ observation.implementationActors.actorIds ∧ hasBotMark id = false

/-- A user whose id, if there is one, is of no implementation actor and of no bot. -/
def Candidate (observation : PrObservation) (findings : List ReviewFinding)
    (checks : List CheckEvidence) (finding : ReviewFinding) : Prop :=
  finding.author.typename = some "User" ∧ ∀ id, finding.author.id = some id →
    id ∉ observation.implementationActors.actorIds ∧ ¬ BotAttested findings checks id

/-- No finding is dropped on which a decision rests. -/
structure NothingDecisiveDropped (observation : PrObservation) (findings : List ReviewFinding)
    (checks : List CheckEvidence) : Prop where
  attestations : ∀ finding ∈ findings, ∀ id, finding.author.id = some id →
    Outsider observation id → notUser finding.author.typename = true →
      (∃ check ∈ checks, ∃ creator, check.creator = some creator ∧ creator.id = id ∧
        creator.typename ≠ "User") ∨
      ∃ survivor, Survives findings survivor ∧ survivor.author.id = some id ∧
        notUser survivor.author.typename = true
  typenames : ∀ finding ∈ findings, ∀ id, finding.author.id = some id →
    Outsider observation id → ¬ BotAttested findings checks id →
      ∃ survivor, Survives findings survivor ∧ survivor.author.id = some id ∧
        survivor.author.typename = finding.author.typename
  approvals : ∀ finding ∈ findings, Candidate observation findings checks finding →
    approvesHead observation finding = true →
      ∃ survivor, Survives findings survivor ∧ Candidate observation findings checks survivor ∧
        approvesHead observation survivor = true
  objections : ∀ finding ∈ findings, Candidate observation findings checks finding →
    finding.actionable = false → finding.edited = false →
    approvesHead observation finding = false → ∀ key, groupKey finding = some key →
      ∀ survivor, Survives findings survivor → groupKey survivor = some key →
        ((∃ other ∈ findings, groupKey other = some key ∧ other.actionable = true) →
          survivor.inResolvedThread = false) ∧
        ((∀ other ∈ findings, groupKey other = some key → other.actionable = false) →
          survivor.edited = false ∧ survivor.author.typename = some "User")

/-! ## Roles -/

section Roles

variable {observation : PrObservation} {findings : List ReviewFinding}
  {checks : List CheckEvidence} {finding other : ReviewFinding} {id : String}

theorem botAttested_collapse :
    BotAttested (collapseDuplicateFindings findings) checks id ↔
      hasBotMark id = true ∨
      (∃ survivor, Survives findings survivor ∧ survivor.author.id = some id ∧
        notUser survivor.author.typename = true) ∨
      ∃ check ∈ checks, ∃ creator, check.creator = some creator ∧ creator.id = id ∧
        creator.typename ≠ "User" := by
  refine or_congr Iff.rfl (or_congr ⟨?_, ?_⟩ Iff.rfl)
  · rintro ⟨collapsed, hcollapsed, hid, huser⟩
    obtain ⟨survivor, hsurvives, rfl⟩ := mem_collapse.mp hcollapsed
    rw [merged_author] at hid huser
    exact ⟨survivor, hsurvives, hid, huser⟩
  · rintro ⟨survivor, hsurvives, hid, huser⟩
    refine ⟨merged findings survivor, mem_collapse.mpr ⟨survivor, hsurvives, rfl⟩, ?_, ?_⟩
    · rwa [merged_author]
    · rwa [merged_author]

theorem botAttested_of_collapse (h : BotAttested (collapseDuplicateFindings findings) checks id) :
    BotAttested findings checks id := by
  rcases botAttested_collapse.mp h with hmark | ⟨survivor, hsurvives, hid, huser⟩ | hcheck
  · exact .inl hmark
  · exact .inr (.inl ⟨survivor, hsurvives.1, hid, huser⟩)
  · exact .inr (.inr hcheck)

theorem findingRole_congr (h : finding.author.id = other.author.id)
    (h' : finding.author.typename = other.author.typename) :
    findingRole observation findings checks finding =
      findingRole observation findings checks other := by
  unfold findingRole
  rw [h, h']

theorem findingRole_of_actor (hid : finding.author.id = some id)
    (h : id ∈ observation.implementationActors.actorIds) :
    (findingRole observation findings checks finding).1 = .selfReview := by
  unfold findingRole classifyEvidenceRole
  simp [hid, h]

theorem findingRole_of_attested (hid : finding.author.id = some id)
    (h : id ∉ observation.implementationActors.actorIds) (hbot : BotAttested findings checks id) :
    (findingRole observation findings checks finding).1 = .automatedBot := by
  unfold findingRole classifyEvidenceRole
  rcases botAttested_iff.mp hbot with hmark | hmem
  · simp only [hid, Option.any_some, decide_eq_true_eq, h, if_false, hmark, if_true]
    split <;> rfl
  · simp only [hid, Option.any_some, decide_eq_true_eq, h, if_false, hmem, if_true]
    split_ifs <;> rfl

/-- Of an actor that nothing attests, the role tells the typename. -/
theorem typename_of_findingRole (hid : finding.author.id = some id)
    (hid' : other.author.id = some id) (h : Outsider observation id)
    {findings' : List ReviewFinding} (hbot : ¬ BotAttested findings checks id)
    (hbot' : ¬ BotAttested findings' checks id) (huser : notUser finding.author.typename = false)
    (huser' : notUser other.author.typename = false)
    (heq : (findingRole observation findings checks finding).1 =
      (findingRole observation findings' checks other).1) :
    finding.author.typename = other.author.typename := by
  have hmem : id ∉ computeBotAttestedIds findings checks := fun hin =>
    hbot (botAttested_iff.mpr (.inr hin))
  have hmem' : id ∉ computeBotAttestedIds findings' checks := fun hin =>
    hbot' (botAttested_iff.mpr (.inr hin))
  have honly : ∀ typename : Option String, notUser typename = false →
      typename = none ∨ typename = some "User" := by
    intro typename hnot
    cases typename with
    | none => exact .inl rfl
    | some text => exact .inr (by simpa [notUser] using hnot)
  unfold findingRole classifyEvidenceRole at heq
  simp only [hid, hid', Option.any_some, decide_eq_true_eq, h.1, h.2, hmem, hmem', huser, huser',
    if_false, Bool.false_eq_true] at heq
  rcases honly _ huser with hnone | hsome <;> rcases honly _ huser' with hnone' | hsome' <;>
    simp_all

/-- Attested outsiders of the capture are attested after the collapse too. -/
def AttestationsKept (observation : PrObservation) (findings : List ReviewFinding)
    (checks : List CheckEvidence) : Prop :=
  ∀ id, Outsider observation id → BotAttested findings checks id →
    BotAttested (collapseDuplicateFindings findings) checks id

theorem findingRole_merged (h : AttestationsKept observation findings checks) :
    (findingRole observation (collapseDuplicateFindings findings) checks
        (merged findings finding)).1 = (findingRole observation findings checks finding).1 := by
  unfold findingRole classifyEvidenceRole
  rw [merged_author]
  cases hid : finding.author.id with
  | none => rfl
  | some id =>
      simp only [Option.any_some, decide_eq_true_eq]
      by_cases hactor : id ∈ observation.implementationActors.actorIds
      · rw [if_pos hactor, if_pos hactor]
      · by_cases hmark : hasBotMark id = true
        · simp [hmark]
        · -- only an outsider's role reads who else is attested
          have hiff : id ∈ computeBotAttestedIds (collapseDuplicateFindings findings) checks ↔
              id ∈ computeBotAttestedIds findings checks := by
            constructor
            · intro hin
              exact (botAttested_iff.mp (botAttested_of_collapse
                (botAttested_iff.mpr (.inr hin)))).resolve_left hmark
            · intro hin
              exact (botAttested_iff.mp (h id ⟨hactor, Bool.eq_false_iff.mpr hmark⟩
                (botAttested_iff.mpr (.inr hin)))).resolve_left hmark
          simp only [hiff]

theorem candidate_iff : Candidate observation findings checks finding ↔
    (findingRole observation findings checks finding).1 = .independentHumanCandidate :=
  findingRole_eq_candidate.symm

end Roles

/-! ## The decisions before and after -/

section Agreement

variable {observation : PrObservation} {findings : List ReviewFinding} {checks : List CheckEvidence}
  {finding survivor : ReviewFinding}

theorem satisfied_iff : (evaluateIndependence observation findings checks true).policy.satisfied =
    true ↔ ∃ finding, finding ∈ countedApprovals observation findings checks := by
  have hsorted : (sort ((countedApprovals observation findings checks).map
      (·.findingId))).isEmpty = false ↔ countedApprovals observation findings checks ≠ [] := by
    rw [← Bool.not_eq_true, List.isEmpty_iff, sort, sortBy_eq_nil, List.map_eq_nil_iff]
  have hsatisfied : (evaluateIndependence observation findings checks true).policy.satisfied =
      !(sort ((countedApprovals observation findings checks).map (·.findingId))).isEmpty := rfl
  rw [hsatisfied, Bool.not_eq_true', hsorted]
  constructor
  · exact List.exists_mem_of_ne_nil _
  · rintro ⟨finding, hcounted⟩
    exact List.ne_nil_of_mem hcounted

theorem mem_countedApprovals_iff : finding ∈ countedApprovals observation findings checks ↔
    finding ∈ findings ∧ Candidate observation findings checks finding ∧
      approvesHead observation finding = true := by
  rw [mem_countedApprovals, candidate_iff, approvesHead, boundToHead, Bool.and_eq_true,
    decide_eq_true_eq, decide_eq_true_eq]
  tauto

theorem unresolvedThread_iff (hids : (findings.map (·.findingId)).Nodup)
    {requireIndependentReview : Bool} {threadId : String} :
    UnresolvedThread observation findings checks requireIndependentReview threadId ↔
      ∃ finding ∈ findings, finding.unresolvedActionable = true ∧
        finding.thread.map (·.threadId) = some threadId := by
  have hlisted : ∀ finding ∈ findings,
      (finding.findingId ∈ (evaluateIndependence observation findings checks
        requireIndependentReview).unresolvedActionableFindingIds ↔
          finding.unresolvedActionable = true) := fun finding hfinding =>
    mem_sort.trans (mem_ids_filter hids hfinding _)
  refine exists_congr fun finding => and_congr_right fun hfinding => ?_
  rw [hlisted finding hfinding]

theorem inResolvedThread_congr
    (h : finding.thread.map (·.resolved) = survivor.thread.map (·.resolved)) :
    finding.inResolvedThread = survivor.inResolvedThread := by
  unfold ReviewFinding.inResolvedThread
  cases hthread : finding.thread <;> cases hthread' : survivor.thread <;>
    rw [hthread, hthread'] at h <;> simp_all

theorem approvesHead_congr (h : finding.reviewState = survivor.reviewState)
    (h' : finding.commitSha = survivor.commitSha) :
    approvesHead observation finding = approvesHead observation survivor := by
  unfold approvesHead boundToHead
  rw [h, h']

theorem approvesHead_merged :
    approvesHead observation (merged findings finding) = approvesHead observation finding :=
  approvesHead_congr merged_reviewState merged_commitSha

theorem inResolvedThread_merged :
    (merged findings finding).inResolvedThread = finding.inResolvedThread := by
  unfold ReviewFinding.inResolvedThread
  rw [merged_thread]

theorem unresolvedThread_collapse (hids : (findings.map (·.findingId)).Nodup)
    {requireIndependentReview : Bool} {threadId : String} :
    UnresolvedThread observation (collapseDuplicateFindings findings) checks
        requireIndependentReview threadId ↔
      UnresolvedThread observation findings checks requireIndependentReview threadId := by
  rw [unresolvedThread_iff hids, unresolvedThread_iff (nodup_collapse hids)]
  unfold ReviewFinding.unresolvedActionable
  simp only [Bool.and_eq_true, Bool.not_eq_true']
  constructor
  · rintro ⟨collapsed, hcollapsed, ⟨hactionable, hresolved⟩, hthread⟩
    obtain ⟨survivor, hsurvives, rfl⟩ := mem_collapse.mp hcollapsed
    rw [inResolvedThread_merged] at hresolved
    rw [merged_thread] at hthread
    rcases merged_actionable.mp hactionable with
      ⟨-, hown⟩ | ⟨key, hkey, other, hother, hkey', hor⟩
    · exact ⟨survivor, hsurvives.1, ⟨hown, hresolved⟩, hthread⟩
    · obtain ⟨-, -, -, -, hsame, hsame'⟩ := of_groupKey_eq hkey' hkey
      exact ⟨other, hother, ⟨hor, (inResolvedThread_congr hsame').trans hresolved⟩,
        hsame.trans hthread⟩
  · rintro ⟨finding, hfinding, ⟨hactionable, hresolved⟩, hthread⟩
    obtain ⟨survivor, hsurvives, hkey, hself⟩ := exists_survivor hfinding
    refine ⟨merged findings survivor, mem_collapse.mpr ⟨survivor, hsurvives, rfl⟩, ?_⟩
    rw [inResolvedThread_merged, merged_thread, merged_actionable]
    cases hgroup : groupKey finding with
    | none =>
        obtain rfl := hself hgroup
        exact ⟨⟨.inl ⟨hgroup, hactionable⟩, hresolved⟩, hthread⟩
    | some key =>
        rw [hgroup] at hkey
        obtain ⟨-, -, -, -, hsame, hsame'⟩ := of_groupKey_eq hkey hgroup
        exact ⟨⟨.inr ⟨key, hkey, finding, hfinding, hgroup, hactionable⟩,
          (inResolvedThread_congr hsame').trans hresolved⟩, hsame.trans hthread⟩

theorem exists_survivor_author (h : finding ∈ findings) :
    ∃ survivor, Survives findings survivor ∧ survivor.author.id = finding.author.id := by
  obtain ⟨survivor, hsurvives, hkey, hself⟩ := exists_survivor h
  refine ⟨survivor, hsurvives, ?_⟩
  cases hgroup : groupKey finding with
  | none => rw [hself hgroup]
  | some key =>
      rw [hgroup] at hkey
      exact (of_groupKey_eq hkey hgroup).1

theorem NothingDecisiveDropped.of_preserved (hids : (findings.map (·.findingId)).Nodup)
    (h : DecisionsPreserved observation findings checks) :
    NothingDecisiveDropped observation findings checks := by
  have hattestations : ∀ finding ∈ findings, ∀ id, finding.author.id = some id →
      Outsider observation id → notUser finding.author.typename = true →
        (∃ check ∈ checks, ∃ creator, check.creator = some creator ∧ creator.id = id ∧
          creator.typename ≠ "User") ∨
        ∃ survivor, Survives findings survivor ∧ survivor.author.id = some id ∧
          notUser survivor.author.typename = true := by
    intro finding hfinding id hid houtside huser
    -- the actor is a bot before, so a finding of it is a bot's after
    have hbot : BotAttested findings checks id := .inr (.inl ⟨finding, hfinding, hid, huser⟩)
    obtain ⟨collapsed, hcollapsed, hid', hrole⟩ := (h.roles id .automatedBot).mpr
      ⟨finding, hfinding, hid, findingRole_of_attested hid houtside.1 hbot⟩
    obtain ⟨survivor, hsurvives, rfl⟩ := mem_collapse.mp hcollapsed
    rw [merged_author] at hid'
    by_cases hown : notUser survivor.author.typename = true
    · exact .inr ⟨survivor, hsurvives, hid', hown⟩
    · have hmem : id ∈ computeBotAttestedIds (collapseDuplicateFindings findings) checks := by
        by_contra hnot
        unfold findingRole classifyEvidenceRole at hrole
        simp only [merged_author, hid', Option.any_some, decide_eq_true_eq, houtside.1, houtside.2,
          hown, hnot, if_false, Bool.false_eq_true] at hrole
        split at hrole <;> cases hrole
      rcases botAttested_collapse.mp (botAttested_iff.mpr (.inr hmem)) with hmark | hfound | hcheck
      · rw [houtside.2] at hmark
        cases hmark
      · exact .inr hfound
      · exact .inl hcheck
  have hkept : AttestationsKept observation findings checks := by
    intro id houtside hbot
    rw [botAttested_collapse]
    rcases hbot with hmark | ⟨finding, hfinding, hid, huser⟩ | hcheck
    · exact .inl hmark
    · rcases hattestations finding hfinding id hid houtside huser with hcheck | hfound
      · exact .inr (.inr hcheck)
      · exact .inr (.inl hfound)
    · exact .inr (.inr hcheck)
  constructor
  · exact hattestations
  · intro finding hfinding id hid houtside hbot
    obtain ⟨collapsed, hcollapsed, hid', hrole⟩ := (h.roles id _).mpr ⟨finding, hfinding, hid, rfl⟩
    obtain ⟨survivor, hsurvives, rfl⟩ := mem_collapse.mp hcollapsed
    rw [merged_author] at hid'
    rw [findingRole_merged hkept] at hrole
    have hnot : ∀ other ∈ findings, other.author.id = some id →
        notUser other.author.typename = false := fun other hother hid =>
      Bool.eq_false_iff.mpr fun huser => hbot (.inr (.inl ⟨other, hother, hid, huser⟩))
    exact ⟨survivor, hsurvives, hid', typename_of_findingRole hid' hid houtside hbot hbot
      (hnot survivor hsurvives.1 hid') (hnot finding hfinding hid) hrole⟩
  · intro finding hfinding hcandidate happroves
    have hsatisfied := h.satisfied true
    rw [satisfied_iff.mpr ⟨finding, mem_countedApprovals_iff.mpr
      ⟨hfinding, hcandidate, happroves⟩⟩, satisfied_iff] at hsatisfied
    obtain ⟨collapsed, hcounted⟩ := hsatisfied
    obtain ⟨hcollapsed, hcandidate', happroves'⟩ := mem_countedApprovals_iff.mp hcounted
    obtain ⟨survivor, hsurvives, rfl⟩ := mem_collapse.mp hcollapsed
    rw [candidate_iff, findingRole_merged hkept, ← candidate_iff] at hcandidate'
    rw [approvesHead_merged] at happroves'
    exact ⟨survivor, hsurvives, hcandidate', happroves'⟩
  · intro finding hfinding hcandidate hactionable hedited happroves key hkey survivor hsurvives
      hkey'
    have hcollapsed := mem_collapse.mpr ⟨survivor, hsurvives, rfl⟩
    -- the finding must be reviewed, and so must what stands for it
    have hmust : findingTier observation findings checks finding = .mustReview :=
      findingTier_eq_mustReview.mpr (.inr ⟨hactionable, hedited, candidate_iff.mp hcandidate,
        happroves⟩)
    have hstrong := h.tiers false finding hfinding _ hcollapsed key hkey
      (groupKey_merged.trans hkey') _ _ (assignFindingTiers_assignedTo hids hfinding)
      (assignFindingTiers_assignedTo (nodup_collapse hids) hcollapsed)
    rw [hmust] at hstrong
    have hmust' : findingTier observation (collapseDuplicateFindings findings) checks
        (merged findings survivor) = .mustReview := by
      refine (findingTier_eq_or _ _ _ _).resolve_right fun hshould => ?_
      rw [hshould] at hstrong
      exact absurd hstrong (by decide)
    rw [findingTier_eq_mustReview, inResolvedThread_merged, merged_edited,
      findingRole_merged hkept] at hmust'
    constructor
    · intro hsome
      have hor : (merged findings survivor).actionable = true :=
        merged_actionable.mpr (.inr ⟨key, hkey', hsome⟩)
      rw [hor] at hmust'
      rcases hmust' with ⟨-, hresolved⟩ | ⟨hfalse, -⟩
      · exact hresolved
      · cases hfalse
    · intro hnone
      have hor : (merged findings survivor).actionable = false := by
        refine Bool.eq_false_iff.mpr fun hactionable => ?_
        rcases merged_actionable.mp hactionable with
          ⟨hno, -⟩ | ⟨other, hother, member, hmem, hgroup, hyes⟩
        · rw [hkey'] at hno
          cases hno
        · obtain rfl : key = other := Option.some.inj (hkey'.symm.trans hother)
          rw [hnone member hmem hgroup] at hyes
          cases hyes
      rw [hor] at hmust'
      rcases hmust' with ⟨hfalse, -⟩ | ⟨-, hedited', hrole, -⟩
      · cases hfalse
      · exact ⟨hedited', (candidate_iff.mpr hrole).1⟩

theorem NothingDecisiveDropped.preserved (hids : (findings.map (·.findingId)).Nodup)
    (h : NothingDecisiveDropped observation findings checks) :
    DecisionsPreserved observation findings checks := by
  have hkept : AttestationsKept observation findings checks := by
    intro id houtside hbot
    rw [botAttested_collapse]
    rcases hbot with hmark | ⟨finding, hfinding, hid, huser⟩ | hcheck
    · exact .inl hmark
    · rcases h.attestations finding hfinding id hid houtside huser with hcheck | hfound
      · exact .inr (.inr hcheck)
      · exact .inr (.inl hfound)
    · exact .inr (.inr hcheck)
  constructor
  · intro requireIndependentReview
    cases requireIndependentReview with
    | false => rfl
    | true =>
        rw [Bool.eq_iff_iff, satisfied_iff, satisfied_iff]
        constructor
        · rintro ⟨collapsed, hcounted⟩
          obtain ⟨hcollapsed, hcandidate, happroves⟩ := mem_countedApprovals_iff.mp hcounted
          obtain ⟨survivor, hsurvives, rfl⟩ := mem_collapse.mp hcollapsed
          rw [candidate_iff, findingRole_merged hkept, ← candidate_iff] at hcandidate
          rw [approvesHead_merged] at happroves
          exact ⟨survivor, mem_countedApprovals_iff.mpr ⟨hsurvives.1, hcandidate, happroves⟩⟩
        · rintro ⟨finding, hcounted⟩
          obtain ⟨hfinding, hcandidate, happroves⟩ := mem_countedApprovals_iff.mp hcounted
          obtain ⟨survivor, hsurvives, hcandidate', happroves'⟩ :=
            h.approvals finding hfinding hcandidate happroves
          refine ⟨merged findings survivor, mem_countedApprovals_iff.mpr
            ⟨mem_collapse.mpr ⟨survivor, hsurvives, rfl⟩, ?_, ?_⟩⟩
          · rw [candidate_iff, findingRole_merged hkept, ← candidate_iff]
            exact hcandidate'
          · rwa [approvesHead_merged]
  · intro id role
    constructor
    · rintro ⟨collapsed, hcollapsed, hid, hrole⟩
      obtain ⟨survivor, hsurvives, rfl⟩ := mem_collapse.mp hcollapsed
      rw [merged_author] at hid
      rw [findingRole_merged hkept] at hrole
      exact ⟨survivor, hsurvives.1, hid, hrole⟩
    · rintro ⟨finding, hfinding, hid, hrole⟩
      -- some survivor of the actor has the role the finding has
      obtain ⟨survivor, hsurvives, hid', hsame⟩ : ∃ survivor, Survives findings survivor ∧
          survivor.author.id = some id ∧
          (findingRole observation findings checks survivor).1 =
            (findingRole observation findings checks finding).1 := by
        obtain ⟨survivor, hsurvives, hauthor⟩ := exists_survivor_author hfinding
        have hid' := hauthor.trans hid
        by_cases hactor : id ∈ observation.implementationActors.actorIds
        · exact ⟨survivor, hsurvives, hid', by
            rw [findingRole_of_actor hid' hactor, findingRole_of_actor hid hactor]⟩
        · by_cases hbot : BotAttested findings checks id
          · exact ⟨survivor, hsurvives, hid', by
              rw [findingRole_of_attested hid' hactor hbot,
                findingRole_of_attested hid hactor hbot]⟩
          · have houtside : Outsider observation id :=
              ⟨hactor, Bool.eq_false_iff.mpr fun hmark => hbot (.inl hmark)⟩
            obtain ⟨other, hother, hid', htypename⟩ :=
              h.typenames finding hfinding id hid houtside hbot
            exact ⟨other, hother, hid', by
              rw [findingRole_congr (hid'.trans hid.symm) htypename]⟩
      refine ⟨merged findings survivor, mem_collapse.mpr ⟨survivor, hsurvives, rfl⟩, ?_, ?_⟩
      · rwa [merged_author]
      · rw [findingRole_merged hkept, hsame, hrole]
  · exact fun _ _ => unresolvedThread_collapse hids
  · intro requireIndependentReview member hmember collapsed hcollapsed key hkey hkey' tier tier'
      htier htier'
    obtain rfl := htier.unique (assignFindingTiers_assignedTo hids hmember)
    obtain rfl := htier'.unique (assignFindingTiers_assignedTo (nodup_collapse hids) hcollapsed)
    obtain ⟨survivor, hsurvives, rfl⟩ := mem_collapse.mp hcollapsed
    rw [groupKey_merged] at hkey'
    rcases findingTier_eq_or observation findings checks member with hmust | hshould
    · have hmust' : findingTier observation (collapseDuplicateFindings findings) checks
          (merged findings survivor) = .mustReview := by
        obtain ⟨hid, -, hstate, hcommit, -, hresolved⟩ := of_groupKey_eq hkey hkey'
        rw [findingTier_eq_mustReview, inResolvedThread_merged, merged_edited,
          findingRole_merged hkept, approvesHead_merged,
          ← approvesHead_congr hstate hcommit, ← inResolvedThread_congr hresolved]
        by_cases hsome : ∃ other ∈ findings, groupKey other = some key ∧ other.actionable = true
        · refine .inl ⟨merged_actionable.mpr (.inr ⟨key, hkey', hsome⟩), ?_⟩
          rcases findingTier_eq_mustReview.mp hmust with ⟨-, hthread⟩ | ⟨hno, hedited, hrole, hhead⟩
          · exact hthread
          · rw [inResolvedThread_congr hresolved]
            exact (h.objections member hmember (candidate_iff.mpr hrole) hno hedited hhead key hkey
              survivor hsurvives hkey').1 hsome
        · have hnone : ∀ other ∈ findings, groupKey other = some key → other.actionable = false :=
            fun other hother hgroup => Bool.eq_false_iff.mpr fun hyes =>
              hsome ⟨other, hother, hgroup, hyes⟩
          have hor : (merged findings survivor).actionable = false := by
            refine Bool.eq_false_iff.mpr fun hactionable => ?_
            rcases merged_actionable.mp hactionable with ⟨hno, -⟩ | ⟨other, hother, hyes⟩
            · rw [hkey'] at hno
              cases hno
            · obtain rfl : key = other := Option.some.inj (hkey'.symm.trans hother)
              exact hsome hyes
          rcases findingTier_eq_mustReview.mp hmust with ⟨hyes, -⟩ | ⟨hno, hedited, hrole, hhead⟩
          · rw [hnone member hmember hkey] at hyes
            cases hyes
          · obtain ⟨hedited', htypename⟩ := (h.objections member hmember (candidate_iff.mpr hrole)
              hno hedited hhead key hkey survivor hsurvives hkey').2 hnone
            refine .inr ⟨hor, hedited', ?_, hhead⟩
            rw [← hrole, findingRole_congr hid.symm]
            exact htypename.trans (candidate_iff.mpr hrole).1.symm
      rw [hmust, hmust']
    · rw [hshould]
      rcases findingTier_eq_or observation (collapseDuplicateFindings findings) checks
        (merged findings survivor) with hmust' | hshould'
      · rw [hmust']
        decide
      · rw [hshould']

/-- Collapsing preserves every decision exactly when nothing decisive is dropped. -/
theorem collapse_preserves_iff (hids : (findings.map (·.findingId)).Nodup) :
    DecisionsPreserved observation findings checks ↔
      NothingDecisiveDropped observation findings checks :=
  ⟨NothingDecisiveDropped.of_preserved hids, NothingDecisiveDropped.preserved hids⟩

end Agreement

/-! A reviewer whose second comment, word for word the first, is attested a bot's. -/

def outsideReview (findingId typename state : String) : ReviewFinding :=
  pilotReview findingId ⟨some "actor:outsider", "bob", some typename, "NONE"⟩ state

def droppedAttestation : List ReviewFinding :=
  [outsideReview "finding:1" "User" "COMMENTED", outsideReview "finding:2" "Bot" "COMMENTED",
    outsideReview "finding:3" "User" "APPROVED"]

theorem collapse_preserves_iff_comments :
    DecisionsPreserved pilotObservation (droppedAttestation.take 2) [] ↔
      NothingDecisiveDropped pilotObservation (droppedAttestation.take 2) [] :=
  collapse_preserves_iff (by decide)

/-- The attestation goes with the duplicate, and the approval of the bot satisfies the policy. -/
theorem collapse_drops_attestation : (droppedAttestation.map (·.findingId)).Nodup ∧
    ¬ DecisionsPreserved pilotObservation droppedAttestation [] := by
  refine ⟨by decide, fun h => ?_⟩
  have hbefore : (evaluateIndependence pilotObservation droppedAttestation []
      true).policy.satisfied = false := by decide
  have hafter : (evaluateIndependence pilotObservation
      (collapseDuplicateFindings droppedAttestation) [] true).policy.satisfied = true := by decide
  have hsame := h.satisfied true
  rw [hbefore, hafter] at hsame
  cases hsame

end CaseGraphen.Github
