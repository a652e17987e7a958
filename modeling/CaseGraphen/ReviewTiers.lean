import CaseGraphen.GithubIndependence

/-!
# Review tiers

Where a finding and a check go in the projection of a review. Findings are claimed by one
rule after the other, and the first rule that claims one decides its tier; checks go by
what they reported. Every finding gets one tier, which can be told from the finding and the
role of its author alone.
-/

namespace CaseGraphen.Github

open Sorting

/-! ## Assignments -/

inductive ReviewTier where
  | mustReview
  | shouldReview
  | canSkim
deriving DecidableEq

structure Assignment where
  subjectId : String
  tier : ReviewTier
  path : Option String
  reason : String
deriving DecidableEq

def evidenceRoleLabel : EvidenceRole → String
  | .selfReview => "self-review"
  | .automatedBot => "an automated bot"
  | .unattributed => "an unattributed actor"
  | .ciCheck => "a CI check"
  | .independentHumanCandidate => "an independent human candidate"

/-- Adds each row whose subject no row before it has. -/
def assignNew (out rows : List Assignment) : List Assignment :=
  rows.foldl (fun out row =>
    if row.subjectId ∈ out.map (·.subjectId) then out else out ++ [row]) out

section Findings

variable (findings : List ReviewFinding) (independence : ReviewIndependence)

/-- The path of the finding with an id, of the last one when there are several. -/
def pathOf (findingId : String) : Option String :=
  (findings.reverse.find? fun finding => finding.findingId = findingId).bind (·.path)

/-- The classifications of findings with one of some roles, in the order of their subjects. -/
def classifiedAs (roles : List EvidenceRole) : List Classification :=
  sortOn (·.subjectId) <| independence.classifications.filter fun classification =>
    classification.evidenceRole ∈ roles ∧
      classification.subjectId ∈ findings.map (·.findingId)

def unresolvedRow (findingId : String) : Assignment :=
  ⟨findingId, .mustReview, pathOf findings findingId, "unresolved actionable review finding"⟩

def resolvedRow (findingId : String) : Assignment :=
  ⟨findingId, .shouldReview, pathOf findings findingId,
    "resolved actionable finding — verify the recorded resolution"⟩

def editedRow (findingId : String) : Assignment :=
  ⟨findingId, .shouldReview, pathOf findings findingId,
    "finding body was edited after it was authored"⟩

def candidateRow (classification : Classification) : Assignment :=
  let path := pathOf findings classification.subjectId
  if classification.subjectId ∈ independence.independentHumanApprovals then
    ⟨classification.subjectId, .shouldReview, path,
      ("independent human approval satisfying the independent-review policy — " ++
        "verify it is well-founded")⟩
  else
    ⟨classification.subjectId, .mustReview, path,
      "independent human evidence not resolved by any other tier — review it directly"⟩

def otherRow (classification : Classification) : Assignment :=
  let label := evidenceRoleLabel classification.evidenceRole
  ⟨classification.subjectId, .shouldReview, pathOf findings classification.subjectId,
    s!"only verification source is {label}"⟩

def assignFindingTiers : List Assignment :=
  let editedIds := (findings.filter (·.edited)).map (·.findingId)
  let out := (sort independence.unresolvedActionableFindingIds).map (unresolvedRow findings)
  let out := assignNew out <|
    (sort independence.resolvedActionableFindingIds).map (resolvedRow findings)
  let out := assignNew out <| (sort editedIds).map (editedRow findings)
  let out := assignNew out <|
    (classifiedAs findings independence [.independentHumanCandidate]).map
      (candidateRow findings independence)
  assignNew out <|
    (classifiedAs findings independence [.selfReview, .automatedBot, .unattributed]).map
      (otherRow findings)

end Findings

/-! ## Checks -/

inductive CheckDisposition where
  | success
  | failed
  | inconclusive
deriving DecidableEq

def failedValues : List String := ["FAILURE", "ERROR", "TIMED_OUT", "ACTION_REQUIRED"]

def inconclusiveValues : List String :=
  ["NEUTRAL", "SKIPPED", "CANCELLED", "PENDING", "EXPECTED"]

def successValues : List String := ["SUCCESS"]

def verbatimConclusion (check : CheckEvidence) : Option String :=
  match check.kind with
  | .checkRun => check.conclusion
  | .statusContext => check.state

def checkDisposition (check : CheckEvidence) : CheckDisposition :=
  match verbatimConclusion check with
  | none => .inconclusive
  | some value =>
      if value ∈ successValues then .success
      else if value ∈ failedValues then .failed
      else if value ∈ inconclusiveValues then .inconclusive
      else .inconclusive

/-- The assignment of a check, when its result asks for one. -/
def checkRow (check : CheckEvidence) : Option Assignment :=
  match checkDisposition check with
  | .failed =>
      let result := (verbatimConclusion check).getD "a non-success result"
      some ⟨check.checkId, .mustReview, none, s!"check {check.name} reported {result}"⟩
  | .inconclusive =>
      let result := (verbatimConclusion check).getD "no conclusion reported"
      some ⟨check.checkId, .shouldReview, none,
        s!"check {check.name} produced no verification evidence ({result})"⟩
  | .success => none

/-- The ids of the checks with one disposition, in the order of the checks. -/
def checksWith (disposition : CheckDisposition) (checks : List CheckEvidence) : List String :=
  (checks.filter fun check => checkDisposition check = disposition).map (·.checkId)

/-! ## Rules one after the other -/

section Assign

variable {out rows : List Assignment} {id : String} {tier : ReviewTier}

/-- What a list of assignments says of a subject: it is there, with one tier. -/
def AssignedTo (out : List Assignment) (id : String) (tier : ReviewTier) : Prop :=
  id ∈ out.map (·.subjectId) ∧ ∀ row ∈ out, row.subjectId = id → row.tier = tier

theorem assignNew_concat (row : Assignment) :
    assignNew out (rows ++ [row]) =
      if row.subjectId ∈ (assignNew out rows).map (·.subjectId) then assignNew out rows
      else assignNew out rows ++ [row] := by
  unfold assignNew
  rw [List.foldl_append]
  rfl

theorem mem_map_assignNew :
    id ∈ (assignNew out rows).map (·.subjectId) ↔
      id ∈ out.map (·.subjectId) ∨ id ∈ rows.map (·.subjectId) := by
  induction rows using List.reverseRecOn with
  | nil => exact (or_iff_left List.not_mem_nil).symm
  | append_singleton rows row ih =>
      rw [assignNew_concat, List.map_append, List.mem_append, ← or_assoc, ← ih,
        List.map_singleton, List.mem_singleton]
      split
      · rename_i hmem
        refine (or_iff_left_of_imp fun heq => ?_).symm
        rw [heq]
        exact hmem
      · rw [List.map_append, List.mem_append, List.map_singleton, List.mem_singleton]

theorem of_mem_assignNew {row : Assignment} (h : row ∈ assignNew out rows) :
    row ∈ out ∨ (row ∈ rows ∧ row.subjectId ∉ out.map (·.subjectId)) := by
  induction rows using List.reverseRecOn with
  | nil => exact .inl h
  | append_singleton rows last ih =>
      rw [assignNew_concat] at h
      split at h
      · rcases ih h with hold | ⟨hnew, hfresh⟩
        · exact .inl hold
        · exact .inr ⟨List.mem_append_left _ hnew, hfresh⟩
      · rename_i hlast
        rcases List.mem_append.mp h with hrest | hrow
        · rcases ih hrest with hold | ⟨hnew, hfresh⟩
          · exact .inl hold
          · exact .inr ⟨List.mem_append_left _ hnew, hfresh⟩
        · rw [List.mem_singleton.mp hrow]
          refine .inr ⟨List.mem_append_right _ (List.mem_singleton_self _), fun hin => hlast ?_⟩
          exact mem_map_assignNew.mpr (.inl hin)

theorem nodup_assignNew (h : (out.map (·.subjectId)).Nodup) :
    ((assignNew out rows).map (·.subjectId)).Nodup := by
  induction rows using List.reverseRecOn with
  | nil => exact h
  | append_singleton rows last ih =>
      rw [assignNew_concat]
      split
      · exact ih
      · rename_i hnew
        rw [List.map_append, List.map_singleton, ← List.concat_eq_append, List.nodup_concat]
        exact ⟨hnew, ih⟩

theorem AssignedTo.keep (h : AssignedTo out id tier) : AssignedTo (assignNew out rows) id tier := by
  refine ⟨mem_map_assignNew.mpr (.inl h.1), fun row hrow hid => ?_⟩
  rcases of_mem_assignNew hrow with hold | ⟨-, hfresh⟩
  · exact h.2 row hold hid
  · rw [hid] at hfresh
    exact absurd h.1 hfresh

theorem AssignedTo.claim (hnew : id ∉ out.map (·.subjectId)) (h : AssignedTo rows id tier) :
    AssignedTo (assignNew out rows) id tier := by
  refine ⟨mem_map_assignNew.mpr (.inr h.1), fun row hrow hid => ?_⟩
  rcases of_mem_assignNew hrow with hold | ⟨hrow, -⟩
  · exact absurd (List.mem_map.mpr ⟨row, hold, hid⟩) hnew
  · exact h.2 row hrow hid

theorem not_mem_assignNew (hout : id ∉ out.map (·.subjectId))
    (hrows : id ∉ rows.map (·.subjectId)) : id ∉ (assignNew out rows).map (·.subjectId) := by
  rw [mem_map_assignNew, not_or]
  exact ⟨hout, hrows⟩

theorem AssignedTo.unique {other : ReviewTier} (h : AssignedTo out id tier)
    (h' : AssignedTo out id other) : tier = other := by
  obtain ⟨row, hrow, hid⟩ := List.mem_map.mp h.1
  exact (h.2 row hrow hid).symm.trans (h'.2 row hrow hid)

theorem assignedTo_map {β : Type} {l : List β} {row : β → Assignment} (subject : β → String)
    (hsubject : ∀ b ∈ l, (row b).subjectId = subject b)
    (htier : ∀ b ∈ l, subject b = id → (row b).tier = tier) (h : id ∈ l.map subject) :
    AssignedTo (l.map row) id tier := by
  have hmap : (l.map row).map (·.subjectId) = l.map subject := by
    rw [List.map_map]
    exact List.map_congr_left hsubject
  refine ⟨by rwa [hmap], fun a ha hid => ?_⟩
  obtain ⟨b, hb, rfl⟩ := List.mem_map.mp ha
  exact htier b hb ((hsubject b hb).symm.trans hid)

end Assign

/-! ## The tier of a finding -/

section Tier

variable (observation : PrObservation) (findings : List ReviewFinding)
  (checks : List CheckEvidence)

def approvesHead (finding : ReviewFinding) : Bool :=
  finding.reviewState = some "APPROVED" && boundToHead observation finding

def findingTier (finding : ReviewFinding) : ReviewTier :=
  if finding.actionable then if finding.inResolvedThread then .shouldReview else .mustReview
  else if finding.edited then .shouldReview
  else if (findingRole observation findings checks finding).1 = .independentHumanCandidate then
    if approvesHead observation finding then .shouldReview else .mustReview
  else .shouldReview

end Tier

section Assigned

variable {observation : PrObservation} {findings : List ReviewFinding}
  {checks : List CheckEvidence} {requireIndependentReview : Bool} {finding : ReviewFinding}

theorem mem_ids_filter {α : Type} {key : α → String} {l : List α} (hids : (l.map key).Nodup)
    {a : α} (ha : a ∈ l) (p : α → Bool) : key a ∈ (l.filter p).map key ↔ p a = true := by
  constructor
  · intro h
    obtain ⟨b, hb, hkey⟩ := List.mem_map.mp h
    obtain ⟨hmem, hp⟩ := List.mem_filter.mp hb
    rwa [← List.inj_on_of_nodup_map hids hmem ha hkey]
  · exact fun hp => List.mem_map_of_mem (List.mem_filter.mpr ⟨ha, hp⟩)

theorem mem_sort {α : Type} [Ord α] {l : List α} {a : α} : a ∈ sort l ↔ a ∈ l :=
  (sortBy_perm _ l).mem_iff

variable (observation checks requireIndependentReview) in
theorem role_of_classification (hids : (findings.map (·.findingId)).Nodup)
    (hfinding : finding ∈ findings) (roles : List EvidenceRole) (hroles : .ciCheck ∉ roles) :
    finding.findingId ∈ (classifiedAs findings
        (evaluateIndependence observation findings checks requireIndependentReview) roles).map
          (·.subjectId) ↔ (findingRole observation findings checks finding).1 ∈ roles := by
  unfold classifiedAs evaluateIndependence
  simp only [List.mem_map, sortOn, (sortBy_perm _ _).mem_iff, List.mem_filter, List.mem_append,
    decide_eq_true_eq]
  constructor
  · rintro ⟨classification, ⟨⟨check, -, rfl⟩ | ⟨other, hother, rfl⟩, hrole, -⟩, hid⟩
    · exact absurd hrole hroles
    · rwa [← List.inj_on_of_nodup_map hids hother hfinding hid]
  · intro hrole
    exact ⟨_, ⟨.inr ⟨finding, hfinding, rfl⟩, hrole, finding, hfinding, rfl⟩, rfl⟩

variable (observation checks requireIndependentReview) in
theorem mem_independentHumanApprovals (hids : (findings.map (·.findingId)).Nodup)
    (hfinding : finding ∈ findings) :
    finding.findingId ∈ (evaluateIndependence observation findings checks
        requireIndependentReview).independentHumanApprovals ↔
      (findingRole observation findings checks finding).1 = .independentHumanCandidate ∧
        approvesHead observation finding = true := by
  have hcounted : (finding.findingId ∈ sort
      ((countedApprovals observation findings checks).map (·.findingId))) ↔
        finding ∈ countedApprovals observation findings checks := by
    rw [mem_sort, countedApprovals, candidateApprovals, List.filter_filter,
      mem_ids_filter hids hfinding, List.mem_filter, and_iff_right hfinding]
  refine hcounted.trans ?_
  rw [mem_countedApprovals, approvesHead, boundToHead, Bool.and_eq_true, decide_eq_true_eq,
    decide_eq_true_eq]
  tauto

theorem findingRole_ne_ciCheck :
    (findingRole observation findings checks finding).1 ≠ .ciCheck := by
  unfold findingRole classifyEvidenceRole
  dsimp only
  split_ifs <;> exact nofun

theorem assignFindingTiers_assignedTo (hids : (findings.map (·.findingId)).Nodup)
    (hfinding : finding ∈ findings) :
    AssignedTo (assignFindingTiers findings
        (evaluateIndependence observation findings checks requireIndependentReview))
      finding.findingId (findingTier observation findings checks finding) := by
  have hrole := role_of_classification observation checks requireIndependentReview hids hfinding
  have happroval := mem_independentHumanApprovals observation checks requireIndependentReview
    hids hfinding
  unfold assignFindingTiers findingTier
  generalize hindependence : evaluateIndependence observation findings checks
    requireIndependentReview = independence at hrole happroval ⊢
  have hunresolved : finding.findingId ∈ sort independence.unresolvedActionableFindingIds ↔
      finding.unresolvedActionable = true := by
    rw [← hindependence, mem_sort]
    exact mem_sort.trans (mem_ids_filter hids hfinding _)
  have hresolved : finding.findingId ∈ sort independence.resolvedActionableFindingIds ↔
      finding.resolvedActionable = true := by
    rw [← hindependence, mem_sort]
    exact mem_sort.trans (mem_ids_filter hids hfinding _)
  have hedited : finding.findingId ∈ sort ((findings.filter (·.edited)).map (·.findingId)) ↔
      finding.edited = true := mem_sort.trans (mem_ids_filter hids hfinding _)
  -- the subjects of the rows of one rule
  have hsubjects : ∀ (ids : List String) (row : String → Assignment),
      (∀ id, (row id).subjectId = id) → (ids.map row).map (·.subjectId) = ids := by
    intro ids row hrow
    rw [List.map_map]
    exact List.map_id'' hrow ids
  have hclassified : ∀ (l : List Classification) (row : Classification → Assignment),
      (∀ c, (row c).subjectId = c.subjectId) →
        (l.map row).map (·.subjectId) = l.map (·.subjectId) := by
    intro l row hrow
    rw [List.map_map]
    exact List.map_congr_left fun c _ => hrow c
  have hcandidateRow : ∀ c, (candidateRow findings independence c).subjectId = c.subjectId := by
    intro c
    unfold candidateRow
    split <;> rfl
  by_cases hactionable : finding.actionable = true
  · rw [if_pos hactionable]
    by_cases hthread : finding.inResolvedThread = true
    · -- claimed as resolved
      rw [if_pos hthread]
      refine AssignedTo.keep (AssignedTo.keep (AssignedTo.keep (AssignedTo.claim ?_ ?_)))
      · rw [hsubjects _ _ fun _ => rfl, hunresolved, ReviewFinding.unresolvedActionable, hthread]
        simp
      · refine assignedTo_map id (fun _ _ => rfl) (fun _ _ _ => rfl) ?_
        rw [List.map_id, hresolved, ReviewFinding.resolvedActionable, hactionable, hthread]
        rfl
    · -- claimed as unresolved
      rw [if_neg hthread]
      rw [Bool.not_eq_true] at hthread
      refine AssignedTo.keep (AssignedTo.keep (AssignedTo.keep (AssignedTo.keep ?_)))
      refine assignedTo_map id (fun _ _ => rfl) (fun _ _ _ => rfl) ?_
      rw [List.map_id, hunresolved, ReviewFinding.unresolvedActionable, hactionable, hthread]
      rfl
  · rw [if_neg hactionable]
    rw [Bool.not_eq_true] at hactionable
    -- neither of the first two rules claims it
    have hout := @not_mem_assignNew
      ((sort independence.unresolvedActionableFindingIds).map (unresolvedRow findings))
      ((sort independence.resolvedActionableFindingIds).map (resolvedRow findings))
      finding.findingId
      (by
        rw [hsubjects _ _ fun _ => rfl, hunresolved, ReviewFinding.unresolvedActionable,
          hactionable]
        exact nofun)
      (by
        rw [hsubjects _ _ fun _ => rfl, hresolved, ReviewFinding.resolvedActionable, hactionable]
        exact nofun)
    by_cases hedit : finding.edited = true
    · rw [if_pos hedit]
      refine AssignedTo.keep (AssignedTo.keep (AssignedTo.claim hout ?_))
      refine assignedTo_map id (fun _ _ => rfl) (fun _ _ _ => rfl) ?_
      rwa [List.map_id, hedited]
    · rw [if_neg hedit]
      have hout := @not_mem_assignNew _
        ((sort ((findings.filter (·.edited)).map (·.findingId))).map (editedRow findings))
        _ hout
        (by
          rw [hsubjects _ _ fun _ => rfl, hedited]
          exact hedit)
      by_cases hcandidate :
          (findingRole observation findings checks finding).1 = .independentHumanCandidate
      · rw [if_pos hcandidate]
        refine AssignedTo.keep (AssignedTo.claim hout ?_)
        refine assignedTo_map (·.subjectId) (fun c _ => hcandidateRow c) ?_ ?_
        · intro c _ hid
          unfold candidateRow
          rw [hid]
          by_cases happroves : approvesHead observation finding = true
          · rw [if_pos (happroval.mpr ⟨hcandidate, happroves⟩), if_pos happroves]
          · rw [if_neg fun hin => happroves (happroval.mp hin).2, if_neg happroves]
        · exact (hrole _ (by decide)).mpr (List.mem_singleton.mpr hcandidate)
      · rw [if_neg hcandidate]
        refine AssignedTo.claim (not_mem_assignNew hout ?_) ?_
        · rw [hclassified _ _ hcandidateRow, hrole _ (by decide), List.mem_singleton]
          exact hcandidate
        · refine assignedTo_map (·.subjectId) (fun _ _ => rfl) (fun _ _ _ => rfl) ?_
          refine (hrole _ (by decide)).mpr ?_
          have hcheck : (findingRole observation findings checks finding).1 ≠ .ciCheck :=
            findingRole_ne_ciCheck
          cases hkind : (findingRole observation findings checks finding).1 with
          | independentHumanCandidate => exact absurd hkind hcandidate
          | ciCheck => exact absurd hkind hcheck
          | selfReview => decide
          | automatedBot => decide
          | unattributed => decide

variable (observation findings checks finding) in
theorem findingTier_eq_or : findingTier observation findings checks finding = .mustReview ∨
    findingTier observation findings checks finding = .shouldReview := by
  unfold findingTier
  split_ifs <;> simp

theorem findingTier_eq_mustReview : findingTier observation findings checks finding = .mustReview ↔
    (finding.actionable = true ∧ finding.inResolvedThread = false) ∨
      (finding.actionable = false ∧ finding.edited = false ∧
        (findingRole observation findings checks finding).1 = .independentHumanCandidate ∧
        approvesHead observation finding = false) := by
  unfold findingTier
  split_ifs <;> simp_all

end Assigned

end CaseGraphen.Github
