import CaseGraphen.CaseOps
import CaseGraphen.MemoryQueries

/-!
# Memory outside a grant

A claim outside the scope of a query or the grant of its actor shows in a projection
with its id and the reason it is left out, and nothing else. `seen` is what a
projection can tell of a derived claim; spaces whose hidden claims differ derive the same
as far as that goes.
-/

namespace CaseGraphen

open Checked Json Text OrderedMap Sorting

/-! ## What a projection sees -/

/-- What a projection can tell of a derived claim: a claim ruled out before ranking is its
id and the reason. -/
def seen (derived : DerivedMemory) : DerivedMemory :=
  if isPreRankExclusion derived.exclusionReason then
    { item :=
        { claimId := derived.item.claimId
          memoryKind := .observation
          statement := ⟨"", .null⟩
          subjectRefs := []
          sourceRefs := []
          status := .candidate
          authority := .untrusted
          sensitivity := .restricted
          validTime := ⟨none, none⟩
          relevanceScore := 0
          evidenceStrength := ""
          hardConflict := false }
      exclusionReason := derived.exclusionReason }
  else derived

variable {derived : DerivedMemory}

theorem seen_of_preRank (h : isPreRankExclusion derived.exclusionReason = true) :
    (seen derived).exclusionReason = derived.exclusionReason ∧
      (seen derived).item.status = .candidate := by
  unfold seen
  rw [if_pos h]
  exact ⟨rfl, rfl⟩

theorem seen_of_ranked (h : isPreRankExclusion derived.exclusionReason = false) :
    seen derived = derived := by
  unfold seen
  rw [if_neg (by rw [h]; decide)]

@[simp] theorem seen_claimId (derived : DerivedMemory) :
    (seen derived).item.claimId = derived.item.claimId := by
  unfold seen
  split <;> rfl

@[simp] theorem seen_exclusionReason (derived : DerivedMemory) :
    (seen derived).exclusionReason = derived.exclusionReason := by
  unfold seen
  split <;> rfl

theorem isSome_of_preRank {reason : Option String} (h : isPreRankExclusion reason = true) :
    ∃ text, reason = some text := by
  cases reason with
  | none => cases h
  | some text => exact ⟨text, rfl⟩

theorem seen_congr {derived' : DerivedMemory}
    (h : isPreRankExclusion derived.exclusionReason = true)
    (hid : derived.item.claimId = derived'.item.claimId)
    (hreason : derived.exclusionReason = derived'.exclusionReason) :
    seen derived = seen derived' := by
  unfold seen
  rw [← hreason, if_pos h, if_pos h, hid]

theorem includedByStatus_seen (derived : DerivedMemory) (query : MemoryQuery) :
    includedByStatus (seen derived) query = includedByStatus derived query := by
  cases h : isPreRankExclusion derived.exclusionReason with
  | false => rw [seen_of_ranked h]
  | true => simp [includedByStatus, h]

theorem statusOmission_seen (derived : DerivedMemory) :
    statusOmission (seen derived) = statusOmission derived := by
  cases h : isPreRankExclusion derived.exclusionReason with
  | false => rw [seen_of_ranked h]
  | true =>
      obtain ⟨text, htext⟩ := isSome_of_preRank h
      simp [statusOmission, htext]

/-- A claim ruled out before ranking is not contested. -/
def Uncontested (derived : DerivedMemory) : Prop :=
  isPreRankExclusion derived.exclusionReason = true → derived.item.status ≠ .contested

theorem projectMemory_seen (env : Environment) (query : MemoryQuery) {all : List DerivedMemory}
    (h : ∀ derived ∈ all, Uncontested derived) :
    projectMemory env query (all.map seen) = projectMemory env query all := by
  have hitems : ((all.map seen).filter fun derived => includedByStatus derived query).map (·.item) =
      (all.filter fun derived => includedByStatus derived query).map (·.item) := by
    rw [List.filter_map, List.map_map]
    have hsame : (all.filter fun derived => includedByStatus (seen derived) query) =
        all.filter fun derived => includedByStatus derived query :=
      List.filter_congr fun derived _ => by rw [includedByStatus_seen]
    show (all.filter fun derived => includedByStatus (seen derived) query).map _ = _
    rw [hsame]
    refine List.map_congr_left fun derived hmem => ?_
    have hincluded := (List.mem_filter.mp hmem).2
    cases hrank : isPreRankExclusion derived.exclusionReason with
    | false => rw [Function.comp_apply, seen_of_ranked hrank]
    | true => simp [includedByStatus, hrank] at hincluded
  have homitted : ((all.map seen).filter fun derived => !includedByStatus derived query).map
        statusOmission =
      (all.filter fun derived => !includedByStatus derived query).map statusOmission := by
    rw [List.filter_map, List.map_map]
    have hsame : (all.filter fun derived => !includedByStatus (seen derived) query) =
        all.filter fun derived => !includedByStatus derived query :=
      List.filter_congr fun derived _ => by rw [includedByStatus_seen]
    show (all.filter fun derived => !includedByStatus (seen derived) query).map _ = _
    rw [hsame]
    exact List.map_congr_left fun derived _ => statusOmission_seen derived
  have hcontested : ((all.map seen).filter fun derived => derived.item.status = .contested).map
        (·.item.claimId) =
      (all.filter fun derived => derived.item.status = .contested).map (·.item.claimId) := by
    rw [List.filter_map, List.map_map]
    have hsame : (all.filter fun derived => (seen derived).item.status = .contested) =
        all.filter fun derived => derived.item.status = .contested := by
      refine List.filter_congr fun derived hmem => ?_
      cases hrank : isPreRankExclusion derived.exclusionReason with
      | false => rw [seen_of_ranked hrank]
      | true => simp [(seen_of_preRank hrank).2, h derived hmem hrank]
    show (all.filter fun derived => (seen derived).item.status = .contested).map _ = _
    rw [hsame]
    exact List.map_congr_left fun derived _ => seen_claimId derived
  simp only [projectMemory, List.partition_eq_filter_filter]
  have hnot : ∀ l : List DerivedMemory,
      l.filter (not ∘ fun derived => includedByStatus derived query) =
        l.filter fun derived => !includedByStatus derived query := fun _ => rfl
  rw [hnot, hnot, hitems, homitted, hcontested]

/-! ## Deriving what is seen -/

theorem isAcceptedCurrent_seen (asOf : String) (derived : DerivedMemory) :
    isAcceptedCurrent asOf (seen derived) = isAcceptedCurrent asOf derived := by
  cases h : isPreRankExclusion derived.exclusionReason with
  | false => rw [seen_of_ranked h]
  | true =>
      obtain ⟨text, htext⟩ := isSome_of_preRank h
      simp [isAcceptedCurrent, htext]

theorem acceptedCurrent_seen (base : List DerivedMemory) (asOf : String) :
    acceptedCurrent (base.map seen) asOf = acceptedCurrent base asOf := by
  unfold acceptedCurrent
  rw [List.filter_map, List.map_map]
  have hsame : (base.filter (isAcceptedCurrent asOf ∘ seen)) = base.filter (isAcceptedCurrent asOf) :=
    List.filter_congr fun derived _ => isAcceptedCurrent_seen asOf derived
  rw [hsame]
  exact congrArg _ (List.map_congr_left fun derived _ => seen_claimId derived)

section Resolve

variable (caseSpace : CaseSpace) (accepted : List Id) (active : List String)
  (contested : ContestedClaims)

theorem resolveStatus_of_preRank (h : isPreRankExclusion derived.exclusionReason = true) :
    resolveStatus caseSpace accepted active contested derived = derived := if_pos h

theorem isPreRankExclusion_resolveStatus (derived : DerivedMemory) :
    isPreRankExclusion (resolveStatus caseSpace accepted active contested derived).exclusionReason =
      isPreRankExclusion derived.exclusionReason := by
  cases h : isPreRankExclusion derived.exclusionReason with
  | true => rw [resolveStatus_of_preRank caseSpace accepted active contested h, h]
  | false =>
      unfold resolveStatus
      rw [if_neg (by rw [h]; decide)]
      split
      · exact h
      split
      · show isPreRankExclusion (some "retracted") = false
        decide
      split
      · show isPreRankExclusion (some "superseded") = false
        decide
      split
      · rename_i hard _
        show isPreRankExclusion (some (if hard then "hard_conflict" else "contested")) = false
        cases hard <;> decide
      · exact h

theorem seen_resolveStatus (derived : DerivedMemory) :
    seen (resolveStatus caseSpace accepted active contested derived) =
      resolveStatus caseSpace accepted active contested (seen derived) := by
  cases h : isPreRankExclusion derived.exclusionReason with
  | true =>
      rw [resolveStatus_of_preRank caseSpace accepted active contested h,
        resolveStatus_of_preRank caseSpace accepted active contested]
      rw [seen_exclusionReason, h]
  | false =>
      rw [seen_of_ranked h, seen_of_ranked]
      rw [isPreRankExclusion_resolveStatus, h]

theorem uncontested_resolveStatus (h : derived.item.status ≠ .contested) :
    Uncontested (resolveStatus caseSpace accepted active contested derived) := by
  intro hrank
  rw [isPreRankExclusion_resolveStatus] at hrank
  rw [resolveStatus_of_preRank caseSpace accepted active contested hrank]
  exact h

end Resolve

theorem claimStanding_ne_contested (caseSpace : CaseSpace) (accepted : List Id) (cell : CaseCell)
    (claim : MemoryClaim) (asOf : String) (policy : MemoryPolicy) :
    (claimStanding caseSpace accepted cell claim asOf policy).status ≠ .contested := by
  have hreviewed : (reviewedStanding caseSpace cell).status ≠ .contested := by
    unfold reviewedStanding
    split
    · decide
    split <;> decide
  have hcontract : ∀ {binding : Bool} {standing : Standing}, standing.status ≠ .contested →
      (contractStanding cell claim policy binding standing).status ≠ .contested := by
    intro binding standing h
    unfold contractStanding
    simp only
    split
    · split
      · exact h
      · decide
    · decide
  have hsource : ∀ {binding : Bool} {standing : Standing}, standing.status ≠ .contested →
      (sourceStanding caseSpace accepted cell claim binding standing).status ≠ .contested := by
    intro binding standing h
    unfold sourceStanding
    simp only
    repeat' split
    all_goals first | exact h | decide
  have htimed : ∀ {standing : Standing}, standing.status ≠ .contested →
      (timedStanding claim asOf standing).status ≠ .contested := by
    intro standing h
    unfold timedStanding
    split
    · split
      · decide
      · decide
      · exact h
    · exact h
  exact htimed (hsource (hcontract hreviewed))

theorem routedStanding_status (claim : MemoryClaim) (query : MemoryQuery)
    (grant : ActorMemoryGrant) (standing : Standing) :
    (routedStanding claim query grant standing).status = standing.status := by
  unfold routedStanding
  repeat' split
  all_goals rfl

theorem baseMemory_ne_contested {env : Environment} {words : WordTables} {caseSpace : CaseSpace}
    {accepted : List Id} {query : MemoryQuery} {policy : MemoryPolicy} {grant : ActorMemoryGrant}
    {cell : CaseCell}
    (h : baseMemory env words caseSpace accepted query policy grant cell = some derived) :
    derived.item.status ≠ .contested := by
  obtain ⟨parsed, _, rfl⟩ := Option.map_eq_some_iff.mp h
  cases parsed with
  | none => exact fun hstatus => nomatch hstatus
  | some claim =>
      show (routedStanding claim query grant _).status ≠ _
      rw [routedStanding_status]
      exact claimStanding_ne_contested _ _ _ _ _ _

/-! ## Spaces that differ in hidden claims -/

def isHidden (query : MemoryQuery) (policy : MemoryPolicy) (claim : MemoryClaim) : Bool :=
  !claimInScope claim query ||
    (actorGrant policy query).all fun grant => !claimWithinGrant claim grant

def isHiddenCell (query : MemoryQuery) (policy : MemoryPolicy) (cell : CaseCell) : Bool :=
  match parsedClaim cell with
  | some (some claim) => isHidden query policy claim
  | _ => false

/-- The entry only reviews claims that are hidden. -/
def concernsHidden (query : MemoryQuery) (policy : MemoryPolicy) (cells : List CaseCell)
    (entry : MorphismLogEntry) : Bool :=
  entry.morphism.addedIds.isEmpty && (reviewedEvidenceId entry).any fun evidenceId =>
    cells.all fun cell => cell.id.asStr != evidenceId || isHiddenCell query policy cell

/-- Two cells that carry the same hidden claim up to its statement and its validity. A
capability still grants what it granted, and an artifact keeps its hash. -/
structure HiddenChange (query : MemoryQuery) (policy : MemoryPolicy) (left right : CaseCell) :
    Prop where
  id : left.id = right.id
  cellType : left.cellType = right.cellType
  claim : ∃ claim claim', parsedClaim left = some (some claim) ∧
    parsedClaim right = some (some claim') ∧ isHidden query policy claim = true ∧
    claim' = { claim with statement := claim'.statement, validTime := claim'.validTime }
  capability : left.cellType = .custom capabilityCellType →
    ∀ required, grantsAuthority left required = grantsAuthority right required
  artifact : left.cellType = .custom artifactCellType →
    contentHashText left = contentHashText right

/-- Two spaces of one revision and with the same relations, whose cells differ in hidden
claims and whose logs differ in the reviews of these. -/
structure DifferInHidden (query : MemoryQuery) (policy : MemoryPolicy) (left right : CaseSpace) :
    Prop where
  revision : left.revision.revisionId = right.revision.revisionId
  relations : left.caseRelations = right.caseRelations
  cells : List.Forall₂ (fun cell cell' => cell = cell' ∨ HiddenChange query policy cell cell')
    left.caseCells right.caseCells
  log : List.Forall₂ (fun entry entry' => entry.morphism = entry'.morphism)
    (left.morphismLog.filter fun entry => !concernsHidden query policy left.caseCells entry)
    (right.morphismLog.filter fun entry => !concernsHidden query policy right.caseCells entry)

section Lists

variable {α γ : Type}

theorem flatMap_filter_skip {skip p : α → Bool} {f : α → List γ}
    (hskip : ∀ a, skip a = true → f a = []) (l : List α) :
    ((l.filter fun a => !skip a).filter p).flatMap f = (l.filter p).flatMap f := by
  induction l with
  | nil => rfl
  | cons a l ih =>
      cases ha : skip a with
      | false => cases hp : p a <;> simpa [ha, hp] using ih
      | true => cases hp : p a <;> simpa [ha, hp, hskip a ha] using ih

end Lists

variable {left right : CaseSpace}

section Relations

variable (h : left.caseRelations = right.caseRelations)

include h

theorem resolveStatus_congr (accepted : List Id) (active : List String)
    (contested : ContestedClaims) :
    resolveStatus left accepted active contested = resolveStatus right accepted active contested := by
  funext derived
  simp only [resolveStatus, retractingClaims, supersedingClaims, claimsActingOn, h]

theorem resolveCurrentConflicts_congr (accepted : List Id) (current names : List String) :
    resolveCurrentConflicts left accepted current names =
      resolveCurrentConflicts right accepted current names := by
  have hround : conflictRound left accepted current names =
      conflictRound right accepted current names := by
    funext contested
    simp only [conflictRound, conflictsAmong, visibleClaims, suppressingClaims, retractingClaims,
      supersedingClaims, claimsActingOn, contradictions, h]
  rw [resolveCurrentConflicts, hround, resolveCurrentConflicts]

end Relations

section Differ

variable {query : MemoryQuery} {policy : MemoryPolicy}

section

variable (h : DifferInHidden query policy left right)

include h

theorem DifferInHidden.acceptedRelationIds_eq :
    acceptedRelationIds left = acceptedRelationIds right := by
  have hskip : ∀ (cells : List CaseCell) (entry : MorphismLogEntry),
      concernsHidden query policy cells entry = true → entry.morphism.addedIds = [] :=
    fun _ _ hhidden => List.isEmpty_iff.mp (Bool.and_eq_true_iff.mp hhidden).1
  unfold acceptedRelationIds
  rw [h.relations, ← flatMap_filter_skip (hskip left.caseCells) left.morphismLog,
    ← flatMap_filter_skip (hskip right.caseCells) right.morphismLog, List.flatMap_def,
    List.flatMap_def]
  refine congrArg _ (congrArg _ (map_filter_of_forall₂ h.log ?_ ?_))
  · intro entry entry' hentry
    rw [hentry]
  · intro entry entry' hentry
    rw [hentry]

/-- The latest review of evidence that is not hidden is the same on both sides. -/
theorem DifferInHidden.latestEvidenceReviewStatuses_eq {cell : CaseCell}
    (hleft : cell ∈ left.caseCells) (hright : cell ∈ right.caseCells)
    (hshown : isHiddenCell query policy cell = false) :
    latestEvidenceReviewStatuses left cell.id.asStr =
      latestEvidenceReviewStatuses right cell.id.asStr := by
  have hskip : ∀ {cells : List CaseCell} {entry : MorphismLogEntry}, cell ∈ cells →
      concernsHidden query policy cells entry = true →
      reviewedEvidenceId entry ≠ some cell.id.asStr := by
    intro cells entry hmem hhidden hreviewed
    have hall := (Bool.and_eq_true_iff.mp hhidden).2
    rw [hreviewed, Option.any_some] at hall
    have hcell := List.all_eq_true.mp hall cell hmem
    rw [hshown] at hcell
    simp at hcell
  have hfilter : ∀ (cells : List CaseCell) (log : List MorphismLogEntry), cell ∈ cells →
      (log.filter fun entry => reviewedEvidenceId entry = some cell.id.asStr) =
        (log.filter fun entry => !concernsHidden query policy cells entry).filter fun entry =>
          reviewedEvidenceId entry = some cell.id.asStr := by
    intro cells log hmem
    rw [List.filter_filter]
    refine List.filter_congr fun entry _ => ?_
    cases hhidden : concernsHidden query policy cells entry with
    | false => simp
    | true => simpa using hskip hmem hhidden
  unfold latestEvidenceReviewStatuses
  rw [latestEvidenceReviewEntries_eq, latestEvidenceReviewEntries_eq,
    hfilter _ left.morphismLog hleft, hfilter _ right.morphismLog hright,
    ← List.getLast?_map, ← List.getLast?_map]
  refine congrArg _ (map_filter_of_forall₂ h.log ?_ ?_)
  · intro entry entry' hentry
    unfold reviewedEvidenceId
    rw [hentry]
  · intro entry entry' hentry
    unfold evidenceReviewStatus
    rw [hentry]

theorem DifferInHidden.any_cell_eq {asks : CaseCell → Bool}
    (hasks : ∀ cell cell', HiddenChange query policy cell cell' → asks cell = asks cell') :
    left.caseCells.any asks = right.caseCells.any asks := by
  refine any_eq_of_forall₂ h.cells fun cell cell' hcell => ?_
  rcases hcell with rfl | hchange
  · rfl
  · exact hasks cell cell' hchange

theorem DifferInHidden.hasAuthorityBinding_eq (accepted : List Id) (claimId : String)
    (required : AuthorityLevel) :
    hasAuthorityBinding left accepted claimId required =
      hasAuthorityBinding right accepted claimId required := by
  unfold hasAuthorityBinding
  rw [h.relations]
  refine congrArg _ (funext fun relation => ?_)
  have hcell : (left.caseCells.any fun cell =>
        cell.id = relation.toId ∧ grantsAuthority cell required = true) =
      right.caseCells.any fun cell =>
        cell.id = relation.toId ∧ grantsAuthority cell required = true := by
    refine h.any_cell_eq fun cell cell' hchange => ?_
    have hgrants : grantsAuthority cell required = grantsAuthority cell' required := by
      by_cases htype : cell.cellType = .custom capabilityCellType
      · exact hchange.capability htype required
      · have htype' : cell'.cellType ≠ .custom capabilityCellType := by
          rw [← hchange.cellType]
          exact htype
        unfold grantsAuthority
        rw [beq_false_of_ne htype, beq_false_of_ne htype']
        rfl
    rw [hchange.id, hgrants]
  rw [hcell]

theorem DifferInHidden.sourcesAreImmutable_eq (accepted : List Id) (claim : MemoryClaim)
    (records : List SourceRecord) :
    sourcesAreImmutable left accepted claim records =
      sourcesAreImmutable right accepted claim records := by
  unfold sourcesAreImmutable hasSourceRelation
  rw [h.relations]
  refine congrArg _ (congrArg _ (funext fun sourceId => congrArg _ ?_))
  refine h.any_cell_eq fun cell cell' hchange => ?_
  rw [hchange.id, ← hchange.cellType]
  by_cases htype : cell.cellType = .custom artifactCellType
  · rw [hchange.artifact htype]
  · rw [beq_false_of_ne htype]
    simp

end

variable {grant : ActorMemoryGrant}

theorem DifferInHidden.deriveBase_eq (h : DifferInHidden query policy left right)
    {env : Environment} {words : WordTables} {accepted : List Id}
    {cell : CaseCell} (hleft : cell ∈ left.caseCells) (hright : cell ∈ right.caseCells)
    (hshown : isHiddenCell query policy cell = false) (claim : MemoryClaim) :
    deriveBase env words left accepted cell claim query policy grant =
      deriveBase env words right accepted cell claim query policy grant := by
  have hlatest := h.latestEvidenceReviewStatuses_eq hleft hright hshown
  have hreviewed : reviewedStanding left cell = reviewedStanding right cell := by
    unfold reviewedStanding effectiveReview isTrusted
    rw [hlatest]
  have htrusted : isTrusted left cell = isTrusted right cell := by
    unfold isTrusted
    rw [hlatest]
  simp only [deriveBase, claimStanding, sourceStanding, evidenceStrength, hreviewed, htrusted,
    h.hasAuthorityBinding_eq, h.sourcesAreImmutable_eq]

/-- A hidden claim is ruled out before ranking, for a reason that is read off its scope. -/
theorem deriveBase_of_hidden (hgrant : actorGrant policy query = some grant) {claim : MemoryClaim}
    (h : isHidden query policy claim = true) (env : Environment) (words : WordTables)
    (caseSpace : CaseSpace) (accepted : List Id) (cell : CaseCell) :
    (deriveBase env words caseSpace accepted cell claim query policy grant).exclusionReason =
      some (if claimInScope claim query then "outside_authority_grant" else "outside_scope") := by
  show (routedStanding claim query grant _).exclusionReason = _
  unfold routedStanding
  cases hscope : claimInScope claim query with
  | false => rfl
  | true =>
      have hwithin : claimWithinGrant claim grant = false := by
        simpa [isHidden, hscope, hgrant] using h
      rw [hwithin]
      rfl

theorem DifferInHidden.seen_baseMemories (h : DifferInHidden query policy left right)
    (hgrant : actorGrant policy query = some grant) (env : Environment) (words : WordTables) :
    (baseMemories env words left query policy grant).map seen =
      (baseMemories env words right query policy grant).map seen := by
  unfold baseMemories
  rw [List.map_filterMap, List.map_filterMap, h.acceptedRelationIds_eq]
  generalize acceptedRelationIds right = accepted
  refine filterMap_of_forall₂ h.cells fun cell hcell cell' hcell' hrel => ?_
  have hseen : ∀ {claim claim' : MemoryClaim}, isHidden query policy claim = true →
      claim' = { claim with statement := claim'.statement, validTime := claim'.validTime } →
      seen (deriveBase env words left accepted cell claim query policy grant) =
        seen (deriveBase env words right accepted cell' claim' query policy grant) := by
    intro claim claim' hhidden hsame
    have hscope : claimInScope claim' query = claimInScope claim query := by rw [hsame]; rfl
    have hhidden' : isHidden query policy claim' = true := by rw [hsame]; exact hhidden
    have hreason := deriveBase_of_hidden hgrant hhidden env words left accepted cell
    have hreason' := deriveBase_of_hidden hgrant hhidden' env words right accepted cell'
    rw [hscope] at hreason'
    refine seen_congr ?_ ?_ (hreason.trans hreason'.symm)
    · rw [hreason]
      split <;> decide
    · show claim.claimId = claim'.claimId
      rw [hsame]
  rcases hrel with rfl | hchange
  · unfold baseMemory
    cases hclaim : parsedClaim cell with
    | none => rfl
    | some parsed =>
        cases parsed with
        | none => rfl
        | some claim =>
            refine congrArg some ?_
            cases hhidden : isHidden query policy claim with
            | true => exact hseen hhidden rfl
            | false =>
                refine congrArg seen (h.deriveBase_eq hcell hcell' ?_ claim)
                rw [isHiddenCell, hclaim]
                exact hhidden
  · obtain ⟨claim, claim', hclaim, hclaim', hhidden, hsame⟩ := hchange.claim
    unfold baseMemory
    rw [hclaim, hclaim']
    exact congrArg some (hseen hhidden hsame)

theorem DifferInHidden.seen_deriveMemory (h : DifferInHidden query policy left right)
    (hgrant : actorGrant policy query = some grant) (env : Environment) (words : WordTables) :
    (deriveMemory env words left query policy grant).map seen =
      (deriveMemory env words right query policy grant).map seen := by
  have hbase := h.seen_baseMemories hgrant env words
  have hcurrent := congrArg (acceptedCurrent · query.asOf) hbase
  simp only [acceptedCurrent_seen] at hcurrent
  have hmap : ∀ (caseSpace : CaseSpace) (accepted : List Id) (active : List String)
      (contested : ContestedClaims) (base : List DerivedMemory),
      (base.map (resolveStatus caseSpace accepted active contested)).map seen =
        (base.map seen).map (resolveStatus caseSpace accepted active contested) := by
    intro caseSpace accepted active contested base
    rw [List.map_map, List.map_map]
    exact List.map_congr_left fun derived _ => seen_resolveStatus _ _ _ _ derived
  have hsort : ∀ base : List DerivedMemory,
      (sortOn (fun derived : DerivedMemory => derived.item.claimId) base).map seen =
        sortOn (fun derived : DerivedMemory => derived.item.claimId) (base.map seen) :=
    fun _ => map_sortOn seen_claimId
  unfold deriveMemory contestedAmong
  rw [hsort, hsort, h.acceptedRelationIds_eq]
  simp only [hmap]
  rw [hbase, hcurrent, resolveCurrentConflicts_congr h.relations, resolveStatus_congr h.relations]

end Differ

theorem uncontested_deriveMemory (env : Environment) (words : WordTables) (caseSpace : CaseSpace)
    (query : MemoryQuery) (policy : MemoryPolicy) (grant : ActorMemoryGrant) :
    ∀ derived ∈ deriveMemory env words caseSpace query policy grant, Uncontested derived := by
  intro derived hmem
  obtain ⟨base, hbase, rfl⟩ := List.mem_map.mp (mem_sortBy.mp hmem)
  obtain ⟨cell, _, hcell⟩ := List.mem_filterMap.mp hbase
  exact uncontested_resolveStatus _ _ _ _ (baseMemory_ne_contested hcell)

/-- A projection tells nothing about the statement, the validity, the lifecycle, the
sources or the reviews of claims outside the scope or the grant of its query. -/
theorem hidden_memory_isolated (env : Environment) (words : WordTables) (query : MemoryQuery)
    (policy : MemoryPolicy) {left right : CaseSpace} (h : DifferInHidden query policy left right) :
    queryMemory env words left query policy = queryMemory env words right query policy := by
  unfold queryMemory
  rw [h.revision]
  cases hgrant : actorGrant policy query with
  | none => rfl
  | some grant =>
      have hprojection : projectMemory env query (deriveMemory env words left query policy grant) =
          projectMemory env query (deriveMemory env words right query policy grant) := by
        rw [← projectMemory_seen env query (uncontested_deriveMemory env words left query policy
          grant), h.seen_deriveMemory hgrant, projectMemory_seen env query
          (uncontested_deriveMemory env words right query policy grant)]
      simp only [hprojection]

/-! ## Claims about one project

An artifact, claims that cite it, and an agent that may read what is internal. -/

def sourceDigest : String :=
  "6b0f8e6ea4b3b7d2a1c9e5f4d3c2b1a09f8e7d6c5b4a39281706f5e4d3c2b1a0"

def sourceArtifact : CaseCell where
  id :=
    ⟨"artifact:sha256-6b0f8e6ea4b3b7d2a1c9e5f4d3c2b1a09f8e7d6c5b4a39281706f5e4d3c2b1a0", by decide⟩
  cellType := .custom artifactCellType
  spaceId := contractDraft.spaceId
  title := "Architecture decision"
  summary := none
  lifecycle := .resolved
  sourceIds := contractGoal.sourceIds
  structureIds := []
  provenance := provenance .document .unreviewed
  metadata := Map.empty.insert "content_hash" (.string sourceDigest)

def sourceRecord : SourceRecord where
  schema := memorySourceRecordSchema
  sourceRecordId := "memory-source:architecture-decision"
  sourceKind := .artifact
  contentHash := "sha256:" ++ sourceDigest
  capturedAt := "2026-08-01T00:00:00Z"
  originActorId := "actor:reviewer"
  sourceBoundaryId := "source_boundary:docs"
  authorityOrigin := .reviewer
  sensitivity := .internal
  artifactRef := "docs/adr"

def projectClaim (claimId : Id) (kind : MemoryKind) : MemoryClaim where
  schema := memoryClaimSchema
  claimId := claimId.asStr
  memoryKind := kind
  subjectRefs := ["repo:casegraphen"]
  statement := ⟨"must_preserve_acceptance_boundary",
    ⟨.string "runtime output remains untrusted", rfl⟩⟩
  scope := ⟨none, some "casegraphen", []⟩
  validTime := ⟨none, none⟩
  sourceRefs := [sourceArtifact.id.asStr]
  derivationActorId := "actor:memory-proposer"
  derivationMethod := "extraction"
  modelAssertionsAreUntrusted := true
  provenanceRole := .reviewedArchitectureDecision
  authorityCeiling := .projectConstraint
  sensitivity := .internal

def claimCell (claimId : Id) (claim : MemoryClaim) : CaseCell where
  id := claimId
  cellType := .evidence
  spaceId := contractDraft.spaceId
  title := "Memory claim"
  summary := none
  lifecycle := .accepted
  sourceIds := contractGoal.sourceIds
  structureIds := []
  provenance := provenance .human .accepted
  metadata := ((Map.empty.insert "memory_claim" (MemoryClaim.codec.toValue claim)).insert
    "memory_source_records" (SourceRecord.codec.list.toValue [sourceRecord])).insert
    "evidence_boundary" (.string "source_backed")

def claimRelation (id : Id) (relationType : CaseRelationType) (fromId toId : Id) :
    CaseRelation where
  id := id
  relationType := relationType
  relationStrength := .hard
  fromId := fromId
  toId := toId
  evidenceIds := []
  sourceIds := contractGoal.sourceIds
  provenance := provenance .human .accepted
  metadata := .empty

def decisionId : Id := ⟨"mem:decision", by decide⟩

def constraintId : Id := ⟨"mem:constraint", by decide⟩

def memorySpace (relations : List CaseRelation) : CaseSpace :=
  { contractDraft with
    caseCells := [sourceArtifact, claimCell decisionId (projectClaim decisionId .decision),
      claimCell constraintId (projectClaim constraintId .constraint)]
    caseRelations :=
      [claimRelation ⟨"relation:decision-source", by decide⟩ .derivesFrom decisionId
          sourceArtifact.id,
        claimRelation ⟨"relation:constraint-source", by decide⟩ .derivesFrom constraintId
          sourceArtifact.id] ++ relations }

def agentPolicy : MemoryPolicy where
  schema := memoryPolicySchema
  policyId := "memory-policy:agents"
  projectId := "casegraphen"
  actorGrants := [⟨"actor:agent", [.aiAgent], ["code_change"], ["casegraphen"], .internal,
    .projectConstraint⟩]
  validTimeRequiredKinds := []
  hardConflictRelationTypes := ["contradicts"]

def agentQuery (kinds : List MemoryKind) (maxTokens : Nat) : MemoryQuery where
  schema := memoryQuerySchema
  queryId := "query:agent"
  baseRevisionId := contractRevisionId.asStr
  requestingActorId := "actor:agent"
  audience := .aiAgent
  purpose := "code_change"
  riskClass := "normal"
  asOf := "2026-08-06T00:00:00Z"
  scope := ⟨none, some "casegraphen", []⟩
  memoryKinds := kinds
  budget := ⟨30, maxTokens⟩
  queryText := ""
  includeHistorical := false
  includeContested := true

/-- Words of letters and digits, as ASCII has them. -/
def asciiWords : WordTables where
  isAlphanumeric c := c.isAlphanum
  toLowercase s := String.ofList (s.toList.map Char.toLower)

/-! ## A claim that is restricted -/

def restrictedId : Id := ⟨"mem:restricted", by decide⟩

def restrictedClaim : MemoryClaim :=
  { projectClaim restrictedId .decision with sensitivity := .restricted }

def restatedClaim : MemoryClaim :=
  { restrictedClaim with
    statement := ⟨"must_not_ship", .null⟩
    validTime := ⟨none, some "2026-01-01T00:00:00Z"⟩ }

/-- The restricted claim restated, rejected and without its sources. -/
def restatedCell : CaseCell :=
  { claimCell restrictedId restatedClaim with
    lifecycle := .rejected
    metadata := Map.empty.insert "memory_claim" (MemoryClaim.codec.toValue restatedClaim) }

/-- A review of the restricted claim. -/
def restrictedReview : MorphismLogEntry :=
  { contractGenesis with
    morphism :=
      { contractGenesis.morphism with
        addedIds := []
        metadata := (Map.empty.insert "target_kind" (.string "evidence")).insert "target_id"
          (.string restrictedId.asStr) } }

def restrictedSpace : CaseSpace :=
  { memorySpace [] with
    caseCells := (memorySpace []).caseCells ++ [claimCell restrictedId restrictedClaim] }

def restatedSpace : CaseSpace :=
  { memorySpace [] with
    caseCells := (memorySpace []).caseCells ++ [restatedCell]
    morphismLog := (memorySpace []).morphismLog ++ [restrictedReview] }

theorem restated_differs : DifferInHidden (agentQuery [] 6000) agentPolicy restrictedSpace
    restatedSpace where
  revision := rfl
  relations := rfl
  cells := by
    have hchange : HiddenChange (agentQuery [] 6000) agentPolicy
        (claimCell restrictedId restrictedClaim) restatedCell := by
      refine ⟨rfl, rfl, ⟨restrictedClaim, restatedClaim, ?_, ?_, ?_, rfl⟩, nofun, nofun⟩
      · decide
      · decide +kernel
      · decide
    exact .cons (.inl rfl) (.cons (.inl rfl) (.cons (.inl rfl) (.cons (.inr hchange) .nil)))
  log := by
    have hleft : restrictedSpace.morphismLog.filter (fun entry =>
        !concernsHidden (agentQuery [] 6000) agentPolicy restrictedSpace.caseCells entry) =
          [contractGenesis] := by
      rfl
    have hright : restatedSpace.morphismLog.filter (fun entry =>
        !concernsHidden (agentQuery [] 6000) agentPolicy restatedSpace.caseCells entry) =
          [contractGenesis] := by
      rfl
    rw [hleft, hright]
    exact .cons rfl .nil

theorem restricted_memory_isolated :
    DifferInHidden (agentQuery [] 6000) agentPolicy restrictedSpace restatedSpace ∧
      queryMemory .standard asciiWords restrictedSpace (agentQuery [] 6000) agentPolicy =
        queryMemory .standard asciiWords restatedSpace (agentQuery [] 6000) agentPolicy :=
  ⟨restated_differs, hidden_memory_isolated .standard asciiWords (agentQuery [] 6000) agentPolicy
    restated_differs⟩

end CaseGraphen
