import CaseGraphen.Core
import CaseGraphen.Lib.Closure
import CaseGraphen.Lib.Sorting

/-!
# History filtrations

The higher-order topology of a case space is read along its morphism log. Each entry of
the log names sources; their cells, with all that bounds them, are a stage, and what no
entry named is the last stage. Entries that add nothing make no stage. The stages are a
filtration of the selected cells, whatever the entries name and however the cells bound
each other.
-/

namespace CaseGraphen

open Checked Std

/-! ## The store and the lift -/

/-- A cell of the space store. -/
structure SpaceCell where
  id : Id
  dimension : Nat
  boundary : List Id

/-- The space store of the structure crate, as it answers for a cell id. -/
abbrev InMemorySpaceStore := Id → Option SpaceCell

structure SourceCellMapping where
  sourceType : String
  sourceId : Id
  cellId : Id
  dimension : Nat

structure TopologyLiftSummary where
  nodes : List SourceCellMapping
  relations : List SourceCellMapping

inductive TopologyReportError where
  | malformedField (field reason : String)

def Bounds (store : InMemorySpaceStore) (a b : Id) : Prop :=
  ∃ cell, store a = some cell ∧ b ∈ cell.boundary

def requireCell (store : InMemorySpaceStore) (cellId : Id) : Except TopologyReportError SpaceCell :=
  orError (store cellId) (.malformedField "cell_ids" s!"identifier {cellId} does not exist")

def filtrationCellIds (store : InMemorySpaceStore) (complexCellIds : List Id)
    (maxDimension : Option Nat) : Except TopologyReportError (List Id) := do
  let cells ← complexCellIds.mapM (requireCell store)
  let kept := cells.filter fun cell => maxDimension.all fun max => cell.dimension ≤ max
  let order (left right : SpaceCell) : Ordering :=
    (compare left.dimension right.dimension).then (compare left.id right.id)
  return (Sorting.sortBy order kept).map (·.id)

def sourceToCellIds (sourceMapping : TopologyLiftSummary) : ExtTreeMap Id Id :=
  OrderedMap.fill ∅ <| (sourceMapping.nodes ++ sourceMapping.relations).map fun mapping =>
    (mapping.sourceId, mapping.cellId)

/-! ## Stages -/

inductive HigherOrderFiltrationSource where
  | deterministicCellOrder
  | nativeMorphismLog

/-- A stage of the structure crate: its cells with all cells of the stages before it. -/
structure FiltrationStage where
  id : Id
  cellIds : List Id

structure HigherOrderFiltrationStageSource where
  stageId : Id
  sourceType : String
  sourceId : Id
  addedSourceIds : List Id
  addedCellIds : List Id

structure HigherOrderFiltrationPlan where
  source : HigherOrderFiltrationSource
  stages : List FiltrationStage
  stageSources : List HigherOrderFiltrationStageSource

/-- An entry of the history: what it is, its id and the sources it names. -/
structure HistoryEntry where
  sourceType : String
  sourceId : Id
  sourceIds : List Id

/-- The stages so far and the cells in them. -/
structure HistoryStages where
  active : ExtTreeSet Id
  stages : List FiltrationStage
  stageSources : List HigherOrderFiltrationStageSource

def HistoryStages.start : HistoryStages := ⟨∅, [], []⟩

/-- One more stage, unless there is nothing to add. -/
def HistoryStages.append (built : HistoryStages) (stageId : Id) (sourceType : String)
    (sourceId : Id) (addedSourceIds addedCellIds : List Id) : HistoryStages :=
  if addedCellIds.isEmpty then built
  else
    let active := built.active.insertMany addedCellIds
    { active
      stages := built.stages ++ [⟨stageId, active.toList⟩]
      stageSources := built.stageSources ++
        [{ stageId, sourceType, sourceId, addedSourceIds, addedCellIds }] }

theorem stageTag_ne_empty : "stage:casegraphen:" ≠ "" := by decide

theorem remainderId_ne_empty : "filtration:deterministic_remainder" ≠ "" := by decide

def boundaryClosedCells (store : InMemorySpaceStore) (selected requested : ExtTreeSet Id) :
    Except TopologyReportError (ExtTreeSet Id) :=
  -- the stack is popped from the end of the ordered ids
  Closure.close (fun cellId => (requireCell store cellId).map (·.boundary)) selected
    requested.toList.reverse ∅

def addedBoundaryClosedCells (store : InMemorySpaceStore)
    (selected active requested : ExtTreeSet Id) : Except TopologyReportError (List Id) := do
  let closed ← boundaryClosedCells store selected requested
  return (closed \ active).toList

def appendHistoryStage (store : InMemorySpaceStore) (selected : ExtTreeSet Id)
    (sourceToCell : ExtTreeMap Id Id) (built : HistoryStages) (entry : HistoryEntry) :
    Except TopologyReportError HistoryStages := do
  let requested := ExtTreeSet.ofList <|
    (entry.sourceIds.filterMap fun sourceId => sourceToCell[sourceId]?).filter (· ∈ selected)
  let added ← addedBoundaryClosedCells store selected built.active requested
  let number := built.stages.length
  let stageId := Id.tagged "stage:casegraphen:" stageTag_ne_empty
    s!"{entry.sourceType}:{number}:{entry.sourceId}"
  return built.append stageId entry.sourceType entry.sourceId entry.sourceIds added

def appendRemainderStage (store : InMemorySpaceStore) (selected : ExtTreeSet Id)
    (built : HistoryStages) : Except TopologyReportError HistoryStages := do
  let remainder := selected \ built.active
  let added ← addedBoundaryClosedCells store selected built.active remainder
  let number := built.stages.length
  let stageId := Id.tagged "stage:casegraphen:" stageTag_ne_empty
    s!"deterministic_remainder:{number}"
  return built.append stageId "deterministic_remainder"
    ⟨"filtration:deterministic_remainder", remainderId_ne_empty⟩ [] added

def filtrationPlan (source : HigherOrderFiltrationSource) (built : HistoryStages) :
    Option HigherOrderFiltrationPlan :=
  if built.stages.isEmpty then none
  else some { source, stages := built.stages, stageSources := built.stageSources }

def historyFiltrationPlan (source : HigherOrderFiltrationSource) (entries : List HistoryEntry)
    (store : InMemorySpaceStore) (complexCellIds : List Id) (sourceMapping : TopologyLiftSummary)
    (maxDimension : Option Nat) :
    Except TopologyReportError (Option HigherOrderFiltrationPlan) := do
  let cellIds ← filtrationCellIds store complexCellIds maxDimension
  let selected := ExtTreeSet.ofList cellIds
  if selected.isEmpty then return none
  let sourceToCell := sourceToCellIds sourceMapping
  let built ← entries.foldlM (appendHistoryStage store selected sourceToCell) .start
  let built ← appendRemainderStage store selected built
  return filtrationPlan source built

variable {source : HigherOrderFiltrationSource} {entries : List HistoryEntry}
  {store : InMemorySpaceStore}

/-! ## One stage -/

section Stage

variable {selected active requested : ExtTreeSet Id}

theorem boundary_eq_ok {cellId : Id} {nexts : List Id} :
    (requireCell store cellId).map (·.boundary) = .ok nexts ↔
      ∃ cell, store cellId = some cell ∧ cell.boundary = nexts := by
  unfold requireCell
  cases store cellId <;> simp [orError, Except.map]

theorem leads_eq_bounds :
    Closure.Leads (fun cellId => (requireCell store cellId).map (·.boundary)) = Bounds store := by
  funext a b
  refine propext ?_
  constructor
  · rintro ⟨nexts, hnexts, hb⟩
    obtain ⟨cell, hcell, rfl⟩ := boundary_eq_ok.mp hnexts
    exact ⟨cell, hcell, hb⟩
  · rintro ⟨cell, hcell, hb⟩
    exact ⟨cell.boundary, boundary_eq_ok.mpr ⟨cell, hcell, rfl⟩, hb⟩

def cellsOf (cells : ExtTreeSet Id) : Set Id := {a | a ∈ cells}

/-- What is added is new and selected, covers what is requested, and keeps the cells closed. -/
theorem addedBoundaryClosedCells_spec {added : List Id}
    (h : addedBoundaryClosedCells store selected active requested = .ok added) :
    added.Nodup ∧ (∀ a ∈ added, a ∈ selected) ∧ (∀ a ∈ added, a ∉ active) ∧
      (∀ a ∈ requested, a ∈ selected → a ∈ active ∨ a ∈ added) ∧
      (ClosedIn (Bounds store) (cellsOf selected) (cellsOf active) →
        ClosedIn (Bounds store) (cellsOf selected) (cellsOf active ∪ {a | a ∈ added})) := by
  obtain ⟨closed, hclosed, h⟩ := bind_eq_ok.mp h
  obtain rfl := pure_eq_ok.mp h
  have hmem : ∀ a, a ∈ (closed \ active).toList ↔ a ∈ closed ∧ a ∉ active := by
    intro a
    rw [ExtTreeSet.mem_toList, ExtTreeSet.mem_diff_iff]
  refine ⟨?_, ?_, ?_, ?_, ?_⟩
  · refine ExtTreeSet.distinct_toList.imp fun hne heq => hne ?_
    rw [heq]
    exact ReflCmp.compare_self
  · intro a ha
    refine Closure.close_subset hclosed ?_ a ((hmem a).mp ha).1
    exact fun b hb => absurd hb ExtTreeSet.not_mem_empty
  · exact fun a ha => ((hmem a).mp ha).2
  · intro a ha hselected
    have hstack : a ∈ requested.toList.reverse :=
      List.mem_reverse.mpr (ExtTreeSet.mem_toList.mpr ha)
    have hin := Closure.stack_subset_close hclosed a hstack hselected
    by_cases hactive : a ∈ active
    · exact .inl hactive
    · exact .inr ((hmem a).mpr ⟨hin, hactive⟩)
  · intro hactive
    have hunion : cellsOf active ∪ {a | a ∈ (closed \ active).toList} =
        cellsOf active ∪ cellsOf closed := by
      ext a
      by_cases ha : a ∈ active <;> simp [cellsOf, ha]
    have hclosedIn := Closure.closedIn_close hclosed
    rw [leads_eq_bounds] at hclosedIn
    rw [hunion]
    exact hactive.union hclosedIn

theorem exists_addedBoundaryClosedCells (h : ∀ a ∈ selected, ∃ cell, store a = some cell) :
    ∃ added, addedBoundaryClosedCells store selected active requested = .ok added := by
  have hnext : ∀ a ∈ selected, ∃ nexts,
      (requireCell store a).map (·.boundary) = .ok nexts := by
    intro a ha
    obtain ⟨cell, hcell⟩ := h a ha
    exact ⟨cell.boundary, boundary_eq_ok.mpr ⟨cell, hcell, rfl⟩⟩
  obtain ⟨closed, hclosed⟩ := Closure.exists_close ∅ requested.toList.reverse hnext
  refine ⟨(closed \ active).toList, ?_⟩
  unfold addedBoundaryClosedCells boundaryClosedCells
  rw [hclosed]
  rfl

end Stage

/-! ## All stages -/

/-- The stages so far are a filtration of the cells in them, and each is told by its source. -/
structure HistoryStages.Sound (store : InMemorySpaceStore) (selected : ExtTreeSet Id)
    (built : HistoryStages) : Prop where
  filtration : Filtration (Bounds store) (cellsOf selected) (cellsOf built.active)
    (built.stages.map fun stage => {a | a ∈ stage.cellIds})
    (built.stageSources.map (·.addedCellIds))
  told : built.stages.map (·.id) = built.stageSources.map (·.stageId)

namespace HistoryStages

variable {selected requested : ExtTreeSet Id} {built : HistoryStages}

theorem start_sound : start.Sound store selected where
  filtration := by
    have hempty : cellsOf start.active = ∅ :=
      Set.eq_empty_of_forall_notMem fun a ha => absurd ha ExtTreeSet.not_mem_empty
    rw [hempty]
    exact Filtration.nil
  told := rfl

theorem mem_append_active {stageId sourceId a : Id} {sourceType : String}
    {sources added : List Id} :
    a ∈ (built.append stageId sourceType sourceId sources added).active ↔
      a ∈ built.active ∨ a ∈ added := by
  unfold append
  split
  · rename_i hempty
    rw [List.isEmpty_iff.mp hempty]
    simp
  · rw [ExtTreeSet.mem_insertMany_list, List.contains_iff_mem]

theorem append_sound (h : built.Sound store selected) {added : List Id}
    (hadded : addedBoundaryClosedCells store selected built.active requested = .ok added)
    (stageId sourceId : Id) (sourceType : String) (sources : List Id) :
    (built.append stageId sourceType sourceId sources added).Sound store selected := by
  have hmem := fun a => @mem_append_active built stageId sourceId a sourceType sources added
  obtain ⟨hnodup, hselected, hnew, -, hclosed⟩ := addedBoundaryClosedCells_spec hadded
  unfold append at hmem ⊢
  split
  · exact h
  · rename_i hne
    rw [if_neg hne] at hmem
    have hactive : cellsOf (built.active.insertMany added) =
        cellsOf built.active ∪ {a | a ∈ added} := Set.ext hmem
    constructor
    · have hlist : {a | a ∈ (built.active.insertMany added).toList} =
          cellsOf (built.active.insertMany added) :=
        Set.ext fun a => ExtTreeSet.mem_toList
      simp only [List.map_append, List.map_singleton, hlist, hactive]
      refine h.filtration.grow (fun hnil => hne ?_) hnodup hselected hnew ?_
      · rw [hnil]
        rfl
      · exact hclosed h.filtration.closed_reached
    · simp [h.told]

end HistoryStages

section Plan

variable {selected : ExtTreeSet Id} {sourceToCell : ExtTreeMap Id Id} {built next : HistoryStages}
  {entry : HistoryEntry}

theorem appendHistoryStage_sound (h : built.Sound store selected)
    (hstep : appendHistoryStage store selected sourceToCell built entry = .ok next) :
    next.Sound store selected := by
  obtain ⟨added, hadded, hstep⟩ := bind_eq_ok.mp hstep
  obtain rfl := pure_eq_ok.mp hstep
  exact HistoryStages.append_sound h hadded _ _ _ _

theorem appendRemainderStage_sound (h : built.Sound store selected)
    (hstep : appendRemainderStage store selected built = .ok next) :
    next.Sound store selected ∧ ∀ a ∈ selected, a ∈ next.active := by
  obtain ⟨added, hadded, hstep⟩ := bind_eq_ok.mp hstep
  obtain rfl := pure_eq_ok.mp hstep
  refine ⟨HistoryStages.append_sound h hadded _ _ _ _, fun a ha => ?_⟩
  obtain ⟨-, -, -, hcovers, -⟩ := addedBoundaryClosedCells_spec hadded
  rw [HistoryStages.mem_append_active]
  by_cases hactive : a ∈ built.active
  · exact .inl hactive
  · exact hcovers a (ExtTreeSet.mem_diff_iff.mpr ⟨ha, hactive⟩) ha

theorem exists_appendHistoryStage (h : ∀ a ∈ selected, ∃ cell, store a = some cell) :
    ∃ next, appendHistoryStage store selected sourceToCell built entry = .ok next := by
  unfold appendHistoryStage
  dsimp only
  obtain ⟨added, hadded⟩ := @exists_addedBoundaryClosedCells store selected built.active
    (ExtTreeSet.ofList ((entry.sourceIds.filterMap fun sourceId => sourceToCell[sourceId]?).filter
      (· ∈ selected))) h
  rw [hadded]
  exact ⟨_, rfl⟩

theorem exists_appendRemainderStage (h : ∀ a ∈ selected, ∃ cell, store a = some cell) :
    ∃ next, appendRemainderStage store selected built = .ok next := by
  unfold appendRemainderStage
  dsimp only
  obtain ⟨added, hadded⟩ := @exists_addedBoundaryClosedCells store selected built.active
    (selected \ built.active) h
  rw [hadded]
  exact ⟨_, rfl⟩

end Plan

/-! ## The plan -/

section Whole

variable {complexCellIds : List Id} {sourceMapping : TopologyLiftSummary}
  {maxDimension : Option Nat}

structure HigherOrderFiltrationPlan.Filters (store : InMemorySpaceStore) (selected : List Id)
    (plan : HigherOrderFiltrationPlan) : Prop where
  filtration : Filtration (Bounds store) {a | a ∈ selected} {a | a ∈ selected}
    (plan.stages.map fun stage => {a | a ∈ stage.cellIds})
    (plan.stageSources.map (·.addedCellIds))
  told : plan.stages.map (·.id) = plan.stageSources.map (·.stageId)
  nonempty : plan.stages ≠ []

/-- Without a selected cell there is no plan; else all stages together hold every one. -/
theorem historyFiltrationPlan_eq_ok {result : Option HigherOrderFiltrationPlan}
    (h : historyFiltrationPlan source entries store complexCellIds sourceMapping maxDimension =
      .ok result) :
    ∃ selected, filtrationCellIds store complexCellIds maxDimension = .ok selected ∧
      ((selected = [] ∧ result = none) ∨ (selected ≠ [] ∧ ∃ final : HistoryStages,
        final.Sound store (ExtTreeSet.ofList selected) ∧
        (∀ a ∈ ExtTreeSet.ofList selected, a ∈ final.active) ∧
        result = filtrationPlan source final)) := by
  obtain ⟨selected, hselected, h⟩ := bind_eq_ok.mp h
  refine ⟨selected, hselected, ?_⟩
  have hmem : ∀ a, a ∈ ExtTreeSet.ofList selected ↔ a ∈ selected := fun a =>
    ExtTreeSet.mem_ofList.trans List.contains_iff_mem
  dsimp only at h
  split at h
  · rename_i hempty
    obtain rfl := pure_eq_ok.mp h
    refine .inl ⟨List.eq_nil_iff_forall_not_mem.mpr fun a ha => ?_, rfl⟩
    have hin := (hmem a).mpr ha
    rw [ExtTreeSet.isEmpty_iff.mp hempty] at hin
    exact ExtTreeSet.not_mem_empty hin
  · rename_i hsome
    obtain ⟨built, hbuilt, h⟩ := bind_eq_ok.mp h
    obtain ⟨final, hfinal, h⟩ := bind_eq_ok.mp h
    obtain rfl := pure_eq_ok.mp h
    have hstages : built.Sound store (ExtTreeSet.ofList selected) :=
      foldlM_invariant (·.Sound store (ExtTreeSet.ofList selected))
        (fun _ _ _ hold hstep => appendHistoryStage_sound hold hstep) HistoryStages.start_sound
        hbuilt
    obtain ⟨hsound, hall⟩ := appendRemainderStage_sound hstages hfinal
    refine .inr ⟨?_, final, hsound, hall, rfl⟩
    rintro rfl
    exact hsome rfl

/-- The stages of a plan are a filtration of the selected cells. There is no plan only when no
cell is selected. -/
theorem historyFiltrationPlan_filters {result : Option HigherOrderFiltrationPlan}
    (h : historyFiltrationPlan source entries store complexCellIds sourceMapping maxDimension =
      .ok result) :
    ∃ selected, filtrationCellIds store complexCellIds maxDimension = .ok selected ∧
      (result = none ↔ selected = []) ∧
      ∀ plan, result = some plan → plan.Filters store selected := by
  obtain ⟨selected, hselected, hresult⟩ := historyFiltrationPlan_eq_ok h
  refine ⟨selected, hselected, ?_⟩
  rcases hresult with ⟨rfl, rfl⟩ | ⟨hne, final, hsound, hall, rfl⟩
  · exact ⟨iff_of_true rfl rfl, nofun⟩
  · have hcells : cellsOf (ExtTreeSet.ofList selected) = {a | a ∈ selected} :=
      Set.ext fun a => ExtTreeSet.mem_ofList.trans List.contains_iff_mem
    have hwhole : cellsOf final.active = {a | a ∈ selected} := by
      rw [← hcells]
      exact Set.Subset.antisymm hsound.filtration.within hall
    have hfiltration := hsound.filtration
    rw [hwhole, hcells] at hfiltration
    have hstages : final.stages ≠ [] := by
      -- without a stage nothing would be reached
      intro hnil
      have hlast := hfiltration.last
      rw [hnil] at hlast
      obtain ⟨a, ha⟩ := List.exists_mem_of_ne_nil selected hne
      have hnone : (∅ : Set Id) = {a | a ∈ selected} := hlast
      exact absurd ((Set.ext_iff.mp hnone a).mpr ha) (Set.notMem_empty a)
    have hplan : filtrationPlan source final =
        some { source, stages := final.stages, stageSources := final.stageSources } :=
      if_neg fun hnil => hstages (List.isEmpty_iff.mp hnil)
    rw [hplan]
    refine ⟨iff_of_false (fun heq => by cases heq) hne, fun plan heq => ?_⟩
    cases heq
    exact ⟨hfiltration, hsound.told, hstages⟩

theorem exists_historyFiltrationPlan {selected : List Id}
    (hselected : filtrationCellIds store complexCellIds maxDimension = .ok selected)
    (hstore : ∀ a ∈ selected, ∃ cell, store a = some cell) :
    ∃ result, historyFiltrationPlan source entries store complexCellIds sourceMapping
      maxDimension = .ok result := by
  have hcells : ∀ a ∈ ExtTreeSet.ofList selected, ∃ cell, store a = some cell := fun a ha =>
    hstore a (List.contains_iff_mem.mp (ExtTreeSet.mem_ofList.mp ha))
  have hentries : ∀ (entries : List HistoryEntry) (built : HistoryStages), ∃ next,
      entries.foldlM (appendHistoryStage store (ExtTreeSet.ofList selected)
        (sourceToCellIds sourceMapping)) built = .ok next := by
    intro entries
    induction entries with
    | nil => exact fun built => ⟨built, rfl⟩
    | cons entry entries ih =>
        intro built
        obtain ⟨next, hnext⟩ := @exists_appendHistoryStage store (ExtTreeSet.ofList selected)
          (sourceToCellIds sourceMapping) built entry hcells
        rw [List.foldlM_cons, hnext]
        exact ih next
  unfold historyFiltrationPlan
  rw [hselected]
  dsimp only [ok_bind]
  split
  · exact ⟨_, rfl⟩
  · obtain ⟨built, hbuilt⟩ := hentries entries .start
    obtain ⟨final, hfinal⟩ := @exists_appendRemainderStage store (ExtTreeSet.ofList selected)
      built hcells
    rw [hbuilt]
    dsimp only [ok_bind]
    rw [hfinal]
    exact ⟨_, rfl⟩

end Whole

/-! Two cells that bound each other, one of them named by the history, and a third. -/

def loopCell (id : Id) (boundary : List Id) : SpaceCell :=
  { id, dimension := 1, boundary }

theorem firstCell_ne_empty : "cell:first" ≠ "" := by decide
theorem secondCell_ne_empty : "cell:second" ≠ "" := by decide
theorem thirdCell_ne_empty : "cell:third" ≠ "" := by decide

def loopCells : List SpaceCell :=
  let first : Id := ⟨"cell:first", firstCell_ne_empty⟩
  let second : Id := ⟨"cell:second", secondCell_ne_empty⟩
  [loopCell first [second], loopCell second [first],
    loopCell ⟨"cell:third", thirdCell_ne_empty⟩ []]

def loopStore : InMemorySpaceStore := fun id => loopCells.find? (·.id = id)

def loopMapping : TopologyLiftSummary where
  nodes := loopCells.map fun cell => ⟨"case_cell", cell.id, cell.id, 1⟩
  relations := []

def loopHistory : List HistoryEntry :=
  loopCells.take 1 |>.map fun cell => ⟨"native_morphism_log_entry", cell.id, [cell.id]⟩

theorem historyFiltrationPlan_filters_loop : ∃ plan,
    historyFiltrationPlan .nativeMorphismLog loopHistory loopStore (loopCells.map (·.id))
      loopMapping none = .ok (some plan) ∧ plan.Filters loopStore (loopCells.map (·.id)) := by
  have hcells : filtrationCellIds loopStore (loopCells.map (·.id)) none =
      .ok (loopCells.map (·.id)) := rfl
  have hstore : ∀ a ∈ loopCells.map (·.id), ∃ cell, loopStore a = some cell := by
    intro a ha
    rw [← Option.isSome_iff_exists]
    revert a
    decide
  obtain ⟨result, hresult⟩ := @exists_historyFiltrationPlan .nativeMorphismLog loopHistory
    loopStore (loopCells.map (·.id)) loopMapping none (loopCells.map (·.id)) hcells hstore
  obtain ⟨selected, hselected, hnone, hfilters⟩ := historyFiltrationPlan_filters hresult
  obtain rfl : loopCells.map (·.id) = selected := Except.ok.inj (hcells.symm.trans hselected)
  cases result with
  | none => exact absurd (hnone.mp rfl) (by decide)
  | some plan => exact ⟨plan, hresult, hfilters plan rfl⟩

end CaseGraphen
