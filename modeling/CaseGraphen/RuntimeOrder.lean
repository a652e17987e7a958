import CaseGraphen.RunCompleteness

/-!
# The order of reports

An attempt id is looked up among all reports, and the first report that has it counts; of
the retries with one id the last counts. So where an id is not told apart by its report, the
last attempt at a node can depend on the order in which the reports come. Which sets of
reports have a last attempt that no order takes away is said here by the reports alone.
-/

namespace CaseGraphen

open Checked Json Std OrderedMap Sorting Text Lineage

/-! ## A last attempt, in one order -/

section Terminal

variable (expected : RuntimeGraphExpectation) (reports : List RuntimeNodeReport)
  (nodeId : String)

def RuntimeNodeReport.InNode (report : RuntimeNodeReport) : Prop :=
  (report.Joins expected ∧ report.nodeId ∈ expected.nodesById) ∧ report.nodeId = nodeId

instance (report : RuntimeNodeReport) : Decidable (report.InNode expected nodeId) :=
  inferInstanceAs (Decidable (_ ∧ _))

def nodeReports : List RuntimeNodeReport :=
  reports.filter fun report => report.InNode expected nodeId

/-- A report that may be retried. -/
def RuntimeNodeReport.FailedIn (report : RuntimeNodeReport) : Prop :=
  report.InNode expected nodeId ∧ report.status ≠ .succeeded

def FirstFailed (id : String) : Prop :=
  ∃ first, reports.find? (fun report => report.attemptId = id) = some first ∧
    first.FailedIn expected nodeId

def ValidRetry (report : RuntimeNodeReport) (prior : String) : Prop :=
  report.retryOfAttemptId = some prior ∧ prior ≠ report.attemptId ∧
    FirstFailed expected reports nodeId prior

def priorOf (id : String) : Option String :=
  (validParents (attemptIndices reports) (nodeRows expected reports nodeId))[id]?

/-- The attempts that some attempt retries. -/
def retriedAttempts : List String :=
  values (validParents (attemptIndices reports) (nodeRows expected reports nodeId))

end Terminal

variable {node : ExpectedRuntimeNode}

section Characterized

variable {expected : RuntimeGraphExpectation} {reports : List RuntimeNodeReport}
  {nodeId id prior : String} {report last : RuntimeNodeReport}

theorem mem_nodeReports : report ∈ nodeReports expected reports nodeId ↔
    report ∈ reports ∧ report.InNode expected nodeId := by
  unfold nodeReports
  rw [List.mem_filter, decide_eq_true_iff]

theorem nodeRows_eq : nodeRows expected reports nodeId =
    reports.zipIdx.filter fun row => row.1.InNode expected nodeId := by
  unfold nodeRows countedRows
  rw [List.filter_filter]
  refine List.filter_congr fun row _ => ?_
  rw [Bool.eq_iff_iff, Bool.and_eq_true, decide_eq_true_iff, decide_eq_true_iff,
    decide_eq_true_iff]
  exact and_comm

theorem map_fst_nodeRows :
    (nodeRows expected reports nodeId).map Prod.fst = nodeReports expected reports nodeId := by
  have hfilter : (reports.zipIdx.map Prod.fst).filter
      (fun report => report.InNode expected nodeId) =
      (reports.zipIdx.filter fun row => row.1.InNode expected nodeId).map Prod.fst := by
    rw [List.filter_map]
    rfl
  rw [nodeRows_eq, ← hfilter, List.zipIdx_map_fst]
  rfl

theorem getElem?_attemptIndices {first : RuntimeNodeReport} :
    (∃ index, (attemptIndices reports)[id]? = some (first, index)) ↔
      reports.find? (fun report => report.attemptId = id) = some first := by
  have hfind : reports.find? (fun report => report.attemptId = id) =
      (reports.zipIdx.find? fun row => row.1.attemptId = id).map Prod.fst := by
    have hmap : (reports.zipIdx.map Prod.fst).find? (fun report => report.attemptId = id) =
        (reports.zipIdx.find? fun row => row.1.attemptId = id).map Prod.fst := by
      rw [List.find?_map]
      rfl
    rw [List.zipIdx_map_fst] at hmap
    exact hmap
  unfold attemptIndices
  rw [getElem?_collectFirst, hfind, Option.map_eq_some_iff]
  constructor
  · rintro ⟨index, hrow⟩
    exact ⟨_, hrow, rfl⟩
  · rintro ⟨⟨found, index⟩, hrow, rfl⟩
    exact ⟨index, hrow⟩

theorem validPrior_eq_some_iff :
    validPrior (attemptIndices reports) (nodeRows expected reports nodeId) report = some prior ↔
      ValidRetry expected reports nodeId report prior := by
  unfold validPrior ValidRetry FirstFailed
  rw [Option.filter_eq_some_iff, Option.any_eq_true _ _]
  refine and_congr_right fun _ => ?_
  constructor
  · rintro ⟨⟨first, index⟩, hrow, hvalid⟩
    obtain ⟨hindex, hne, hstatus⟩ := of_decide_eq_true hvalid
    refine ⟨hne, first, getElem?_attemptIndices.mp ⟨index, hrow⟩, ?_, hstatus⟩
    have hmem : (first, index) ∈ reports.zipIdx := by
      unfold attemptIndices at hrow
      rw [getElem?_collectFirst] at hrow
      exact (Keyed.lookup_key hrow).1
    obtain ⟨⟨held, place⟩, hheld, rfl⟩ := List.mem_map.mp hindex
    rw [nodeRows_eq, List.mem_filter] at hheld
    have hget := List.mk_mem_zipIdx_iff_getElem?.mp hmem
    rw [List.mk_mem_zipIdx_iff_getElem?.mp hheld.1] at hget
    cases hget
    exact of_decide_eq_true hheld.2
  · rintro ⟨hne, first, hfirst, hnode, hstatus⟩
    obtain ⟨index, hrow⟩ := getElem?_attemptIndices.mpr hfirst
    refine ⟨(first, index), hrow, decide_eq_true ⟨?_, hne, hstatus⟩⟩
    have hmem : (first, index) ∈ reports.zipIdx := by
      unfold attemptIndices at hrow
      rw [getElem?_collectFirst] at hrow
      exact (Keyed.lookup_key hrow).1
    rw [nodeRows_eq]
    exact List.mem_map.mpr ⟨_, List.mem_filter.mpr ⟨hmem, decide_eq_true hnode⟩, rfl⟩

/-- What an attempt retries is what its last valid retry does. -/
theorem priorOf_eq_some : priorOf expected reports nodeId id = some prior ↔
    ∃ before retry after, nodeReports expected reports nodeId = before ++ retry :: after ∧
      retry.attemptId = id ∧ ValidRetry expected reports nodeId retry prior ∧
      ∀ other ∈ after, other.attemptId = id →
        ∀ prior, ¬ ValidRetry expected reports nodeId other prior := by
  unfold priorOf validParents
  have hvalue : ∀ (row : ReportRow) (prior : String),
      (validPrior (attemptIndices reports) (nodeRows expected reports nodeId) row.1).map
        (fun prior => (row.1.attemptId, prior)) = some (id, prior) ↔
      row.1.attemptId = id ∧ ValidRetry expected reports nodeId row.1 prior := by
    intro row prior
    rw [Option.map_eq_some_iff]
    constructor
    · rintro ⟨found, hfound, heq⟩
      cases heq
      exact ⟨rfl, validPrior_eq_some_iff.mp hfound⟩
    · rintro ⟨rfl, hvalid⟩
      exact ⟨prior, validPrior_eq_some_iff.mpr hvalid, rfl⟩
  rw [getElem?_fill_filterMap, ← map_fst_nodeRows]
  constructor
  · rintro ⟨before, row, after, hsplit, hrow, hafter⟩
    obtain ⟨hid, hvalid⟩ := (hvalue row prior).mp hrow
    refine ⟨before.map Prod.fst, row.1, after.map Prod.fst, by rw [hsplit]; simp, hid, hvalid,
      fun other hother hsame found hfound => ?_⟩
    obtain ⟨held, hheld, rfl⟩ := List.mem_map.mp hother
    exact hafter held hheld found ((hvalue held found).mpr ⟨hsame, hfound⟩)
  · rintro ⟨before, retry, after, hsplit, hid, hvalid, hafter⟩
    obtain ⟨beforeRows, rest, hrows, rfl, hrest⟩ := List.map_eq_append_iff.mp hsplit
    obtain ⟨row, afterRows, rfl, rfl, rfl⟩ := List.map_eq_cons_iff.mp hrest
    refine ⟨beforeRows, row, afterRows, hrows, (hvalue row prior).mpr ⟨hid, hvalid⟩,
      fun other hother found hfound => ?_⟩
    obtain ⟨hsame, hretry⟩ := (hvalue other found).mp hfound
    exact hafter other.1 (List.mem_map.mpr ⟨other, hother, rfl⟩) hsame found hretry

theorem mem_retriedAttempts : prior ∈ retriedAttempts expected reports nodeId ↔
    ∃ id, priorOf expected reports nodeId id = some prior :=
  mem_values

/-- The last attempt at a node is the one report of it that no attempt retries. -/
theorem terminalAttempt_eq_some (hnode : expected.nodesById[nodeId]? = some node) :
    (terminalAttempts expected reports)[nodeId]?.map Prod.fst = some last ↔
      ((nodeReports expected reports nodeId).filter fun report =>
        report.attemptId ∉ retriedAttempts expected reports nodeId) = [last] ∧
      last.Meets node := by
  have hrows : (terminalRows (attemptIndices reports) (nodeRows expected reports nodeId)).map
      Prod.fst = (nodeReports expected reports nodeId).filter fun report =>
        report.attemptId ∉ retriedAttempts expected reports nodeId := by
    rw [← map_fst_nodeRows, List.filter_map]
    rfl
  rw [← hrows, Option.map_eq_some_iff]
  constructor
  · rintro ⟨row, hrow, rfl⟩
    obtain ⟨-, other, hother, hterminal⟩ := getElem?_terminalAttempts.mp hrow
    rw [hnode] at hother
    cases hother
    obtain ⟨hlast, hmeets⟩ := Option.filter_eq_some_iff.mp hterminal
    split at hlast
    · rename_i found hfound
      cases hlast
      exact ⟨by rw [hfound]; rfl, of_decide_eq_true hmeets⟩
    · cases hlast
  · rintro ⟨hlast, hmeets⟩
    obtain ⟨row, hterminal, rfl⟩ := List.map_eq_singleton_iff.mp hlast
    refine ⟨row, getElem?_terminalAttempts.mpr ⟨?_, node, hnode, ?_⟩, rfl⟩
    · have hmem : row ∈ nodeRows expected reports nodeId := by
        have hrow : row ∈ terminalRows (attemptIndices reports)
            (nodeRows expected reports nodeId) := hterminal ▸ List.mem_singleton_self row
        exact (List.mem_filter.mp hrow).1
      obtain ⟨hcounted, hid⟩ := List.mem_filter.mp hmem
      exact mem_reportedNodeIds.mpr ⟨row, hcounted, of_decide_eq_true hid⟩
    · unfold reconcileNode
      simp only [hterminal]
      exact Option.filter_eq_some_iff.mpr ⟨rfl, decide_eq_true hmeets⟩

end Characterized

/-! ## What does not depend on the order -/

section Orderless

variable (expected : RuntimeGraphExpectation) (reports : List RuntimeNodeReport)
  (nodeId : String) (last : RuntimeNodeReport)

/-- The only report of the node with its attempt id, and one that meets the expectation. -/
structure SoleAttempt : Prop where
  sole : ((nodeReports expected reports nodeId).filter fun report =>
    report.attemptId = last.attemptId) = [last]
  meets : ∃ node, expected.nodesById[nodeId]? = some node ∧ last.Meets node

def OtherAttempt (id : String) : Prop :=
  id ≠ last.attemptId ∧ id ∈ (nodeReports expected reports nodeId).map (·.attemptId)

/-- A retry of another attempt at the node. -/
structure RetriesOther (retry : RuntimeNodeReport) (prior : String) : Prop where
  mem : retry ∈ nodeReports expected reports nodeId
  retries : retry.retryOfAttemptId = some prior
  ne : prior ≠ retry.attemptId
  other : OtherAttempt expected reports nodeId last prior

/-- Each other attempt has a report that may be retried, and retries can be chosen, one for
each attempt, so that each other attempt is retried. A retry can be chosen when all retries
with its id say the same, or when it can come after a report that may be retried. -/
structure Attainable : Prop where
  sole : SoleAttempt expected reports nodeId last
  failed : ∀ id, OtherAttempt expected reports nodeId last id →
    ∃ report ∈ reports, report.attemptId = id ∧ report.FailedIn expected nodeId
  chosen : ∃ choice : String → Option String,
    (∀ prior, OtherAttempt expected reports nodeId last prior → ∃ id, choice id = some prior) ∧
    ∀ id prior, choice id = some prior → ∃ retry, retry.attemptId = id ∧
      RetriesOther expected reports nodeId last retry prior ∧
      ((∀ other prior', other.attemptId = id →
          RetriesOther expected reports nodeId last other prior' → prior' = prior) ∨
        ∃ first, first.attemptId = id ∧ first.FailedIn expected nodeId ∧
          [first, retry].Subperm reports)

/-- Every report with the id of another attempt may be retried, and each other attempt is
what all retries with some id say. -/
structure Forced : Prop where
  failed : ∀ id, OtherAttempt expected reports nodeId last id → ∀ report ∈ reports,
    report.attemptId = id → report.FailedIn expected nodeId
  retried : ∀ prior, OtherAttempt expected reports nodeId last prior → ∃ id,
    (∃ retry, retry.attemptId = id ∧ RetriesOther expected reports nodeId last retry prior) ∧
    ∀ other prior', other.attemptId = id →
      RetriesOther expected reports nodeId last other prior' → prior' = prior

/-- What could be a last attempt is one in every order. -/
def OrderSettled : Prop :=
  ∀ nodeId last, Attainable expected reports nodeId last → Forced expected reports nodeId last

end Orderless

section Sole

variable {expected : RuntimeGraphExpectation} {reports : List RuntimeNodeReport}
  {nodeId id prior : String} {report last : RuntimeNodeReport}

theorem SoleAttempt.mem (h : SoleAttempt expected reports nodeId last) :
    last ∈ nodeReports expected reports nodeId := by
  have hmem : last ∈ (nodeReports expected reports nodeId).filter fun report =>
      report.attemptId = last.attemptId := h.sole ▸ List.mem_singleton_self last
  exact (List.mem_filter.mp hmem).1

theorem SoleAttempt.eq (h : SoleAttempt expected reports nodeId last)
    (hreport : report ∈ nodeReports expected reports nodeId)
    (hid : report.attemptId = last.attemptId) : report = last := by
  have hmem : report ∈ (nodeReports expected reports nodeId).filter fun report =>
      report.attemptId = last.attemptId := List.mem_filter.mpr ⟨hreport, decide_eq_true hid⟩
  rw [h.sole] at hmem
  exact List.mem_singleton.mp hmem

theorem SoleAttempt.other (h : SoleAttempt expected reports nodeId last)
    (hfirst : FirstFailed expected reports nodeId id) :
    OtherAttempt expected reports nodeId last id := by
  obtain ⟨first, hfind, hnode, hstatus⟩ := hfirst
  have hid : first.attemptId = id := by simpa using List.find?_some hfind
  have hmem := mem_nodeReports.mpr ⟨List.mem_of_find?_eq_some hfind, hnode⟩
  refine ⟨fun hsame => ?_, List.mem_map.mpr ⟨first, hmem, hid⟩⟩
  obtain ⟨node, -, hmeets⟩ := h.meets
  rw [h.eq hmem (hid.trans hsame)] at hstatus
  exact hstatus hmeets.1

theorem firstFailed_of_retried (h : prior ∈ retriedAttempts expected reports nodeId) :
    FirstFailed expected reports nodeId prior := by
  obtain ⟨id, hid⟩ := mem_retriedAttempts.mp h
  obtain ⟨before, retry, after, -, -, hvalid, -⟩ := priorOf_eq_some.mp hid
  exact hvalid.2.2

theorem SoleAttempt.terminal_iff (h : SoleAttempt expected reports nodeId last) :
    (terminalAttempts expected reports)[nodeId]?.map Prod.fst = some last ↔
      ∀ prior, OtherAttempt expected reports nodeId last prior →
        prior ∈ retriedAttempts expected reports nodeId := by
  obtain ⟨node, hnode, hmeets⟩ := h.meets
  rw [terminalAttempt_eq_some hnode]
  constructor
  · rintro ⟨hlast, -⟩ prior ⟨hne, hmem⟩
    obtain ⟨report, hreport, rfl⟩ := List.mem_map.mp hmem
    by_contra hfree
    have hin : report ∈ (nodeReports expected reports nodeId).filter fun report =>
        report.attemptId ∉ retriedAttempts expected reports nodeId :=
      List.mem_filter.mpr ⟨hreport, decide_eq_true hfree⟩
    rw [hlast] at hin
    exact hne (congrArg RuntimeNodeReport.attemptId (List.mem_singleton.mp hin))
  · intro hall
    refine ⟨?_, hmeets⟩
    rw [← h.sole]
    refine List.filter_congr fun report hreport => ?_
    rw [decide_eq_decide]
    constructor
    · intro hfree
      by_contra hne
      exact hfree (hall _ ⟨hne, List.mem_map.mpr ⟨report, hreport, rfl⟩⟩)
    · intro hid hretried
      exact (h.other (firstFailed_of_retried hretried)).1 hid

/-- Where the first reports of the other attempts may be retried, the valid retries are the
retries of other attempts. -/
theorem SoleAttempt.validRetry_iff (h : SoleAttempt expected reports nodeId last)
    (hfirst : ∀ id, OtherAttempt expected reports nodeId last id →
      FirstFailed expected reports nodeId id)
    (hreport : report ∈ nodeReports expected reports nodeId) :
    ValidRetry expected reports nodeId report prior ↔
      RetriesOther expected reports nodeId last report prior := by
  constructor
  · rintro ⟨hretries, hne, hfailed⟩
    exact ⟨hreport, hretries, hne, h.other hfailed⟩
  · rintro ⟨-, hretries, hne, hother⟩
    exact ⟨hretries, hne, hfirst prior hother⟩

theorem soleAttempt_of_terminal (hnode : expected.nodesById[nodeId]? = some node)
    (h : (terminalAttempts expected reports)[nodeId]?.map Prod.fst = some last) :
    SoleAttempt expected reports nodeId last := by
  obtain ⟨hlast, hmeets⟩ := (terminalAttempt_eq_some hnode).mp h
  have hfree : last.attemptId ∉ retriedAttempts expected reports nodeId := by
    have hmem : last ∈ (nodeReports expected reports nodeId).filter fun report =>
        report.attemptId ∉ retriedAttempts expected reports nodeId :=
      hlast ▸ List.mem_singleton_self last
    exact of_decide_eq_true (List.mem_filter.mp hmem).2
  refine ⟨?_, node, hnode, hmeets⟩
  have hsplit : (nodeReports expected reports nodeId).filter
      (fun report => report.attemptId = last.attemptId) =
      ((nodeReports expected reports nodeId).filter fun report =>
        report.attemptId ∉ retriedAttempts expected reports nodeId).filter
        fun report => report.attemptId = last.attemptId := by
    rw [List.filter_filter]
    refine List.filter_congr fun report _ => ?_
    rw [Bool.eq_iff_iff, Bool.and_eq_true, decide_eq_true_iff, decide_eq_true_iff]
    refine ⟨fun hid => ⟨hid, ?_⟩, And.left⟩
    rw [hid]
    exact hfree
  rw [hsplit, hlast, List.filter_singleton]
  simp

theorem exists_last {α : Type} {p : α → Prop} {l : List α} (h : ∃ a ∈ l, p a) :
    ∃ before a after, l = before ++ a :: after ∧ p a ∧ ∀ b ∈ after, ¬ p b := by
  induction l with
  | nil =>
      obtain ⟨a, ha, -⟩ := h
      cases ha
  | cons a l ih =>
      by_cases hrest : ∃ b ∈ l, p b
      · obtain ⟨before, b, after, rfl, hb, hafter⟩ := ih hrest
        exact ⟨a :: before, b, after, rfl, hb, hafter⟩
      · obtain ⟨b, hb, hpb⟩ := h
        have hhead : b = a := by
          rcases List.mem_cons.mp hb with heq | hin
          · exact heq
          · exact absurd ⟨b, hin, hpb⟩ hrest
        refine ⟨[], a, l, rfl, hhead ▸ hpb, fun c hc hpc => hrest ⟨c, hc, hpc⟩⟩

theorem attainable_of_terminal (hnode : expected.nodesById[nodeId]? = some node)
    (h : (terminalAttempts expected reports)[nodeId]?.map Prod.fst = some last) :
    Attainable expected reports nodeId last := by
  have hsole := soleAttempt_of_terminal hnode h
  have hall := hsole.terminal_iff.mp h
  have hfirst : ∀ id, OtherAttempt expected reports nodeId last id →
      FirstFailed expected reports nodeId id := fun id hid => firstFailed_of_retried (hall id hid)
  refine ⟨hsole, fun id hid => ?_, priorOf expected reports nodeId,
    fun prior hprior => mem_retriedAttempts.mp (hall prior hprior), fun id prior hid => ?_⟩
  · obtain ⟨first, hfind, hfailed⟩ := hfirst id hid
    exact ⟨first, List.mem_of_find?_eq_some hfind, by simpa using List.find?_some hfind, hfailed⟩
  · obtain ⟨before, retry, after, hsplit, rfl, hvalid, hafter⟩ := priorOf_eq_some.mp hid
    have hmem : retry ∈ nodeReports expected reports nodeId := by simp [hsplit]
    refine ⟨retry, rfl, (hsole.validRetry_iff hfirst hmem).mp hvalid, ?_⟩
    by_cases hsame : ∀ other prior', other.attemptId = retry.attemptId →
        RetriesOther expected reports nodeId last other prior' → prior' = prior
    · exact .inl hsame
    -- another retry with the id comes before, and so does the first report with it
    · simp only [not_forall] at hsame
      obtain ⟨other, prior', hother, hretries, hne⟩ := hsame
      have hbefore : other ∈ before := by
        have hin := hretries.mem
        rw [hsplit] at hin
        rcases List.mem_append.mp hin with hin | hin
        · exact hin
        · rcases List.mem_cons.mp hin with rfl | hin
          · exact absurd (Option.some.inj (hretries.retries.symm.trans hvalid.1)) hne
          · exact absurd ((hsole.validRetry_iff hfirst hretries.mem).mpr hretries)
              (hafter other hin hother prior')
      have hattempt : OtherAttempt expected reports nodeId last retry.attemptId := by
        refine ⟨fun hlast => ?_, List.mem_map.mpr ⟨retry, hmem, rfl⟩⟩
        have hretry := hsole.eq hmem hlast
        rw [hsole.eq hretries.mem (hother.trans hlast), ← hretry] at hretries
        exact hne (Option.some.inj (hretries.retries.symm.trans hvalid.1))
      obtain ⟨first, hfind, hfailed⟩ := hfirst _ hattempt
      refine .inr ⟨first, by simpa using List.find?_some hfind, hfailed, ?_⟩
      obtain ⟨left, right, rfl, rfl, hright⟩ := List.filter_eq_append_iff.mp hsplit
      have hleft : first ∈ left := by
        have hsome : (left.find? fun report => report.attemptId = retry.attemptId).isSome := by
          rw [List.find?_isSome]
          exact ⟨other, List.mem_of_mem_filter hbefore, decide_eq_true hother⟩
        obtain ⟨found, hfound⟩ := Option.isSome_iff_exists.mp hsome
        rw [List.find?_append, hfound, Option.some_or, Option.some.injEq] at hfind
        exact hfind ▸ List.mem_of_find?_eq_some hfound
      have hretry : retry ∈ right := by
        have hin : retry ∈ right.filter fun report => report.InNode expected nodeId :=
          hright ▸ List.mem_cons_self
        exact List.mem_of_mem_filter hin
      exact ((List.singleton_sublist.mpr hleft).append (List.singleton_sublist.mpr hretry)).subperm

/-- What all retries with one id say is retried. -/
theorem SoleAttempt.retried_of_agreed (hsole : SoleAttempt expected reports nodeId last)
    (hfirst : ∀ id, OtherAttempt expected reports nodeId last id →
      FirstFailed expected reports nodeId id) (hretry : ∃ retry, retry.attemptId = id ∧
      RetriesOther expected reports nodeId last retry prior)
    (hall : ∀ other prior', other.attemptId = id →
      RetriesOther expected reports nodeId last other prior' → prior' = prior) :
    prior ∈ retriedAttempts expected reports nodeId := by
  obtain ⟨retry, hid, hretries⟩ := hretry
  obtain ⟨before, found, after, hsplit, ⟨hfoundId, other, hother⟩, hafter⟩ :=
    @exists_last _ (fun report => report.attemptId = id ∧
      ∃ prior, ValidRetry expected reports nodeId report prior) _
      ⟨retry, hretries.mem, hid, prior, (hsole.validRetry_iff hfirst hretries.mem).mpr hretries⟩
  have hmem : found ∈ nodeReports expected reports nodeId := by simp [hsplit]
  have hsame := hall found other hfoundId ((hsole.validRetry_iff hfirst hmem).mp hother)
  rw [hsame] at hother
  exact mem_retriedAttempts.mpr ⟨id, priorOf_eq_some.mpr ⟨before, found, after, hsplit, hfoundId,
    hother, fun report hreport hid prior hvalid => hafter report hreport ⟨hid, prior, hvalid⟩⟩⟩

theorem terminal_of_forced (hsole : SoleAttempt expected reports nodeId last)
    (h : Forced expected reports nodeId last) :
    (terminalAttempts expected reports)[nodeId]?.map Prod.fst = some last := by
  have hfirst : ∀ id, OtherAttempt expected reports nodeId last id →
      FirstFailed expected reports nodeId id := by
    intro id hid
    obtain ⟨report, hreport, hsame⟩ := List.mem_map.mp hid.2
    have hsome : (reports.find? fun report => report.attemptId = id).isSome := by
      rw [List.find?_isSome]
      exact ⟨report, (mem_nodeReports.mp hreport).1, decide_eq_true hsame⟩
    obtain ⟨first, hfind⟩ := Option.isSome_iff_exists.mp hsome
    exact ⟨first, hfind, h.failed id hid first (List.mem_of_find?_eq_some hfind)
      (by simpa using List.find?_some hfind)⟩
  refine hsole.terminal_iff.mpr fun prior hprior => ?_
  obtain ⟨id, hretry, hall⟩ := h.retried prior hprior
  exact hsole.retried_of_agreed hfirst hretry hall

end Sole

/-! ## Reordered reports -/

section Reordered

variable {expected : RuntimeGraphExpectation} {reports reports' : List RuntimeNodeReport}
  {nodeId id prior : String} {report retry last : RuntimeNodeReport}

theorem nodeReports_perm (h : reports.Perm reports') :
    (nodeReports expected reports nodeId).Perm (nodeReports expected reports' nodeId) :=
  h.filter _

theorem SoleAttempt.perm (hsole : SoleAttempt expected reports nodeId last)
    (h : reports.Perm reports') : SoleAttempt expected reports' nodeId last := by
  refine ⟨?_, hsole.meets⟩
  have hperm := (@nodeReports_perm expected _ _ nodeId h).filter
    fun report => report.attemptId = last.attemptId
  rw [hsole.sole] at hperm
  exact List.perm_singleton.mp hperm.symm

theorem otherAttempt_perm (h : reports.Perm reports') :
    OtherAttempt expected reports nodeId last id ↔
      OtherAttempt expected reports' nodeId last id := by
  unfold OtherAttempt
  rw [((nodeReports_perm h).map _).mem_iff]

theorem RetriesOther.perm (hretries : RetriesOther expected reports nodeId last retry prior)
    (h : reports.Perm reports') : RetriesOther expected reports' nodeId last retry prior :=
  ⟨(nodeReports_perm h).mem_iff.mp hretries.mem, hretries.retries, hretries.ne,
    (otherAttempt_perm h).mp hretries.other⟩

theorem Attainable.perm (hattainable : Attainable expected reports nodeId last)
    (h : reports.Perm reports') : Attainable expected reports' nodeId last := by
  obtain ⟨hsole, hfailed, choice, hall, hchoice⟩ := hattainable
  refine ⟨hsole.perm h, fun id hid => ?_, choice,
    fun prior hprior => hall prior ((otherAttempt_perm h).mpr hprior), fun id prior hid => ?_⟩
  · obtain ⟨report, hreport, hsame⟩ := hfailed id ((otherAttempt_perm h).mpr hid)
    exact ⟨report, h.mem_iff.mp hreport, hsame⟩
  · obtain ⟨retry, hretry, hretries, hor⟩ := hchoice id prior hid
    refine ⟨retry, hretry, hretries.perm h, hor.imp (fun hsame other prior' hother hr => ?_) ?_⟩
    · exact hsame other prior' hother (hr.perm h.symm)
    · rintro ⟨first, hfirst, hfirstFailed, hsub⟩
      exact ⟨first, hfirst, hfirstFailed, hsub.trans h.subperm⟩

theorem Forced.perm (hforced : Forced expected reports nodeId last) (h : reports.Perm reports') :
    Forced expected reports' nodeId last := by
  refine ⟨fun id hid report hreport => hforced.failed id ((otherAttempt_perm h).mpr hid) report
    (h.mem_iff.mpr hreport), fun prior hprior => ?_⟩
  obtain ⟨id, ⟨retry, hretry, hretries⟩, hall⟩ :=
    hforced.retried prior ((otherAttempt_perm h).mpr hprior)
  exact ⟨id, ⟨retry, hretry, hretries.perm h⟩, fun other prior' hother hr =>
    hall other prior' hother (hr.perm h.symm)⟩

theorem map_attemptId_pick {pick : String → Option RuntimeNodeReport}
    (hpick : ∀ id report, pick id = some report → report.attemptId = id) (ids : List String) :
    ((ids.filterMap pick).map (·.attemptId)).Sublist ids := by
  induction ids with
  | nil => exact List.Sublist.refl _
  | cons id ids ih =>
      rw [List.filterMap_cons]
      cases hid : pick id with
      | none => exact ih.cons _
      | some report =>
          rw [List.map_cons, hpick id report hid]
          exact ih.cons_cons _

theorem nodup_attemptId_pick (reports : List RuntimeNodeReport)
    {pick : String → Option RuntimeNodeReport}
    (hpick : ∀ id report, pick id = some report → report.attemptId = id) :
    (((distinct (reports.map (·.attemptId))).filterMap pick).map (·.attemptId)).Nodup :=
  (nodup_distinct _).sublist (map_attemptId_pick hpick _)

/-- What an attempt retries when a retry of it is among the last reports. -/
theorem priorOf_of_lasts {front lasts : List RuntimeNodeReport}
    (hnodup : (lasts.map (·.attemptId)).Nodup) (hmem : retry ∈ lasts)
    (hnode : retry.InNode expected nodeId)
    (hvalid : ValidRetry expected (front ++ lasts) nodeId retry prior) :
    priorOf expected (front ++ lasts) nodeId retry.attemptId = some prior := by
  obtain ⟨before, after, rfl⟩ := List.append_of_mem hmem
  refine priorOf_eq_some.mpr ⟨nodeReports expected (front ++ before) nodeId, retry,
    nodeReports expected after nodeId, ?_, rfl, hvalid, fun other hother hid => ?_⟩
  · unfold nodeReports
    rw [← List.append_assoc, List.filter_append, List.filter_cons, if_pos (decide_eq_true hnode)]
  · rw [List.map_append, List.map_cons, List.nodup_append] at hnodup
    have hfresh := (List.nodup_cons.mp hnodup.2.1).1
    rw [← hid] at hfresh
    exact absurd (List.mem_map.mpr ⟨other, (mem_nodeReports.mp hother).1, rfl⟩) hfresh

theorem firstFailed_of_firsts {firsts rest : List RuntimeNodeReport}
    (hnodup : (firsts.map (·.attemptId)).Nodup) (hmem : report ∈ firsts)
    (hfailed : report.FailedIn expected nodeId) :
    FirstFailed expected (firsts ++ rest) nodeId report.attemptId := by
  have hsome : (firsts.find? fun other => other.attemptId = report.attemptId).isSome := by
    rw [List.find?_isSome]
    exact ⟨report, hmem, decide_eq_true rfl⟩
  obtain ⟨first, hfind⟩ := Option.isSome_iff_exists.mp hsome
  have hid : first.attemptId = report.attemptId := by simpa using List.find?_some hfind
  have hsame := List.inj_on_of_nodup_map hnodup (List.mem_of_find?_eq_some hfind) hmem hid
  subst hsame
  exact ⟨first, by rw [List.find?_append, hfind, Option.some_or], hfailed⟩

/-- What is picked for an attempt id, to come first and to come last. -/
structure Picked (expected : RuntimeGraphExpectation) (reports : List RuntimeNodeReport)
    (nodeId : String) (last : RuntimeNodeReport) (choice : String → Option String) (id : String)
    (first retry : Option RuntimeNodeReport) : Prop where
  firstId : ∀ report, first = some report → report.attemptId = id
  retryId : ∀ report, retry = some report → report.attemptId = id
  failed : OtherAttempt expected reports nodeId last id → ∃ report, first = some report ∧
    report.FailedIn expected nodeId
  within : (first.toList ++ retry.toList).Subperm reports
  chosen : ∀ prior, choice id = some prior →
    (∃ report, retry = some report ∧
      RetriesOther expected reports nodeId last report prior) ∨
    (retry = none ∧
      (∃ report, report.attemptId = id ∧
        RetriesOther expected reports nodeId last report prior) ∧
      ∀ other prior', other.attemptId = id →
        RetriesOther expected reports nodeId last other prior' → prior' = prior)

theorem Attainable.exists_picked (h : Attainable expected reports nodeId last) :
    ∃ (choice : String → Option String) (first retry : String → Option RuntimeNodeReport),
      (∀ prior, OtherAttempt expected reports nodeId last prior →
        ∃ id, choice id = some prior) ∧
      ∀ id, Picked expected reports nodeId last choice id (first id) (retry id) := by
  obtain ⟨hsole, hfailed, choice, hall, hchoice⟩ := h
  have heach : ∀ id, ∃ picked : Option RuntimeNodeReport × Option RuntimeNodeReport,
      Picked expected reports nodeId last choice id picked.1 picked.2 := by
    intro id
    have hnone : ∀ report : RuntimeNodeReport, none = some report → report.attemptId = id :=
      fun report heq => absurd heq.symm (Option.some_ne_none report)
    -- a report that may be retried, where one is needed
    have hfirst : ∃ first : Option RuntimeNodeReport,
        (∀ report, first = some report → report.attemptId = id) ∧
        (OtherAttempt expected reports nodeId last id → ∃ report, first = some report ∧
          report.FailedIn expected nodeId) ∧ (first.toList ++ []).Subperm reports := by
      by_cases hid : OtherAttempt expected reports nodeId last id
      · obtain ⟨report, hreport, hsame, hin⟩ := hfailed id hid
        refine ⟨some report, ?_, fun _ => ⟨report, rfl, hin⟩, ?_⟩
        · intro other heq
          rw [← Option.some.inj heq]
          exact hsame
        · exact (List.singleton_sublist.mpr hreport).subperm
      · exact ⟨none, hnone, fun h => absurd h hid, List.nil_subperm⟩
    obtain ⟨first, hfirstId, hfirstFailed, hwithin⟩ := hfirst
    cases hpick : choice id with
    | none =>
        refine ⟨(first, none), hfirstId, hnone, hfirstFailed, hwithin, fun prior hprior => ?_⟩
        rw [hpick] at hprior
        cases hprior
    | some prior =>
        obtain ⟨retry, hretry, hretries, hsame | ⟨before, hbefore, hbeforeFailed, hsub⟩⟩ :=
          hchoice id prior hpick
        · refine ⟨(first, none), hfirstId, hnone, hfirstFailed, hwithin, fun other hother => ?_⟩
          rw [hpick] at hother
          cases hother
          exact .inr ⟨rfl, ⟨retry, hretry, hretries⟩, hsame⟩
        · refine ⟨(some before, some retry), ?_, ?_, fun _ => ⟨before, rfl, hbeforeFailed⟩, hsub,
            fun other hother => ?_⟩
          · intro other heq
            rw [← Option.some.inj heq]
            exact hbefore
          · intro other heq
            rw [← Option.some.inj heq]
            exact hretry
          · rw [hpick] at hother
            cases hother
            exact .inl ⟨retry, rfl, hretries⟩
  choose picked hpicked using heach
  exact ⟨choice, fun id => (picked id).1, fun id => (picked id).2, hall, hpicked⟩

/-- What is picked fits into the reports, the first ones and the last ones together. -/
theorem picked_subperm {choice : String → Option String}
    {first retry : String → Option RuntimeNodeReport}
    (h : ∀ id, Picked expected reports nodeId last choice id (first id) (retry id)) :
    ((distinct (reports.map (·.attemptId))).filterMap first ++
      (distinct (reports.map (·.attemptId))).filterMap retry).Subperm reports := by
  have hmem : ∀ {pick : String → Option RuntimeNodeReport} {report : RuntimeNodeReport},
      (∀ id report, pick id = some report → report.attemptId = id) →
      report ∈ (distinct (reports.map (·.attemptId))).filterMap pick →
        pick report.attemptId = some report := by
    intro pick report hpick hreport
    obtain ⟨id, -, hid⟩ := List.mem_filterMap.mp hreport
    rw [hpick id report hid]
    exact hid
  have hfirsts := (nodup_attemptId_pick reports fun id => (h id).firstId).of_map
  have hlasts := (nodup_attemptId_pick reports fun id => (h id).retryId).of_map
  refine List.subperm_ext_iff.mpr fun report _ => ?_
  rw [List.count_append]
  have hcount := (h report.attemptId).within.count_le report
  rw [List.count_append] at hcount
  refine Nat.le_trans (Nat.add_le_add ?_ ?_) hcount
  · by_cases hin : report ∈ (distinct (reports.map (·.attemptId))).filterMap first
    · rw [hmem (fun id => (h id).firstId) hin, List.count_eq_one_of_mem hfirsts hin]
      simp
    · rw [List.count_eq_zero_of_not_mem hin]
      exact Nat.zero_le _
  · by_cases hin : report ∈ (distinct (reports.map (·.attemptId))).filterMap retry
    · rw [hmem (fun id => (h id).retryId) hin, List.count_eq_one_of_mem hlasts hin]
      simp
    · rw [List.count_eq_zero_of_not_mem hin]
      exact Nat.zero_le _

theorem exists_perm_of_subperm {α : Type*} {part whole : List α} (h : part.Subperm whole) :
    ∃ rest, whole.Perm (part ++ rest) := by
  obtain ⟨arranged, hperm, hsub⟩ := List.subperm_iff.mp h
  obtain ⟨rest, hrest⟩ := hsub.exists_perm_append
  exact ⟨rest, hperm.symm.trans hrest⟩

theorem Attainable.exists_order (h : Attainable expected reports nodeId last) :
    ∃ reports', reports.Perm reports' ∧
      (terminalAttempts expected reports')[nodeId]?.map Prod.fst = some last := by
  obtain ⟨choice, first, retry, hall, hpicked⟩ := h.exists_picked
  have hfirsts := nodup_attemptId_pick reports fun id => (hpicked id).firstId
  have hlasts := nodup_attemptId_pick reports fun id => (hpicked id).retryId
  obtain ⟨rest, hrest⟩ := exists_perm_of_subperm (picked_subperm hpicked)
  generalize hfirstsEq : (distinct (reports.map (·.attemptId))).filterMap first = firsts at *
  generalize hlastsEq : (distinct (reports.map (·.attemptId))).filterMap retry = lasts at *
  have hperm : reports.Perm (firsts ++ (rest ++ lasts)) := by
    refine hrest.trans ?_
    rw [List.append_assoc]
    exact List.perm_append_comm.append_left firsts
  refine ⟨firsts ++ (rest ++ lasts), hperm, ?_⟩
  have hsole := h.sole.perm hperm
  have hids : ∀ {id}, OtherAttempt expected reports nodeId last id →
      id ∈ distinct (reports.map (·.attemptId)) := by
    intro id hid
    obtain ⟨report, hreport, hsame⟩ := List.mem_map.mp hid.2
    exact mem_distinct.mpr (List.mem_map.mpr ⟨report, (mem_nodeReports.mp hreport).1, hsame⟩)
  have hfirstFailed : ∀ id, OtherAttempt expected (firsts ++ (rest ++ lasts)) nodeId last id →
      FirstFailed expected (firsts ++ (rest ++ lasts)) nodeId id := by
    intro id hid
    have hold := (otherAttempt_perm hperm).mpr hid
    obtain ⟨report, hreport, hfailed⟩ := (hpicked id).failed hold
    have hin : report ∈ firsts := by
      rw [← hfirstsEq]
      exact List.mem_filterMap.mpr ⟨id, hids hold, hreport⟩
    rw [← (hpicked id).firstId report hreport]
    exact firstFailed_of_firsts hfirsts hin hfailed
  refine hsole.terminal_iff.mpr fun prior hprior => ?_
  have hpriorOld := (otherAttempt_perm hperm).mpr hprior
  obtain ⟨id, hid⟩ := hall prior hpriorOld
  rcases (hpicked id).chosen prior hid with ⟨report, hreport, hretries⟩ |
    ⟨-, ⟨report, hreport, hretries⟩, hsame⟩
  · have hsameId := (hpicked id).retryId report hreport
    have hin : report ∈ lasts := by
      rw [← hlastsEq]
      refine List.mem_filterMap.mpr ⟨id, mem_distinct.mpr (List.mem_map.mpr ⟨report, ?_, hsameId⟩),
        hreport⟩
      exact (mem_nodeReports.mp hretries.mem).1
    have hnew := hretries.perm hperm
    have hvalid := (hsole.validRetry_iff hfirstFailed hnew.mem).mpr hnew
    rw [← List.append_assoc] at hvalid ⊢
    exact mem_retriedAttempts.mpr ⟨_, priorOf_of_lasts hlasts hin
      (mem_nodeReports.mp hretries.mem).2 hvalid⟩
  · exact hsole.retried_of_agreed hfirstFailed ⟨report, hreport, hretries.perm hperm⟩
      fun other prior' hother hr => hsame other prior' hother (hr.perm hperm.symm)

theorem SoleAttempt.exists_order (hsole : SoleAttempt expected reports nodeId last)
    (h : ¬ Forced expected reports nodeId last) : ∃ reports', reports.Perm reports' ∧
      (terminalAttempts expected reports')[nodeId]?.map Prod.fst ≠ some last := by
  by_cases hfailed : ∀ id, OtherAttempt expected reports nodeId last id → ∀ report ∈ reports,
      report.attemptId = id → report.FailedIn expected nodeId
  · -- retries that say something else come last
    have hretried : ∃ prior, OtherAttempt expected reports nodeId last prior ∧ ∀ id,
        (∃ retry, retry.attemptId = id ∧
          RetriesOther expected reports nodeId last retry prior) →
        ∃ other prior', other.attemptId = id ∧
          RetriesOther expected reports nodeId last other prior' ∧ prior' ≠ prior := by
      by_contra hnone
      refine h ⟨hfailed, fun prior hprior => ?_⟩
      by_contra hall
      refine hnone ⟨prior, hprior, fun id hid => ?_⟩
      by_contra hsame
      refine hall ⟨id, hid, fun other prior' hother hr => ?_⟩
      by_contra hne
      exact hsame ⟨other, prior', hother, hr, hne⟩
    obtain ⟨prior, hprior, hother⟩ := hretried
    have hpick : ∀ id, ∃ pick : Option RuntimeNodeReport,
        (∀ report, pick = some report → report.attemptId = id ∧
          ∃ prior', RetriesOther expected reports nodeId last report prior' ∧ prior' ≠ prior) ∧
        ((∃ retry, retry.attemptId = id ∧
          RetriesOther expected reports nodeId last retry prior) → pick.isSome) := by
      intro id
      by_cases hid : ∃ retry, retry.attemptId = id ∧
          RetriesOther expected reports nodeId last retry prior
      · obtain ⟨other, prior', hsame, hr, hne⟩ := hother id hid
        refine ⟨some other, fun report heq => ?_, fun _ => rfl⟩
        rw [← Option.some.inj heq]
        exact ⟨hsame, prior', hr, hne⟩
      · exact ⟨none, fun report heq => absurd heq.symm (Option.some_ne_none report),
          fun h => absurd h hid⟩
    choose pick hpicked hsome using hpick
    have hlasts := nodup_attemptId_pick reports fun id report heq => (hpicked id report heq).1
    have hsub : (distinct (reports.map (·.attemptId))).filterMap pick ⊆ reports := by
      intro report hreport
      obtain ⟨id, -, hid⟩ := List.mem_filterMap.mp hreport
      obtain ⟨-, prior', hr, -⟩ := hpicked id report hid
      exact (mem_nodeReports.mp hr.mem).1
    obtain ⟨rest, hrest⟩ := exists_perm_of_subperm (hlasts.of_map.subperm hsub)
    generalize hlastsEq : (distinct (reports.map (·.attemptId))).filterMap pick = lasts at *
    have hperm : reports.Perm (rest ++ lasts) := hrest.trans List.perm_append_comm
    refine ⟨rest ++ lasts, hperm, fun hterminal => ?_⟩
    have hnew := hsole.perm hperm
    have hfirst : ∀ id, OtherAttempt expected (rest ++ lasts) nodeId last id →
        FirstFailed expected (rest ++ lasts) nodeId id := fun id hid =>
      firstFailed_of_retried (hnew.terminal_iff.mp hterminal id hid)
    obtain ⟨id, hid⟩ := mem_retriedAttempts.mp
      (hnew.terminal_iff.mp hterminal prior ((otherAttempt_perm hperm).mp hprior))
    obtain ⟨before, retry, after, hsplit, rfl, hvalid, -⟩ := priorOf_eq_some.mp hid
    have hmem : retry ∈ nodeReports expected (rest ++ lasts) nodeId := by simp [hsplit]
    have hretries := ((hnew.validRetry_iff hfirst hmem).mp hvalid).perm hperm.symm
    obtain ⟨report, hreport⟩ := Option.isSome_iff_exists.mp
      (hsome retry.attemptId ⟨retry, rfl, hretries⟩)
    obtain ⟨hsameId, prior', hr, hne⟩ := hpicked _ report hreport
    have hin : report ∈ lasts := by
      rw [← hlastsEq]
      refine List.mem_filterMap.mpr ⟨_, mem_distinct.mpr (List.mem_map.mpr ⟨retry, ?_, rfl⟩),
        hreport⟩
      exact (mem_nodeReports.mp hretries.mem).1
    have hvalid' := (hnew.validRetry_iff hfirst (hr.perm hperm).mem).mpr (hr.perm hperm)
    have hother := priorOf_of_lasts hlasts hin (mem_nodeReports.mp hr.mem).2 hvalid'
    rw [hsameId, hid] at hother
    exact hne (Option.some.inj hother).symm
  · -- a report that cannot be retried comes first
    simp only [not_forall] at hfailed
    obtain ⟨id, hid, report, hreport, hsame, hfails⟩ := hfailed
    have hperm := List.perm_cons_erase hreport
    refine ⟨report :: reports.erase report, hperm, fun hterminal => ?_⟩
    have hretried := (hsole.perm hperm).terminal_iff.mp hterminal id
      ((otherAttempt_perm hperm).mp hid)
    obtain ⟨first, hfind, hfirst⟩ := firstFailed_of_retried hretried
    rw [List.find?_cons_of_pos (by simpa using hsame)] at hfind
    exact hfails (Option.some.inj hfind ▸ hfirst)

theorem exists_node_of_terminal
    (h : (terminalAttempts expected reports)[nodeId]?.map Prod.fst = some last) :
    ∃ node, expected.nodesById[nodeId]? = some node := by
  obtain ⟨row, hrow, -⟩ := Option.map_eq_some_iff.mp h
  obtain ⟨-, node, hget, -⟩ := getElem?_terminalAttempts.mp hrow
  exact ⟨node, hget⟩

/-- No order changes the last attempt at a node exactly when all that could be a last
attempt is one in every order. -/
theorem orderSettled_iff : OrderSettled expected reports ↔
    ∀ (nodeId : String) (reports' : List RuntimeNodeReport), reports.Perm reports' →
      (terminalAttempts expected reports')[nodeId]?.map Prod.fst =
        (terminalAttempts expected reports)[nodeId]?.map Prod.fst := by
  constructor
  · intro h nodeId reports' hperm
    -- a last attempt in one order is one in the other
    have hsame : ∀ {a b : List RuntimeNodeReport} {last : RuntimeNodeReport},
        reports.Perm a → reports.Perm b →
        (terminalAttempts expected a)[nodeId]?.map Prod.fst = some last →
          (terminalAttempts expected b)[nodeId]?.map Prod.fst = some last := by
      intro a b last ha hb hlast
      obtain ⟨node, hget⟩ := exists_node_of_terminal hlast
      have hattainable := attainable_of_terminal hget hlast
      have hforced := h nodeId last (hattainable.perm ha.symm)
      exact terminal_of_forced ((hattainable.perm ha.symm).sole.perm hb) (hforced.perm hb)
    refine Option.ext fun last => ⟨hsame hperm (List.Perm.refl _), hsame (List.Perm.refl _) hperm⟩
  · intro h nodeId last hattainable
    by_contra hforced
    obtain ⟨first, hfirst, hlast⟩ := hattainable.exists_order
    obtain ⟨second, hsecond, hmissing⟩ := hattainable.sole.exists_order hforced
    rw [h nodeId second hsecond, ← h nodeId first hfirst, hlast] at hmissing
    exact hmissing rfl

end Reordered

end CaseGraphen
