import CaseGraphen.RuntimeReconciliation

/-!
# Lines of retries

When no attempt id appears twice, what the reconciliation makes of the attempts of a node
can be said at once: it has nothing to find fault with, and names a last attempt, exactly
when the attempts form one line, each retrying the one before, which did not succeed.
-/

namespace CaseGraphen

open Checked Json Std OrderedMap Sorting Text Lineage

/-- A line of attempts, the last first: each retries the next, which did not succeed. -/
def RetryLine : List RuntimeNodeReport → Prop
  | [] => False
  | [root] => root.retryOfAttemptId = none
  | retry :: prior :: earlier => retry.retryOfAttemptId = some prior.attemptId ∧
      prior.status ≠ .succeeded ∧ RetryLine (prior :: earlier)

/-- Rows of one node among all rows, with attempts that are told apart by their ids. -/
structure DistinctRows (attempts : ExtTreeMap String ReportRow) (all rows : List ReportRow) :
    Prop where
  attempts : ∀ (id : String) row, attempts[id]? = some row ↔ row ∈ all ∧ row.1.attemptId = id
  sub : ∀ row ∈ rows, row ∈ all
  index : ∀ row ∈ all, row.2 ∈ rows.map Prod.snd → row ∈ rows
  ids : (rows.map fun row => row.1.attemptId).Nodup

variable {attempts : ExtTreeMap String ReportRow}

section Rows

variable {all rows : List ReportRow} {report : RuntimeNodeReport} {row other : ReportRow}
  {prior id : String}

theorem DistinctRows.eq (h : DistinctRows attempts all rows) (hrow : row ∈ rows)
    (hother : other ∈ rows) (hids : row.1.attemptId = other.1.attemptId) : row = other :=
  List.inj_on_of_nodup_map h.ids hrow hother hids

theorem DistinctRows.validPrior_eq_some (h : DistinctRows attempts all rows) :
    validPrior attempts rows report = some prior ↔ report.retryOfAttemptId = some prior ∧
      prior ≠ report.attemptId ∧
      ∃ row ∈ rows, row.1.attemptId = prior ∧ row.1.status ≠ .succeeded := by
  unfold validPrior
  rw [Option.filter_eq_some_iff, Option.any_eq_true _ _]
  refine and_congr_right fun _ => ?_
  constructor
  · rintro ⟨row, hget, hvalid⟩
    obtain ⟨hindex, hne, hstatus⟩ := of_decide_eq_true hvalid
    obtain ⟨hall, hid⟩ := (h.attempts prior row).mp hget
    exact ⟨hne, row, h.index row hall hindex, hid, hstatus⟩
  · rintro ⟨hne, row, hrow, hid, hstatus⟩
    refine ⟨row, (h.attempts prior row).mpr ⟨h.sub row hrow, hid⟩, decide_eq_true ⟨?_, hne,
      hstatus⟩⟩
    exact List.mem_map.mpr ⟨row, hrow, rfl⟩

theorem keys_filterMap_sublist {α β : Type} (key : α → String) (value : α → Option β)
    (l : List α) : ((l.filterMap fun a => (value a).map fun b => (key a, b)).map
      Prod.fst).Sublist (l.map key) := by
  induction l with
  | nil => exact List.Sublist.refl _
  | cons a l ih =>
      rw [List.filterMap_cons, List.map_cons]
      cases value a with
      | none => exact ih.cons _
      | some b => exact ih.cons_cons _

theorem DistinctRows.getElem?_validParents (h : DistinctRows attempts all rows) :
    (validParents attempts rows)[id]? = some prior ↔
      ∃ row ∈ rows, row.1.attemptId = id ∧ validPrior attempts rows row.1 = some prior := by
  have hnodup : ((rows.filterMap fun row =>
      (validPrior attempts rows row.1).map fun prior => (row.1.attemptId, prior)).map
        Prod.fst).Nodup := by
    exact List.Nodup.sublist (keys_filterMap_sublist _ _ _) h.ids
  unfold validParents
  rw [getElem?_fill_empty hnodup, List.mem_filterMap]
  constructor
  · rintro ⟨row, hrow, hsome⟩
    obtain ⟨found, hfound, heq⟩ := Option.map_eq_some_iff.mp hsome
    cases heq
    exact ⟨row, hrow, rfl, hfound⟩
  · rintro ⟨row, hrow, rfl, hfound⟩
    exact ⟨row, hrow, by rw [hfound]; rfl⟩

theorem DistinctRows.validParents_eq (h : DistinctRows attempts all rows) (hrow : row ∈ rows) :
    (validParents attempts rows)[row.1.attemptId]? = validPrior attempts rows row.1 := by
  refine Option.ext fun prior => ?_
  rw [h.getElem?_validParents]
  constructor
  · rintro ⟨other, hother, hid, hprior⟩
    rw [← h.eq hother hrow hid]
    exact hprior
  · intro hprior
    exact ⟨row, hrow, rfl, hprior⟩

theorem validPrior_eq_of_valid (h : row ∉ invalidRetryRows attempts rows) (hrow : row ∈ rows) :
    validPrior attempts rows row.1 = row.1.retryOfAttemptId := by
  unfold invalidRetryRows at h
  rw [List.mem_filter, not_and, decide_eq_true_iff, not_and] at h
  cases hprior : validPrior attempts rows row.1 with
  | some prior =>
      unfold validPrior at hprior
      rw [Option.filter_eq_some_iff] at hprior
      exact hprior.1.symm
  | none =>
      by_contra hne
      exact h hrow (Ne.symm hne) hprior

end Rows

variable {node : ExpectedRuntimeNode} {nodeId : String}

/-! ## From a faultless node to a line -/

section Faultless

variable {all rows : List ReportRow} {row : ReportRow}

theorem eq_of_length_le_one {α : Type} {l : List α} (h : l.length ≤ 1) {a b : α} (ha : a ∈ l)
    (hb : b ∈ l) : a = b := by
  match l, h with
  | [c], _ => exact (List.mem_singleton.mp ha).trans (List.mem_singleton.mp hb).symm

/-- The attempts of a node have nothing the reconciliation finds fault with. -/
structure Faultless (attempts : ExtTreeMap String ReportRow) (rows : List ReportRow) : Prop where
  invalid : invalidRetryRows attempts rows = []
  roots : (rootRows rows).length ≤ 1
  branched : ((retriedIds attempts rows).filter fun prior =>
    1 < (childRows attempts rows prior).length) = []
  cycle : cycleAttempts attempts rows = []

theorem faultless_of_findings (h : (reconcileNode attempts rows node nodeId).findings = []) :
    Faultless attempts rows := by
  unfold reconcileNode at h
  simp only [List.append_eq_nil_iff, List.map_eq_nil_iff, findingUnless_eq_nil] at h
  obtain ⟨⟨⟨⟨hinvalid, hroots⟩, hbranched⟩, hcycle⟩, -⟩ := h
  exact ⟨hinvalid, hroots, hbranched, hcycle⟩

theorem faultless_of_duplicates (hrows : DistinctRows attempts all rows)
    (h : (reconcileNode attempts rows node nodeId).duplicates = []) : Faultless attempts rows := by
  unfold reconcileNode at h
  simp only [List.append_eq_nil_iff, List.map_eq_nil_iff, List.flatMap_eq_nil_iff] at h
  obtain ⟨⟨⟨hinvalid, hroots⟩, hbranched⟩, hcycle⟩ := h
  have hlength : ∀ {l : List ReportRow}, l.tail = [] → l.length ≤ 1 := by
    intro l htail
    have hshort := congrArg List.length htail
    rw [List.length_tail, List.length_nil] at hshort
    omega
  refine ⟨hinvalid, hlength hroots, List.eq_nil_iff_forall_not_mem.mpr fun prior hprior => ?_,
    List.eq_nil_iff_forall_not_mem.mpr fun id hid => ?_⟩
  · have hmany := of_decide_eq_true (List.mem_filter.mp hprior).2
    exact absurd (hlength (hbranched prior hprior)) (Nat.not_le.mpr hmany)
  · -- what lies on a cycle retries something, so it has a row
    obtain ⟨start, -, hseen⟩ := List.mem_flatMap.mp (mem_distinct.mp hid)
    obtain ⟨prior, hprior⟩ := exists_prior_of_mem_cycleFrom nofun hseen
    obtain ⟨row, hrow, hrowId, -⟩ := hrows.getElem?_validParents.mp hprior
    have hget := (hrows.attempts id row).mpr ⟨hrows.sub row hrow, hrowId⟩
    have hnone := List.filterMap_eq_nil_iff.mp hcycle id hid
    rw [hget] at hnone
    cases hnone

theorem Faultless.validPrior_eq (h : Faultless attempts rows) (hrow : row ∈ rows) :
    validPrior attempts rows row.1 = row.1.retryOfAttemptId :=
  validPrior_eq_of_valid (h.invalid ▸ List.not_mem_nil) hrow

theorem Faultless.validPrior_injective (h : Faultless attempts rows) {other : ReportRow}
    (hrow : row ∈ rows) (hother : other ∈ rows)
    (heq : validPrior attempts rows row.1 = validPrior attempts rows other.1) : row = other := by
  cases hprior : validPrior attempts rows row.1 with
  | none =>
      have hroot : ∀ row ∈ rows, validPrior attempts rows row.1 = none → row ∈ rootRows rows := by
        intro row hrow hnone
        rw [h.validPrior_eq hrow] at hnone
        exact List.mem_filter.mpr ⟨hrow, decide_eq_true hnone⟩
      exact eq_of_length_le_one h.roots (hroot row hrow hprior)
        (hroot other hother (heq.symm.trans hprior))
  | some prior =>
      have hretried : prior ∈ retriedIds attempts rows :=
        mem_distinct.mpr (List.mem_filterMap.mpr ⟨row, hrow, hprior⟩)
      have hchildren : (childRows attempts rows prior).length ≤ 1 := by
        by_contra hmany
        have hmem : prior ∈ (retriedIds attempts rows).filter fun prior =>
            1 < (childRows attempts rows prior).length :=
          List.mem_filter.mpr ⟨hretried, decide_eq_true (Nat.lt_of_not_le hmany)⟩
        rw [h.branched] at hmem
        exact absurd hmem List.not_mem_nil
      exact eq_of_length_le_one hchildren
        (List.mem_filter.mpr ⟨hrow, decide_eq_true hprior⟩)
        (List.mem_filter.mpr ⟨hother, decide_eq_true (heq.symm.trans hprior)⟩)

theorem ends_of_cycleAttempts (h : cycleAttempts attempts rows = []) (id : String) :
    Ends (fun id => (validParents attempts rows)[id]?) id := by
  by_cases hkey : id ∈ validParents attempts rows
  · have hnil : cycleFrom (fun id => (validParents attempts rows)[id]?)
        ((validParents attempts rows).size + 1) [] id = [] := by
      refine List.eq_nil_iff_forall_not_mem.mpr fun seen hseen => ?_
      have hmem : seen ∈ cycleAttempts attempts rows := by
        refine mem_distinct.mpr (List.mem_flatMap.mpr ⟨id, ?_, hseen⟩)
        exact ExtTreeMap.mem_keys.mpr hkey
      rw [h] at hmem
      exact absurd hmem List.not_mem_nil
    have hkeys : ∀ k prior, (validParents attempts rows)[k]? = some prior →
        k ∈ (validParents attempts rows).keys := fun k prior hprior =>
      ExtTreeMap.mem_keys.mpr (mem_iff_getElem?.mpr ⟨prior, hprior⟩)
    refine (cycleFrom_eq_nil_iff hkeys ?_).mp hnil
    rw [ExtTreeMap.length_keys]
    exact Nat.lt_succ_self _
  · exact .root (ExtTreeMap.getElem?_eq_none hkey)

theorem retryLine_of_descent {line : List ReportRow} (h : DistinctRows attempts all rows)
    (hretry : ∀ row ∈ rows, validPrior attempts rows row.1 = row.1.retryOfAttemptId)
    (hline : ∀ row ∈ line, row ∈ rows)
    (hdescent : Descent (fun id => (validParents attempts rows)[id]?)
      (line.map fun row => row.1.attemptId)) : RetryLine (line.map Prod.fst) := by
  induction line with
  | nil => exact hdescent
  | cons row line ih =>
      have hrow := hline row List.mem_cons_self
      cases line with
      | nil =>
          have hnone : (validParents attempts rows)[row.1.attemptId]? = none := hdescent
          rw [h.validParents_eq hrow, hretry row hrow] at hnone
          exact hnone
      | cons prior earlier =>
          obtain ⟨hparent, hrest⟩ := hdescent
          have hprior : validPrior attempts rows row.1 = some prior.1.attemptId :=
            (h.validParents_eq hrow).symm.trans hparent
          obtain ⟨hretries, -, other, hother, hid, hstatus⟩ := h.validPrior_eq_some.mp hprior
          have hsame := h.eq hother (hline prior (List.mem_cons_of_mem _ List.mem_cons_self)) hid
          rw [hsame] at hstatus
          exact ⟨hretries, hstatus, ih (fun row hrow => hline row (List.mem_cons_of_mem _ hrow))
            hrest⟩

theorem exists_retryLine (h : DistinctRows attempts all rows) (hfaultless : Faultless attempts rows)
    (hterminal : (reconcileNode attempts rows node nodeId).terminal = some row) :
    ∃ earlier, (row :: earlier).Perm rows ∧ RetryLine ((row :: earlier).map Prod.fst) ∧
      row.1.Meets node := by
  have hretry : ∀ row ∈ rows,
      validPrior attempts rows row.1 = row.1.retryOfAttemptId := fun row hrow =>
    hfaultless.validPrior_eq hrow
  obtain ⟨hlast, hmeets⟩ := Option.filter_eq_some_iff.mp hterminal
  have hrows : terminalRows attempts rows = [row] := by
    split at hlast
    · rename_i last hterminals
      rw [hterminals, Option.some.inj hlast]
    · cases hlast
  have hmem : row ∈ terminalRows attempts rows := hrows ▸ List.mem_singleton_self row
  obtain ⟨hrow, hfree⟩ := List.mem_filter.mp hmem
  have hids : ∀ {k}, k ∈ rows.map (fun row => row.1.attemptId) →
      ∃ row ∈ rows, row.1.attemptId = k := fun hk => List.mem_map.mp hk
  obtain ⟨rest, hperm, hdescent⟩ := @exists_descent String
    (fun id => (validParents attempts rows)[id]?) (rows.map fun row => row.1.attemptId)
    row.1.attemptId h.ids (List.mem_map.mpr ⟨row, hrow, rfl⟩)
    (by
      intro k _ prior hparent
      obtain ⟨child, -, -, hprior⟩ := h.getElem?_validParents.mp hparent
      obtain ⟨-, -, other, hother, hid, -⟩ := h.validPrior_eq_some.mp hprior
      exact List.mem_map.mpr ⟨other, hother, hid⟩)
    (by
      intro a ha b hb heq
      obtain ⟨first, hfirst, rfl⟩ := hids ha
      obtain ⟨second, hsecond, rfl⟩ := hids hb
      rw [h.validParents_eq hfirst, h.validParents_eq hsecond] at heq
      rw [hfaultless.validPrior_injective hfirst hsecond heq])
    (fun k _ => ends_of_cycleAttempts hfaultless.cycle k)
    (by
      intro k _ hparent
      exact of_decide_eq_true hfree (mem_values.mpr ⟨k, hparent⟩))
  obtain ⟨reordered, hreordered, hline⟩ := exists_perm_of_perm_map hperm.symm
  cases reordered with
  | nil => cases hline
  | cons first earlier =>
      obtain ⟨hid, -⟩ := List.cons.inj hline
      have hfirst := h.eq (hreordered.mem_iff.mpr List.mem_cons_self) hrow hid
      subst hfirst
      refine ⟨earlier, hreordered.symm, ?_, of_decide_eq_true hmeets⟩
      rw [← hline] at hdescent
      exact retryLine_of_descent h hretry (fun row hrow => hreordered.mem_iff.mpr hrow) hdescent

end Faultless

/-! ## From a line to a faultless node -/

section Line

variable {all rows line : List ReportRow} {row : ReportRow}

theorem length_le_one_of_nodup {α : Type} {l : List α} (h : l.Nodup)
    (heq : ∀ a ∈ l, ∀ b ∈ l, a = b) : l.length ≤ 1 := by
  match l with
  | [] => exact Nat.zero_le 1
  | [_] => exact Nat.le_refl 1
  | a :: b :: rest =>
      have hab := heq a List.mem_cons_self b (List.mem_cons_of_mem _ List.mem_cons_self)
      exact absurd (hab ▸ List.mem_cons_self) (List.nodup_cons.mp h).1

theorem tail_eq_nil_of_length {α : Type} {l : List α} (h : l.length ≤ 1) : l.tail = [] := by
  match l, h with
  | [], _ => rfl
  | [_], _ => rfl

theorem descent_of_retryLine (h : DistinctRows attempts all rows)
    (hline : ∀ row ∈ line, row ∈ rows) (hnodup : (line.map fun row => row.1.attemptId).Nodup)
    (hretries : RetryLine (line.map Prod.fst)) :
    (∀ row ∈ line, validPrior attempts rows row.1 = row.1.retryOfAttemptId) ∧
      Descent (fun id => (validParents attempts rows)[id]?)
        (line.map fun row => row.1.attemptId) := by
  induction line with
  | nil => exact hretries.elim
  | cons row line ih =>
      have hrow := hline row List.mem_cons_self
      cases line with
      | nil =>
          have hroot : row.1.retryOfAttemptId = none := hretries
          have hvalid : validPrior attempts rows row.1 = none := by
            unfold validPrior
            rw [hroot]
            rfl
          refine ⟨fun other hother => ?_, (h.validParents_eq hrow).trans hvalid⟩
          rw [List.mem_singleton.mp hother, hvalid, hroot]
      | cons prior earlier =>
          obtain ⟨hretry, hstatus, hrest⟩ := hretries
          have hfresh := (List.nodup_cons.mp hnodup).1
          have hvalid : validPrior attempts rows row.1 = some prior.1.attemptId := by
            refine h.validPrior_eq_some.mpr ⟨hretry, fun hsame => ?_, prior,
              hline prior (List.mem_cons_of_mem _ List.mem_cons_self), rfl, hstatus⟩
            exact hfresh (List.mem_map.mpr ⟨prior, List.mem_cons_self, hsame⟩)
          obtain ⟨hvalidRest, hdescent⟩ := ih
            (fun row hrow => hline row (List.mem_cons_of_mem _ hrow))
            (List.nodup_cons.mp hnodup).2 hrest
          refine ⟨fun other hother => ?_, (h.validParents_eq hrow).trans hvalid, hdescent⟩
          rcases List.mem_cons.mp hother with rfl | hother
          · exact hvalid.trans hretry.symm
          · exact hvalidRest other hother

theorem terminalRows_of_retryLine (h : DistinctRows attempts all rows) {earlier : List ReportRow}
    (hperm : (row :: earlier).Perm rows) (hretries : RetryLine ((row :: earlier).map Prod.fst)) :
    terminalRows attempts rows = [row] := by
  have hids := (hperm.map fun row : ReportRow => row.1.attemptId).nodup_iff.mpr h.ids
  obtain ⟨-, hdescent⟩ := descent_of_retryLine h
    (fun row hrow => hperm.mem_iff.mp hrow) hids hretries
  refine List.perm_singleton.mp (((hperm.filter _).symm).trans (List.Perm.of_eq ?_))
  rw [List.filter_cons_of_pos, List.filter_eq_nil_iff.mpr]
  · intro other hother hfree
    obtain ⟨child, -, hparent⟩ := hdescent.exists_child
      (List.mem_map.mpr ⟨other, hother, rfl⟩)
    exact of_decide_eq_true hfree (mem_values.mpr ⟨child, hparent⟩)
  · refine decide_eq_true fun hparent => ?_
    obtain ⟨child, hchild⟩ := mem_values.mp hparent
    obtain ⟨held, hheld, rfl, -⟩ := h.getElem?_validParents.mp hchild
    have hmem : held.1.attemptId ∈ (row :: earlier).map fun row => row.1.attemptId :=
      List.mem_map.mpr ⟨held, hperm.mem_iff.mpr hheld, rfl⟩
    exact hdescent.ne_head hids hmem hchild

/-- A line of which the last meets the expectation leaves nothing to find fault with. -/
theorem reconcileNode_of_retryLine (h : DistinctRows attempts all rows)
    {earlier : List ReportRow} (hperm : (row :: earlier).Perm rows)
    (hretries : RetryLine ((row :: earlier).map Prod.fst)) (hmeets : row.1.Meets node) :
    (reconcileNode attempts rows node nodeId).findings = [] ∧
      (reconcileNode attempts rows node nodeId).duplicates = [] ∧
      (reconcileNode attempts rows node nodeId).terminal = some row := by
  have hids := (hperm.map fun row : ReportRow => row.1.attemptId).nodup_iff.mpr h.ids
  obtain ⟨hvalidLine, hdescent⟩ := descent_of_retryLine h
    (fun row hrow => hperm.mem_iff.mp hrow) hids hretries
  have hvalid : ∀ row ∈ rows, validPrior attempts rows row.1 = row.1.retryOfAttemptId :=
    fun row hrow => hvalidLine row (hperm.mem_iff.mpr hrow)
  have hmem : ∀ {other : ReportRow}, other ∈ rows →
      other.1.attemptId ∈ (row :: earlier).map fun row => row.1.attemptId := fun hother =>
    List.mem_map.mpr ⟨_, hperm.mem_iff.mpr hother, rfl⟩
  have hinjective : ∀ a ∈ rows, ∀ b ∈ rows, validPrior attempts rows a.1 =
      validPrior attempts rows b.1 → a = b := by
    intro a ha b hb heq
    rw [← h.validParents_eq ha, ← h.validParents_eq hb] at heq
    exact h.eq ha hb (hdescent.injective hids (hmem ha) (hmem hb) heq)
  have hrows : rows.Nodup := h.ids.of_map
  have hinvalid : invalidRetryRows attempts rows = [] := by
    refine List.filter_eq_nil_iff.mpr fun row hrow hfault => ?_
    obtain ⟨hretry, hnone⟩ := of_decide_eq_true hfault
    exact hretry ((hvalid row hrow).symm.trans hnone)
  have hroots : (rootRows rows).length ≤ 1 := by
    refine length_le_one_of_nodup (hrows.filter _) fun a ha b hb => ?_
    obtain ⟨ha, haroot⟩ := List.mem_filter.mp ha
    obtain ⟨hb, hbroot⟩ := List.mem_filter.mp hb
    refine hinjective a ha b hb ?_
    rw [hvalid a ha, hvalid b hb, of_decide_eq_true haroot, of_decide_eq_true hbroot]
  have hchildren : ∀ prior, (childRows attempts rows prior).length ≤ 1 := by
    intro prior
    refine length_le_one_of_nodup (hrows.filter _) fun a ha b hb => ?_
    obtain ⟨ha, haprior⟩ := List.mem_filter.mp ha
    obtain ⟨hb, hbprior⟩ := List.mem_filter.mp hb
    exact hinjective a ha b hb
      ((of_decide_eq_true haprior).trans (of_decide_eq_true hbprior).symm)
  have hbranched : ((retriedIds attempts rows).filter fun prior =>
      1 < (childRows attempts rows prior).length) = [] :=
    List.filter_eq_nil_iff.mpr fun prior _ hmany =>
      Nat.not_lt.mpr (hchildren prior) (of_decide_eq_true hmany)
  have hcycle : cycleAttempts attempts rows = [] := by
    have hwalks : (validParents attempts rows).keys.flatMap
        (cycleFrom (fun id => (validParents attempts rows)[id]?)
          ((validParents attempts rows).size + 1) []) = [] := by
      refine List.flatMap_eq_nil_iff.mpr fun id hid => cycleFrom_of_ends ?_ nofun
      obtain ⟨prior, hprior⟩ := mem_iff_getElem?.mp (ExtTreeMap.mem_keys.mp hid)
      obtain ⟨child, hchild, rfl, -⟩ := h.getElem?_validParents.mp hprior
      exact hdescent.ends (hmem hchild)
    unfold cycleAttempts
    rw [hwalks]
    rfl
  have hterminal := terminalRows_of_retryLine h hperm hretries
  have hfree : terminalFindings node row.1 = [] := by
    unfold terminalFindings
    rw [List.append_eq_nil_iff, findingUnless_eq_nil, findingUnless_eq_nil]
    exact ⟨fun _ => hmeets.2.1, hmeets.2.2⟩
  unfold reconcileNode
  simp only [hinvalid, hbranched, hcycle, hterminal, tail_eq_nil_of_length hroots]
  refine ⟨?_, rfl, ?_⟩
  · rw [findingUnless_eq_nil.mpr hroots, Option.elim_some, hfree]
    rfl
  · exact Option.filter_eq_some_iff.mpr ⟨rfl, decide_eq_true hmeets⟩

end Line

end CaseGraphen
