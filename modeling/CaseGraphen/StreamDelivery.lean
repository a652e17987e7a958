import CaseGraphen.StreamingReconciliation

/-!
# The delivery of a stream

Nothing that is released, and nothing that is left unfinished, depends on the order in
which events were delivered, or on how often. Where no id is given to two different events
the order does not show at all.
-/

namespace CaseGraphen

open Checked Json Std OrderedMap Sorting Text

/-! ## What is taken in -/

section Intake

variable {expectation : RuntimeGraphExpectation} {events events' : List RuntimeStreamEvent}
  {event other : RuntimeStreamEvent} {id : String}

def keptEvent (expectation : RuntimeGraphExpectation) (events : List RuntimeStreamEvent)
    (id : String) : Option RuntimeStreamEvent :=
  Keyed.lookup (·.eventId) id (events.filter fun event => event.fault expectation = none)

/-- What is found about an event, given what is kept under its id. -/
def intakeFinding (expectation : RuntimeGraphExpectation)
    (kept : String → Option RuntimeStreamEvent) (event : RuntimeStreamEvent) :
    Option StreamFinding :=
  match event.fault expectation with
  | some found => some found
  | none =>
      if kept event.eventId = some event then none
      else some ⟨"event_identity_collision", some event.eventId,
        "one event id names different bytes"⟩

def Taken (expectation : RuntimeGraphExpectation) (kept : String → Option RuntimeStreamEvent)
    (event : RuntimeStreamEvent) : Prop :=
  event.fault expectation = none ∧ kept event.eventId = some event

instance (kept : String → Option RuntimeStreamEvent) :
    Decidable (Taken expectation kept event) :=
  inferInstanceAs (Decidable (_ ∧ _))

theorem keptEvent_concat : keptEvent expectation (events ++ [event]) id =
    (keptEvent expectation events id).or
      (if event.fault expectation = none ∧ event.eventId = id then some event else none) := by
  unfold keptEvent Keyed.lookup
  rw [List.filter_append, List.find?_append]
  congr 1
  by_cases hfault : event.fault expectation = none
  · by_cases hid : event.eventId = id
    · simp [hfault, hid]
    · simp [hfault, hid]
  · simp [hfault]

theorem keptEvent_eq_some (h : keptEvent expectation events id = some event) :
    event ∈ events ∧ event.fault expectation = none ∧ event.eventId = id := by
  obtain ⟨hmem, hid⟩ := Keyed.lookup_key h
  obtain ⟨hevent, hfault⟩ := List.mem_filter.mp hmem
  exact ⟨hevent, of_decide_eq_true hfault, hid⟩

theorem exists_keptEvent (hmem : event ∈ events) (hfault : event.fault expectation = none) :
    ∃ kept, keptEvent expectation events event.eventId = some kept := by
  refine Option.ne_none_iff_exists'.mp fun hnone => ?_
  exact Keyed.lookup_eq_none.mp hnone (List.mem_map.mpr
    ⟨event, List.mem_filter.mpr ⟨hmem, decide_eq_true hfault⟩, rfl⟩)

theorem keptEvent_concat_of_mem (hmem : other ∈ events) (hfault : other.fault expectation = none) :
    keptEvent expectation (events ++ [event]) other.eventId =
      keptEvent expectation events other.eventId := by
  obtain ⟨kept, hkept⟩ := exists_keptEvent hmem hfault
  rw [keptEvent_concat, hkept, Option.some_or]

theorem filterMap_intakeFinding_concat :
    (events.filterMap (intakeFinding expectation (keptEvent expectation (events ++ [event])))) =
      events.filterMap (intakeFinding expectation (keptEvent expectation events)) := by
  refine List.filterMap_congr fun other hother => ?_
  unfold intakeFinding
  cases hfault : other.fault expectation with
  | some found => rfl
  | none => simp only [keptEvent_concat_of_mem hother hfault]

theorem filter_taken_concat :
    (events.filter fun other => Taken expectation (keptEvent expectation (events ++ [event]))
      other) = events.filter fun other => Taken expectation (keptEvent expectation events)
        other := by
  refine List.filter_congr fun other hother => ?_
  rw [decide_eq_decide]
  refine and_congr_right fun hfault => ?_
  rw [keptEvent_concat_of_mem hother hfault]

/-- What is taken in is what the kept events say. -/
structure IntakeOf (expectation : RuntimeGraphExpectation) (events : List RuntimeStreamEvent)
    (intake : StreamIntake) : Prop where
  unique : ∀ id : String, intake.unique[id]? = keptEvent expectation events id
  findings : intake.findings =
    events.filterMap (intakeFinding expectation (keptEvent expectation events))
  count : intake.duplicateEventCount + intake.unique.size =
    (events.filter fun event => Taken expectation (keptEvent expectation events) event).length

theorem IntakeOf.takeEvent {intake : StreamIntake} (h : IntakeOf expectation events intake) :
    IntakeOf expectation (events ++ [event]) (takeEvent expectation intake event) := by
  have hfindings : ∀ {found : Option StreamFinding},
      intakeFinding expectation (keptEvent expectation (events ++ [event])) event = found →
      (events ++ [event]).filterMap
        (intakeFinding expectation (keptEvent expectation (events ++ [event]))) =
        intake.findings ++ found.toList := by
    intro found hfound
    rw [List.filterMap_append, filterMap_intakeFinding_concat, ← h.findings]
    cases found <;> simp [hfound]
  have hcount : ((events ++ [event]).filter fun other =>
      Taken expectation (keptEvent expectation (events ++ [event])) other).length =
      intake.duplicateEventCount + intake.unique.size +
        if Taken expectation (keptEvent expectation (events ++ [event])) event then 1 else 0 := by
    rw [List.filter_append, List.length_append, filter_taken_concat, h.count]
    congr 1
    by_cases htaken : Taken expectation (keptEvent expectation (events ++ [event])) event
    · simp [htaken]
    · simp [htaken]
  cases hfault : event.fault expectation with
  | some found =>
      have hkept : ∀ id, keptEvent expectation (events ++ [event]) id =
          keptEvent expectation events id := by
        intro id
        rw [keptEvent_concat, if_neg (by rw [hfault]; exact fun h => nomatch h.1), Option.or_none]
      have htake : CaseGraphen.takeEvent expectation intake event =
          { intake with findings := intake.findings ++ [found] } := by
        unfold CaseGraphen.takeEvent
        rw [hfault]
      rw [htake]
      refine ⟨fun id => (h.unique id).trans (hkept id).symm, ?_, ?_⟩
      · rw [@hfindings (some found) (by unfold intakeFinding; rw [hfault])]
        rfl
      · rw [hcount, if_neg (by unfold Taken; rw [hfault]; exact fun h => nomatch h.1)]
        rfl
  | none =>
      cases hunique : intake.unique[event.eventId]? with
      | some existing =>
          have hexisting := (h.unique event.eventId).symm.trans hunique
          have hkept : ∀ id, keptEvent expectation (events ++ [event]) id =
              keptEvent expectation events id := by
            intro id
            rw [keptEvent_concat]
            by_cases hid : event.eventId = id
            · rw [← hid, hexisting, Option.some_or]
            · rw [if_neg fun h => hid h.2, Option.or_none]
          by_cases hsame : existing = event
          · have htake : CaseGraphen.takeEvent expectation intake event =
                { intake with duplicateEventCount := intake.duplicateEventCount + 1 } := by
              unfold CaseGraphen.takeEvent
              simp only [hfault, hunique, if_pos hsame]
            have htaken : Taken expectation (keptEvent expectation (events ++ [event])) event :=
              ⟨hfault, by rw [hkept, hexisting, hsame]⟩
            rw [htake]
            refine ⟨fun id => (h.unique id).trans (hkept id).symm, ?_, ?_⟩
            · rw [@hfindings none (by unfold intakeFinding; rw [hfault]; exact if_pos htaken.2)]
              exact (List.append_nil _).symm
            · rw [hcount, if_pos htaken]
              show intake.duplicateEventCount + 1 + intake.unique.size = _
              omega
          · have htake : CaseGraphen.takeEvent expectation intake event =
                { intake with findings := intake.findings ++
                    [⟨"event_identity_collision", some event.eventId,
                      "one event id names different bytes"⟩] } := by
              unfold CaseGraphen.takeEvent
              simp only [hfault, hunique, if_neg hsame]
            have hother : keptEvent expectation (events ++ [event]) event.eventId ≠
                some event := by
              rw [hkept, hexisting]
              exact fun heq => hsame (Option.some.inj heq)
            rw [htake]
            refine ⟨fun id => (h.unique id).trans (hkept id).symm, ?_, ?_⟩
            · rw [@hfindings (some _) (by unfold intakeFinding; rw [hfault]; exact if_neg hother)]
              rfl
            · rw [hcount, if_neg fun htaken => hother htaken.2]
              rfl
      | none =>
          have hfresh := (h.unique event.eventId).symm.trans hunique
          have hkept : keptEvent expectation (events ++ [event]) event.eventId = some event := by
            rw [keptEvent_concat, hfresh, Option.none_or, if_pos ⟨hfault, rfl⟩]
          have htake : CaseGraphen.takeEvent expectation intake event =
              { intake with unique := intake.unique.insert event.eventId event } := by
            unfold CaseGraphen.takeEvent
            simp only [hfault, hunique]
          rw [htake]
          refine ⟨fun id => ?_, ?_, ?_⟩
          · rw [getElem?_insert, h.unique, keptEvent_concat]
            by_cases hid : event.eventId = id
            · rw [if_pos hid, if_pos ⟨hfault, hid⟩, ← hid, hfresh, Option.none_or]
            · rw [if_neg hid, if_neg fun h => hid h.2, Option.or_none]
          · rw [@hfindings none (by unfold intakeFinding; rw [hfault]; exact if_pos hkept)]
            exact (List.append_nil _).symm
          · have hnot : event.eventId ∉ intake.unique := by
              intro hmem
              obtain ⟨held, hheld⟩ := mem_iff_getElem?.mp hmem
              rw [hunique] at hheld
              cases hheld
            rw [hcount, if_pos ⟨hfault, hkept⟩, ExtTreeMap.size_insert,
              if_neg fun hheld => hnot (ExtTreeMap.contains_iff_mem.mp hheld)]
            exact (Nat.add_assoc _ _ _).symm

theorem intakeOf_foldl (expectation : RuntimeGraphExpectation) (events : List RuntimeStreamEvent) :
    IntakeOf expectation events (events.foldl (takeEvent expectation) ⟨∅, 0, []⟩) := by
  induction events using List.reverseRecOn with
  | nil => exact ⟨fun _ => rfl, rfl, rfl⟩
  | append_singleton events event ih =>
      rw [List.foldl_append, List.foldl_cons, List.foldl_nil]
      exact ih.takeEvent

/-! ## The order of delivery -/

/-- No id is given to two different events that count. -/
def TellsApart (expectation : RuntimeGraphExpectation) (events : List RuntimeStreamEvent) : Prop :=
  ∀ a ∈ events, ∀ b ∈ events, a.fault expectation = none → b.fault expectation = none →
    a.eventId = b.eventId → a = b

theorem TellsApart.keptEvent_iff (h : TellsApart expectation events) :
    keptEvent expectation events id = some event ↔
      event ∈ events ∧ event.fault expectation = none ∧ event.eventId = id := by
  constructor
  · exact keptEvent_eq_some
  · rintro ⟨hmem, hfault, rfl⟩
    obtain ⟨kept, hkept⟩ := exists_keptEvent hmem hfault
    obtain ⟨hkeptMem, hkeptFault, hid⟩ := keptEvent_eq_some hkept
    rw [hkept, h kept hkeptMem event hmem hkeptFault hfault hid]

theorem TellsApart.keptEvent_perm (h : TellsApart expectation events)
    (hperm : events.Perm events') : keptEvent expectation events' = keptEvent expectation events := by
  have h' : TellsApart expectation events' := fun a ha b hb =>
    h a (hperm.mem_iff.mpr ha) b (hperm.mem_iff.mpr hb)
  funext id
  refine Option.ext fun event => ?_
  rw [h.keptEvent_iff, h'.keptEvent_iff, hperm.mem_iff]

theorem findings_ne_nil_of_not_tellsApart (h : ¬ TellsApart expectation events) :
    (events.foldl (takeEvent expectation) ⟨∅, 0, []⟩).findings ≠ [] := by
  unfold TellsApart at h
  simp only [not_forall] at h
  obtain ⟨a, ha, b, hb, hafault, hbfault, hid, hne⟩ := h
  -- one of the two is not the one that is kept
  have hother : ∃ event ∈ events, event.fault expectation = none ∧
      keptEvent expectation events event.eventId ≠ some event := by
    by_cases hkept : keptEvent expectation events a.eventId = some a
    · refine ⟨b, hb, hbfault, fun hkeptB => hne ?_⟩
      rw [← hid, hkept] at hkeptB
      exact Option.some.inj hkeptB
    · exact ⟨a, ha, hafault, hkept⟩
  obtain ⟨event, hevent, hfault, hkept⟩ := hother
  rw [(intakeOf_foldl expectation events).findings]
  intro hnil
  have hnone := List.filterMap_eq_nil_iff.mp hnil event hevent
  unfold intakeFinding at hnone
  rw [hfault] at hnone
  simp only [if_neg hkept] at hnone
  cases hnone

/-! ## Delivering again -/

/-- Items of which some are there once more, wherever they stand. -/
inductive Redelivered {α : Type} (accepted : List α) : List α → List α → Prop where
  | nil : Redelivered accepted [] []
  | keep {l l' : List α} (a : α) : Redelivered accepted l l' →
      Redelivered accepted (a :: l) (a :: l')
  | again {l l' : List α} {a : α} : a ∈ accepted → Redelivered accepted l l' →
      Redelivered accepted l (a :: l')

theorem keptEvent_cons : keptEvent expectation (event :: events) id =
    if event.fault expectation = none ∧ event.eventId = id then some event
    else keptEvent expectation events id := by
  unfold keptEvent Keyed.lookup
  by_cases hfault : event.fault expectation = none
  · by_cases hid : event.eventId = id
    · simp [hfault, hid]
    · simp [hfault, hid]
  · simp [hfault]

/-- What is kept under an id stays, or is one of the events that came again. -/
theorem Redelivered.keptEvent_or {accepted : List RuntimeStreamEvent}
    (h : Redelivered accepted events events') (id : String) :
    keptEvent expectation events' id = keptEvent expectation events id ∨
      ∃ event ∈ accepted, event.eventId = id ∧
        keptEvent expectation events' id = some event := by
  induction h with
  | nil => exact .inl rfl
  | keep event _ ih =>
      rw [keptEvent_cons, keptEvent_cons]
      split
      · exact .inl rfl
      · exact ih
  | again haccepted _ ih =>
      rw [keptEvent_cons]
      split
      · rename_i hcounts
        exact .inr ⟨_, haccepted, hcounts.2, rfl⟩
      · exact ih

variable {accepted : List RuntimeStreamEvent}

theorem Redelivered.keptEvent_eq (h : Redelivered accepted events events')
    (haccepted : ∀ event ∈ accepted, Taken expectation (keptEvent expectation events) event) :
    keptEvent expectation events' = keptEvent expectation events := by
  funext id
  rcases h.keptEvent_or id with heq | ⟨event, hevent, rfl, hkept⟩
  · exact heq
  · rw [hkept, (haccepted event hevent).2]

theorem Redelivered.filterMap_eq {α β : Type} {accepted l l' : List α} {f : α → Option β}
    (h : Redelivered accepted l l') (hf : ∀ a ∈ accepted, f a = none) :
    l'.filterMap f = l.filterMap f := by
  induction h with
  | nil => rfl
  | keep a _ ih =>
      rw [List.filterMap_cons, List.filterMap_cons, ih]
  | again haccepted _ ih =>
      rw [List.filterMap_cons_none (hf _ haccepted), ih]

theorem Redelivered.length_filter {α : Type} {accepted l l' : List α} {p : α → Bool}
    (h : Redelivered accepted l l') (hp : ∀ a ∈ accepted, p a = true) :
    (l'.filter p).length = (l.filter p).length + (l'.length - l.length) ∧
      l.length ≤ l'.length := by
  induction h with
  | nil => exact ⟨rfl, Nat.le_refl _⟩
  | keep a _ ih =>
      rw [List.filter_cons, List.filter_cons]
      split
      · simp only [List.length_cons]
        omega
      · simp only [List.length_cons]
        omega
  | again haccepted _ ih =>
      rw [List.filter_cons_of_pos (hp _ haccepted)]
      simp only [List.length_cons]
      omega

/-- Events that are kept may come again: only the count of repetitions changes. -/
theorem Redelivered.intake (h : Redelivered accepted events events')
    (haccepted : ∀ event ∈ accepted, Taken expectation (keptEvent expectation events) event) :
    events'.foldl (takeEvent expectation) ⟨∅, 0, []⟩ =
      { events.foldl (takeEvent expectation) ⟨∅, 0, []⟩ with
        duplicateEventCount :=
          (events.foldl (takeEvent expectation) ⟨∅, 0, []⟩).duplicateEventCount +
            (events'.length - events.length) } := by
  have hintake := intakeOf_foldl expectation events
  have hintake' := intakeOf_foldl expectation events'
  have hkept := h.keptEvent_eq haccepted
  generalize events.foldl (takeEvent expectation) ⟨∅, 0, []⟩ = intake at *
  generalize events'.foldl (takeEvent expectation) ⟨∅, 0, []⟩ = intake' at *
  have hunique : intake'.unique = intake.unique := by
    refine ext fun id => ?_
    rw [hintake.unique, hintake'.unique, hkept]
  have hfindings : intake'.findings = intake.findings := by
    rw [hintake.findings, hintake'.findings, hkept]
    refine h.filterMap_eq fun event hevent => ?_
    obtain ⟨hfault, hsame⟩ := haccepted event hevent
    unfold intakeFinding
    rw [hfault]
    exact if_pos hsame
  have hcount := hintake.count
  have hcount' := hintake'.count
  have hlength := (h.length_filter (p := fun event =>
    decide (Taken expectation (keptEvent expectation events) event)) fun event hevent =>
      decide_eq_true (haccepted event hevent)).1
  rw [hkept, hlength, hunique, ← hcount] at hcount'
  obtain ⟨unique', count', findings'⟩ := intake'
  simp only at hunique hfindings hcount'
  subst hunique hfindings
  simp only [StreamIntake.mk.injEq, true_and, and_true]
  omega

end Intake

/-! ## The reconciliation -/

section Reconcile

variable {env : Environment} {input : StreamingReconciliationInput env}
  {context : StreamingContext env} {events' : List RuntimeStreamEvent}
  {intake intake' : StreamIntake}

instance : TransCmp StreamFinding.order := by
  unfold StreamFinding.order
  infer_instance

theorem StreamFinding.eq_of_order {a b : StreamFinding} (h : a.order b = .eq) : a = b := by
  unfold StreamFinding.order at h
  simp only [compareLex, compareOn, Ordering.then_eq_eq] at h
  obtain ⟨hcode, hevent, hdetail⟩ := h
  cases a
  cases b
  cases LawfulEqOrd.eq_of_compare hcode
  cases LawfulEqOrd.eq_of_compare hevent
  cases LawfulEqOrd.eq_of_compare hdetail
  rfl

theorem reconcileIntake_congr (hunique : intake'.unique = intake.unique)
    (hcount : intake'.duplicateEventCount = intake.duplicateEventCount)
    (hfindings : intake'.findings.Perm intake.findings) :
    reconcileIntake context intake' = reconcileIntake context intake := by
  obtain ⟨unique', count', found'⟩ := intake'
  obtain ⟨unique, count, found⟩ := intake
  simp only at hunique hcount hfindings
  subst hunique hcount
  unfold reconcileIntake
  simp only
  generalize sortBy RuntimeStreamEvent.order (values unique') = logical
  have hperm : (inputFindings context ++ found' ++ sequenceFindings logical ++
      sequenceCollisions logical ++ validateChunkSequences logical).Perm
      (inputFindings context ++ found ++ sequenceFindings logical ++
        sequenceCollisions logical ++ validateChunkSequences logical) :=
    (((hfindings.append_left _).append_right _).append_right _).append_right _
  generalize inputFindings context ++ found' ++ sequenceFindings logical ++
    sequenceCollisions logical ++ validateChunkSequences logical = prior' at hperm
  generalize inputFindings context ++ found ++ sequenceFindings logical ++
    sequenceCollisions logical ++ validateChunkSequences logical = prior at hperm
  have hnil : ∀ {l l' : List StreamFinding}, l.Perm l' → (l = [] ↔ l' = []) := by
    intro l l' h
    rw [← List.length_eq_zero_iff, ← List.length_eq_zero_iff, h.length_eq]
  simp only [hnil hperm]
  generalize logical.map (considerRelease context (prior = [])) = considered
  have hall := hperm.append_right (considered.flatMap Prod.fst)
  have hstatus : ∀ releases, streamRunStatus context (prior' ++ considered.flatMap Prod.fst)
      releases = streamRunStatus context (prior ++ considered.flatMap Prod.fst) releases := by
    intro releases
    unfold streamRunStatus
    simp only [hnil hall]
  rw [hstatus, sortBy_congr hall fun _ _ _ _ heq => StreamFinding.eq_of_order heq]

theorem reconcileIntake_count (again : Nat) :
    reconcileIntake context
        { intake with duplicateEventCount := intake.duplicateEventCount + again } =
      { reconcileIntake context intake with
        duplicateEventCount := (reconcileIntake context intake).duplicateEventCount + again } := by
  unfold reconcileIntake
  simp only

theorem considerRelease_invalid (event : RuntimeStreamEvent) :
    (considerRelease context false event).2 = none := by
  unfold considerRelease
  split
  · rfl
  · split
    · rfl
    · split
      · rfl
      · split
        · rfl
        · simp only
          split
          · rw [if_neg fun h => Bool.false_ne_true h.2.1]
          · rfl

theorem reconcileIntake_of_findings (h : intake.findings ≠ []) :
    (reconcileIntake context intake).stageReleaseProposals = [] ∧
      (reconcileIntake context intake).status =
        if context.runClosed = true then .incompleteTerminal else .collecting := by
  unfold reconcileIntake
  simp only
  generalize sortBy RuntimeStreamEvent.order (values intake.unique) = logical
  have hprior : inputFindings context ++ intake.findings ++ sequenceFindings logical ++
      sequenceCollisions logical ++ validateChunkSequences logical ≠ [] := by
    simp [h]
  generalize inputFindings context ++ intake.findings ++ sequenceFindings logical ++
    sequenceCollisions logical ++ validateChunkSequences logical = prior at hprior
  rw [decide_eq_false hprior]
  have hreleases : (logical.map (considerRelease context false)).filterMap Prod.snd = [] := by
    refine List.filterMap_eq_nil_iff.mpr fun outcome houtcome => ?_
    obtain ⟨event, -, rfl⟩ := List.mem_map.mp houtcome
    exact considerRelease_invalid event
  rw [hreleases]
  refine ⟨rfl, ?_⟩
  unfold streamRunStatus
  rw [if_neg fun hcomplete => hprior (List.append_eq_nil_iff.mp hcomplete.2.2).1]
  rfl

theorem taken_of_logicalEvents {event : RuntimeStreamEvent}
    (h : event ∈ (reconcileStream input).logicalEvents) :
    Taken input.expectation (keptEvent input.expectation input.events) event := by
  obtain ⟨id, hid⟩ := mem_values.mp (mem_sortBy.mp h)
  rw [(intakeOf_foldl _ _).unique] at hid
  obtain ⟨-, hfault, rfl⟩ := keptEvent_eq_some hid
  exact ⟨hfault, hid⟩

theorem reconcileStream_perm (h : TellsApart input.expectation input.events)
    (hperm : input.events.Perm events') :
    reconcileStream { input with events := events' } = reconcileStream input := by
  have hintake := intakeOf_foldl input.expectation input.events
  have hintake' := intakeOf_foldl input.expectation events'
  have hkept := h.keptEvent_perm hperm
  unfold reconcileStream
  simp only
  have hunique : (events'.foldl (takeEvent input.expectation) ⟨∅, 0, []⟩).unique =
      (input.events.foldl (takeEvent input.expectation) ⟨∅, 0, []⟩).unique := by
    refine ext fun id => ?_
    rw [hintake.unique, hintake'.unique, hkept]
  refine reconcileIntake_congr hunique ?_ ?_
  · have hcount := hintake.count
    have hcount' := hintake'.count
    rw [hkept, ← (hperm.filter _).length_eq, ← hcount, hunique] at hcount'
    exact Nat.add_right_cancel hcount'
  · rw [hintake.findings, hintake'.findings, hkept]
    exact hperm.symm.filterMap _

/-- The same in what is acted upon. -/
structure StreamingReconciliation.SameOutcome (result other : StreamingReconciliation) :
    Prop where
  status : result.status = other.status
  stageReleaseProposals : result.stageReleaseProposals = other.stageReleaseProposals
  unfinishedNodeIds : result.unfinishedNodeIds = other.unfinishedNodeIds
  finalCompleteness : result.finalCompleteness = other.finalCompleteness

theorem sameOutcome_of_perm (hperm : input.events.Perm events') :
    (reconcileStream { input with events := events' }).SameOutcome (reconcileStream input) := by
  by_cases h : TellsApart input.expectation input.events
  · rw [reconcileStream_perm h hperm]
    exact ⟨rfl, rfl, rfl, rfl⟩
  · have h' : ¬ TellsApart input.expectation events' := fun happart => h fun a ha b hb =>
      happart a (hperm.mem_iff.mp ha) b (hperm.mem_iff.mp hb)
    obtain ⟨hreleases, hstatus⟩ := @reconcileIntake_of_findings env input.toStreamingContext _
      (findings_ne_nil_of_not_tellsApart h)
    obtain ⟨hreleases', hstatus'⟩ := @reconcileIntake_of_findings env input.toStreamingContext _
      (findings_ne_nil_of_not_tellsApart h')
    exact ⟨hstatus'.trans hstatus.symm, hreleases'.trans hreleases.symm, rfl, rfl⟩

/-- Neither the order in which events are delivered nor how often accepted ones come decides
anything: events in another order have the same outcome, and the same result where no id
names two different events; accepted events that come again are counted, and nothing else. -/
theorem reconcileStream_delivery (env : Environment) (input : StreamingReconciliationInput env) :
    (∀ events', input.events.Perm events' →
      (reconcileStream { input with events := events' }).SameOutcome (reconcileStream input) ∧
      ((∀ a ∈ input.events, ∀ b ∈ input.events, a.eventId = b.eventId → a = b) →
        reconcileStream { input with events := events' } = reconcileStream input)) ∧
    ∀ events', Redelivered (reconcileStream input).logicalEvents input.events events' →
      reconcileStream { input with events := events' } =
        { reconcileStream input with
          duplicateEventCount := (reconcileStream input).duplicateEventCount +
            (events'.length - input.events.length) } := by
  refine ⟨fun events' hperm => ⟨sameOutcome_of_perm hperm, fun h => ?_⟩, fun events' h => ?_⟩
  · exact reconcileStream_perm (fun a ha b hb _ _ => h a ha b hb) hperm
  · have hintake := h.intake (fun event hevent => taken_of_logicalEvents hevent)
    unfold reconcileStream
    rw [← reconcileIntake_count, ← hintake]

end Reconcile

end CaseGraphen
