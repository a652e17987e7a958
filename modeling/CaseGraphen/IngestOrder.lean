import CaseGraphen.RuntimeIntegration

/-!
# The order of ingest

Ingest without findings keeps what its lines say, whatever their order, their number and the
calls they come in; with one exception. An artifact is told apart by its bytes alone, so the
media type that is kept is the one that comes first.
-/

namespace CaseGraphen

open Checked Json Std OrderedMap Sorting Text Admission

/-! ## The lines of a text -/

theorem linesOf_single {l : List Char} (h : '\n' ∉ l) : linesOf (l ++ ['\r', '\n']) = [l] := by
  induction l with
  | nil => rfl
  | cons c l ih =>
      obtain ⟨hc, hl⟩ := not_or.mp (mt List.mem_cons.mpr h)
      have hrest := ih hl
      rw [List.cons_append, linesOf, hrest]
      · exact fun hnewline => hc hnewline.symm
      · intro cs hreturn hcs
        cases l with
        | nil => cases hcs
        | cons d l =>
            rw [List.cons_append] at hcs
            have hd := (List.cons.inj hcs).1
            exact hl (hd ▸ List.mem_cons_self)

theorem newline_notMem_linesOf (cs : List Char) : ∀ l ∈ linesOf cs, '\n' ∉ l := by
  fun_induction linesOf cs with
  | case1 => intro l hl; cases hl
  | case2 cs ih =>
      intro l hl
      rcases List.mem_cons.mp hl with rfl | hl
      · exact List.not_mem_nil
      · exact ih l hl
  | case3 cs ih =>
      intro l hl
      rcases List.mem_cons.mp hl with rfl | hl
      · exact List.not_mem_nil
      · exact ih l hl
  | case4 c cs hnewline hreturn hnil ih =>
      intro l hl
      obtain rfl := List.mem_singleton.mp hl
      intro hmem
      exact hnewline (List.mem_singleton.mp hmem).symm
  | case5 c cs hnewline hreturn first rest heq ih =>
      rw [heq] at ih
      intro l hl
      rcases List.mem_cons.mp hl with rfl | hl
      · intro hmem
        rcases List.mem_cons.mp hmem with hc | hmem
        · exact hnewline hc.symm
        · exact ih first List.mem_cons_self hmem
      · exact ih l (List.mem_cons_of_mem _ hl)

def asInput (line : String) : String := line ++ "\r\n"

theorem lines_asInput_of_notMem {line : String} (h : '\n' ∉ line.toList) :
    lines (asInput line) = [line] := by
  unfold lines asInput
  rw [String.toList_append]
  show (linesOf (line.toList ++ ['\r', '\n'])).map String.ofList = _
  rw [linesOf_single h, List.map_singleton, String.ofList_toList]

theorem lines_asInput {input line : String} (h : line ∈ lines input) :
    lines (asInput line) = [line] := by
  obtain ⟨l, hl, rfl⟩ := List.mem_map.mp h
  refine lines_asInput_of_notMem ?_
  rw [String.toList_ofList]
  exact newline_notMem_linesOf _ l hl

/-! ## What lines have to be kept -/

def IngestEntry.report? : IngestEntry → Option StoredReport
  | .report stored => some stored
  | _ => none

def IngestEntry.artifact? : IngestEntry → Option StoredArtifact
  | .artifact stored => some stored
  | _ => none

def IngestEntry.allocation? : IngestEntry → Option StoredAllocation
  | .allocation stored => some stored
  | _ => none

section Lines

variable (env : Environment) (json : RuntimeJson)

/-- What a line has to be kept, if it can be read. -/
def entryOf (line : String) : Option IngestEntry :=
  match readLine env json line with
  | .ok entry => entry
  | .error _ => none

def reportsOf (ls : List String) : List StoredReport :=
  (ls.filterMap (entryOf env json)).filterMap IngestEntry.report?

def artifactsOf (ls : List String) : List StoredArtifact :=
  (ls.filterMap (entryOf env json)).filterMap IngestEntry.artifact?

def allocationsOf (ls : List String) : List StoredAllocation :=
  (ls.filterMap (entryOf env json)).filterMap IngestEntry.allocation?

/-- Every line can be read, and no id names two things by their digests. -/
structure Acceptable (ls : List String) : Prop where
  readable : ∀ line ∈ ls, ∃ entry, readLine env json line = .ok entry
  reports : Agree (·.report.reportId) StoredReport.digest (reportsOf env json ls)
  artifacts : Agree StoredArtifact.id StoredArtifact.digest (artifactsOf env json ls)
  allocations : Agree (·.allocation.allocationId) StoredAllocation.digest
    (allocationsOf env json ls)

/-- The state that keeps the first of every id. -/
def keptOf (ls : List String) : GenericJsonlReconciler where
  reports := collectFirst (·.report.reportId) (reportsOf env json ls)
  artifacts := collectFirst StoredArtifact.id (artifactsOf env json ls)
  resourceAllocations := collectFirst (·.allocation.allocationId) (allocationsOf env json ls)
  ingestFindings := []

variable {env json} {ls ls' : List String} {line : String} {state : GenericJsonlReconciler}

variable {record : JsonlRecord}

theorem readEntry_error {findings : List (String × String)}
    (h : readEntry env json record = .error findings) : findings ≠ [] := by
  intro hnil
  subst hnil
  cases record with
  | nodeReport value =>
      rw [readEntry] at h
      cases hparse : parseRuntimeNodeReport json value with
      | error found =>
          rw [hparse] at h
          have hfound : found = [] := List.map_eq_nil_iff.mp (Except.error.inj h)
          subst hfound
          unfold parseRuntimeNodeReport at hparse
          split at hparse
          · cases hparse
          · split at hparse
            · cases hparse
            · rename_i hinvalid
              exact hinvalid (Except.error.inj hparse)
      | ok read =>
          rw [hparse] at h
          cases h
  | artifact artifactId mediaType content =>
      rw [readEntry] at h
      split at h
      · cases h
      · split at h <;> cases h
  | resourceAllocation value =>
      rw [readEntry] at h
      split at h <;> cases h

theorem readLine_error {findings : List (String × String)}
    (h : readLine env json line = .error findings) : findings ≠ [] := by
  unfold readLine at h
  split at h
  · cases h
  · split at h
    · intro hnil
      subst hnil
      cases h
    · rename_i record _
      cases hentry : readEntry env json record with
      | error found =>
          rw [hentry] at h
          obtain rfl : found = findings := Except.error.inj h
          exact readEntry_error hentry
      | ok entry =>
          rw [hentry] at h
          cases h

theorem ingestFindings_foldl_push {n : Nat} (findings : List (String × String))
    (h : state.ingestFindings ≠ []) : (findings.foldl (fun state (code, detail) =>
      state.push code n detail) state).ingestFindings ≠ [] := by
  induction findings generalizing state with
  | nil => exact h
  | cons finding findings ih => exact ih (List.append_ne_nil_of_left_ne_nil h _)

theorem ingestFindings_ingestLine_ne_nil (h : state.ingestFindings ≠ [])
    (numbered : String × Nat) : (ingestLine env json state numbered).ingestFindings ≠ [] := by
  obtain ⟨line, n⟩ := numbered
  unfold ingestLine
  dsimp only
  split
  · exact ingestFindings_foldl_push _ h
  · exact h
  · unfold keepEntry
    split <;> split
    all_goals first
      | exact h
      | exact List.append_ne_nil_of_left_ne_nil h _

variable {entry : Option IngestEntry}

theorem entryOf_of_readLine (h : readLine env json line = .ok entry) :
    entryOf env json line = entry := by
  unfold entryOf
  rw [h]

theorem rows_concat (ls : List String) (h : readLine env json line = .ok entry) :
    reportsOf env json (ls ++ [line]) =
      reportsOf env json ls ++ (entry.bind IngestEntry.report?).toList ∧
    artifactsOf env json (ls ++ [line]) =
      artifactsOf env json ls ++ (entry.bind IngestEntry.artifact?).toList ∧
    allocationsOf env json (ls ++ [line]) =
      allocationsOf env json ls ++ (entry.bind IngestEntry.allocation?).toList := by
  have hrows : ∀ {α : Type} (pick : IngestEntry → Option α),
      ((ls ++ [line]).filterMap (entryOf env json)).filterMap pick =
        (ls.filterMap (entryOf env json)).filterMap pick ++ (entry.bind pick).toList := by
    intro α pick
    rw [List.filterMap_append, List.filterMap_append, List.filterMap_cons,
      entryOf_of_readLine h]
    cases entry with
    | none => rfl
    | some entry =>
        cases hpick : pick entry with
        | none => simp [hpick]
        | some row => simp [hpick]
  exact ⟨hrows _, hrows _, hrows _⟩

theorem Acceptable.of_subset (h : Acceptable env json ls) (hls : ls' ⊆ ls) :
    Acceptable env json ls' := by
  have hrows : ∀ {α : Type} (pick : IngestEntry → Option α),
      (ls'.filterMap (entryOf env json)).filterMap pick ⊆
        (ls.filterMap (entryOf env json)).filterMap pick := by
    intro α pick row hrow
    obtain ⟨entry, hentry, hpick⟩ := List.mem_filterMap.mp hrow
    obtain ⟨line, hline, heq⟩ := List.mem_filterMap.mp hentry
    exact List.mem_filterMap.mpr ⟨entry, List.mem_filterMap.mpr ⟨line, hls hline, heq⟩, hpick⟩
  exact ⟨fun line hline => h.readable line (hls hline), h.reports.of_subset (hrows _),
    h.artifacts.of_subset (hrows _), h.allocations.of_subset (hrows _)⟩

theorem acceptable_concat_iff (h : Acceptable env json ls)
    (hread : readLine env json line = .ok entry) : Acceptable env json (ls ++ [line]) ↔
      Agree (·.report.reportId) StoredReport.digest
        (reportsOf env json ls ++ (entry.bind IngestEntry.report?).toList) ∧
      Agree StoredArtifact.id StoredArtifact.digest
        (artifactsOf env json ls ++ (entry.bind IngestEntry.artifact?).toList) ∧
      Agree (·.allocation.allocationId) StoredAllocation.digest
        (allocationsOf env json ls ++ (entry.bind IngestEntry.allocation?).toList) := by
  obtain ⟨hreports, hartifacts, hallocations⟩ := rows_concat ls hread
  rw [← hreports, ← hartifacts, ← hallocations]
  constructor
  · intro hall
    exact ⟨hall.reports, hall.artifacts, hall.allocations⟩
  · rintro ⟨hr, ha, hl⟩
    refine ⟨fun other hother => ?_, hr, ha, hl⟩
    rcases List.mem_append.mp hother with hin | hnew
    · exact h.readable other hin
    · rw [List.mem_singleton.mp hnew]
      exact ⟨entry, hread⟩

theorem ingestFindings_push (state : GenericJsonlReconciler) (code detail : String) (n : Nat) :
    (state.push code n detail).ingestFindings ≠ [] :=
  List.append_ne_nil_of_right_ne_nil _ (List.cons_ne_nil _ _)

/-- An entry that is kept next to those of some lines, or found at fault. -/
theorem keepEntry_keptOf (h : Acceptable env json ls) {entry : IngestEntry}
    (hread : readLine env json line = .ok (some entry)) (n : Nat) :
    (Acceptable env json (ls ++ [line]) →
      keepEntry (keptOf env json ls) n entry = keptOf env json (ls ++ [line])) ∧
    (¬ Acceptable env json (ls ++ [line]) →
      (keepEntry (keptOf env json ls) n entry).ingestFindings ≠ []) := by
  rw [acceptable_concat_iff h hread]
  obtain ⟨hreports, hartifacts, hallocations⟩ := rows_concat ls hread
  have hr := h.reports
  have ha := h.artifacts
  have hl := h.allocations
  cases entry with
  | report stored =>
      simp only [Option.bind_some, IngestEntry.report?, IngestEntry.artifact?,
        IngestEntry.allocation?, Option.toList_some, Option.toList_none, List.append_nil]
        at hreports hartifacts hallocations ⊢
      have hadmit := admit_collectFirst hr stored
      unfold keepEntry
      constructor
      · rintro ⟨hagree, -, -⟩
        rw [if_pos hagree] at hadmit
        simp only [keptOf, hadmit, hreports, hartifacts, hallocations]
      · intro hnot
        rw [if_neg fun hagree => hnot ⟨hagree, ha, hl⟩] at hadmit
        simp only [keptOf, hadmit]
        exact ingestFindings_push _ _ _ _
  | artifact stored =>
      simp only [Option.bind_some, IngestEntry.report?, IngestEntry.artifact?,
        IngestEntry.allocation?, Option.toList_some, Option.toList_none, List.append_nil]
        at hreports hartifacts hallocations ⊢
      have hadmit := admit_collectFirst ha stored
      unfold keepEntry
      constructor
      · rintro ⟨-, hagree, -⟩
        rw [if_pos hagree] at hadmit
        simp only [keptOf, hadmit, hreports, hartifacts, hallocations]
      · intro hnot
        rw [if_neg fun hagree => hnot ⟨hr, hagree, hl⟩] at hadmit
        simp only [keptOf, hadmit]
        exact ingestFindings_push _ _ _ _
  | allocation stored =>
      simp only [Option.bind_some, IngestEntry.report?, IngestEntry.artifact?,
        IngestEntry.allocation?, Option.toList_some, Option.toList_none, List.append_nil]
        at hreports hartifacts hallocations ⊢
      have hadmit := admit_collectFirst hl stored
      unfold keepEntry
      constructor
      · rintro ⟨-, -, hagree⟩
        rw [if_pos hagree] at hadmit
        simp only [keptOf, hadmit, hreports, hartifacts, hallocations]
      · intro hnot
        rw [if_neg fun hagree => hnot ⟨hr, ha, hagree⟩] at hadmit
        simp only [keptOf, hadmit]
        exact ingestFindings_push _ _ _ _

theorem ingestLine_keptOf (h : Acceptable env json ls) (line : String) (n : Nat) :
    (Acceptable env json (ls ++ [line]) →
      ingestLine env json (keptOf env json ls) (line, n) = keptOf env json (ls ++ [line])) ∧
    (¬ Acceptable env json (ls ++ [line]) →
      (ingestLine env json (keptOf env json ls) (line, n)).ingestFindings ≠ []) := by
  unfold ingestLine
  cases hread : readLine env json line with
  | error findings =>
      simp only [hread]
      constructor
      · intro hall
        obtain ⟨entry, hentry⟩ := hall.readable line (by simp)
        rw [hread] at hentry
        cases hentry
      · intro _
        obtain ⟨⟨code, detail⟩, findings, rfl⟩ := List.exists_cons_of_ne_nil (readLine_error hread)
        rw [List.foldl_cons]
        exact ingestFindings_foldl_push _ (ingestFindings_push _ _ _ _)
  | ok entry =>
      simp only [hread]
      cases entry with
      | none =>
          obtain ⟨hreports, hartifacts, hallocations⟩ := rows_concat ls hread
          rw [acceptable_concat_iff h hread]
          simp only [Option.bind_none, Option.toList_none, List.append_nil]
            at hreports hartifacts hallocations ⊢
          constructor
          · intro _
            simp only [keptOf, hreports, hartifacts, hallocations]
          · intro hnot
            exact absurd ⟨h.reports, h.artifacts, h.allocations⟩ hnot
      | some entry => exact keepEntry_keptOf h hread (n + 1)

/-- Lines without findings are acceptable lines, and acceptable lines leave the first of every
id. -/
theorem foldl_ingestLine (numbered : List (String × Nat)) :
    let state := numbered.foldl (ingestLine env json) .new
    (state.ingestFindings = [] ↔ Acceptable env json (numbered.map Prod.fst)) ∧
    (Acceptable env json (numbered.map Prod.fst) →
      state = keptOf env json (numbered.map Prod.fst)) := by
  induction numbered using List.reverseRecOn with
  | nil =>
      refine ⟨⟨fun _ => ⟨?_, ?_, ?_, ?_⟩, fun _ => rfl⟩, fun _ => rfl⟩
      all_goals
        intro row hrow
        cases hrow
  | append_singleton numbered last ih =>
      obtain ⟨line, n⟩ := last
      obtain ⟨hclean, hkept⟩ := ih
      simp only [List.foldl_append, List.foldl_cons, List.foldl_nil, List.map_append, List.map_cons,
        List.map_nil]
      by_cases hbefore : Acceptable env json (numbered.map Prod.fst)
      · obtain ⟨hok, hbad⟩ := ingestLine_keptOf hbefore line n
        rw [hkept hbefore]
        refine ⟨⟨fun hnil => ?_, fun hall => ?_⟩, hok⟩
        · by_contra hnot
          exact hbad hnot hnil
        · rw [hok hall]
          rfl
      · have hfound := @ingestFindings_ingestLine_ne_nil env json _ (mt hclean.mp hbefore) (line, n)
        have hnot : ¬ Acceptable env json (numbered.map Prod.fst ++ [line]) := fun hall =>
          hbefore (hall.of_subset (List.subset_append_left _ _))
        exact ⟨⟨fun hnil => absurd hnil hfound, fun hall => absurd hall hnot⟩,
          fun hall => absurd hall hnot⟩

/-- All lines of the inputs of some calls. -/
def allLines (inputs : List String) : List String := inputs.flatMap lines

theorem allLines_map_asInput {ls : List String} (h : ∀ line ∈ ls, '\n' ∉ line.toList) :
    allLines (ls.map asInput) = ls := by
  unfold allLines
  rw [List.flatMap_map, List.flatMap_congr fun line hline => lines_asInput_of_notMem (h line hline)]
  exact List.flatMap_singleton' ls

theorem ingestAll_spec (inputs : List String) :
    ((ingestAll env json inputs).ingestFindings = [] ↔ Acceptable env json (allLines inputs)) ∧
    (Acceptable env json (allLines inputs) →
      ingestAll env json inputs = keptOf env json (allLines inputs)) := by
  have hfold : ingestAll env json inputs =
      (inputs.flatMap fun input => (lines input).zipIdx).foldl (ingestLine env json) .new := by
    rw [List.foldl_flatMap]
    rfl
  have hlines : (inputs.flatMap fun input => (lines input).zipIdx).map Prod.fst =
      allLines inputs := by
    rw [List.map_flatMap]
    refine List.flatMap_congr fun input _ => ?_
    exact List.zipIdx_map_fst 0 _
  have hspec := @foldl_ingestLine env json (inputs.flatMap fun input => (lines input).zipIdx)
  simp only [hlines] at hspec
  rw [hfold]
  exact hspec

/-! ## Rows of one id -/

theorem readLine_of_mem {α : Type} {pick : IngestEntry → Option α} {row : α}
    (h : row ∈ (ls.filterMap (entryOf env json)).filterMap pick) :
    ∃ line ∈ ls, ∃ entry, readLine env json line = .ok (some entry) ∧ pick entry = some row := by
  obtain ⟨entry, hentry, hpick⟩ := List.mem_filterMap.mp h
  obtain ⟨line, hline, heq⟩ := List.mem_filterMap.mp hentry
  refine ⟨line, hline, entry, ?_, hpick⟩
  unfold entryOf at heq
  split at heq
  · rename_i hread
    rw [hread, heq]
  · cases heq

theorem readEntry_of_readLine {entry : IngestEntry}
    (h : readLine env json line = .ok (some entry)) :
    isBlank line = false ∧ ∃ record, json.readRecord line = .ok record ∧
      readEntry env json record = .ok entry := by
  unfold readLine at h
  split at h
  · cases h
  · rename_i hblank
    refine ⟨Bool.eq_false_iff.mpr hblank, ?_⟩
    split at h
    · cases h
    · rename_i record hrecord
      refine ⟨record, hrecord, ?_⟩
      cases hentry : readEntry env json record with
      | error found =>
          rw [hentry] at h
          cases h
      | ok read =>
          rw [hentry] at h
          cases h
          rfl

theorem readEntry_eq_report {stored : StoredReport}
    (h : readEntry env json record = .ok (.report stored)) : ∃ value text,
      json.readReport value = .ok (stored.report, text) ∧
      stored.digest = env.sha256Hex (encode text) := by
  cases record with
  | nodeReport value =>
      rw [readEntry] at h
      split at h
      · cases h
      · rename_i report text hparse
        cases h
        refine ⟨value, text, ?_, rfl⟩
        unfold parseRuntimeNodeReport at hparse
        split at hparse
        · cases hparse
        · rename_i hread
          split at hparse
          · cases hparse
            exact hread
          · cases hparse
  | artifact artifactId mediaType content =>
      rw [readEntry] at h
      split at h
      · cases h
      · split at h <;> cases h
  | resourceAllocation value =>
      rw [readEntry] at h
      split at h <;> cases h

theorem readEntry_eq_artifact {stored : StoredArtifact} :
    readEntry env json record = .ok (.artifact stored) ↔ ∃ content,
      record = .artifact stored.id stored.mediaType content ∧
      isBlank stored.mediaType = false ∧ stored.bytes = encode content ∧
      stored.digest = env.sha256Hex (encode content) := by
  constructor
  · intro h
    cases record with
    | nodeReport value =>
        rw [readEntry] at h
        split at h <;> cases h
    | artifact artifactId mediaType content =>
        rw [readEntry] at h
        split at h
        · cases h
        · rename_i hid
          split at h
          · cases h
          · rename_i hblank
            cases h
            exact ⟨content, by rw [not_not.mp hid], Bool.eq_false_iff.mpr hblank, rfl, rfl⟩
    | resourceAllocation value =>
        rw [readEntry] at h
        split at h <;> cases h
  · rintro ⟨content, rfl, hblank, hbytes, hdigest⟩
    obtain ⟨digest, mediaType, bytes⟩ := stored
    subst hbytes hdigest
    rw [readEntry]
    simp [hblank]

theorem readEntry_eq_allocation {stored : StoredAllocation}
    (h : readEntry env json record = .ok (.allocation stored)) : ∃ value text,
      json.readAllocation value = .ok (stored.allocation, text) ∧
      stored.digest = env.sha256Hex (encode text) := by
  cases record with
  | nodeReport value =>
      rw [readEntry] at h
      split at h <;> cases h
  | artifact artifactId mediaType content =>
      rw [readEntry] at h
      split at h
      · cases h
      · split at h <;> cases h
  | resourceAllocation value =>
      rw [readEntry] at h
      split at h
      · cases h
      · rename_i allocation text hread
        cases h
        exact ⟨value, text, hread, rfl⟩

/-! ## Independence -/

def IsArtifactLine (json : RuntimeJson) (line artifactId mediaType content : String) : Prop :=
  isBlank line = false ∧ json.readRecord line = .ok (.artifact artifactId mediaType content)

/-- No two lines give an artifact of one id different media types. -/
def OneMediaType (json : RuntimeJson) (inputs : List String) : Prop :=
  ∀ line ∈ allLines inputs, ∀ line' ∈ allLines inputs,
    ∀ artifactId mediaType mediaType' content content' : String,
      IsArtifactLine json line artifactId mediaType content →
      IsArtifactLine json line' artifactId mediaType' content' → mediaType = mediaType'

/-- The same lines, in any order, any number of times and in any calls. -/
def SameLines (inputs inputs' : List String) : Prop :=
  ∀ line, line ∈ allLines inputs ↔ line ∈ allLines inputs'

theorem mem_filterMap_congr {α : Type} (h : ∀ line, line ∈ ls ↔ line ∈ ls')
    (pick : IngestEntry → Option α) (row : α) :
    row ∈ (ls.filterMap (entryOf env json)).filterMap pick ↔
      row ∈ (ls'.filterMap (entryOf env json)).filterMap pick := by
  simp [h]

theorem eq_of_reportId (hcf : env.CollisionFree) (h : Acceptable env json ls)
    {a b : StoredReport} (ha : a ∈ reportsOf env json ls) (hb : b ∈ reportsOf env json ls)
    (hid : a.report.reportId = b.report.reportId) : a = b := by
  have hdigest := h.reports a ha b hb hid
  have htext : ∀ {c : StoredReport}, c ∈ reportsOf env json ls → ∃ value text,
      json.readReport value = .ok (c.report, text) ∧ c.digest = env.sha256Hex (encode text) := by
    intro c hc
    obtain ⟨line, -, entry, hread, hpick⟩ := readLine_of_mem hc
    obtain ⟨-, record, -, hentry⟩ := readEntry_of_readLine hread
    cases entry with
    | report stored =>
        cases hpick
        exact readEntry_eq_report hentry
    | artifact stored => cases hpick
    | allocation stored => cases hpick
  obtain ⟨value, text, hvalue, hatext⟩ := htext ha
  obtain ⟨value', text', hvalue', hbtext⟩ := htext hb
  rw [hatext, hbtext] at hdigest
  obtain rfl := encode_injective (hcf.sha256Hex_injective hdigest)
  obtain ⟨digest, report⟩ := a
  obtain ⟨digest', report'⟩ := b
  obtain rfl : report = report' := json.eq_of_reportText hvalue hvalue'
  obtain rfl : digest = digest' := hatext.trans hbtext.symm
  rfl

theorem eq_of_allocationId (hcf : env.CollisionFree) (h : Acceptable env json ls)
    {a b : StoredAllocation} (ha : a ∈ allocationsOf env json ls)
    (hb : b ∈ allocationsOf env json ls)
    (hid : a.allocation.allocationId = b.allocation.allocationId) : a = b := by
  have hdigest := h.allocations a ha b hb hid
  have htext : ∀ {c : StoredAllocation}, c ∈ allocationsOf env json ls → ∃ value text,
      json.readAllocation value = .ok (c.allocation, text) ∧
      c.digest = env.sha256Hex (encode text) := by
    intro c hc
    obtain ⟨line, -, entry, hread, hpick⟩ := readLine_of_mem hc
    obtain ⟨-, record, -, hentry⟩ := readEntry_of_readLine hread
    cases entry with
    | report stored => cases hpick
    | artifact stored => cases hpick
    | allocation stored =>
        cases hpick
        exact readEntry_eq_allocation hentry
  obtain ⟨value, text, hvalue, hatext⟩ := htext ha
  obtain ⟨value', text', hvalue', hbtext⟩ := htext hb
  rw [hatext, hbtext] at hdigest
  obtain rfl := encode_injective (hcf.sha256Hex_injective hdigest)
  obtain ⟨digest, allocation⟩ := a
  obtain ⟨digest', allocation'⟩ := b
  obtain rfl : allocation = allocation' := json.eq_of_allocationText hvalue hvalue'
  obtain rfl : digest = digest' := hatext.trans hbtext.symm
  rfl

theorem readLine_artifact {mediaType content : String}
    (h : IsArtifactLine json line ("artifact:sha256-" ++ env.sha256Hex (encode content)) mediaType
      content) (hmedia : isBlank mediaType = false) :
    readLine env json line = .ok (some (.artifact
      ⟨env.sha256Hex (encode content), mediaType, encode content⟩)) := by
  have hentry : readEntry env json
      (.artifact ("artifact:sha256-" ++ env.sha256Hex (encode content)) mediaType content) =
      .ok (.artifact ⟨env.sha256Hex (encode content), mediaType, encode content⟩) :=
    readEntry_eq_artifact.mpr ⟨content, rfl, hmedia, rfl, rfl⟩
  unfold readLine
  rw [if_neg (Bool.eq_false_iff.mp h.1), h.2]
  dsimp only
  rw [hentry]
  rfl

theorem mem_artifactsOf {stored : StoredArtifact} : stored ∈ artifactsOf env json ls ↔
    ∃ line ∈ ls, ∃ content, IsArtifactLine json line stored.id stored.mediaType content ∧
      isBlank stored.mediaType = false ∧ stored.bytes = encode content ∧
      stored.digest = env.sha256Hex (encode content) := by
  constructor
  · intro h
    obtain ⟨line, hline, entry, hread, hpick⟩ := readLine_of_mem h
    obtain ⟨hblank, record, hrecord, hentry⟩ := readEntry_of_readLine hread
    cases entry with
    | report stored => cases hpick
    | artifact stored =>
        cases hpick
        obtain ⟨content, rfl, hmedia, hbytes, hdigest⟩ := readEntry_eq_artifact.mp hentry
        exact ⟨line, hline, content, ⟨hblank, hrecord⟩, hmedia, hbytes, hdigest⟩
    | allocation stored => cases hpick
  · rintro ⟨line, hline, content, ⟨hblank, hrecord⟩, hmedia, hbytes, hdigest⟩
    obtain ⟨digest, mediaType, bytes⟩ := stored
    subst hbytes hdigest
    have hread := readLine_artifact ⟨hblank, hrecord⟩ hmedia
    exact List.mem_filterMap.mpr ⟨.artifact _,
      List.mem_filterMap.mpr ⟨line, hline, entryOf_of_readLine hread⟩, rfl⟩

variable {inputs : List String}

theorem eq_of_artifactId (hcf : env.CollisionFree) (hone : OneMediaType json inputs)
    {a b : StoredArtifact} (ha : a ∈ artifactsOf env json (allLines inputs))
    (hb : b ∈ artifactsOf env json (allLines inputs)) (hid : a.id = b.id) : a = b := by
  obtain ⟨line, hline, content, hartifact, -, habytes, hadigest⟩ := mem_artifactsOf.mp ha
  obtain ⟨line', hline', content', hartifact', -, hbbytes, hbdigest⟩ := mem_artifactsOf.mp hb
  rw [← hid] at hartifact'
  have hmedia := hone line hline line' hline' _ _ _ _ _ hartifact hartifact'
  have hdigest : a.digest = b.digest := (String.append_right_inj _).mp hid
  rw [hadigest, hbdigest] at hdigest
  obtain rfl := encode_injective (hcf.sha256Hex_injective hdigest)
  obtain ⟨digest, mediaType, bytes⟩ := a
  obtain ⟨digest', mediaType', bytes'⟩ := b
  subst hmedia habytes hadigest hbbytes hbdigest
  rfl

theorem ingestAll_congr (hcf : env.CollisionFree) {inputs' : List String}
    (h : Acceptable env json (allLines inputs)) (hone : OneMediaType json inputs)
    (hsame : SameLines inputs inputs') :
    ingestAll env json inputs' = ingestAll env json inputs := by
  have h' : Acceptable env json (allLines inputs') := h.of_subset fun line => (hsame line).mpr
  rw [(ingestAll_spec inputs).2 h, (ingestAll_spec inputs').2 h']
  have hreports := collectFirst_congr (fun a ha b hb => eq_of_reportId hcf h ha hb)
    (mem_filterMap_congr hsame IngestEntry.report?)
  have hartifacts := collectFirst_congr (fun a ha b hb => eq_of_artifactId hcf hone ha hb)
    (mem_filterMap_congr hsame IngestEntry.artifact?)
  have hallocations := collectFirst_congr (fun a ha b hb => eq_of_allocationId hcf h ha hb)
    (mem_filterMap_congr hsame IngestEntry.allocation?)
  unfold keptOf reportsOf artifactsOf allocationsOf
  rw [← hreports, ← hartifacts, ← hallocations]
  rfl

theorem allLines_asInput (hline : line ∈ allLines inputs) :
    allLines (asInput line :: inputs) = line :: allLines inputs := by
  obtain ⟨input, -, hinput⟩ := List.mem_flatMap.mp hline
  show lines (asInput line) ++ allLines inputs = _
  rw [lines_asInput hinput]
  rfl

theorem sameLines_asInput (hline : line ∈ allLines inputs) :
    SameLines inputs (asInput line :: inputs) := by
  intro other
  rw [allLines_asInput hline, List.mem_cons]
  constructor
  · exact Or.inr
  · rintro (rfl | hother)
    · exact hline
    · exact hother

theorem getElem?_artifacts_of_first {rest : List String}
    {artifactId mediaType content : String} (hlines : allLines inputs = line :: rest)
    (hartifact : IsArtifactLine json line artifactId mediaType content)
    (h : Acceptable env json (allLines inputs)) :
    ∃ stored, (ingestAll env json inputs).artifacts[artifactId]? = some stored ∧
      stored.mediaType = mediaType := by
  rw [(ingestAll_spec _).2 h, hlines]
  obtain ⟨entry, hread⟩ := h.readable line (hlines ▸ List.mem_cons_self)
  unfold readLine at hread
  rw [if_neg (Bool.eq_false_iff.mp hartifact.1), hartifact.2] at hread
  dsimp only at hread
  cases hentry : readEntry env json (.artifact artifactId mediaType content) with
  | error findings =>
      rw [hentry] at hread
      cases hread
  | ok entry' =>
      rw [hentry] at hread
      obtain rfl : some entry' = entry := Except.ok.inj hread
      rw [readEntry] at hentry
      split at hentry
      · cases hentry
      · rename_i hid
        split at hentry
        · cases hentry
        · cases hentry
          refine ⟨⟨env.sha256Hex (encode content), mediaType, encode content⟩, ?_, rfl⟩
          have hid := not_not.mp hid
          have hmedia := Bool.eq_false_iff.mpr (by assumption)
          have hlineEntry := entryOf_of_readLine
            (readLine_artifact (hid ▸ hartifact) hmedia)
          show (collectFirst StoredArtifact.id (artifactsOf env json (line :: rest)))[
            artifactId]? = _
          unfold artifactsOf
          rw [List.filterMap_cons, hlineEntry, getElem?_collectFirst, Keyed.lookup]
          rw [hid]
          simp [IngestEntry.artifact?]

theorem mem_artifacts_reconcile {state : GenericJsonlReconciler} {topology : ExecutionTopology}
    {baseRevisionId : String} {expectations : List RuntimeResourceExpectation}
    {artifact : ContentAddressedArtifact} :
    artifact ∈ (reconcileWithResources env json state topology baseRevisionId
      expectations).artifacts ↔
      ∃ stored, state.artifacts[artifact.artifactId]? = some stored ∧
        artifact = ⟨artifact.artifactId, stored.digest, stored.mediaType, stored.bytes.length⟩ := by
  simp only [reconcileWithResources, List.mem_map]
  constructor
  · rintro ⟨⟨id, stored⟩, hmem, rfl⟩
    exact ⟨stored, ExtTreeMap.mem_toList_iff_getElem?_eq_some.mp hmem, rfl⟩
  · rintro ⟨stored, hfound, heq⟩
    exact ⟨(artifact.artifactId, stored), ExtTreeMap.mem_toList_iff_getElem?_eq_some.mpr hfound,
      heq.symm⟩

end Lines

/-- What ingest without findings leads to is independent of the order of the lines, of the calls
they come in and of their repetition exactly when no artifact comes with two media types. -/
theorem ingest_unordered_iff (env : Environment) (hcf : env.CollisionFree) (json : RuntimeJson)
    (inputs : List String) (hclean : (ingestAll env json inputs).ingestFindings = []) :
    (∀ inputs', SameLines inputs inputs' → (ingestAll env json inputs').ingestFindings = [] ∧
      ∀ (topology : ExecutionTopology) (baseRevisionId : String)
        (expectations : List RuntimeResourceExpectation),
        reconcileWithResources env json (ingestAll env json inputs') topology baseRevisionId
            expectations =
          reconcileWithResources env json (ingestAll env json inputs) topology baseRevisionId
            expectations) ↔
      OneMediaType json inputs := by
  have hacceptable := (ingestAll_spec inputs).1.mp hclean
  constructor
  · intro hfree line hline line' hline' artifactId mediaType mediaType' content content' hfirst
      hsecond
    have hfront := fun {line} (hline : line ∈ allLines inputs) =>
      hacceptable.of_subset fun other => (sameLines_asInput hline other).mpr
    obtain ⟨stored, hfound, hmedia⟩ :=
      getElem?_artifacts_of_first (allLines_asInput hline) hfirst (hfront hline)
    obtain ⟨stored', hfound', hmedia'⟩ :=
      getElem?_artifacts_of_first (allLines_asInput hline') hsecond (hfront hline')
    have hreports := ((hfree _ (sameLines_asInput hline)).2 mergeTopology "" []).trans
      ((hfree _ (sameLines_asInput hline')).2 mergeTopology "" []).symm
    have hmem : ⟨artifactId, stored.digest, stored.mediaType, stored.bytes.length⟩ ∈
        (reconcileWithResources env json (ingestAll env json (asInput line :: inputs))
          mergeTopology "" []).artifacts :=
      mem_artifacts_reconcile.mpr ⟨stored, hfound, rfl⟩
    rw [hreports] at hmem
    obtain ⟨other, hother, heq⟩ := mem_artifacts_reconcile.mp hmem
    rw [hfound'] at hother
    obtain rfl := Option.some.inj hother
    rw [← hmedia, ← hmedia']
    exact congrArg ContentAddressedArtifact.mediaType heq
  · intro hone inputs' hsame
    rw [ingestAll_congr hcf hacceptable hone hsame]
    exact ⟨hclean, fun _ _ _ => rfl⟩

/-! ## One artifact, two media types -/

def greetingEnv : Environment := Environment.idealized (encode "hi")

def greetingId : String := "artifact:sha256-" ++ greetingEnv.sha256Hex (encode "hi")

/-- The line of an artifact that says hi. -/
def greetingLine (mediaType : String) : String :=
  greetingEnv.json.toString <| .object
    [("artifact_id", .string greetingId), ("content", .string "hi"),
      ("kind", .string "artifact"), ("media_type", .string mediaType)]

/-- Reads the line of the artifact as plain text and as JSON, and nothing else. -/
def greetingJson : RuntimeJson where
  readRecord line :=
    if line = greetingLine "text/plain" then .ok (.artifact greetingId "text/plain" "hi")
    else if line = greetingLine "application/json" then
      .ok (.artifact greetingId "application/json" "hi")
    else .error "expected value at line 1 column 1"
  readReport _ := .error "missing field"
  readAllocation _ := .error "missing field"
  reconciliationText _ := ""
  eq_of_reportText h := by cases h
  eq_of_allocationText h := by cases h

theorem greetingLine_ne : greetingLine "application/json" ≠ greetingLine "text/plain" := by
  intro h
  have hvalue := (Environment.idealized_collisionFree (encode "hi")).toString_injective h
  simp at hvalue

theorem isArtifactLine_greeting {mediaType : String}
    (h : mediaType = "text/plain" ∨ mediaType = "application/json") :
    IsArtifactLine greetingJson (greetingLine mediaType) greetingId mediaType "hi" := by
  refine ⟨greetingEnv.json.toString_notBlank _, ?_⟩
  rcases h with rfl | rfl
  · simp [greetingJson]
  · simp only [greetingJson, if_neg greetingLine_ne, if_true]

theorem allLines_greeting (mediaTypes : List String) :
    allLines (mediaTypes.map fun mediaType => asInput (greetingLine mediaType)) =
      mediaTypes.map greetingLine := by
  have hline : ∀ line ∈ mediaTypes.map greetingLine, '\n' ∉ line.toList := by
    intro line hmem hnewline
    obtain ⟨mediaType, -, rfl⟩ := List.mem_map.mp hmem
    exact (greetingEnv.json.toString_line _ _ hnewline).1 rfl
  rw [← allLines_map_asInput hline, List.map_map]
  rfl

theorem acceptable_greeting {mediaTypes : List String}
    (h : ∀ mediaType ∈ mediaTypes, mediaType = "text/plain" ∨ mediaType = "application/json") :
    Acceptable greetingEnv greetingJson
      (allLines (mediaTypes.map fun mediaType => asInput (greetingLine mediaType))) := by
  rw [allLines_greeting]
  have hread : ∀ mediaType ∈ mediaTypes, readLine greetingEnv greetingJson (greetingLine mediaType) =
      .ok (some (.artifact ⟨greetingEnv.sha256Hex (encode "hi"), mediaType, encode "hi"⟩)) := by
    intro mediaType hmem
    refine readLine_artifact (isArtifactLine_greeting (h mediaType hmem)) ?_
    rcases h mediaType hmem with rfl | rfl <;> decide
  have hartifact : ∀ {α : Type} {pick : IngestEntry → Option α} {row : α},
      row ∈ ((mediaTypes.map greetingLine).filterMap (entryOf greetingEnv greetingJson)).filterMap
        pick → ∃ stored, pick (.artifact stored) = some row := by
    intro α pick row hrow
    obtain ⟨line, hline, entry, hentry, hpick⟩ := readLine_of_mem hrow
    obtain ⟨mediaType, hmem, rfl⟩ := List.mem_map.mp hline
    rw [hread mediaType hmem] at hentry
    cases hentry
    exact ⟨_, hpick⟩
  refine ⟨?_, ?_, ?_, ?_⟩
  · intro line hline
    obtain ⟨mediaType, hmem, rfl⟩ := List.mem_map.mp hline
    exact ⟨_, hread mediaType hmem⟩
  · intro row hrow
    obtain ⟨stored, hpick⟩ := hartifact hrow
    cases hpick
  · intro a _ b _ hid
    exact (String.append_right_inj _).mp hid
  · intro row hrow
    obtain ⟨stored, hpick⟩ := hartifact hrow
    cases hpick

/-- Two lines of one artifact and two media types are ingested without findings in both orders,
and the reports differ in the media type of the artifact. -/
theorem ingest_media_types_ordered :
    let texts := ["text/plain", "application/json"].map fun mediaType =>
      asInput (greetingLine mediaType)
    let swapped := ["application/json", "text/plain"].map fun mediaType =>
      asInput (greetingLine mediaType)
    greetingEnv.CollisionFree ∧ SameLines texts swapped ∧
      (ingestAll greetingEnv greetingJson texts).ingestFindings = [] ∧
      (ingestAll greetingEnv greetingJson swapped).ingestFindings = [] ∧
      reconcileWithResources greetingEnv greetingJson (ingestAll greetingEnv greetingJson swapped)
          mergeTopology "" [] ≠
        reconcileWithResources greetingEnv greetingJson (ingestAll greetingEnv greetingJson texts)
          mergeTopology "" [] := by
  intro texts swapped
  have htexts : Acceptable greetingEnv greetingJson (allLines texts) :=
    acceptable_greeting fun mediaType hmem => by simpa using hmem
  have hswapped : Acceptable greetingEnv greetingJson (allLines swapped) :=
    acceptable_greeting fun mediaType hmem => by simpa [or_comm] using hmem
  have hlines := allLines_greeting ["text/plain", "application/json"]
  have hlines' := allLines_greeting ["application/json", "text/plain"]
  refine ⟨Environment.idealized_collisionFree _, ?_, (ingestAll_spec _).1.mpr htexts,
    (ingestAll_spec _).1.mpr hswapped, ?_⟩
  · intro line
    rw [hlines, hlines']
    simp [or_comm]
  · intro hreports
    obtain ⟨stored, hfound, hmedia⟩ :=
      getElem?_artifacts_of_first hlines (isArtifactLine_greeting (Or.inl rfl)) htexts
    obtain ⟨stored', hfound', hmedia'⟩ :=
      getElem?_artifacts_of_first hlines' (isArtifactLine_greeting (Or.inr rfl)) hswapped
    have hmem : ⟨greetingId, stored.digest, stored.mediaType, stored.bytes.length⟩ ∈
        (reconcileWithResources greetingEnv greetingJson
          (ingestAll greetingEnv greetingJson texts) mergeTopology "" []).artifacts :=
      mem_artifacts_reconcile.mpr ⟨stored, hfound, rfl⟩
    rw [← hreports] at hmem
    obtain ⟨other, hother, heq⟩ := mem_artifacts_reconcile.mp hmem
    rw [hfound'] at hother
    obtain rfl := Option.some.inj hother
    have hsame : stored.mediaType = stored'.mediaType :=
      congrArg ContentAddressedArtifact.mediaType heq
    rw [hmedia, hmedia'] at hsame
    exact absurd hsame (by decide)

/-- The theorem on a stream of one line. -/
theorem ingest_unordered_plain_text :
    let texts := ["text/plain"].map fun mediaType => asInput (greetingLine mediaType)
    ∀ inputs', SameLines texts inputs' →
      (ingestAll greetingEnv greetingJson inputs').ingestFindings = [] ∧
      ∀ (topology : ExecutionTopology) (baseRevisionId : String)
        (expectations : List RuntimeResourceExpectation),
        reconcileWithResources greetingEnv greetingJson (ingestAll greetingEnv greetingJson inputs')
            topology baseRevisionId expectations =
          reconcileWithResources greetingEnv greetingJson
            (ingestAll greetingEnv greetingJson texts) topology baseRevisionId expectations := by
  intro texts
  have hacceptable : Acceptable greetingEnv greetingJson (allLines texts) :=
    acceptable_greeting fun mediaType hmem => Or.inl (List.mem_singleton.mp hmem)
  refine (ingest_unordered_iff greetingEnv (Environment.idealized_collisionFree _) greetingJson
    texts ((ingestAll_spec _).1.mpr hacceptable)).mpr ?_
  intro line hline line' hline' artifactId mediaType mediaType' content content' hartifact
    hartifact'
  rw [allLines_greeting] at hline hline'
  obtain rfl := List.mem_singleton.mp hline
  obtain rfl := List.mem_singleton.mp hline'
  have hrecord := hartifact.2.symm.trans hartifact'.2
  simp only [Except.ok.injEq, JsonlRecord.artifact.injEq] at hrecord
  exact hrecord.2.1

end CaseGraphen
