import CaseGraphen.Lib.Sha256
import Mathlib.Data.List.Induction

/-!
# The capture of a worker's output

A thread reads an output of a worker and records what it reads in a raw file, a
hash and a capped buffer, one record after another under a lock, while the
worker's end may not wait for it: it seals the capture, publishes the raw file
and takes a snapshot. A run is any interleaving of the two. The three records
agree unless a write to the raw file stops in the middle of a chunk.
-/

namespace CaseGraphen

open Text

def outputLimitBytes : Nat := 4 * 1024 * 1024

/-- The hasher is kept as what it was fed. -/
structure CaptureProgress where
  bytes : Bytes
  byteLen : Nat
  truncated : Bool
  hashed : Bytes
  isSealed : Bool
  rawOutput : Bytes
deriving DecidableEq

def CaptureProgress.new : CaptureProgress := ⟨[], 0, false, [], false, []⟩

/-- How a write to the raw file ends: whole, or failing behind so many bytes. -/
inductive WriteOutcome where
  | whole
  | failed (written : Nat)
deriving DecidableEq

/-- The progress after a chunk, and whether it was recorded. -/
def CaptureProgress.record (progress : CaptureProgress) (chunk : Bytes) (outcome : WriteOutcome) :
    CaptureProgress × Bool :=
  if progress.isSealed then (progress, true)
  else match outcome with
    | .failed written =>
        ({ progress with rawOutput := progress.rawOutput ++ chunk.take written }, false)
    | .whole =>
        let retained := min (outputLimitBytes - progress.bytes.length) chunk.length
        ({ progress with
            rawOutput := progress.rawOutput ++ chunk
            hashed := progress.hashed ++ chunk
            byteLen := min (progress.byteLen + chunk.length) (2 ^ 64 - 1)
            bytes := progress.bytes ++ chunk.take retained
            truncated := progress.truncated || retained < chunk.length }, true)

structure CapturedOutput where
  bytes : Bytes
  byteLen : Nat
  truncated : Bool
  incomplete : Bool
  contentHash : String
deriving DecidableEq

def capturedOutput (progress : CaptureProgress) (incomplete : Bool) : CapturedOutput where
  bytes := progress.bytes
  byteLen := progress.byteLen
  truncated := progress.truncated || incomplete
  incomplete := incomplete
  contentHash := Sha256.hex progress.hashed

/-! ## Runs -/

/-- Whether the reading thread still runs, or how it ended. -/
inductive ReaderState where
  | reading
  | ended (ok : Bool)
deriving DecidableEq

/-- How far `finish_reader` is. -/
inductive FinishPhase where
  | waiting
  | sealing
  | publishing (incomplete : Bool)
  | published (incomplete : Bool)
  | done (output : CapturedOutput)
  | failed
deriving DecidableEq

structure CaptureRun where
  progress : CaptureProgress
  position : Nat
  reader : ReaderState
  phase : FinishPhase
  destination : Option Bytes
deriving DecidableEq

inductive CaptureStep where
  | record (count : Nat) (outcome : WriteOutcome)
  | endRead (ok : Bool)
  | checkFinished
  | sealCapture
  | publish
  | publishFails (left : Option Bytes)
  | snapshot
deriving DecidableEq

def CaptureRun.start (destination : Option Bytes) : CaptureRun :=
  ⟨.new, 0, .reading, .waiting, destination⟩

/-- Whether a write to the raw file can end so. A file has room for fewer than `2 ^ 63` bytes, and
a sealed capture writes nothing. -/
def CaptureProgress.canWrite (progress : CaptureProgress) (count : Nat) : WriteOutcome → Bool
  | .whole => progress.isSealed || progress.rawOutput.length + count < 2 ^ 63
  | .failed written => !progress.isSealed && written < count

/-- A step of either thread, where it can be taken. A read that gives nothing ends the stream. -/
def CaptureRun.step (stream : Bytes) (run : CaptureRun) : CaptureStep → Option CaptureRun
  | .record count outcome =>
      let chunk := (stream.drop run.position).take count
      if run.reader = .reading ∧ 0 < count ∧ chunk.length = count ∧
          run.progress.canWrite count outcome = true then
        some { run with
          progress := (run.progress.record chunk outcome).1
          position := run.position + count
          reader := if (run.progress.record chunk outcome).2 then .reading else .ended false }
      else none
  | .endRead ok =>
      if run.reader = .reading ∧ (ok = true → run.position = stream.length) then
        some { run with reader := .ended ok }
      else none
  | .checkFinished =>
      if run.phase = .waiting then
        some { run with phase :=
          match run.reader with
          | .reading => .sealing
          | .ended true => .publishing false
          | .ended false => .failed }
      else none
  | .sealCapture =>
      if run.phase = .sealing then
        some { run with
          progress := { run.progress with isSealed := true }
          phase := .publishing true }
      else none
  | .publish =>
      match run.phase with
      | .publishing incomplete =>
          some { run with
            destination := some run.progress.rawOutput
            phase := .published incomplete }
      | _ => none
  | .publishFails left =>
      match run.phase with
      | .publishing _ => some { run with destination := left, phase := .failed }
      | _ => none
  | .snapshot =>
      match run.phase with
      | .published incomplete =>
          some { run with phase := .done (capturedOutput run.progress incomplete) }
      | _ => none

def CaptureRun.steps (stream : Bytes) (run : CaptureRun) (steps : List CaptureStep) :
    Option CaptureRun :=
  steps.foldlM (CaptureRun.step stream) run

/-- A write that fails behind a part of its chunk. -/
def CaptureStep.Torn : CaptureStep → Prop
  | .record _ (.failed written) => 0 < written
  | _ => False

/-- The output says what was published, a prefix of the stream, and nothing read later changes
either. -/
structure CaptureMatches (stream : Bytes) (run : CaptureRun) (output : CapturedOutput)
    (content : Bytes) : Prop where
  destination : run.destination = some content
  isPrefix : content <+: stream
  byteLen : output.byteLen = content.length
  contentHash : output.contentHash = Sha256.hex content
  bytes : output.bytes = content.take outputLimitBytes
  truncated : output.truncated = true ↔
    outputLimitBytes < content.length ∨ output.incomplete = true
  stays : ∀ steps later, run.steps stream steps = some later →
    later.destination = some content ∧ later.phase = .done output ∧
      capturedOutput later.progress output.incomplete = output

/-! ## What a step keeps -/

/-- Nothing more can be recorded. -/
def CaptureRun.Closed (run : CaptureRun) : Prop :=
  run.progress.isSealed = true ∨ run.reader = .ended true

/-- What the end of the worker relies on in each of its phases. -/
def CaptureRun.PhaseKept (run : CaptureRun) : Prop :=
  match run.phase with
  | .waiting | .sealing => run.progress.isSealed = false
  | .publishing _ => run.Closed
  | .published _ => run.Closed ∧ run.destination = some run.progress.rawOutput
  | .done output => run.Closed ∧ run.destination = some run.progress.rawOutput ∧
      output = capturedOutput run.progress output.incomplete
  | .failed => True

/-- The length, the buffer and its mark are those of what was hashed. -/
structure CaptureProgress.Agrees (progress : CaptureProgress) : Prop where
  byteLen : progress.byteLen = progress.hashed.length
  bytes : progress.bytes = progress.hashed.take outputLimitBytes
  truncated : progress.truncated = true ↔ outputLimitBytes < progress.hashed.length

/-- The records after some steps, with a torn write among them or not: what was hashed, and in the
raw file the part of a chunk behind it that a torn write left. -/
structure Captured (stream : Bytes) (torn : Prop) (run : CaptureRun) : Prop where
  isPrefix : run.progress.rawOutput <+: stream
  position : run.reader = .reading → run.progress.isSealed = false →
    run.progress.rawOutput = stream.take run.position ∧ ¬torn
  raw : ∃ part, run.progress.rawOutput = run.progress.hashed ++ part ∧ (part ≠ [] ↔ torn)
  agrees : run.progress.Agrees
  phase : run.PhaseKept

variable {stream : Bytes} {torn : Prop} {run run' : CaptureRun}

theorem captured_start (stream : Bytes) (destination : Option Bytes) :
    Captured stream False (.start destination) where
  isPrefix := List.nil_prefix
  position _ _ := ⟨rfl, id⟩
  raw := ⟨[], rfl, by simp⟩
  agrees := ⟨rfl, rfl, by simp [CaptureRun.start, CaptureProgress.new]⟩
  phase := rfl

/-- A chunk written whole is hashed, counted and kept as far as there is room. -/
theorem CaptureProgress.Agrees.whole {progress : CaptureProgress} (h : progress.Agrees)
    {chunk : Bytes} (hroom : progress.hashed.length + chunk.length < 2 ^ 63) :
    (progress.record chunk .whole).1.Agrees := by
  unfold record
  split
  · exact h
  · have hbytes := congrArg List.length h.bytes
    rw [List.length_take] at hbytes
    refine ⟨?_, ?_, ?_⟩
    · change min (progress.byteLen + chunk.length) (2 ^ 64 - 1) = (progress.hashed ++ chunk).length
      rw [List.length_append, h.byteLen]
      omega
    · change progress.bytes ++ chunk.take (min (outputLimitBytes - progress.bytes.length)
        chunk.length) = (progress.hashed ++ chunk).take outputLimitBytes
      rw [List.take_append, ← h.bytes, hbytes, ← List.take_eq_take_min]
      congr 2
      omega
    · rw [List.length_append, Bool.or_eq_true, h.truncated, decide_eq_true_iff]
      omega

/-- Nothing is published while the capture is open and read. -/
theorem Captured.open_phase (h : Captured stream torn run) (hreading : run.reader = .reading)
    (hopen : run.progress.isSealed = false) :
    run.phase = .waiting ∨ run.phase = .sealing ∨ run.phase = .failed := by
  have hphase := h.phase
  have hclosed : ¬run.Closed := by simp [CaptureRun.Closed, hreading, hopen]
  unfold CaptureRun.PhaseKept at hphase
  cases hat : run.phase with
  | waiting => exact .inl rfl
  | sealing => exact .inr (.inl rfl)
  | failed => exact .inr (.inr rfl)
  | publishing incomplete =>
      rw [hat] at hphase
      exact absurd hphase hclosed
  | published incomplete =>
      rw [hat] at hphase
      exact absurd hphase.1 hclosed
  | done output =>
      rw [hat] at hphase
      exact absurd hphase.1 hclosed

/-- A recorded chunk is in all three records, a torn one in the raw file alone. -/
theorem Captured.record (h : Captured stream torn run) {count : Nat} {outcome : WriteOutcome}
    (hstep : run.step stream (.record count outcome) = some run') :
    Captured stream (torn ∨ (CaptureStep.record count outcome).Torn) run' := by
  obtain ⟨⟨hreading, hcount, hlength, hwrite⟩, ⟨⟩⟩ := Option.ite_none_right_eq_some.mp hstep
  cases hsealed : run.progress.isSealed with
  | true =>
      -- a sealed capture takes nothing more
      obtain rfl : outcome = .whole := by
        cases outcome with
        | whole => rfl
        | failed written => simp [CaptureProgress.canWrite, hsealed] at hwrite
      simp only [CaptureProgress.record, hsealed, if_true, CaptureStep.Torn, or_false]
      exact { h with
        position := fun _ hopen => nomatch hsealed.symm.trans hopen
        phase := by simpa only [CaptureRun.PhaseKept, CaptureRun.Closed, hreading] using h.phase }
  | false =>
      obtain ⟨hraw, htorn⟩ := h.position hreading hsealed
      obtain ⟨part, hpart, hparted⟩ := h.raw
      obtain rfl : part = [] := by_contra fun hne => htorn (hparted.mp hne)
      rw [List.append_nil] at hpart
      have hphase := h.open_phase hreading hsealed
      cases outcome with
      | whole =>
          have hroom : run.progress.hashed.length + count < 2 ^ 63 := by
            rw [← hpart]
            simpa [CaptureProgress.canWrite, hsealed] using hwrite
          have hagrees := h.agrees.whole (hlength.symm ▸ hroom)
          have htake : run.progress.rawOutput ++ (stream.drop run.position).take count =
              stream.take (run.position + count) := by rw [hraw, List.take_add]
          unfold CaptureProgress.record at hagrees ⊢
          rw [hsealed] at hagrees ⊢
          simp only [Bool.false_eq_true, if_false, if_true, CaptureStep.Torn, or_false] at hagrees ⊢
          refine ⟨htake ▸ List.take_prefix _ _, fun _ _ => ⟨htake, htorn⟩,
            ⟨[], by simp [hpart], iff_of_false (by simp) htorn⟩, hagrees, ?_⟩
          obtain hat | hat | hat := hphase <;> simp [CaptureRun.PhaseKept, hat]
      | failed written =>
          have hwritten : written < count := by
            simpa [CaptureProgress.canWrite, hsealed] using hwrite
          have htake : run.progress.rawOutput ++
              ((stream.drop run.position).take count).take written =
              stream.take (run.position + written) := by
            rw [hraw, List.take_take, min_eq_left hwritten.le, List.take_add]
          simp only [CaptureProgress.record, hsealed, Bool.false_eq_true, if_false]
          refine ⟨htake ▸ List.take_prefix _ _, (fun hreads => nomatch hreads),
            ⟨_, by rw [hpart], ?_⟩, ⟨h.agrees.byteLen, h.agrees.bytes, h.agrees.truncated⟩, ?_⟩
          · rw [← List.length_pos_iff, List.length_take, hlength, CaptureStep.Torn]
            simp [htorn, hwritten.le]
          · obtain hat | hat | hat := hphase <;> simp [CaptureRun.PhaseKept, hat]

theorem Captured.step (h : Captured stream torn run) {step : CaptureStep}
    (hstep : run.step stream step = some run') : Captured stream (torn ∨ step.Torn) run' := by
  cases step with
  | record count outcome => exact h.record hstep
  | endRead ok =>
      obtain ⟨⟨hreading, -⟩, ⟨⟩⟩ := Option.ite_none_right_eq_some.mp hstep
      simp only [CaptureStep.Torn, or_false]
      have hclosed (hclosed : run.Closed) : CaptureRun.Closed { run with reader := .ended ok } :=
        .inl (hclosed.resolve_right fun hended => nomatch hreading.symm.trans hended)
      refine { h with position := (fun hreads => nomatch hreads), phase := ?_ }
      have hphase := h.phase
      unfold CaptureRun.PhaseKept at hphase ⊢
      cases hat : run.phase with
      | publishing incomplete =>
          rw [hat] at hphase
          exact hclosed hphase
      | published incomplete =>
          rw [hat] at hphase
          exact ⟨hclosed hphase.1, hphase.2⟩
      | done output =>
          rw [hat] at hphase
          exact ⟨hclosed hphase.1, hphase.2⟩
      | failed => trivial
      | _ =>
          rw [hat] at hphase
          exact hphase
  | checkFinished =>
      obtain ⟨hwaiting, ⟨⟩⟩ := Option.ite_none_right_eq_some.mp hstep
      simp only [CaptureStep.Torn, or_false]
      have hphase := h.phase
      simp only [CaptureRun.PhaseKept, hwaiting] at hphase
      refine { h with phase := ?_ }
      cases hreader : run.reader with
      | reading => exact hphase
      | ended ok =>
          cases ok with
          | true => exact .inr rfl
          | false => trivial
  | sealCapture =>
      obtain ⟨-, ⟨⟩⟩ := Option.ite_none_right_eq_some.mp hstep
      simp only [CaptureStep.Torn, or_false]
      exact { h with
        position := fun _ hopen => nomatch hopen
        agrees := ⟨h.agrees.byteLen, h.agrees.bytes, h.agrees.truncated⟩
        phase := .inl rfl }
  | publish =>
      have hphase := h.phase
      unfold CaptureRun.PhaseKept at hphase
      simp only [CaptureRun.step] at hstep
      split at hstep
      · rename_i incomplete hat
        cases hstep
        simp only [CaptureStep.Torn, or_false]
        rw [hat] at hphase
        exact { h with phase := ⟨hphase, rfl⟩ }
      · cases hstep
  | publishFails left =>
      simp only [CaptureRun.step] at hstep
      split at hstep
      · cases hstep
        simp only [CaptureStep.Torn, or_false]
        exact { h with phase := trivial }
      · cases hstep
  | snapshot =>
      have hphase := h.phase
      unfold CaptureRun.PhaseKept at hphase
      simp only [CaptureRun.step] at hstep
      split at hstep
      · rename_i incomplete hat
        cases hstep
        simp only [CaptureStep.Torn, or_false]
        rw [hat] at hphase
        exact { h with phase := ⟨hphase.1, hphase.2, rfl⟩ }
      · cases hstep

theorem Captured.steps {steps : List CaptureStep} {start : CaptureRun}
    (h : Captured stream False start) (hrun : start.steps stream steps = some run) :
    Captured stream (∃ step ∈ steps, step.Torn) run := by
  induction steps using List.reverseRecOn generalizing run with
  | nil =>
      obtain rfl := Option.some.inj hrun
      simpa using h
  | append_singleton steps step ih =>
      rw [CaptureRun.steps, List.foldlM_append, Option.bind_eq_bind,
        Option.bind_eq_some_iff] at hrun
      obtain ⟨before, hbefore, hstep⟩ := hrun
      have hkept := (ih hbefore).step (by simpa using hstep)
      simpa [or_and_right, exists_or] using hkept

/-- Once the output is taken, a step changes nothing that is in it. -/
theorem done_step {output : CapturedOutput} {step : CaptureStep} (hdone : run.phase = .done output)
    (hclosed : run.Closed) (hstep : run.step stream step = some run') :
    run'.progress = run.progress ∧ run'.destination = run.destination ∧ run'.phase = run.phase ∧
      run'.Closed := by
  cases step with
  | record count outcome =>
      obtain ⟨⟨hreading, -, -, hwrite⟩, ⟨⟩⟩ := Option.ite_none_right_eq_some.mp hstep
      have hsealed := hclosed.resolve_right fun hended => nomatch hreading.symm.trans hended
      have hrecord : (run.progress.record ((stream.drop run.position).take count) outcome).1 =
          run.progress := by
        unfold CaptureProgress.record
        rw [if_pos hsealed]
      exact ⟨hrecord, rfl, rfl, .inl (by rw [hrecord]; exact hsealed)⟩
  | endRead ok =>
      obtain ⟨⟨hreading, -⟩, ⟨⟩⟩ := Option.ite_none_right_eq_some.mp hstep
      exact ⟨rfl, rfl, rfl, .inl (hclosed.resolve_right fun hended =>
        nomatch hreading.symm.trans hended)⟩
  | _ => simp [CaptureRun.step, hdone] at hstep

theorem done_steps {output : CapturedOutput} {steps : List CaptureStep}
    (hdone : run.phase = .done output) (hclosed : run.Closed)
    (hrun : run.steps stream steps = some run') :
    run'.progress = run.progress ∧ run'.destination = run.destination ∧ run'.phase = run.phase := by
  induction steps generalizing run with
  | nil =>
      obtain rfl := Option.some.inj hrun
      exact ⟨rfl, rfl, rfl⟩
  | cons step steps ih =>
      obtain ⟨next, hstep, hrest⟩ := Option.bind_eq_some_iff.mp hrun
      obtain ⟨hprogress, hdestination, hphase, hclosed⟩ := done_step hdone hclosed hstep
      rw [← hprogress, ← hdestination, ← hphase]
      exact ih (hphase.trans hdone) hclosed hrest

/-- A finished capture matches what was published exactly when no write to the raw file stopped
behind a part of its chunk. -/
theorem capture_matches_iff {destination : Option Bytes} {steps : List CaptureStep}
    {output : CapturedOutput} (hrun : (CaptureRun.start destination).steps stream steps = some run)
    (hdone : run.phase = .done output) :
    (∃ content, CaptureMatches stream run output content) ↔ ∀ step ∈ steps, ¬step.Torn := by
  have hcaptured := (captured_start stream destination).steps hrun
  have hphase := hcaptured.phase
  unfold CaptureRun.PhaseKept at hphase
  rw [hdone] at hphase
  obtain ⟨hclosed, hdestination, houtput⟩ := hphase
  obtain ⟨part, hpart, hparted⟩ := hcaptured.raw
  have hagrees := hcaptured.agrees
  constructor
  · rintro ⟨content, hmatches⟩ step hstep htorn
    obtain rfl := Option.some.inj (hdestination.symm.trans hmatches.destination)
    have hlength := hmatches.byteLen
    rw [houtput] at hlength
    change run.progress.byteLen = _ at hlength
    rw [hagrees.byteLen, hpart, List.length_append] at hlength
    exact hparted.mpr ⟨step, hstep, htorn⟩ (List.length_eq_zero_iff.mp (by omega))
  · intro hwhole
    obtain rfl : part = [] := by_contra fun hne =>
      let ⟨step, hstep, htorn⟩ := hparted.mp hne
      hwhole step hstep htorn
    rw [List.append_nil] at hpart
    have hfields : output.byteLen = run.progress.byteLen ∧ output.bytes = run.progress.bytes ∧
        output.contentHash = Sha256.hex run.progress.hashed ∧
        output.truncated = (run.progress.truncated || output.incomplete) := by
      rw [houtput]
      exact ⟨rfl, rfl, rfl, rfl⟩
    refine ⟨_, hdestination, hcaptured.isPrefix, ?_, ?_, ?_, ?_, fun later run' hlater => ?_⟩
    · rw [hfields.1, hagrees.byteLen, hpart]
    · rw [hfields.2.2.1, hpart]
    · rw [hfields.2.1, hagrees.bytes, hpart]
    · rw [hfields.2.2.2, Bool.or_eq_true, hagrees.truncated, hpart]
    · obtain ⟨hprogress, hsame, hphase⟩ := done_steps hdone hclosed hlater
      exact ⟨hsame.trans hdestination, hphase.trans hdone, by rw [hprogress, ← houtput]⟩

/-- The worker's end stops waiting behind the first chunk. -/
def sealedRun : CaptureRun :=
  ⟨⟨[104], 1, false, [104], true, [104]⟩, 2, .reading,
    .done ⟨[104], 1, true, true, Sha256.hex [104]⟩, some [104]⟩

theorem sealed_capture_matches : ∃ content, CaptureMatches [104, 105] sealedRun
    ⟨[104], 1, true, true, Sha256.hex [104]⟩ content := by
  have hrun : (CaptureRun.start none).steps [104, 105] [.record 1 .whole, .checkFinished,
      .sealCapture, .record 1 .whole, .publish, .snapshot] = some sealedRun := rfl
  refine (capture_matches_iff hrun rfl).mpr ?_
  simp [CaptureStep.Torn]

/-- The disk fills up behind the first byte, after the worker's end has stopped waiting. -/
def tornRun : CaptureRun :=
  ⟨⟨[], 0, false, [], true, [104]⟩, 2, .ended false, .done ⟨[], 0, true, true, Sha256.hex []⟩,
    some [104]⟩

theorem torn_capture_differs :
    (CaptureRun.start none).steps [104, 105] [.checkFinished, .record 2 (.failed 1), .sealCapture,
        .publish, .snapshot] = some tornRun ∧
      ¬∃ content, CaptureMatches [104, 105] tornRun ⟨[], 0, true, true, Sha256.hex []⟩ content := by
  refine ⟨rfl, ?_⟩
  rintro ⟨content, hmatches⟩
  obtain rfl := Option.some.inj hmatches.destination
  exact nomatch hmatches.byteLen

end CaseGraphen
