import CaseGraphen.ExecRecords
import CaseGraphen.ExecutionTopology
import CaseGraphen.OperationGate

/-!
# The files of a run

What a dispatch leaves behind: the report of the worker and the trace, as they are written.
-/

namespace CaseGraphen

open Checked Json Text

def workerReportSchema : String := "highergraphen.case.workflow.worker_report.v1"

def executionTraceSchema : String := "highergraphen.case.workflow.execution_trace.v2"

def executionRecordSchemaVersion : Nat := 1

def workerReportTrustBoundary : String :=
  "local_process_output_untrusted_until_validated_and_reviewed"

/-! ## Fields -/

def nullableId (k : String) : Fields (Option Id) :=
  .defaulted k (.nullable Id.codec id_toValue_ne_null) none

def intNumber : Int → Number
  | .ofNat n => .posInt n
  | .negSucc n => .negInt n

def intCodec : Codec Int where
  ser i := .number (intNumber i)
  dec
    | .number (.posInt n) => .ok (.ofNat n)
    | .number (.negInt n) => .ok (.negSucc n)
    | _ => .error "invalid type: expected an integer"
  dec_ser i := by
    cases i with
    | ofNat n => rfl
    | negSucc n => rfl

def nullableInt (k : String) : Fields (Option Int) :=
  .defaulted k (.nullable intCodec fun _ h => by cases h) none

/-! ## Worker reports -/

inductive WorkerOutputName where
  | stdout
  | stderr
deriving DecidableEq

def WorkerOutputName.codec : Codec WorkerOutputName :=
  enumCodec (fun
    | .stdout => "stdout"
    | .stderr => "stderr") [.stdout, .stderr] (by intro a; cases a <;> decide)

structure WorkerOutput where
  name : WorkerOutputName
  contentHash : String
  byteLen : Nat
  retainedByteLen : Nat
  truncated : Bool
  incomplete : Bool
deriving DecidableEq

def WorkerOutput.fields : Fields WorkerOutput :=
  ((Fields.required "name" WorkerOutputName.codec).append <|
    (Fields.required "content_hash" Codec.string).append <|
    (Fields.required "byte_len" Codec.nat).append <|
    (Fields.required "retained_byte_len" Codec.nat).append <|
    (Fields.required "truncated" Codec.bool).append <|
    Fields.required "incomplete" Codec.bool).iso
  (fun (name, contentHash, byteLen, retainedByteLen, truncated, incomplete) =>
    ⟨name, contentHash, byteLen, retainedByteLen, truncated, incomplete⟩)
  (fun o => (o.name, o.contentHash, o.byteLen, o.retainedByteLen, o.truncated, o.incomplete))
  fun _ => rfl

def WorkerOutput.codec : Codec WorkerOutput :=
  WorkerOutput.fields.record (by decide)

/-- What a worker did, by its own process and the files it left. -/
structure WorkerReport where
  schema : String
  schemaVersion : Nat
  reportId : Id
  bindingId : Id
  bindingContentHash : String
  workCellId : Id
  planId : Id
  stepId : Id
  exitStatus : Option Int
  timedOut : Bool
  descendantsMaySurvive : Bool
  outputs : List WorkerOutput
  trustBoundary : String
  startedAt : String
  finishedAt : String
  metadata : Json.Map
deriving DecidableEq

def WorkerReport.fields : Fields WorkerReport :=
  ((Fields.required "schema" Codec.string).append <|
    (Fields.required "schema_version" Codec.nat).append <|
    (Fields.required "report_id" Id.codec).append <|
    (Fields.required "binding_id" Id.codec).append <|
    (Fields.required "binding_content_hash" Codec.string).append <|
    (Fields.required "work_cell_id" Id.codec).append <|
    (Fields.required "plan_id" Id.codec).append <|
    (Fields.required "step_id" Id.codec).append <|
    (nullableInt "exit_status").append <|
    (Fields.required "timed_out" Codec.bool).append <|
    (Fields.required "descendants_may_survive" Codec.bool).append <|
    (Fields.required "outputs" WorkerOutput.codec.list).append <|
    (Fields.required "trust_boundary" Codec.string).append <|
    (Fields.required "started_at" Codec.string).append <|
    (Fields.required "finished_at" Codec.string).append <|
    Fields.required "metadata" Codec.map).iso
  (fun (schema, schemaVersion, reportId, bindingId, bindingContentHash, workCellId, planId,
      stepId, exitStatus, timedOut, descendantsMaySurvive, outputs, trustBoundary, startedAt,
      finishedAt, metadata) =>
    ⟨schema, schemaVersion, reportId, bindingId, bindingContentHash, workCellId, planId, stepId,
      exitStatus, timedOut, descendantsMaySurvive, outputs, trustBoundary, startedAt, finishedAt,
      metadata⟩)
  (fun r => (r.schema, r.schemaVersion, r.reportId, r.bindingId, r.bindingContentHash,
    r.workCellId, r.planId, r.stepId, r.exitStatus, r.timedOut, r.descendantsMaySurvive,
    r.outputs, r.trustBoundary, r.startedAt, r.finishedAt, r.metadata)) fun _ => rfl

def WorkerReport.codec : Codec WorkerReport :=
  WorkerReport.fields.record (by decide)

/-! ## Traces -/

def ExecutionDispatchState.codec : Codec ExecutionDispatchState :=
  enumCodec (fun
    | .started => "started"
    | .completed => "completed"
    | .failed => "failed") [.started, .completed, .failed] (by intro a; cases a <;> decide)

def ExecutionObstruction.fields : Fields ExecutionObstruction :=
  ((Fields.required "obstruction_type" Codec.string).append <|
    (Fields.required "summary" Codec.string).append <|
    (Fields.required "witness_ids" Id.codec.list).append <|
    Fields.required "blocking" Codec.bool).iso
  (fun (obstructionType, summary, witnessIds, blocking) =>
    ⟨obstructionType, summary, witnessIds, blocking⟩)
  (fun o => (o.obstructionType, o.summary, o.witnessIds, o.blocking)) fun _ => rfl

def ExecutionObstruction.codec : Codec ExecutionObstruction :=
  ExecutionObstruction.fields.record (by decide)

structure ExecutionInformationLoss where
  description : String
  representedIds : List Id
  omittedIds : List Id
deriving DecidableEq

def ExecutionInformationLoss.fields : Fields ExecutionInformationLoss :=
  ((Fields.required "description" Codec.string).append <|
    (Fields.required "represented_ids" Id.codec.list).append <|
    Fields.required "omitted_ids" Id.codec.list).iso
  (fun (description, representedIds, omittedIds) => ⟨description, representedIds, omittedIds⟩)
  (fun l => (l.description, l.representedIds, l.omittedIds)) fun _ => rfl

def ExecutionInformationLoss.codec : Codec ExecutionInformationLoss :=
  ExecutionInformationLoss.fields.record (by decide)

structure ExecutionTraceFile extends ExecutionTrace where
  schema : String
  schemaVersion : Nat
  caseSpaceId : Id
  baseRevisionId : Id
  resultRevisionId : Option Id
  bindingId : Id
  bindingContentHash : String
  operationGate : NativeOperationGate
  workerReportId : Id
  workerReportContentHash : String
  stdoutContentHash : String
  stderrContentHash : String
  unsatisfiedSuccessEvidenceRequirementIds : List Id
  informationLoss : List ExecutionInformationLoss
  metadata : Json.Map
deriving DecidableEq

def ExecutionTraceFile.fields : Fields ExecutionTraceFile :=
  ((Fields.required "schema" Codec.string).append <|
    (Fields.required "schema_version" Codec.nat).append <|
    (Fields.required "trace_id" Id.codec).append <|
    (Fields.required "plan_id" Id.codec).append <|
    (Fields.required "step_id" Id.codec).append <|
    (Fields.required "case_space_id" Id.codec).append <|
    (Fields.required "base_revision_id" Id.codec).append <|
    (nullableId "result_revision_id").append <|
    (Fields.required "work_cell_id" Id.codec).append <|
    (Fields.required "binding_id" Id.codec).append <|
    (Fields.required "binding_content_hash" Codec.string).append <|
    (Fields.required "operation_gate" NativeOperationGate.codec).append <|
    (Fields.required "worker_report_id" Id.codec).append <|
    (Fields.required "worker_report_content_hash" Codec.string).append <|
    (Fields.required "stdout_content_hash" Codec.string).append <|
    (Fields.required "stderr_content_hash" Codec.string).append <|
    (Fields.required "appended_entry_ids" Id.codec.list).append <|
    (Fields.required "dispatch_state" ExecutionDispatchState.codec).append <|
    (Fields.required "transition_applied" Codec.bool).append <|
    (Fields.required "unsatisfied_success_evidence_requirement_ids" Id.codec.list).append <|
    (Fields.required "obstructions" ExecutionObstruction.codec.list).append <|
    (Fields.required "information_loss" ExecutionInformationLoss.codec.list).append <|
    (Fields.required "started_at" Codec.string).append <|
    (Fields.required "finished_at" Codec.string).append <|
    Fields.required "metadata" Codec.map).iso
  (fun (schema, schemaVersion, traceId, planId, stepId, caseSpaceId, baseRevisionId,
      resultRevisionId, workCellId, bindingId, bindingContentHash, operationGate, workerReportId,
      workerReportContentHash, stdoutContentHash, stderrContentHash, appendedEntryIds,
      dispatchState, transitionApplied, unsatisfiedSuccessEvidenceRequirementIds, obstructions,
      informationLoss, startedAt, finishedAt, metadata) =>
    ⟨⟨traceId, planId, stepId, workCellId, appendedEntryIds, dispatchState, transitionApplied,
        obstructions, startedAt, finishedAt⟩,
      schema, schemaVersion, caseSpaceId, baseRevisionId, resultRevisionId, bindingId,
      bindingContentHash, operationGate, workerReportId, workerReportContentHash,
      stdoutContentHash, stderrContentHash, unsatisfiedSuccessEvidenceRequirementIds,
      informationLoss, metadata⟩)
  (fun t => (t.schema, t.schemaVersion, t.traceId, t.planId, t.stepId, t.caseSpaceId,
    t.baseRevisionId, t.resultRevisionId, t.workCellId, t.bindingId, t.bindingContentHash,
    t.operationGate, t.workerReportId, t.workerReportContentHash, t.stdoutContentHash,
    t.stderrContentHash, t.appendedEntryIds, t.dispatchState, t.transitionApplied,
    t.unsatisfiedSuccessEvidenceRequirementIds, t.obstructions, t.informationLoss, t.startedAt,
    t.finishedAt, t.metadata)) fun _ => rfl

def ExecutionTraceFile.codec : Codec ExecutionTraceFile :=
  ExecutionTraceFile.fields.record (by decide)

/-- Reads a document from the bytes of a file. -/
def fromSlice {α : Type} (json : JsonText) (codec : Codec α) (bytes : Bytes) : Except String α :=
  match decode bytes with
  | none => .error "invalid unicode code point"
  | some text => json.fromStr codec text

theorem fromSlice_encode {α : Type} {json : JsonText} {codec : Codec α} {a : α}
    (h : (codec.ser a).depth < recursionLimit) :
    fromSlice json codec (encode (json.toString (codec.ser a))) = .ok a := by
  unfold fromSlice
  rw [decode_encode]
  exact json.fromStr_toString codec a h

end CaseGraphen
