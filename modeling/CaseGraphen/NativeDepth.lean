import CaseGraphen.Lib.JsonText
import CaseGraphen.NativeModel

/-!
# How deep the native documents nest

A JSON reader gives up on documents nested too deep, so whether a line or a snapshot
reads back is a matter of depth. Everything but free metadata has a fixed depth; the
metadata of a morphism decides how deep its entry and the spaces that log it are.
-/

namespace CaseGraphen

@[simp] theorem Id.depth_codec (id : Id) : Id.codec.depth id = 0 := rfl

@[simp] theorem depth_optionalString (k : String) (s : Option String) :
    (optionalString k).depth s = 0 :=
  Fields.depth_optional (fun _ => rfl) s

@[simp] theorem depth_optionalId (k : String) (id : Option Id) : (optionalId k).depth id = 0 :=
  Fields.depth_optional (fun _ => rfl) id

@[simp] theorem SourceRef.depth_codec (source : SourceRef) : SourceRef.codec.depth source = 1 := by
  simp [SourceRef.codec, SourceRef.fields, SourceKind.codec]

@[simp] theorem Provenance.depth_codec (p : Provenance) : Provenance.codec.depth p = 2 := by
  have hconfidence : Confidence.codec.depth p.confidence = 0 := rfl
  simp [Provenance.codec, Provenance.fields, ReviewStatus.codec, enumCodec, hconfidence]

theorem CaseMorphism.depth_codec (morphism : CaseMorphism) :
    CaseMorphism.codec.depth morphism = max 1 morphism.metadata.toJson.depth + 1 := by
  simp [CaseMorphism.codec, CaseMorphism.fields, CaseMorphismType.codec, ReviewStatus.codec,
    enumCodec, Codec.depth_map, Codec.depth_list_of_scalars Id.depth_codec]

theorem MorphismLogEntry.depth_codec (entry : MorphismLogEntry) :
    MorphismLogEntry.codec.depth entry = max 2 (CaseMorphism.codec.depth entry.morphism) + 1 := by
  simp only [MorphismLogEntry.codec, MorphismLogEntry.fields, Codec.depth_record,
    Fields.depth_iso, Fields.depth_append, Fields.depth_required, Codec.depth_string,
    Codec.depth_nat, Id.depth_codec, depth_optionalId, depth_optionalString,
    Provenance.depth_codec, Codec.depth_list_of_scalars Id.depth_codec]
  omega

theorem Revision.depth_codec (revision : Revision) :
    Revision.codec.depth revision = max 1 revision.metadata.toJson.depth + 1 := by
  simp [Revision.codec, Revision.fields, Codec.depth_map,
    Codec.depth_list_of_scalars Id.depth_codec]

theorem CaseSpace.depth_codec_le {caseSpace : CaseSpace} {d : Nat} :
    CaseSpace.codec.depth caseSpace ≤ d + 2 ↔
      (∀ cell ∈ caseSpace.caseCells, CaseCell.codec.depth cell ≤ d) ∧
      (∀ relation ∈ caseSpace.caseRelations, CaseRelation.codec.depth relation ≤ d) ∧
      (∀ entry ∈ caseSpace.morphismLog, MorphismLogEntry.codec.depth entry ≤ d) ∧
      (∀ projection ∈ caseSpace.projections, Projection.codec.depth projection ≤ d) ∧
      Revision.codec.depth caseSpace.revision ≤ d + 1 ∧
      caseSpace.metadata.toJson.depth ≤ d + 1 := by
  simp only [CaseSpace.codec, CaseSpace.fields, Codec.depth_record, Fields.depth_iso,
    Fields.depth_append, Fields.depth_required, Codec.depth_string, Codec.depth_nat,
    Id.depth_codec, depth_optionalId, Nat.zero_max, Codec.depth_map,
    ← Codec.depth_list_le]
  omega

end CaseGraphen
