import CaseGraphen.Lib.JsonSyntax
import CaseGraphen.Lib.Sha256
import CaseGraphen.NativeModel

/-!
# Hashes

The hash of a log entry and the checksum of a case space. The checksum is taken
over the value of the space with `revision.checksum` and every
`replay_checksum` emptied, so that an entry can carry the checksum of the very
space it is part of.

The JSON library and SHA-256 are parameters: `Environment` bundles them. Results
that need the hash to tell texts apart assume `CollisionFree`.
-/

namespace CaseGraphen

open Json Text

/-- The libraries the store is built on. -/
structure Environment where
  json : JsonText
  sha256Hex : Bytes → String

/-- SHA-256 without collisions and JSON text without ambiguity. -/
structure Environment.CollisionFree (env : Environment) : Prop where
  sha256Hex_injective : Function.Injective env.sha256Hex
  toString_injective : Function.Injective env.json.toString

/-- The libraries themselves. -/
def Environment.standard : Environment where
  json := Json.syntaxText
  sha256Hex := Sha256.hex

/-- Bytes spelled out behind a letter that is no hexadecimal digit. -/
def spelledOut (bytes : Bytes) : String :=
  String.ofList ('x' :: bytes.map fun byte => Char.ofNat byte.toNat)

/-- The libraries with the hash idealised: the digest of one input, and of every
other one the input itself. -/
def Environment.idealized (hashed : Bytes) : Environment where
  json := Json.syntaxText
  sha256Hex bytes := if bytes = hashed then Sha256.hex bytes else spelledOut bytes

theorem spelledOut_injective : Function.Injective spelledOut := by
  intro a b h
  have hchars := List.cons.inj (String.ofList_injective h)
  refine List.map_injective_iff.mpr (fun x y hxy => ?_) hchars.2
  have hvalid : ∀ byte : UInt8, (Char.ofNat byte.toNat).toNat = byte.toNat := by
    intro byte
    have hbyte : byte.toNat.isValidChar := .inl (by have := byte.toNat_lt; omega)
    rw [Char.ofNat, dif_pos hbyte]
    rfl
  exact UInt8.toNat_inj.mp (by rw [← hvalid x, ← hvalid y, hxy])

theorem spelledOut_ne_hex (bytes message : Bytes) : spelledOut bytes ≠ Sha256.hex message := by
  intro h
  have hmem : 'x' ∈ (Sha256.hex message).toList := by
    rw [← h, spelledOut, String.toList_ofList]
    exact List.mem_cons_self
  exact absurd (Sha256.mem_hexDigits_of_mem_hex hmem) (by decide)

theorem Environment.idealized_collisionFree (hashed : Bytes) :
    (Environment.idealized hashed).CollisionFree := by
  refine ⟨fun a b h => ?_, Json.compactText_injective⟩
  simp only [idealized] at h
  split_ifs at h with ha hb hb
  · rw [ha, hb]
  · exact absurd h.symm (spelledOut_ne_hex b a)
  · exact absurd h (spelledOut_ne_hex a b)
  · exact spelledOut_injective h

/-- The digest of a document, of its compact text. -/
def digest (env : Environment) (document : Json) : String :=
  env.sha256Hex (encode (env.json.toString document))

variable {env : Environment}

theorem digest_injective (h : env.CollisionFree) :
    Function.Injective (digest env) := fun _ _ heq =>
  h.toString_injective (encode_injective (h.sha256Hex_injective heq))

/-! ## The two hashes -/

/-- Overwrite a field of an object found under `key`, when it is one. -/
def blankObjectField (key field : String) (fields : List (String × Json)) :
    List (String × Json) :=
  match getField key fields with
  | some (.object inner) =>
      placeField key (.object (placeField field (.string "") inner)) fields
  | _ => fields

/-- Empty the `replay_checksum` of a log entry value. -/
def blankEntry : Json → Json
  | .object entry => .object (placeField "replay_checksum" (.string "") entry)
  | entry => entry

/-- Empty the `replay_checksum` of every entry of the log under `morphism_log`. -/
def blankLog (fields : List (String × Json)) : List (String × Json) :=
  match getField "morphism_log" fields with
  | some (.array log) => placeField "morphism_log" (.array (log.map blankEntry)) fields
  | _ => fields

def blankChecksums : Json → Json
  | .object fields => .object (blankLog (blankObjectField "revision" "checksum" fields))
  | value => value

def caseSpaceChecksum (env : Environment) (caseSpace : CaseSpace) : String :=
  "sha256:" ++ env.sha256Hex
    (encode (env.json.toString (blankChecksums (CaseSpace.codec.toValue caseSpace))))

def morphismLogEntryHash (env : Environment) (entry : MorphismLogEntry) : String :=
  env.sha256Hex (encode (env.json.toString (MorphismLogEntry.codec.ser entry)))

/-! ## What the hashes determine -/

def MorphismLogEntry.blanked (entry : MorphismLogEntry) : MorphismLogEntry :=
  { entry with replayChecksum := "" }

def Revision.blanked (revision : Revision) : Revision :=
  { revision with checksum := "" }

/-- The space whose value the checksum is taken of. -/
def CaseSpace.blanked (caseSpace : CaseSpace) : CaseSpace :=
  { caseSpace with
    revision := caseSpace.revision.blanked
    morphismLog := caseSpace.morphismLog.map MorphismLogEntry.blanked }

theorem Revision.toValue_blanked (revision : Revision) :
    Revision.codec.toValue revision.blanked =
      .object (placeField "checksum" (.string "")
        (sortFields (normalizeFields (Revision.fields.ser revision)))) := by
  have h : Revision.fields.Differs revision revision.blanked "checksum" (.string "") := by
    refine .iso (.right (by decide) (.right (by decide) (.right (by decide) (.right (by decide)
      (.left .here)))))
  exact h.toValue (by decide)

theorem MorphismLogEntry.toValue_blanked (entry : MorphismLogEntry) :
    MorphismLogEntry.codec.toValue entry.blanked =
      blankEntry (MorphismLogEntry.codec.toValue entry) := by
  have h : MorphismLogEntry.fields.Differs entry entry.blanked "replay_checksum"
      (.string "") := by
    refine .iso ?_
    iterate 14 refine .right (by decide) ?_
    exact .here
  exact h.toValue (by decide)

theorem CaseSpace.differs_revision (caseSpace : CaseSpace) (revision : Revision) :
    CaseSpace.fields.Differs caseSpace { caseSpace with revision := revision } "revision"
      (Revision.codec.ser revision) := by
  refine .iso ?_
  iterate 8 refine .right (by decide) ?_
  exact .left .here

theorem CaseSpace.differs_morphismLog (caseSpace : CaseSpace) (log : List MorphismLogEntry) :
    CaseSpace.fields.Differs caseSpace { caseSpace with morphismLog := log } "morphism_log"
      (MorphismLogEntry.codec.list.ser log) := by
  refine .iso ?_
  iterate 6 refine .right (by decide) ?_
  exact .left .here

theorem CaseSpace.getField_revision (caseSpace : CaseSpace) :
    getField "revision" (sortFields (normalizeFields (CaseSpace.fields.ser caseSpace))) =
      some (Revision.codec.toValue caseSpace.revision) := by
  rw [CaseSpace.fields.getField_toValue (by decide),
    caseSpace.differs_revision caseSpace.revision "revision"]
  rfl

theorem CaseSpace.getField_morphismLog (caseSpace : CaseSpace) :
    getField "morphism_log" (sortFields (normalizeFields (CaseSpace.fields.ser caseSpace))) =
      some (MorphismLogEntry.codec.list.toValue caseSpace.morphismLog) := by
  rw [CaseSpace.fields.getField_toValue (by decide),
    caseSpace.differs_morphismLog caseSpace.morphismLog "morphism_log"]
  rfl

theorem map_blankEntry_normalizeItems (log : List MorphismLogEntry) :
    (normalizeItems (log.map MorphismLogEntry.codec.ser)).map blankEntry =
      normalizeItems ((log.map MorphismLogEntry.blanked).map MorphismLogEntry.codec.ser) := by
  induction log with
  | nil => rfl
  | cons entry log ih =>
      simp only [List.map_cons, normalizeItems, ih]
      congr 1
      exact entry.toValue_blanked.symm

theorem blankChecksums_toValue (caseSpace : CaseSpace) :
    blankChecksums (CaseSpace.codec.toValue caseSpace) =
      CaseSpace.codec.toValue caseSpace.blanked := by
  have hrev : Json.object (blankObjectField "revision" "checksum"
      (sortFields (normalizeFields (CaseSpace.fields.ser caseSpace)))) =
      CaseSpace.codec.toValue { caseSpace with revision := caseSpace.revision.blanked } := by
    have hvalue : Revision.codec.toValue caseSpace.revision = .object (sortFields
      (normalizeFields (Revision.fields.ser caseSpace.revision))) := rfl
    rw [blankObjectField, caseSpace.getField_revision, hvalue]
    simp only [← Revision.toValue_blanked]
    exact ((caseSpace.differs_revision caseSpace.revision.blanked).toValue (by decide)).symm
  have hlog : ∀ cs : CaseSpace, Json.object (blankLog
      (sortFields (normalizeFields (CaseSpace.fields.ser cs)))) =
      CaseSpace.codec.toValue
        { cs with morphismLog := cs.morphismLog.map MorphismLogEntry.blanked } := by
    intro cs
    have hvalue : MorphismLogEntry.codec.list.toValue cs.morphismLog = .array
      (normalizeItems (cs.morphismLog.map MorphismLogEntry.codec.ser)) := rfl
    rw [blankLog, cs.getField_morphismLog, hvalue]
    simp only [map_blankEntry_normalizeItems]
    exact ((cs.differs_morphismLog _).toValue (by decide)).symm
  have hfields := Json.object.inj hrev
  change Json.object (blankLog (blankObjectField "revision" "checksum"
    (sortFields (normalizeFields (CaseSpace.fields.ser caseSpace))))) = _
  rw [hfields, hlog]
  rfl

theorem morphismLogEntryHash_injective (h : env.CollisionFree) :
    Function.Injective (morphismLogEntryHash env) := by
  intro a b hab
  have htext := encode_injective (h.sha256Hex_injective hab)
  exact MorphismLogEntry.codec.ser_injective (h.toString_injective htext)

theorem caseSpaceChecksum_eq (env : Environment) (caseSpace : CaseSpace) :
    caseSpaceChecksum env caseSpace = "sha256:" ++ env.sha256Hex
      (encode (env.json.toString (CaseSpace.codec.toValue caseSpace.blanked))) := by
  rw [caseSpaceChecksum, blankChecksums_toValue]

theorem caseSpaceChecksum_congr (env : Environment) {a b : CaseSpace}
    (h : a.blanked = b.blanked) : caseSpaceChecksum env a = caseSpaceChecksum env b := by
  rw [caseSpaceChecksum_eq, caseSpaceChecksum_eq, h]

theorem blanked_eq_of_caseSpaceChecksum_eq (h : env.CollisionFree) {a b : CaseSpace}
    (hab : caseSpaceChecksum env a = caseSpaceChecksum env b) : a.blanked = b.blanked := by
  rw [caseSpaceChecksum_eq, caseSpaceChecksum_eq, String.append_right_inj] at hab
  have htext := encode_injective (h.sha256Hex_injective hab)
  exact CaseSpace.codec.toValue_injective (h.toString_injective htext)

end CaseGraphen
