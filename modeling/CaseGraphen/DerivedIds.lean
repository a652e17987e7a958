import Mathlib.Data.List.Infix
import CaseGraphen.EvalBlockers

/-!
# When derived ids collide

A derived id keeps of each part what sanitizing leaves of it. Two ids with the same
number of parts are the same exactly when their sanitized parts are. The id of a
candidate sanitizes an id that is derived already: there the separators are gone too,
and the parts of the obstruction can no longer be told apart.
-/

namespace CaseGraphen

open Checked

/-! ## Sanitized text -/

def sanitizeChar (c : Char) : Char :=
  if c.isAlphanum then c else '-'

theorem toList_sanitize (value : String) :
    (sanitize value).toList = value.toList.map sanitizeChar := by
  unfold sanitize
  rw [String.toList_ofList]
  rfl

theorem sanitizeChar_ne_colon (c : Char) : sanitizeChar c ≠ ':' := by
  unfold sanitizeChar
  split
  · intro h
    subst h
    contradiction
  · decide

theorem sanitizeChar_idem (c : Char) : sanitizeChar (sanitizeChar c) = sanitizeChar c := by
  unfold sanitizeChar
  by_cases h : c.isAlphanum = true
  · rw [if_pos h, if_pos h]
  · rw [if_neg h]
    rfl

theorem colon_notMem_sanitize (value : String) : ':' ∉ (sanitize value).toList := by
  rw [toList_sanitize, List.mem_map]
  intro h
  obtain ⟨c, -, hc⟩ := h
  exact sanitizeChar_ne_colon c hc

theorem sanitize_idem (value : String) : sanitize (sanitize value) = sanitize value := by
  refine String.toList_inj.mp ?_
  rw [toList_sanitize, toList_sanitize, List.map_map]
  exact List.map_congr_left fun c _ => sanitizeChar_idem c

theorem sanitize_append (left right : String) :
    sanitize (left ++ right) = sanitize left ++ sanitize right := by
  refine String.toList_inj.mp ?_
  simp [toList_sanitize]

/-! ## Derived ids -/

variable {parts : List String}

theorem splitOn_joinParts (hne : parts ≠ []) :
    (joinParts parts).toList.splitOn ':' = parts.map fun part => (sanitize part).toList := by
  unfold joinParts
  rw [String.toList_intercalate, List.map_map]
  refine List.splitOn_intercalate ':' ?_ ?_
  · intro text htext
    obtain ⟨part, -, rfl⟩ := List.mem_map.mp htext
    exact colon_notMem_sanitize part
  · intro hnil
    exact hne (List.map_eq_nil_iff.mp hnil)

theorem joinParts_inj {parts' : List String} (hne : parts ≠ []) (hne' : parts' ≠ []) :
    joinParts parts = joinParts parts' ↔ parts.map sanitize = parts'.map sanitize := by
  constructor
  · intro h
    have hsplit := congrArg (fun text : String => text.toList.splitOn ':') h
    simp only [splitOn_joinParts hne, splitOn_joinParts hne'] at hsplit
    refine List.map_injective_iff.mpr (fun _ _ => String.toList_inj.mp) ?_
    rw [List.map_map, List.map_map]
    exact hsplit
  · intro h
    unfold joinParts
    rw [h]

theorem generatedId_inj {tag : String} {parts' : List String} (hne : parts ≠ [])
    (hne' : parts' ≠ []) :
    generatedId tag parts = generatedId tag parts' ↔
      parts.map sanitize = parts'.map sanitize := by
  rw [← joinParts_inj hne hne']
  exact Id.tagged_injective.eq_iff

/-! ## Obstructions -/

def NativeObstructionType.all : List NativeObstructionType :=
  [.unresolvedDependency, .externalWait, .missingEvidence, .missingProof, .contradiction,
    .reviewRequired]

theorem NativeObstructionType.mem_all (t : NativeObstructionType) : t ∈ all := by
  cases t <;> decide

theorem sanitize_stem (t : NativeObstructionType) :
    sanitize (obstructionTypeStem t) = obstructionTypeStem t := by
  cases t <;> decide

/-- What a sanitized obstruction id starts with. -/
def stemText (t : NativeObstructionType) : List Char :=
  ("obstruction-" ++ obstructionTypeStem t ++ "-").toList

theorem stemText_prefixFree {t t' : NativeObstructionType} {xs ys : List Char}
    (h : stemText t ++ xs = stemText t' ++ ys) : t = t' ∧ xs = ys := by
  have hall : ∀ t ∈ NativeObstructionType.all, ∀ t' ∈ NativeObstructionType.all,
      (stemText t).isPrefixOf (stemText t') = true → t = t' := by
    decide
  have hprefix : stemText t <+: stemText t' ∨ stemText t' <+: stemText t :=
    List.prefix_or_prefix_of_prefix (h ▸ List.prefix_append _ _) (List.prefix_append _ _)
  have htype : t = t' := by
    rcases hprefix with hlt | hgt
    · exact hall t t.mem_all t' t'.mem_all (List.isPrefixOf_iff_prefix.mpr hlt)
    · exact (hall t' t'.mem_all t t.mem_all (List.isPrefixOf_iff_prefix.mpr hgt)).symm
  subst htype
  exact ⟨rfl, List.append_cancel_left h⟩

/-- The two ends of a blocker as one text. -/
def pairText (cellId witnessId : Id) : String :=
  cellId.asStr ++ ":" ++ witnessId.asStr

theorem toList_sanitize_obstructionId (t : NativeObstructionType) (c w : Id) :
    (sanitize (obstructionId t c w).asStr).toList =
      stemText t ++ (sanitize (pairText c w)).toList := by
  unfold obstructionId generatedId Id.tagged joinParts stemText pairText
  simp only [sanitize_append, List.map_cons, List.map_nil, String.intercalate_cons_cons,
    String.intercalate_singleton, sanitize_idem, sanitize_stem, String.toList_append]
  have hsep : (sanitize ":").toList = ['-'] := by decide
  have htag : (sanitize "obstruction").toList = "obstruction".toList := by decide
  rfl

section Collisions

variable {t t' : NativeObstructionType} {c c' w w' : Id}

theorem sanitize_obstructionId_inj :
    sanitize (obstructionId t c w).asStr = sanitize (obstructionId t' c' w').asStr ↔
      t = t' ∧ sanitize (pairText c w) = sanitize (pairText c' w') := by
  rw [← String.toList_inj, toList_sanitize_obstructionId, toList_sanitize_obstructionId]
  constructor
  · intro h
    obtain ⟨htype, hpair⟩ := stemText_prefixFree h
    exact ⟨htype, String.toList_inj.mp hpair⟩
  · intro h
    rw [h.1, h.2]

theorem obstructionId_inj :
    obstructionId t c w = obstructionId t' c' w' ↔
      t = t' ∧ sanitize c.asStr = sanitize c'.asStr ∧ sanitize w.asStr = sanitize w'.asStr := by
  unfold obstructionId
  rw [generatedId_inj (List.cons_ne_nil _ _) (List.cons_ne_nil _ _)]
  simp only [List.map_cons, List.map_nil, List.cons.injEq, sanitize_stem, and_true]
  have hstem : obstructionTypeStem t = obstructionTypeStem t' ↔ t = t' := by
    constructor
    · intro h
      have htext : stemText t ++ [] = stemText t' ++ [] := by
        unfold stemText
        rw [h]
      exact (stemText_prefixFree htext).1
    · intro h
      rw [h]
  rw [hstem]

theorem candidateId_blockerObstruction_inj :
    candidateId (blockerObstruction t c w) = candidateId (blockerObstruction t' c' w') ↔
      t = t' ∧ sanitize (pairText c w) = sanitize (pairText c' w') := by
  unfold candidateId
  rw [generatedId_inj (List.cons_ne_nil _ _) (List.cons_ne_nil _ _)]
  simp only [List.map_cons, List.map_nil, List.cons.injEq, and_true, type_blockerObstruction,
    id_blockerObstruction, sanitize_obstructionId_inj]
  constructor
  · exact fun h => h.2
  · intro h
    refine ⟨?_, h⟩
    rw [h.1]

theorem candidateId_eq_of_obstructionId_eq (h : obstructionId t c w = obstructionId t' c' w') :
    candidateId (blockerObstruction t c w) = candidateId (blockerObstruction t' c' w') := by
  rw [candidateId_blockerObstruction_inj, ← sanitize_obstructionId_inj, h]

theorem obstructionId_ne_candidateId (obstruction : NativeObstruction) :
    obstructionId t c w ≠ candidateId obstruction := by
  unfold obstructionId candidateId generatedId
  exact Id.tagged_ne_tagged 1 (by decide) (by decide) (by decide) _ _

end Collisions

end CaseGraphen
