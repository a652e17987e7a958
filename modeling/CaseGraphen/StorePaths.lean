import CaseGraphen.NativeHash
import CaseGraphen.NativeValidation

/-!
# The store: errors, paths and files

Where a native case store keeps things, and what it can refuse with. A case
space lives in one directory: the morphism log, its head and a snapshot for
some revisions. Revision ids become file names through `pathSegment`, which
keeps distinct ids apart, so a snapshot is found under its own revision and no
other.
-/

namespace CaseGraphen

open Checked Text

/-! ## Errors -/

inductive NativeStoreError where
  | io (path source : String)
  | json (path source : String)
  | unsupportedSchema (path actual expected : String)
  | unsupportedVersion (path : String) (actual expected : Nat)
  | missingCase (caseSpaceId : Id) (path : String)
  | existingCase (path : String)
  | lockUnavailable (path reason : String)
  | replayMismatch (path reason : String)
  | invalidMorphism (path reason : String)
  | notEvaluable (path : String) (violations : List NativeEvalViolation)
  | staleSourceRevision (path : String) (sourceRevisionId : Option Id) (currentRevisionId : Id)
deriving DecidableEq

abbrev StoreResult := Except NativeStoreError

namespace NativeStoreError

def display : NativeStoreError → String
  | io path source => s!"{path}: {source}"
  | json path source => s!"{path}: {source}"
  | unsupportedSchema path actual expected =>
      s!"{path}: unsupported schema {quoted actual}; expected {quoted expected}"
  | unsupportedVersion path actual expected =>
      s!"{path}: unsupported schema version {actual}; expected {expected}"
  | missingCase caseSpaceId path => s!"{path}: missing native case space {caseSpaceId}"
  | existingCase path => s!"{path}: native case space already exists"
  | lockUnavailable path reason => s!"{path}: {reason}"
  | replayMismatch path reason => s!"{path}: {reason}"
  | invalidMorphism path reason => s!"{path}: {reason}"
  | notEvaluable path violations =>
      let plural := if violations.length = 1 then "" else "s"
      s!"{path}: case space is not evaluable ({violations.length} violation{plural}): " ++
        "; ".intercalate (violations.map fun violation =>
          s!"{violation.field}: {violation.message}")
  | staleSourceRevision path sourceRevisionId currentRevisionId =>
      s!"{path}: entry source_revision_id {Id.debugOption sourceRevisionId} does not match " ++
        s!"current revision {currentRevisionId}"

instance : ToString NativeStoreError := ⟨display⟩

end NativeStoreError

/-! ## Paths -/

def nativeDirectory : String := "native_case_spaces"

structure NativeCaseStore where
  root : String
deriving DecidableEq

def joinPath (directory name : String) : String := directory ++ "/" ++ name

def hexDigit (n : Nat) : Char :=
  if n < 10 then Char.ofNat (48 + n) else Char.ofNat (87 + n)

/-- Letters, digits, `-` and `_` stand for themselves in a file name. -/
def isSegmentByte (byte : UInt8) : Bool :=
  let n := byte.toNat
  (97 ≤ n && n ≤ 122) || (65 ≤ n && n ≤ 90) || (48 ≤ n && n ≤ 57) || n == 45 || n == 95

/-- One byte of a file name: itself, or `~` and two hexadecimal digits. -/
def segmentOfByte (byte : UInt8) : List Char :=
  if isSegmentByte byte then [Char.ofNat byte.toNat]
  else ['~', hexDigit (byte.toNat / 16), hexDigit (byte.toNat % 16)]

def pathSegment (id : Id) : String :=
  String.ofList ((encode id.asStr).flatMap segmentOfByte)

namespace NativeCaseStore

def nativeRoot (store : NativeCaseStore) : String :=
  joinPath store.root nativeDirectory

def caseDir (store : NativeCaseStore) (caseSpaceId : Id) : String :=
  joinPath store.nativeRoot (pathSegment caseSpaceId)

def logPath (store : NativeCaseStore) (caseSpaceId : Id) : String :=
  joinPath (store.caseDir caseSpaceId) "morphism_log.jsonl"

def headPath (store : NativeCaseStore) (caseSpaceId : Id) : String :=
  joinPath (store.caseDir caseSpaceId) "morphism_log.head.json"

end NativeCaseStore

def snapshotFileName (revisionId : Id) : String :=
  pathSegment revisionId ++ ".case.space.json"

def relativeSnapshotPath (caseSpaceId revisionId : Id) : String :=
  "/".intercalate [nativeDirectory, pathSegment caseSpaceId, "snapshots",
    snapshotFileName revisionId]

/-- Every component of a path is a plain name: it does not start at the root or
with `.`, and never goes up. -/
def hasOnlyNormalComponents (value : String) : Bool :=
  let components := value.toList.splitOn '/'
  components.head? != some [] && components.head? != some ['.'] &&
    components.all (· != ['.', '.'])

def requireRelativeStorePath (path value : String) : StoreResult Unit := do
  ensure (isBlank value = false) (.replayMismatch path "snapshot path is empty")
  ensure (hasOnlyNormalComponents value = true)
    (.replayMismatch path s!"snapshot path {quoted value} must stay inside the native store")

def NativeCaseStore.resolveSnapshotPath (store : NativeCaseStore)
    (relativePath logPath : String) : StoreResult String := do
  requireRelativeStorePath logPath relativePath
  pure (joinPath store.root relativePath)

/-! ## Files -/

/-- What the directory of a case space holds; snapshots by relative path. -/
structure CaseDirectory where
  log : Option Bytes
  head : Option Bytes
  snapshots : String → Option Bytes

namespace CaseDirectory

def empty : CaseDirectory := ⟨none, none, fun _ => none⟩

def setSnapshot (directory : CaseDirectory) (relativePath : String) (file : Option Bytes) :
    CaseDirectory :=
  { directory with snapshots := Function.update directory.snapshots relativePath file }

end CaseDirectory

def fileNotFoundText : String := "No such file or directory (os error 2)"

def invalidUtf8Text : String := "stream did not contain valid UTF-8"

def readToString (path : String) (file : Bytes) : StoreResult String :=
  orError (decode file) (.io path invalidUtf8Text)

/-! ## File names keep ids apart -/

/-- The byte a piece of a file name stands for. -/
def byteOfSegment : List Char → Nat
  | [c] => c.toNat
  | [_, high, low] =>
      let digit (c : Char) : Nat := if c.toNat < 58 then c.toNat - 48 else c.toNat - 87
      16 * digit high + digit low
  | _ => 0

theorem byteOfSegment_segmentOfByte (byte : UInt8) :
    byteOfSegment (segmentOfByte byte) = byte.toNat := by
  have h : ∀ n : Fin 256, byteOfSegment (segmentOfByte (UInt8.ofFin n)) = n := by
    decide +kernel
  exact h byte.toFin

theorem segmentOfByte_injective : Function.Injective segmentOfByte := by
  intro a b hab
  have hnat := congrArg byteOfSegment hab
  rw [byteOfSegment_segmentOfByte, byteOfSegment_segmentOfByte] at hnat
  exact UInt8.toNat_inj.mp hnat

/-- A piece is one character, or three of which the first is `~`; none of them
is a path separator. -/
theorem segmentOfByte_shape (byte : UInt8) :
    (∃ c, segmentOfByte byte = [c] ∧ c ≠ '~') ∨
      ∃ high low, segmentOfByte byte = ['~', high, low] := by
  by_cases h : isSegmentByte byte = true
  · refine .inl ⟨Char.ofNat byte.toNat, if_pos h, ?_⟩
    have hall : ∀ n : Fin 256, isSegmentByte (UInt8.ofFin n) = true →
        Char.ofNat (UInt8.ofFin n).toNat ≠ '~' := by decide +kernel
    exact hall byte.toFin h
  · exact .inr ⟨_, _, if_neg h⟩

theorem separator_not_mem_segmentOfByte (byte : UInt8) : '/' ∉ segmentOfByte byte := by
  have h : ∀ n : Fin 256, '/' ∉ segmentOfByte (UInt8.ofFin n) := by decide +kernel
  exact h byte.toFin

theorem flatMap_segmentOfByte_injective :
    Function.Injective fun bytes : Bytes => bytes.flatMap segmentOfByte := by
  intro xs
  induction xs with
  | nil =>
      intro ys h
      cases ys with
      | nil => rfl
      | cons y ys =>
          rcases segmentOfByte_shape y with ⟨c, hc, -⟩ | ⟨high, low, hc⟩ <;>
            simp [hc] at h
  | cons x xs ih =>
      intro ys h
      cases ys with
      | nil =>
          rcases segmentOfByte_shape x with ⟨c, hc, -⟩ | ⟨high, low, hc⟩ <;>
            simp [hc] at h
      | cons y ys =>
          simp only [List.flatMap_cons] at h
          have hlen : (segmentOfByte x).length = (segmentOfByte y).length := by
            rcases segmentOfByte_shape x with ⟨c, hc, hne⟩ | ⟨high, low, hc⟩ <;>
              rcases segmentOfByte_shape y with ⟨d, hd, hne'⟩ | ⟨high', low', hd⟩
            · simp [hc, hd]
            · rw [hc, hd] at h
              simp only [List.cons_append, List.cons.injEq] at h
              exact absurd h.1 hne
            · rw [hc, hd] at h
              simp only [List.cons_append, List.cons.injEq] at h
              exact absurd h.1.symm hne'
            · simp [hc, hd]
          obtain ⟨hxy, hrest⟩ := List.append_inj h hlen
          rw [segmentOfByte_injective hxy, ih hrest]

theorem pathSegment_injective : Function.Injective pathSegment := by
  intro a b h
  have hchars := congrArg String.toList h
  simp only [pathSegment, String.toList_ofList] at hchars
  exact Id.ext (encode_injective (flatMap_segmentOfByte_injective hchars))

theorem relativeSnapshotPath_injective (caseSpaceId : Id) :
    Function.Injective (relativeSnapshotPath caseSpaceId) := by
  intro a b h
  have hchars := congrArg String.toList h
  simp only [relativeSnapshotPath, snapshotFileName, String.toList_intercalate, List.map_cons,
    List.map_nil, String.toList_append, List.intercalate_cons_cons,
    List.intercalate_singleton] at hchars
  simp only [List.append_assoc, List.append_cancel_left_eq, List.append_cancel_right_eq,
    String.toList_inj] at hchars
  exact pathSegment_injective hchars

theorem length_le_pathSegment (id : Id) :
    (encode id.asStr).length ≤ (pathSegment id).toList.length := by
  have hbyte : ∀ byte, 1 ≤ (segmentOfByte byte).length := by
    intro byte
    unfold segmentOfByte
    split <;> simp
  rw [pathSegment, String.toList_ofList]
  induction encode id.asStr with
  | nil => simp
  | cons byte bytes ih =>
      have := hbyte byte
      rw [List.flatMap_cons, List.length_append, List.length_cons]
      omega

theorem colon_not_mem_pathSegment (id : Id) : ':' ∉ (pathSegment id).toList := by
  have hbyte : ∀ n : Fin 256, ':' ∉ segmentOfByte (UInt8.ofFin n) := by decide +kernel
  simp only [pathSegment, String.toList_ofList, List.mem_flatMap, not_exists, not_and]
  exact fun byte _ => hbyte byte.toFin

/-! ## Snapshot paths stay inside the store -/

theorem separator_not_mem_pathSegment (id : Id) : '/' ∉ (pathSegment id).toList := by
  simp only [pathSegment, String.toList_ofList, List.mem_flatMap, not_exists, not_and]
  exact fun byte _ => separator_not_mem_segmentOfByte byte

theorem toList_relativeSnapshotPath (caseSpaceId revisionId : Id) :
    (relativeSnapshotPath caseSpaceId revisionId).toList =
      ['/'].intercalate [nativeDirectory.toList, (pathSegment caseSpaceId).toList,
        "snapshots".toList, (snapshotFileName revisionId).toList] := by
  rw [relativeSnapshotPath, String.toList_intercalate]
  rfl

theorem splitOn_relativeSnapshotPath (caseSpaceId revisionId : Id) :
    (relativeSnapshotPath caseSpaceId revisionId).toList.splitOn '/' =
      [nativeDirectory.toList, (pathSegment caseSpaceId).toList,
        "snapshots".toList, (snapshotFileName revisionId).toList] := by
  rw [toList_relativeSnapshotPath]
  refine List.splitOn_intercalate '/' (fun l hl => ?_) (by simp)
  simp only [List.mem_cons, List.not_mem_nil, or_false] at hl
  rcases hl with rfl | rfl | rfl | rfl
  · decide
  · exact separator_not_mem_pathSegment caseSpaceId
  · decide
  · rw [snapshotFileName, String.toList_append, List.mem_append, not_or]
    exact ⟨separator_not_mem_pathSegment revisionId, by decide⟩

theorem dot_not_mem_pathSegment (id : Id) : '.' ∉ (pathSegment id).toList := by
  have h : ∀ n : Fin 256, '.' ∉ segmentOfByte (UInt8.ofFin n) := by decide +kernel
  simp only [pathSegment, String.toList_ofList, List.mem_flatMap, not_exists, not_and]
  exact fun byte _ => h byte.toFin

theorem resolveSnapshotPath_relative (store : NativeCaseStore) (caseSpaceId revisionId : Id)
    (logPath : String) :
    store.resolveSnapshotPath (relativeSnapshotPath caseSpaceId revisionId) logPath =
      .ok (joinPath store.root (relativeSnapshotPath caseSpaceId revisionId)) := by
  have hblank : isBlank (relativeSnapshotPath caseSpaceId revisionId) = false := by
    rw [isBlank, toList_relativeSnapshotPath, List.intercalate_cons_cons]
    rfl
  have hfile : (snapshotFileName revisionId).toList ≠ ['.', '.'] := by
    intro heq
    have hlen := congrArg List.length heq
    rw [snapshotFileName, String.toList_append, List.length_append] at hlen
    have hsuffix : ".case.space.json".toList.length = 16 := by decide
    simp only [hsuffix, List.length_cons, List.length_nil] at hlen
    omega
  have hseg : (pathSegment caseSpaceId).toList ≠ ['.', '.'] := fun heq =>
    dot_not_mem_pathSegment caseSpaceId (heq ▸ List.mem_cons_self)
  have hnormal : hasOnlyNormalComponents (relativeSnapshotPath caseSpaceId revisionId)
      = true := by
    rw [hasOnlyNormalComponents, splitOn_relativeSnapshotPath]
    simp only [List.head?_cons, List.all_cons, List.all_nil, Bool.and_eq_true, bne_iff_ne,
      ne_eq, and_true]
    exact ⟨⟨by decide, by decide⟩, by decide, hseg, by decide, hfile⟩
  simp [NativeCaseStore.resolveSnapshotPath, requireRelativeStorePath, ensure, hblank, hnormal,
    pure, Except.pure]

/-! ## Names that stay apart and in their place -/

def NativeCaseStore.runDirectory (store : NativeCaseStore) (traceId : Id) : String :=
  joinPath (joinPath store.root "runs") (pathSegment traceId)

/-- The components of a path, the empty one before a leading separator among them. -/
def componentsOf (path : String) : List (List Char) :=
  path.toList.splitOn '/'

/-- A name that is one component of a path, and neither the directory itself nor the one above. -/
structure PlainName (name : String) : Prop where
  nonempty : name ≠ ""
  separator : '/' ∉ name.toList
  notSelf : name ≠ "."
  notParent : name ≠ ".."

theorem plainName_pathSegment (id : Id) : PlainName (pathSegment id) where
  nonempty hempty := by
    have hlength := length_le_pathSegment id
    rw [hempty] at hlength
    exact id.nonempty (encode_injective (List.length_eq_zero_iff.mp (Nat.le_zero.mp hlength)))
  separator := separator_not_mem_pathSegment id
  notSelf heq := dot_not_mem_pathSegment id (by rw [heq]; decide)
  notParent heq := dot_not_mem_pathSegment id (by rw [heq]; decide)

theorem componentsOf_joinPath (directory name : String) :
    componentsOf (joinPath directory name) = componentsOf directory ++ componentsOf name := by
  unfold componentsOf joinPath
  rw [String.toList_append, String.toList_append, List.append_assoc]
  exact List.splitOn_append_cons_self _ _

theorem componentsOf_pathSegment (id : Id) :
    componentsOf (pathSegment id) = [(pathSegment id).toList] :=
  List.splitOn_eq_singleton (separator_not_mem_pathSegment id)

theorem joinPath_injective (directory : String) : Function.Injective (joinPath directory) :=
  fun _ _ h => (String.append_right_inj _).mp h

/-- Where the files of a revision and the directories of case spaces and of traces are. -/
theorem store_paths_apart (store : NativeCaseStore) :
    (Function.Injective pathSegment ∧ ∀ id, PlainName (pathSegment id)) ∧
    (Function.Injective store.caseDir ∧ Function.Injective store.logPath ∧
      Function.Injective store.headPath ∧ Function.Injective store.runDirectory ∧
      ∀ a b r s, joinPath store.root (relativeSnapshotPath a r) =
        joinPath store.root (relativeSnapshotPath b s) → a = b ∧ r = s) ∧
    (∀ id, componentsOf (store.caseDir id) =
        componentsOf store.nativeRoot ++ [(pathSegment id).toList]) ∧
    (∀ id, componentsOf (store.runDirectory id) =
        componentsOf (joinPath store.root "runs") ++ [(pathSegment id).toList]) ∧
    ∀ id revisionId, componentsOf (joinPath store.root (relativeSnapshotPath id revisionId)) =
      componentsOf (store.caseDir id) ++
        ["snapshots".toList, (snapshotFileName revisionId).toList] := by
  have hcase : Function.Injective store.caseDir :=
    (joinPath_injective _).comp pathSegment_injective
  have hfile (name : String) : Function.Injective fun id => joinPath (store.caseDir id) name := by
    intro a b h
    exact hcase ((String.append_left_inj _).mp ((String.append_left_inj _).mp h))
  refine ⟨⟨pathSegment_injective, plainName_pathSegment⟩, ⟨hcase, hfile _, hfile _,
    (joinPath_injective _).comp pathSegment_injective, fun a b r s h => ?_⟩, fun id => ?_,
    fun id => ?_, fun id revisionId => ?_⟩
  · have hsplit := congrArg (fun path => path.toList.splitOn '/') (joinPath_injective _ h)
    simp only [splitOn_relativeSnapshotPath, List.cons.injEq, String.toList_inj, snapshotFileName,
      String.append_left_inj] at hsplit
    exact ⟨pathSegment_injective hsplit.2.1, pathSegment_injective hsplit.2.2.2.1⟩
  · rw [NativeCaseStore.caseDir, componentsOf_joinPath, componentsOf_pathSegment]
  · rw [NativeCaseStore.runDirectory, componentsOf_joinPath, componentsOf_pathSegment]
  · rw [NativeCaseStore.caseDir, NativeCaseStore.nativeRoot, componentsOf_joinPath,
      componentsOf_joinPath, componentsOf_joinPath, componentsOf_pathSegment]
    have hroot : componentsOf nativeDirectory = [nativeDirectory.toList] := by decide
    rw [hroot, componentsOf.eq_def (relativeSnapshotPath id revisionId),
      splitOn_relativeSnapshotPath]
    simp

end CaseGraphen
