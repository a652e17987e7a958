import Mathlib.Data.Finset.Basic
import CaseGraphen.Lib.Codec
import CaseGraphen.Lib.Text

/-!
# Core vocabulary

The shared types of the case model: identifiers, review status, provenance and
the enumerations that accept a `custom:` extension. Identifiers and provenance
belong to the core crate; they are taken here as the native schema documents
them (`$defs/id`, `$defs/provenance`, `$defs/source_ref`).
-/

namespace CaseGraphen

open Checked Json Text

/-! ## Identifiers -/

/-- An identifier: any non-empty string. -/
@[ext] structure Id where
  asStr : String
  nonempty : asStr ≠ ""
deriving DecidableEq

namespace Id

/-- The constructor of the core crate, which refuses the empty string. -/
def new (s : String) : Except String Id :=
  if h : s ≠ "" then .ok ⟨s, h⟩ else .error "id must not be empty"

instance : ToString Id := ⟨asStr⟩

/-- The debug format of an optional identifier. -/
def debugOption : Option Id → String
  | some id => s!"Some(Id({quoted id.asStr}))"
  | none => "None"

theorem new_asStr (id : Id) : new id.asStr = .ok id :=
  dif_pos id.nonempty

def codec : Codec Id :=
  Codec.ofString asStr new new_asStr

/-- An id made from a text that starts with a tag. -/
def tagged (tag : String) (h : tag ≠ "") (rest : String) : Id where
  asStr := tag ++ rest
  nonempty := fun heq => h (String.append_eq_empty_iff.mp heq).1

theorem tagged_injective {tag : String} {h : tag ≠ ""} :
    Function.Injective (tagged tag h) := fun _ _ heq =>
  String.append_right_inj tag |>.mp (congrArg Id.asStr heq)

theorem toList_tagged (tag : String) (h : tag ≠ "") (rest : String) :
    (tagged tag h rest).asStr.toList = tag.toList ++ rest.toList :=
  String.toList_append

theorem tagged_ne_tagged {tag tag' : String} {h : tag ≠ ""} {h' : tag' ≠ ""} (n : Nat)
    (hn : n ≤ tag.toList.length) (hn' : n ≤ tag'.toList.length)
    (hne : tag.toList.take n ≠ tag'.toList.take n) (rest rest' : String) :
    tagged tag h rest ≠ tagged tag' h' rest' := by
  intro heq
  have hchars := congrArg (fun id : Id => id.asStr.toList.take n) heq
  simp only [toList_tagged, List.take_append_of_le_length hn,
    List.take_append_of_le_length hn'] at hchars
  exact hne hchars

/-! Identifiers are ordered by their texts. -/

instance : Ord Id := ⟨compareOn asStr⟩

instance : Std.TransOrd Id :=
  inferInstanceAs (Std.TransCmp (compareOn asStr))

instance : Std.LawfulEqOrd Id where
  eq_of_compare h := Id.ext (Std.LawfulEqOrd.eq_of_compare (α := String) h)

end Id

/-! ## Enumerations -/

/-- The codec of an enumeration, from the text of each of its values. -/
def enumCodec {α : Type} (print : α → String) (all : List α)
    (h : ∀ a, all.find? (fun b => print b == print a) = some a) : Codec α :=
  Codec.ofString print
    (fun s => orError (all.find? fun b => print b == s) s!"unknown variant {quoted s}")
    fun a => by simp [h a]

/-- The text after `custom:` in an extended enumeration; never blank. -/
structure Extension where
  text : String
  notBlank : isBlank text = false
deriving DecidableEq

def customPrefix : String := "custom:"

/-- What follows the `custom:` marker, when it is there. -/
def dropCustom (s : String) : Option String :=
  if customPrefix.toList.isPrefixOf s.toList then
    some (String.ofList (s.toList.drop customPrefix.toList.length))
  else none

theorem dropCustom_custom (t : String) : dropCustom (customPrefix ++ t) = some t := by
  have hpre : customPrefix.toList.isPrefixOf (customPrefix ++ t).toList = true := by
    rw [String.toList_append, List.isPrefixOf_iff_prefix]
    exact List.prefix_append _ _
  rw [dropCustom, if_pos hpre, String.toList_append, List.drop_left, String.ofList_toList]

/-- `FromStr` of an extended enumeration: a named value, or a `custom:` text
with something in it. -/
def customEnumFromStr {α : Type} (name : String) (print : α → String) (named : List α)
    (custom : Extension → α) (s : String) : Except String α :=
  match named.find? (fun b => print b == s) with
  | some a => .ok a
  | none =>
      match dropCustom s with
      | some extension =>
          if h : isBlank extension = false then .ok (custom ⟨extension, h⟩)
          else .error s!"{quoted s} has an empty custom extension"
      | none => .error s!"unsupported {name} value {quoted s}"

theorem customEnumFromStr_named {α : Type} {name : String} {print : α → String} {named : List α}
    {custom : Extension → α} {a : α} (h : named.find? (fun b => print b == print a) = some a) :
    customEnumFromStr name print named custom (print a) = .ok a := by
  simp [customEnumFromStr, h]

/-- An extension is read back, as no named value is written with the marker. -/
theorem customEnumFromStr_custom {α : Type} {name : String} {print : α → String} {named : List α}
    {custom : Extension → α} (e : Extension) (hprint : print (custom e) = customPrefix ++ e.text)
    (hnamed : ∀ b ∈ named, dropCustom (print b) = none) :
    customEnumFromStr name print named custom (print (custom e)) = .ok (custom e) := by
  have hnone : named.find? (fun b => print b == customPrefix ++ e.text) = none := by
    refine List.find?_eq_none.mpr fun b hb heq => ?_
    have := hnamed b hb
    rw [beq_iff_eq.mp heq, dropCustom_custom] at this
    exact absurd this (by simp)
  rw [hprint, customEnumFromStr, hnone, dropCustom_custom]
  simp [e.notBlank]

inductive ReviewStatus where
  | unreviewed
  | reviewed
  | rejected
  | accepted
deriving DecidableEq

namespace ReviewStatus

def serialized : ReviewStatus → String
  | unreviewed => "unreviewed"
  | reviewed => "reviewed"
  | rejected => "rejected"
  | accepted => "accepted"

def codec : Codec ReviewStatus :=
  enumCodec serialized [unreviewed, reviewed, rejected, accepted]
    (by intro a; cases a <;> decide)

end ReviewStatus

/-! ## Provenance -/

inductive SourceKind where
  | document
  | log
  | api
  | human
  | ai
  | code
  | external
  | custom (extension : Extension)
deriving DecidableEq

namespace SourceKind

def serialized : SourceKind → String
  | document => "document"
  | log => "log"
  | api => "api"
  | human => "human"
  | ai => "ai"
  | code => "code"
  | external => "external"
  | custom extension => customPrefix ++ extension.text

def named : List SourceKind := [document, log, api, human, ai, code, external]

def fromStr : String → Except String SourceKind :=
  customEnumFromStr "SourceKind" serialized named custom

theorem fromStr_serialized (k : SourceKind) : fromStr k.serialized = .ok k := by
  cases k with
  | custom e => exact customEnumFromStr_custom e rfl (by decide)
  | _ => exact customEnumFromStr_named (by decide)

def codec : Codec SourceKind :=
  Codec.ofString serialized fromStr fromStr_serialized

end SourceKind

theorem string_toValue_ne_null (s : String) : Codec.string.toValue s ≠ .null := by
  simp [Codec.toValue, Codec.string, Json.normalize]

theorem id_toValue_ne_null (id : Id) : Id.codec.toValue id ≠ .null := by
  simp [Codec.toValue, Id.codec, Codec.ofString, Json.normalize]

/-- An optional text field of a record. -/
def optionalString (k : String) : Fields (Option String) :=
  .optional k .string string_toValue_ne_null

/-- An optional identifier field of a record. -/
def optionalId (k : String) : Fields (Option Id) :=
  .optional k Id.codec id_toValue_ne_null

structure SourceRef where
  kind : SourceKind
  uri : Option String
  title : Option String
  capturedAt : Option String
  sourceLocalId : Option String
deriving DecidableEq

def SourceRef.fields : Fields SourceRef :=
  ((Fields.required "kind" SourceKind.codec).append <|
    (optionalString "uri").append <|
    (optionalString "title").append <|
    (optionalString "captured_at").append <|
    optionalString "source_local_id").iso
  (fun (kind, uri, title, capturedAt, sourceLocalId) =>
    ⟨kind, uri, title, capturedAt, sourceLocalId⟩)
  (fun s => (s.kind, s.uri, s.title, s.capturedAt, s.sourceLocalId)) fun _ => rfl

def SourceRef.codec : Codec SourceRef :=
  SourceRef.fields.record (by decide)

/-- A number between zero and one, by its text. -/
structure Confidence where
  value : FloatText
deriving DecidableEq

namespace Confidence

def zero : Confidence := ⟨⟨"0.0", by decide⟩⟩

def one : Confidence := ⟨⟨"1.0", by decide⟩⟩

/-- Integers are read as the floats they denote. -/
def codec : Codec Confidence where
  ser c := .number (.float c.value)
  dec
    | .number (.float t) => .ok ⟨t⟩
    | .number (.posInt 0) => .ok zero
    | .number (.posInt 1) => .ok one
    | _ => .error "invalid confidence"
  dec_ser _ := rfl

end Confidence

structure Provenance where
  source : SourceRef
  confidence : Confidence
  reviewStatus : ReviewStatus
  extractionMethod : Option String
  extractorId : Option String
  reviewerId : Option String
  reviewedAt : Option String
  notes : Option String
deriving DecidableEq

def Provenance.fields : Fields Provenance :=
  ((Fields.required "source" SourceRef.codec).append <|
    (Fields.required "confidence" Confidence.codec).append <|
    (Fields.required "review_status" ReviewStatus.codec).append <|
    (optionalString "extraction_method").append <|
    (optionalString "extractor_id").append <|
    (optionalString "reviewer_id").append <|
    (optionalString "reviewed_at").append <|
    optionalString "notes").iso
  (fun (source, confidence, reviewStatus, extractionMethod, extractorId, reviewerId,
      reviewedAt, notes) =>
    ⟨source, confidence, reviewStatus, extractionMethod, extractorId, reviewerId,
      reviewedAt, notes⟩)
  (fun p => (p.source, p.confidence, p.reviewStatus, p.extractionMethod, p.extractorId,
    p.reviewerId, p.reviewedAt, p.notes)) fun _ => rfl

def Provenance.codec : Codec Provenance :=
  Provenance.fields.record (by decide)

end CaseGraphen
