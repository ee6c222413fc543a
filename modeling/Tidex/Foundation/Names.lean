/-
  Foundation.Names — names that are neither paths nor digests.

  A name is short ASCII text with a check of its kind.
-/
import Tidex.Knowledge.Identity

namespace Tidex

open Tidex.Lib Function Json
open Tidex.Knowledge (isAsciiAlphanumeric)

/-! ## Checks -/

/-- The check that every kind of name begins with. -/
def validateAsciiId (value : String) (allowDot forbidLeadingDot : Bool) : Bool :=
  !(value.toList.isEmpty
    || value.utf8ByteSize > 128
    || (forbidLeadingDot && value.toList.head? == some '.')
    || !value.toList.all fun c =>
      isAsciiAlphanumeric c || c == '-' || c == '_' || (allowDot && c == '.'))

/-- The check of a name that must not be a digest. -/
def validateSemanticId (allowDot : Bool) (value : String) : Bool :=
  validateAsciiId value allowDot true
    && !(allowDot && (value.toList.splitOn '.').any List.isEmpty)
    && !Knowledge.isRawSha256 value

inductive NameKind where
  | session
  | observation
  | aperture
  | learningTarget
  | skill
  | reconstruction
  | lineage
  deriving DecidableEq

namespace NameKind

def isValid : NameKind → String → Bool
  | session, value => validateAsciiId value false false
  | observation, value => validateAsciiId value true true
  | aperture, value => validateSemanticId false value
  | learningTarget, value => validateSemanticId true value
  | skill, value => validateSemanticId false value
  | reconstruction, value => value.toList.isEmpty || validateSemanticId true value
  | lineage, value => value.toList.isEmpty || validateSemanticId true value

def code : NameKind → String
  | session => "session_id_invalid"
  | observation => "observation_id_invalid"
  | aperture => "aperture_id_invalid"
  | learningTarget => "learning_target_id_invalid"
  | skill => "skill_id_invalid"
  | reconstruction => "reconstruction_id_invalid"
  | lineage => "lineage_id_invalid"

end NameKind

/-! ## Names -/

structure Name (k : NameKind) where
  asStr : String
  valid : k.isValid asStr = true
  deriving DecidableEq

abbrev ObservationId := Name .observation
abbrev ApertureId := Name .aperture
abbrev LearningTargetId := Name .learningTarget
abbrev SkillId := Name .skill
abbrev LineageId := Name .lineage

namespace Name

variable {k : NameKind}

lemma asStr_injective : Injective (asStr (k := k)) := by
  intro a b h
  cases a
  cases b
  cases h
  rfl

instance instLawfulBEqName : LawfulBEq (Name k) := inferInstance

instance : Ord (Name k) := ordBy asStr
instance : Std.TransOrd (Name k) := transOrd_ordBy asStr
instance : Std.LawfulEqOrd (Name k) := lawfulEqOrd_ordBy asStr_injective

instance : SerializeSome (Name k) where
  toJson i := .str i.asStr
  toJson_injective := by
    intro a b h
    exact asStr_injective (str.inj h)

def parse (k : NameKind) (value : String) : BrainResult (Name k) :=
  if h : k.isValid value = true then .ok ⟨value, h⟩ else .error (invalid k.code)

lemma parse_of_valid {value : String} (h : k.isValid value = true) :
    parse k value = .ok ⟨value, h⟩ := by
  unfold parse
  rw [dif_pos h]

/-- A reconstruction or a lineage that was never assigned. -/
def isUnassigned (i : Name k) : Bool := i.asStr.toList.isEmpty

end Name

/-! ## Capabilities -/

def validVersionLabels (value : List Char) (rejectNumericLeadingZero : Bool) : Bool :=
  !value.isEmpty && (value.splitOn '.').all fun label =>
    !label.isEmpty && label.all (fun c => isAsciiAlphanumeric c || c == '-')
      && (!rejectNumericLeadingZero || !label.all Char.isDigit || label.length == 1
        || label.head? != some '0')

def splitOnce (separator : Char) (value : List Char) : List Char × Option (List Char) :=
  match value.dropWhile (· != separator) with
  | [] => (value, none)
  | _ :: rest => (value.takeWhile (· != separator), some rest)

def isCanonicalCapabilityVersion (version : List Char) : Bool :=
  match version with
  | 'v' :: version =>
    match version.splitOn '+' with
    | [] => false
    | withoutBuild :: build =>
      let (core, prerelease) := splitOnce '-' withoutBuild
      let components := core.splitOn '.'
      build.length ≤ 1 && build.all (validVersionLabels · false)
        && prerelease.all (validVersionLabels · true)
        && components.length ≤ 3
        && components.all fun component =>
          !component.isEmpty && component.all Char.isDigit
            && (component.length == 1 || component.head? != some '0')
  | _ => false

def isValidCapabilityId (value : String) : Bool :=
  let (base, version) := splitOnce ':' value.toList
  value.utf8ByteSize ≤ 128 && value.toList.count ':' ≤ 1
    && validateSemanticId true (String.ofList base)
    && version.all isCanonicalCapabilityVersion

structure CapabilityId where
  asStr : String
  valid : isValidCapabilityId asStr = true
  deriving DecidableEq

namespace CapabilityId

lemma asStr_injective : Injective asStr := by
  intro a b h
  cases a
  cases b
  cases h
  rfl

instance : SerializeSome CapabilityId where
  toJson i := .str i.asStr
  toJson_injective := by
    intro a b h
    exact asStr_injective (str.inj h)

end CapabilityId

/-! ## Tensors -/

/-- Dotted segments of ASCII letters, digits, underscores and dashes. -/
def TensorId.isValidStr (value : String) : Bool :=
  !(value.toList.isEmpty
    || value.utf8ByteSize > 512
    || !value.toList.contains '.'
    || (value.toList.splitOn '.').any fun segment =>
      segment.isEmpty || !segment.all fun c => isAsciiAlphanumeric c || c == '_' || c == '-')

structure TensorId where
  asStr : String
  valid : TensorId.isValidStr asStr = true
  deriving DecidableEq

namespace TensorId

lemma asStr_injective : Injective asStr := by
  intro a b h
  cases a
  cases b
  cases h
  rfl

instance instLawfulBEqTensorId : LawfulBEq TensorId := inferInstance

instance : Ord TensorId := ordBy asStr
instance : Std.TransOrd TensorId := transOrd_ordBy asStr
instance : Std.LawfulEqOrd TensorId := lawfulEqOrd_ordBy asStr_injective

instance : SerializeSome TensorId where
  toJson i := .str i.asStr
  toJson_injective := by
    intro a b h
    exact asStr_injective (str.inj h)

def parse (value : String) : BrainResult TensorId :=
  if h : isValidStr value = true then .ok ⟨value, h⟩ else .error (invalid "tensor_id_invalid")

@[simp] lemma parse_ok {value : String} {i : TensorId} :
    parse value = .ok i ↔ value = i.asStr := by
  unfold parse
  constructor
  · intro h
    split at h
    · cases h
      rfl
    · cases h
  · intro h
    subst h
    rw [dif_pos i.valid]

lemma dot_mem (i : TensorId) : '.' ∈ i.asStr.toList := by
  have h := i.valid
  simp only [isValidStr, Bool.not_eq_true', Bool.or_eq_false_iff, Bool.not_eq_false'] at h
  exact List.contains_iff_mem.mp h.1.2

end TensorId

/-! ## Stable names of a role -/

/-- A dotted name of a role, told apart from other roles by its label. -/
structure SemanticId (label : String) where
  asStr : String
  valid : validateSemanticId true asStr = true
  deriving DecidableEq

abbrev AcquisitionId := SemanticId "acquisition_id"

instance {label : String} : SerializeSome (SemanticId label) where
  toJson i := .str i.asStr
  toJson_injective := by
    intro a b h
    obtain ⟨_, _⟩ := a
    obtain ⟨_, _⟩ := b
    cases str.inj h
    rfl

end Tidex
