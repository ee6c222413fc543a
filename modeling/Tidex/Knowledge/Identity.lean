/-
  Knowledge.Identity — typed identifiers and domain-bound digests.

  `LocalId k` is the source's family of local identifiers, one kind each, with the
  identifier check built in; `SemanticDigest k` is its family of digest types.
-/
import Tidex.Foundation.Authority

namespace Tidex.Knowledge

open Tidex.Lib List Json Sha256Digest

/-! ## Identifiers -/

def maxIdentifierBytes : Nat := 160
def maxSymbolBytes : Nat := 256

def isAsciiAlphanumeric (c : Char) : Bool :=
  c.isDigit || ('a' ≤ c && c ≤ 'z') || ('A' ≤ c && c ≤ 'Z')

def isIdentifierChar (c : Char) : Bool :=
  isAsciiAlphanumeric c || c == '-' || c == '_' || c == '.' || c == ':'

/-- 64 lower-case hexadecimal digits: a digest passed where a name belongs. -/
def isRawSha256 (value : String) : Bool :=
  value.utf8ByteSize == hexLen
    && value.toList.all (fun c => c.isDigit || ('a' ≤ c && c ≤ 'f'))

def isValidIdentifier (value : String) : Bool :=
  !(value.toList.isEmpty
    || value.utf8ByteSize > maxIdentifierBytes
    || isRawSha256 value
    || value.toList.head? == some '.'
    || value.toList.getLast? == some '.'
    || (value.toList.splitOn '.').any List.isEmpty
    || !value.toList.all isIdentifierChar)

inductive IdKind where
  | knowledgeObligation
  | knowledgeClaim
  | knowledgeHypothesis
  | hypothesisFamily
  | observationKey
  | scenario
  | scenarioInput
  | counterexampleCase
  | interventionVariable
  | dependencyNode
  | executor
  | discoveredConcern
  | profiledKnowledgeDomain
  | authorityInstance
  deriving DecidableEq

def IdKind.code : IdKind → String
  | .knowledgeObligation => "knowledge_obligation_id_invalid"
  | .knowledgeClaim => "knowledge_claim_id_invalid"
  | .knowledgeHypothesis => "knowledge_hypothesis_id_invalid"
  | .hypothesisFamily => "hypothesis_family_id_invalid"
  | .observationKey => "observation_key_invalid"
  | .scenario => "scenario_id_invalid"
  | .scenarioInput => "scenario_input_id_invalid"
  | .counterexampleCase => "counterexample_case_id_invalid"
  | .interventionVariable => "intervention_variable_id_invalid"
  | .dependencyNode => "dependency_node_id_invalid"
  | .executor => "executor_id_invalid"
  | .discoveredConcern => "discovered_concern_id_invalid"
  | .profiledKnowledgeDomain => "profiled_knowledge_domain_id_invalid"
  | .authorityInstance => "authority_instance_id_invalid"

/-- An identifier of one kind. -/
structure LocalId (k : IdKind) where
  str : String
  valid : isValidIdentifier str = true
  deriving DecidableEq

abbrev KnowledgeObligationId := LocalId .knowledgeObligation
abbrev KnowledgeClaimId := LocalId .knowledgeClaim
abbrev KnowledgeHypothesisId := LocalId .knowledgeHypothesis
abbrev HypothesisFamilyId := LocalId .hypothesisFamily
abbrev ObservationKey := LocalId .observationKey
abbrev ScenarioId := LocalId .scenario
abbrev ScenarioInputId := LocalId .scenarioInput
abbrev CounterexampleCaseId := LocalId .counterexampleCase
abbrev InterventionVariableId := LocalId .interventionVariable
abbrev DependencyNodeId := LocalId .dependencyNode
abbrev ExecutorId := LocalId .executor
abbrev DiscoveredConcernId := LocalId .discoveredConcern
abbrev ProfiledKnowledgeDomainId := LocalId .profiledKnowledgeDomain
abbrev AuthorityInstanceId := LocalId .authorityInstance

namespace LocalId

variable {k : IdKind}

lemma str_injective : Function.Injective (str (k := k)) := by
  rintro ⟨a, ha⟩ ⟨b, hb⟩ h
  cases h
  rfl

instance : Ord (LocalId k) := ordBy str
instance : Std.TransOrd (LocalId k) := transOrd_ordBy str
instance : Std.LawfulEqOrd (LocalId k) := lawfulEqOrd_ordBy str_injective

instance : SerializeSome (LocalId k) where
  toJson i := .str i.str
  toJson_injective := by
    intro a b h
    exact str_injective (Json.str.inj h)

instance : SerializeKey (LocalId k) where
  keyText i := i.str
  keyText_injective := str_injective

def parse (k : IdKind) (value : String) : BrainResult (LocalId k) :=
  if h : isValidIdentifier value = true then .ok ⟨value, h⟩ else .error (invalid k.code)

@[simp] lemma parse_ok {value : String} {i : LocalId k} :
    parse k value = .ok i ↔ i.str = value := by
  unfold parse
  split
  · next h =>
    constructor
    · rintro ⟨⟩
      rfl
    · rintro rfl
      rfl
  · next h =>
    constructor
    · intro hp
      cases hp
    · rintro rfl
      exact absurd i.valid h

end LocalId

/-- The check of an inquiry's name: at most 128 bytes, no colon, no empty part,
    no digest. -/
def isValidInquiryId (value : String) : Bool :=
  !(value.toList.isEmpty
    || value.utf8ByteSize > 128
    || value.toList.head? == some '.'
    || !value.toList.all (fun c => isAsciiAlphanumeric c || c == '-' || c == '_' || c == '.')
    || (value.toList.splitOn '.').any List.isEmpty
    || isRawSha256 value)

/-- Stable identity of a governed investigation of one capability. -/
structure InquiryId where
  str : String
  valid : isValidInquiryId str = true
  deriving DecidableEq

instance : SerializeSome InquiryId where
  toJson i := .str i.str
  toJson_injective := by
    rintro ⟨a, ha⟩ ⟨b, hb⟩ h
    simpa using h

/-- The check of `KnowledgeSymbol::parse`. -/
def isValidSymbol (value : String) : Bool :=
  !(value.toList.isEmpty
    || value.utf8ByteSize > maxSymbolBytes
    || !value.toList.head?.any isAsciiAlphanumeric
    || !value.toList.getLast?.any isAsciiAlphanumeric
    || !value.toList.all isIdentifierChar)

/-- A symbolic observed value. -/
structure KnowledgeSymbol where
  str : String
  valid : isValidSymbol str = true
  deriving DecidableEq

instance : SerializeSome KnowledgeSymbol where
  toJson i := .str i.str
  toJson_injective := by
    rintro ⟨a, ha⟩ ⟨b, hb⟩ h
    simpa using h

/-! ## Digests of one meaning each -/

inductive DigestKind where
  | knowledgeState
  | knowledgePolicy
  | authorityRoot
  | knowledgeAction
  | cognitiveInvocation
  | observationSet
  | knowledgeEvidenceId
  | knowledgeEvidence
  | actionReceipt
  | transitionReceipt
  | executorVersion
  | canonicalInquiryHead
  | exactBytes
  deriving DecidableEq

/-- A digest that cannot be taken for one of another kind. -/
structure SemanticDigest (k : DigestKind) where
  raw : Sha256Digest
  deriving DecidableEq

abbrev KnowledgeStateDigest := SemanticDigest .knowledgeState
abbrev KnowledgePolicyDigest := SemanticDigest .knowledgePolicy
abbrev AuthorityRootDigest := SemanticDigest .authorityRoot
abbrev KnowledgeActionId := SemanticDigest .knowledgeAction
abbrev CognitiveInvocationDigest := SemanticDigest .cognitiveInvocation
abbrev ObservationSetDigest := SemanticDigest .observationSet
abbrev KnowledgeEvidenceId := SemanticDigest .knowledgeEvidenceId
abbrev KnowledgeEvidenceDigest := SemanticDigest .knowledgeEvidence
abbrev ActionReceiptDigest := SemanticDigest .actionReceipt
abbrev TransitionReceiptDigest := SemanticDigest .transitionReceipt
abbrev ExecutorVersionDigest := SemanticDigest .executorVersion
abbrev ExactBytesDigest := SemanticDigest .exactBytes

namespace SemanticDigest

variable {k : DigestKind}

lemma raw_injective : Function.Injective (raw (k := k)) := by
  rintro ⟨a⟩ ⟨b⟩ h
  cases h
  rfl

instance : Ord (SemanticDigest k) := ordBy raw
instance : Std.TransOrd (SemanticDigest k) := transOrd_ordBy raw
instance : Std.LawfulEqOrd (SemanticDigest k) := lawfulEqOrd_ordBy raw_injective

instance : SerializeSome (SemanticDigest k) where
  toJson d := toJson d.raw
  toJson_injective := Serialize.toJson_injective.comp raw_injective
  toJson_ne_null d := SerializeSome.toJson_ne_null d.raw

instance : SerializeKey (SemanticDigest k) where
  keyText d := keyText d.raw
  keyText_injective := SerializeKey.keyText_injective.comp raw_injective

def asStr (d : SemanticDigest k) : String := d.raw.hex

def computed [Platform] (k : DigestKind) (domain : String) (canonicalPayload : ByteArray) :
    SemanticDigest k :=
  ⟨digestDomain domain canonicalPayload⟩

end SemanticDigest

/-! ## Domains -/

def stateDomain : String := "TIDEX:KNOWLEDGE-STATE:v1\x00"
def policyDomain : String := "TIDEX:KNOWLEDGE-POLICY:v1\x00"
def actionIdDomain : String := "TIDEX:KNOWLEDGE-ACTION-ID:v1\x00"
def invocationDomain : String := "TIDEX:COGNITIVE-INVOCATION:v1\x00"
def observationDomain : String := "TIDEX:OBSERVATION-SET:v1\x00"
def evidenceIdDomain : String := "TIDEX:KNOWLEDGE-EVIDENCE-ID:v1\x00"
def evidenceDomain : String := "TIDEX:KNOWLEDGE-EVIDENCE:v1\x00"
def receiptDomain : String := "TIDEX:KNOWLEDGE-ACTION-RECEIPT:v1\x00"
def transitionDomain : String := "TIDEX:KNOWLEDGE-TRANSITION:v1\x00"
def rootDomain : String := "TIDEX:AUTHORITY-ROOT:v1\x00"
def derivedClaimIdDomain : String := "TIDEX:DERIVED-CLAIM-ID:v1\x00"
def derivedObligationIdDomain : String := "TIDEX:DERIVED-OBLIGATION-ID:v1\x00"
def dependencyObservationKeyDomain : String := "TIDEX:DEPENDENCY-OBSERVATION-KEY:v1\x00"
def executorVersionDomain : String := "TIDEX:COGNITIVE-EXECUTOR-VERSION:v1\x00"

/-! ## Identifiers formed from digests -/

/-- Enough for an identifier: its dotted parts are nonempty, its characters are
    identifier characters, and its length is neither a digest's nor too large. -/
lemma isValidIdentifier_of_parts {value : String}
    (hparts : ∀ part ∈ value.toList.splitOn '.', part ≠ [])
    (hchars : ∀ c ∈ value.toList, isIdentifierChar c = true)
    (hlen : value.utf8ByteSize ≤ maxIdentifierBytes) (hraw : value.utf8ByteSize ≠ 64) :
    isValidIdentifier value = true := by
  have hne : value.toList ≠ [] := by
    intro h
    rw [h] at hparts
    exact hparts [] (by simp) rfl
  have hhead : value.toList.head? ≠ some '.' := by
    intro h
    obtain ⟨t, ht⟩ := head?_eq_some_iff.mp h
    rw [ht, splitOn_cons_eq_if_modifyHead] at hparts
    exact hparts [] (by simp) rfl
  have hlast : value.toList.getLast? ≠ some '.' := by
    intro h
    obtain ⟨t, ht⟩ := getLast?_eq_some_iff.mp h
    rw [ht, splitOn_append_cons_self] at hparts
    exact hparts [] (by simp) rfl
  have hraw' : isRawSha256 value = false := by
    simp [isRawSha256, hexLen, hraw]
  have hempty : ∀ part ∈ value.toList.splitOn '.', part.isEmpty = false := by
    intro part hpart
    simpa using hparts part hpart
  simp only [isValidIdentifier, hraw', Bool.not_eq_true', Bool.or_eq_false_iff,
    any_eq_false, all_eq_true, Bool.not_eq_false', beq_eq_false_iff_ne,
    decide_eq_false_iff_not, not_lt, gt_iff_lt]
  refine ⟨⟨⟨⟨⟨⟨?_, hlen⟩, trivial⟩, hhead⟩, hlast⟩, ?_⟩, hchars⟩
  · simpa using hne
  · intro part hpart
    simp [hempty part hpart]

lemma isIdentifierChar_of_hexdigit {c : Char} (h : isAsciiHexdigit c = true) :
    isIdentifierChar c = true ∧ c ≠ '.' ∧ c.utf8Size = 1 := by
  have hrange : c.isDigit = true ∨ ('a' ≤ c ∧ c ≤ 'f') ∨ ('A' ≤ c ∧ c ≤ 'F') := by
    simpa [isAsciiHexdigit, or_assoc] using h
  have hle : ∀ a b : Char, a ≤ b ↔ a.val.toNat ≤ b.val.toNat := fun a b => by
    rw [Char.le_def, UInt32.le_iff_toNat_le]
  have hz : ('z' : Char).val.toNat = 122 := rfl
  have hZ : ('Z' : Char).val.toNat = 90 := rfl
  have hf : ('f' : Char).val.toNat = 102 := rfl
  have hF : ('F' : Char).val.toNat = 70 := rfl
  have hA : ('A' : Char).val.toNat = 65 := rfl
  have ha : ('a' : Char).val.toNat = 97 := rfl
  have hbounds : 48 ≤ c.val.toNat ∧ c.val.toNat ≤ 127 := by
    rcases hrange with hd | hl | hu
    · simp only [Char.isDigit, Bool.and_eq_true, decide_eq_true_eq, ge_iff_le,
        UInt32.le_iff_toNat_le] at hd
      have h0 : ('0' : Char).val.toNat = 48 := rfl
      have h9 : ('9' : Char).val.toNat = 57 := rfl
      omega
    · rw [hle, hle] at hl
      omega
    · rw [hle, hle] at hu
      omega
  refine ⟨?_, ?_, ?_⟩
  · rcases hrange with hd | hl | hu
    · simp [isIdentifierChar, isAsciiAlphanumeric, hd]
    · have hcz : c ≤ 'z' := by simp only [hle] at hl ⊢; omega
      simp [isIdentifierChar, isAsciiAlphanumeric, hl.1, hcz]
    · have hcZ : c ≤ 'Z' := by simp only [hle] at hu ⊢; omega
      simp [isIdentifierChar, isAsciiAlphanumeric, hu.1, hcZ]
  · rintro rfl
    have hdot : ('.' : Char).val.toNat = 46 := rfl
    omega
  · rw [Char.utf8Size_eq_one_iff, UInt32.le_iff_toNat_le]
    have h127 : (127 : UInt32).toNat = 127 := rfl
    omega

lemma utf8ByteSize_eq_textSize (s : String) : s.utf8ByteSize = textSize s.toList := by
  have h := size_encodeText s.toList
  rwa [encodeText, String.ofList_toList, String.size_toByteArray] at h

lemma Sha256Digest.dot_not_mem (d : Sha256Digest) : '.' ∉ d.hex.toList := by
  intro h
  exact (isIdentifierChar_of_hexdigit (d.isAsciiHexdigit_of_mem h)).2.1 rfl

lemma Sha256Digest.textSize_hex (d : Sha256Digest) : textSize d.hex.toList = 64 := by
  have hone : ∀ c ∈ d.hex.toList, c.utf8Size = 1 := fun c hc =>
    (isIdentifierChar_of_hexdigit (d.isAsciiHexdigit_of_mem hc)).2.2
  rw [textSize, map_congr_left hone, map_const', sum_replicate, d.length_hex]
  rfl

lemma escapeChar_of_hexdigit {c : Char} (h : isAsciiHexdigit c = true) : escapeChar c = [c] := by
  have hle : ∀ a b : Char, a ≤ b ↔ a.toNat ≤ b.toNat := fun a b => by
    rw [Char.le_def, UInt32.le_iff_toNat_le]
    rfl
  have hbounds : 48 ≤ c.toNat ∧ (c.toNat ≤ 70 ∨ 97 ≤ c.toNat) := by
    have hrange : ('0' ≤ c ∧ c ≤ '9') ∨ ('a' ≤ c ∧ c ≤ 'f') ∨ ('A' ≤ c ∧ c ≤ 'F') := by
      simpa [isAsciiHexdigit, Char.isDigit, or_assoc, Char.le_def] using h
    simp only [hle] at hrange
    have h0 : ('0' : Char).toNat = 48 := rfl
    have h9 : ('9' : Char).toNat = 57 := rfl
    have ha : ('a' : Char).toNat = 97 := rfl
    have hA : ('A' : Char).toNat = 65 := rfl
    have hF : ('F' : Char).toNat = 70 := rfl
    omega
  have hne : ∀ d : Char, d.toNat < 48 ∨ d.toNat = 92 → c ≠ d := by
    rintro d hd rfl
    omega
  have hshort : shortEscape c = none := by
    simp only [shortEscape, hne '\x22' (by decide), hne '\x5c' (by decide),
      hne '\x08' (by decide), hne '\x09' (by decide), hne '\x0a' (by decide),
      hne '\x0c' (by decide), hne '\x0d' (by decide), if_false]
  simp only [escapeChar, hshort]
  rw [if_neg (by omega)]

lemma Sha256Digest.flatMap_escapeChar (d : Sha256Digest) :
    d.hex.toList.flatMap escapeChar = d.hex.toList := by
  have hchars : ∀ c ∈ d.hex.toList, escapeChar c = [c] :=
    fun c hc => escapeChar_of_hexdigit (d.isAsciiHexdigit_of_mem hc)
  rw [flatMap_congr hchars, flatMap_singleton']

@[simp] lemma byteSize_toJson_digest (d : Sha256Digest) : byteSize (toJson d) = 66 := by
  have hrender : (toJson d).render = quote d.hex := by
    rw [show toJson d = .str d.hex from rfl, render]
  rw [byteSize, hrender, quote, Sha256Digest.flatMap_escapeChar, textSize_cons, textSize_append,
    Sha256Digest.textSize_hex]
  rfl

@[simp] lemma byteSize_toJson_semanticDigest {k : DigestKind} (d : SemanticDigest k) :
    byteSize (toJson d) = 66 :=
  byteSize_toJson_digest d.raw

lemma byteSize_reference (path : String) (d : Sha256Digest) :
    (toJson (⟨path, d⟩ : PrivateFileReference)).byteSize = (toJson path).byteSize + 85 := by
  have hmembers : toJson (⟨path, d⟩ : PrivateFileReference) =
      .obj [("path", toJson path), ("sha256", toJson d)] := rfl
  have h1 : textSize (quote "path") = 6 := by decide
  have h2 : textSize (quote "sha256") = 8 := by decide
  rw [hmembers, byteSize_obj _ (cons_ne_nil _ _)]
  simp only [membersSize, map_cons, map_nil, sum_cons, sum_nil, byteSize_toJson_digest, h1, h2]
  omega

lemma byteSize_around (before after : String) (d : Sha256Digest) :
    (toJson (before ++ d.hex ++ after)).byteSize =
      (toJson before).byteSize + (toJson after).byteSize + 62 := by
  have hstring : ∀ s : String, (toJson s).byteSize =
      textSize (s.toList.flatMap escapeChar) + 2 := by
    intro s
    have hrender : (toJson s).render = quote s := by
      rw [show toJson s = .str s from rfl, render]
    have hquote : Char.utf8Size '\x22' = 1 := rfl
    rw [byteSize, hrender, quote, textSize_cons, textSize_append,
      textSize_cons, textSize_nil, hquote]
    omega
  rw [hstring, hstring, hstring, String.toList_append, String.toList_append, flatMap_append,
    flatMap_append, Sha256Digest.flatMap_escapeChar, textSize_append, textSize_append,
    Sha256Digest.textSize_hex]
  omega

lemma byteSize_toJson_nat_le {n k : Nat} (hk : 0 < k) (hn : n < 10 ^ k) :
    (toJson n).byteSize ≤ k := by
  have hdigits := (Nat.length_toDigits_le_iff (by decide) hk).mpr hn
  have hone : ∀ c ∈ Nat.toDigits 10 n, c.utf8Size = 1 := by
    intro c hc
    have hdigit := Nat.isDigit_of_mem_toDigits (by decide) (by decide) hc
    rw [Char.utf8Size_eq_one_iff, UInt32.le_iff_toNat_le]
    have hle : c.val.toNat ≤ 57 := by
      simp only [Char.isDigit, Bool.and_eq_true, decide_eq_true_eq, UInt32.le_iff_toNat_le] at hdigit
      exact hdigit.2
    have h127 : (127 : UInt32).toNat = 127 := rfl
    omega
  show textSize (Nat.toDigits 10 n) ≤ k
  rw [textSize, map_congr_left hone, map_const', sum_replicate]
  simpa using hdigits

lemma isValidIdentifier_around (before after : String) (d : Sha256Digest)
    (hparts : ∀ part ∈ (before ++ d.hex ++ after).toList.splitOn '.', part ≠ [])
    (hchars : (before.toList ++ after.toList).all isIdentifierChar = true)
    (hlen : 0 < before.utf8ByteSize ∧ before.utf8ByteSize + after.utf8ByteSize ≤ 96) :
    isValidIdentifier (before ++ d.hex ++ after) = true := by
  have hsize : (before ++ d.hex ++ after).utf8ByteSize =
      before.utf8ByteSize + 64 + after.utf8ByteSize := by
    have hhex : d.hex.utf8ByteSize = 64 := by
      rw [utf8ByteSize_eq_textSize, Sha256Digest.textSize_hex]
    rw [String.utf8ByteSize_append, String.utf8ByteSize_append, hhex]
  refine isValidIdentifier_of_parts hparts ?_ ?_ ?_
  · intro c hc
    simp only [String.toList_append, mem_append, all_eq_true] at hc hchars
    rcases hc with (hc | hc) | hc
    · exact hchars c (.inl hc)
    · exact (isIdentifierChar_of_hexdigit (d.isAsciiHexdigit_of_mem hc)).1
    · exact hchars c (.inr hc)
  · rw [hsize]
    unfold maxIdentifierBytes
    omega
  · rw [hsize]
    omega

lemma isValidIdentifier_derived {before : String} (d : Sha256Digest)
    (hdot : '.' ∉ before.toList) (hchars : before.toList.all isIdentifierChar = true)
    (hlen : 0 < before.utf8ByteSize ∧ before.utf8ByteSize ≤ 96) :
    isValidIdentifier (before ++ d.hex) = true := by
  have h := isValidIdentifier_around before "" d ?_ (by simpa using hchars)
    (by simpa using hlen)
  · simpa using h
  · intro part hpart
    have hnone : '.' ∉ (before ++ d.hex ++ "").toList := by
      simp [hdot, Sha256Digest.dot_not_mem d]
    rw [splitOn_eq_singleton hnone, mem_singleton] at hpart
    rw [hpart]
    intro hnil
    have hlength := congrArg length hnil
    simp only [String.toList_append, length_append, length_nil, d.length_hex] at hlength
    omega

section

variable [Platform]

/-- The identity of a claim found while reducing. -/
def KnowledgeClaimId.derivedDiscovery (payload : ByteArray) : KnowledgeClaimId :=
  ⟨"discovered-claim-" ++ (digestDomain derivedClaimIdDomain payload).hex,
    isValidIdentifier_derived _ (by decide) (by decide) (by decide)⟩

/-- The identity of an obligation found while reducing. -/
def KnowledgeObligationId.derivedDiscovery (payload : ByteArray) : KnowledgeObligationId :=
  ⟨"discovered-obligation-" ++ (digestDomain derivedObligationIdDomain payload).hex,
    isValidIdentifier_derived _ (by decide) (by decide) (by decide)⟩

def dependencyObservationKeyText (root : DependencyNodeId) : String :=
  "dependency." ++
    (digestDomain dependencyObservationKeyDomain (toVec root)).hex ++ ".closed"

lemma isValidIdentifier_dependencyObservationKeyText (root : DependencyNodeId) :
    isValidIdentifier (dependencyObservationKeyText root) = true := by
  unfold dependencyObservationKeyText
  refine isValidIdentifier_around _ _ _ ?_ (by decide) (by decide)
  generalize digestDomain dependencyObservationKeyDomain (toVec root) = d
  have hbefore : "dependency.".toList = "dependency".toList ++ ['.'] := by decide
  have hafter : ".closed".toList = '.' :: "closed".toList := by decide
  have hdependency : '.' ∉ "dependency".toList := by decide
  have hclosed : '.' ∉ "closed".toList := by decide
  intro part hpart
  rw [String.toList_append, String.toList_append, hbefore, hafter, append_assoc, append_assoc,
    singleton_append, splitOn_append_cons_self_of_not_mem hdependency,
    splitOn_append_cons_self_of_not_mem (Sha256Digest.dot_not_mem d), splitOn_eq_singleton hclosed] at hpart
  simp only [mem_cons, not_mem_nil, or_false] at hpart
  rcases hpart with rfl | rfl | rfl
  · decide
  · intro hnil
    have hlength := d.length_hex
    rw [hnil] at hlength
    cases hlength
  · decide

end

end Tidex.Knowledge
