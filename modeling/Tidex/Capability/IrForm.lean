/-
  Capability.IrForm — the stored form of a representation.
-/
import Tidex.Capability.Ir
import Tidex.Lib.Spelling

namespace Tidex.Capability

open Tidex.Lib List Sha256Digest Path CapabilityIr BTreeSet

/-! ## The stored form -/

instance : Serialize TypedPort where
  toJson p := .obj [("name", toJson p.name), ("value_type", toJson p.valueType),
    ("shape", toJson p.shape)]

instance : Serialize ParameterSlot where
  toJson p := .obj [("port", toJson p.port)]

instance : Serialize ValueReference where
  toJson
    | .input name => .obj [("kind", .str "input"), ("name", toJson name)]
    | .parameter name => .obj [("kind", .str "parameter"), ("name", toJson name)]
    | .nodeOutput nodeId => .obj [("kind", .str "node_output"), ("node_id", toJson nodeId)]

instance : Serialize OutputBinding where
  toJson o := .obj [("port", toJson o.port), ("source", toJson o.source)]

instance : Serialize IrNode where
  toJson n := .obj [("node_id", toJson n.nodeId), ("primitive_id", toJson n.primitiveId),
    ("inputs", toJson n.inputs), ("output", toJson n.output),
    ("provenance", toJson n.provenance)]

/-- A representation with its capability and the digest of its manifest. -/
structure StoredIr where
  capabilityId : CapabilityId
  body : CapabilityIr
  manifestSha256 : Sha256Digest

instance : Serialize StoredIr where
  toJson i := .obj [("schema", .str "tidex.capability_ir/v2"),
    ("capability_id", toJson i.capabilityId),
    ("system_envelope_sha256", toJson i.body.systemEnvelopeSha256),
    ("primitive_set", toJson i.body.primitiveSet), ("inputs", toJson i.body.inputs),
    ("parameters", toJson i.body.parameters), ("nodes", toJson i.body.nodes),
    ("outputs", toJson i.body.outputs), ("manifest_sha256", toJson i.manifestSha256)]
  toJson_injective := by
    intro a b h
    obtain ⟨_, ⟨_, _, _, _, _, _⟩, _⟩ := a
    obtain ⟨_, ⟨_, _, _, _, _, _⟩, _⟩ := b
    simp_all

namespace StoredIr

variable [Platform]

def calculateDigest (ir : StoredIr) : Sha256Digest :=
  digestDomain "TIDEX:CAPABILITY-IR:v2\x00"
    (toVec { ir with manifestSha256 := zero })

def validateAgainst (ir : StoredIr) (envelope : SystemEnvelope) : BrainResult Unit := do
  ir.body.validateStructureAgainst envelope
  failIf (ir.manifestSha256 = zero ∨ ir.calculateDigest ≠ ir.manifestSha256)
    (integrity "capability_ir_digest_mismatch")

def ofBody (capabilityId : CapabilityId) (body : CapabilityIr) : StoredIr :=
  let draft : StoredIr := ⟨capabilityId, body, zero⟩
  { draft with manifestSha256 := draft.calculateDigest }

lemma calculateDigest_ofBody (capabilityId : CapabilityId) (body : CapabilityIr) :
    (ofBody capabilityId body).calculateDigest = (ofBody capabilityId body).manifestSha256 := rfl

lemma validateAgainst_ok {ir : StoredIr} {envelope : SystemEnvelope} :
    ir.validateAgainst envelope = .ok () ↔ ir.body.validateStructureAgainst envelope = .ok () ∧
        ir.manifestSha256 ≠ zero ∧ ir.calculateDigest = ir.manifestSha256 := by
  unfold validateAgainst
  rw [seq_ok, failIf_ok, not_or, not_not]

end StoredIr

/-! ## Other spellings -/

lemma isCanonicalPath_iff {path : String} :
    isCanonicalPath path = true ↔ IsPlain path ∧ path.utf8ByteSize ≤ 4096 := by
  unfold isCanonicalPath IsPlain
  rw [Bool.not_eq_true', Bool.or_eq_false_iff, Bool.or_eq_false_iff, Bool.or_eq_false_iff,
    isEmpty_eq_false_iff, decide_eq_false_iff_not, not_lt, any_eq_false]
  simp only [Option.isNone_iff_eq_none, ← Option.isSome_iff_ne_none]
  constructor
  · intro h
    obtain ⟨⟨⟨hne, habsolute⟩, hsize⟩, hnormal⟩ := h
    exact ⟨⟨hne, habsolute, hnormal⟩, hsize⟩
  · intro h
    obtain ⟨⟨hne, habsolute, hnormal⟩, hsize⟩ := h
    exact ⟨⟨⟨hne, habsolute⟩, hsize⟩, hnormal⟩

lemma canonicalPaths_ok {paths : List String} {label : String} {keys : BTreeSet PathKey} :
    canonicalPaths paths label = .ok keys ↔ (∀ path ∈ paths, isCanonicalPath path = true) ∧
      (paths.map Path.components).foldlM (insertOnce id (invalid (label ++ "_invalid")))
        ∅ = .ok keys := by
  have hshape : canonicalPath label = fun result path =>
      failIf (isCanonicalPath path = false) (invalid (label ++ "_invalid")) >>= fun _ =>
        insertOnce Path.components (invalid (label ++ "_invalid")) result path := rfl
  unfold canonicalPaths
  rw [hshape, foldlM_seq_ok, foldlM_map]
  apply and_congr_left
  intro _
  apply forall_congr'
  intro path
  rw [failIf_ok, Bool.not_eq_false]

/-- The node with its paths spelled another way. -/
def IrNode.respell (f : String → String) (node : IrNode) : IrNode :=
  { node with provenance := node.provenance.map f }

/-- The representation with its paths spelled another way. -/
def CapabilityIr.respell (f : String → String) (ir : CapabilityIr) : CapabilityIr :=
  { ir with nodes := ir.nodes.map (IrNode.respell f) }

structure KeepsComponents (f : String → String) : Prop where
  components : ∀ path, isCanonicalPath path = true → Path.components (f path) = Path.components path
  canonical : ∀ path, isCanonicalPath path = true → isCanonicalPath (f path) = true

section

variable {f : String → String} {ir : CapabilityIr} {files : BTreeSet PathKey}
  {inputs parameters : Ports} {pass pass' : NodePass}

lemma checkNode_canonical {node : IrNode}
    (h : ir.checkNode files inputs parameters pass node = .ok pass') :
    ∀ path ∈ node.provenance, isCanonicalPath path = true := by
  unfold checkNode at h
  simp only [bind_ok, canonicalPaths_ok] at h
  obtain ⟨_, -, _, -, _, -, _, -, _, -, _, ⟨hcanonical, -⟩, -⟩ := h
  exact hcanonical

/-- A node is accepted in every spelling. -/
lemma checkNode_respell (hf : KeepsComponents f) {node : IrNode}
    (h : ir.checkNode files inputs parameters pass node = .ok pass') :
    ir.checkNode files inputs parameters pass (node.respell f) = .ok pass' := by
  have hcanonical := checkNode_canonical h
  have hsame : (node.provenance.map f).map Path.components =
      node.provenance.map Path.components := by
    rw [map_map]
    apply map_congr_left
    intro path hpath
    exact hf.components path (hcanonical path hpath)
  have hcanonical' : ∀ path ∈ node.provenance.map f, isCanonicalPath path = true := by
    intro path hpath
    obtain ⟨old, hold, hpath⟩ := mem_map.mp hpath
    rw [← hpath]
    exact hf.canonical old (hcanonical old hold)
  unfold checkNode at h ⊢
  simp only [bind_ok, failIf_ok, canonicalPaths_ok] at h ⊢
  obtain ⟨_, houtput, primitive, hprimitive, _, hcontract, _, hnew, _, hcount, keys,
    ⟨-, hkeys⟩, _, hfiles, hrest⟩ := h
  refine ⟨(), houtput, primitive, hprimitive, (), hcontract, (), hnew, (), ?_, keys,
    ⟨hcanonical', ?_⟩, (), ?_, hrest⟩
  · show ¬(node.provenance.map f = [] ∨ (node.provenance.map f).length > maxNodeProvenance)
    rw [map_eq_nil_iff, length_map]
    exact hcount
  · show ((node.provenance.map f).map Path.components).foldlM _ ∅ = _
    rw [hsame]
    exact hkeys
  · show ¬(keys.toList ≠ (node.provenance.map f).map Path.components ∨ _)
    rw [hsame]
    exact hfiles

lemma foldlM_checkNode_respell (hf : KeepsComponents f) {nodes : List IrNode}
    (h : nodes.foldlM (ir.checkNode files inputs parameters) pass = .ok pass') :
    (nodes.map (IrNode.respell f)).foldlM (ir.checkNode files inputs parameters) pass =
      .ok pass' := by
  induction nodes generalizing pass with
  | nil => exact h
  | cons node nodes ih =>
    rw [foldlM_cons, bind_ok] at h
    obtain ⟨middle, hnode, hrest⟩ := h
    rw [map_cons, foldlM_cons, checkNode_respell hf hnode]
    exact ih hrest

lemma foldlM_checkNode_canonical {nodes : List IrNode}
    (h : nodes.foldlM (ir.checkNode files inputs parameters) pass = .ok pass') :
    ∀ node ∈ nodes, ∀ path ∈ node.provenance, isCanonicalPath path = true := by
  induction nodes generalizing pass with
  | nil =>
    intro node hnode
    cases hnode
  | cons node nodes ih =>
    rw [foldlM_cons, bind_ok] at h
    obtain ⟨middle, hnode, hrest⟩ := h
    rw [forall_mem_cons]
    exact ⟨checkNode_canonical hnode, ih hrest⟩

variable [Platform] {envelope : SystemEnvelope}

lemma canonical_of_validate (h : ir.validateStructureAgainst envelope = .ok ()) :
    ∀ node ∈ ir.nodes, ∀ path ∈ node.provenance, isCanonicalPath path = true := by
  unfold validateStructureAgainst at h
  cases hmanifest : envelope.manifest with
  | error e =>
    rw [hmanifest] at h
    cases h
  | ok u =>
    simp only [hmanifest, bind_ok] at h
    obtain ⟨_, -, _, -, _, -, _, -, _, -, _, -, _, hnodes, -⟩ := h
    exact foldlM_checkNode_canonical hnodes

/-- A representation is accepted in every spelling. -/
lemma validateStructure_respell (hf : KeepsComponents f)
    (h : ir.validateStructureAgainst envelope = .ok ()) :
    (ir.respell f).validateStructureAgainst envelope = .ok () := by
  unfold validateStructureAgainst at h ⊢
  cases hmanifest : envelope.manifest with
  | error e =>
    rw [hmanifest] at h
    cases h
  | ok u =>
    simp only [hmanifest, bind_ok, failIf_ok] at h ⊢
    obtain ⟨_, henvelope, _, hprimitives, _, hbudget, inputs, hinputs, parameters, hparameters, _,
      hempty, pass, hnodes, hrest⟩ := h
    refine ⟨(), henvelope, (), hprimitives, (), ?_, inputs, hinputs, parameters, hparameters, (),
      ?_, pass, ?_, hrest⟩
    · show ¬(_ ∨ _ ∨ (ir.nodes.map (IrNode.respell f)).length > maxIrNodes ∨ _)
      rw [length_map]
      exact hbudget
    · show ¬(_ ∨ ir.nodes.map (IrNode.respell f) = [])
      rw [map_eq_nil_iff]
      exact hempty
    · exact foldlM_checkNode_respell hf hnodes

/-- The stored form of another spelling is accepted, unless its digest is the draft marker. -/
lemma validateAgainst_respell (hf : KeepsComponents f) {capabilityId : CapabilityId}
    (h : ir.validateStructureAgainst envelope = .ok ())
    (hdraft : (StoredIr.ofBody capabilityId (ir.respell f)).calculateDigest ≠ zero) :
    (StoredIr.ofBody capabilityId (ir.respell f)).validateAgainst envelope = .ok () := by
  rw [StoredIr.validateAgainst_ok]
  refine ⟨validateStructure_respell hf h, ?_, rfl⟩
  rw [← StoredIr.calculateDigest_ofBody]
  exact hdraft

end

/-! ## When there is one form only -/

/-- The nodes agree but for the spelling of their paths. -/
structure NodeRespells (node other : IrNode) : Prop where
  nodeId : other.nodeId = node.nodeId
  primitiveId : other.primitiveId = node.primitiveId
  inputs : other.inputs = node.inputs
  output : other.output = node.output
  provenance : List.Forall₂ (fun path path' => Path.components path' = Path.components path)
    node.provenance other.provenance

/-- The representations agree but for the spelling of their paths, and for the digest. -/
structure Respells (ir other : StoredIr) : Prop where
  capabilityId : other.capabilityId = ir.capabilityId
  systemEnvelopeSha256 : other.body.systemEnvelopeSha256 = ir.body.systemEnvelopeSha256
  primitiveSet : other.body.primitiveSet = ir.body.primitiveSet
  inputs : other.body.inputs = ir.body.inputs
  parameters : other.body.parameters = ir.body.parameters
  nodes : List.Forall₂ NodeRespells ir.body.nodes other.body.nodes
  outputs : other.body.outputs = ir.body.outputs

section

variable [Platform] {envelope : SystemEnvelope} {ir : StoredIr}

lemma respells_ofBody {f : String → String} (hf : KeepsComponents f)
    (h : ir.body.validateStructureAgainst envelope = .ok ()) :
    Respells ir (StoredIr.ofBody ir.capabilityId (ir.body.respell f)) := by
  refine ⟨rfl, rfl, rfl, rfl, rfl, ?_, rfl⟩
  show Forall₂ NodeRespells ir.body.nodes (ir.body.nodes.map (IrNode.respell f))
  have hcanonical := canonical_of_validate h
  rw [forall₂_map_right_iff, forall₂_same]
  intro node hnode
  refine ⟨rfl, rfl, rfl, rfl, ?_⟩
  show Forall₂ _ node.provenance (node.provenance.map f)
  rw [forall₂_map_right_iff, forall₂_same]
  intro path hpath
  exact hf.components path (hcanonical node hnode path hpath)

omit [Platform] in
lemma nodes_eq_of_forall₂ {nodes others : List IrNode} (hall : Forall₂ NodeRespells nodes others)
    (hunique : ∀ node ∈ nodes, ∀ path ∈ node.provenance, ∀ path',
      isCanonicalPath path' = true → components path' = components path → path' = path)
    (hcanonical : ∀ node ∈ others, ∀ path ∈ node.provenance, isCanonicalPath path = true) :
    others = nodes := by
  induction hall with
  | nil => rfl
  | @cons node other nodes others hnode _ ih =>
    rw [forall_mem_cons] at hunique hcanonical
    rw [ih hunique.2 hcanonical.2]
    congr 1
    -- the paths of the two nodes, one by one
    have hpaths : other.provenance = node.provenance := by
      have hforall := hnode.provenance
      have hone := hunique.1
      have hgood := hcanonical.1
      generalize node.provenance = paths at hforall hone
      generalize other.provenance = paths' at hforall hgood
      induction hforall with
      | nil => rfl
      | cons hpath _ ihpaths =>
        rw [forall_mem_cons] at hone hgood
        rw [ihpaths hone.2 hgood.2, hone.1 _ hgood.1 hpath]
    obtain ⟨hid, hprimitive, hinputs, houtput, -⟩ := hnode
    cases node
    cases other
    simp_all

/-- **When a representation has one stored form only.** -/
theorem unique_form_iff (haccept : ir.validateAgainst envelope = .ok ())
    (hdraft : ∀ other, Respells ir other → other.calculateDigest ≠ Sha256Digest.zero) :
    (∀ other : StoredIr, other.validateAgainst envelope = .ok () → Respells ir other →
      toVec other = toVec ir ∧ other.manifestSha256 = ir.manifestSha256) ↔
    ∀ node ∈ ir.body.nodes, ∀ path ∈ node.provenance, (Path.tidy path).utf8ByteSize = 4096 := by
  obtain ⟨hstructure, -, hdigest⟩ := StoredIr.validateAgainst_ok.mp haccept
  have hcanonical := canonical_of_validate hstructure
  constructor
  · intro hunique node hnode path hpath
    obtain ⟨hplain, hsize⟩ := isCanonicalPath_iff.mp (hcanonical node hnode path hpath)
    apply (unique_spelling hplain hsize).mp
    intro path' hplain' hsame hsize'
    -- spell this path the other way, everywhere
    have hf : KeepsComponents fun p => if p = path then path' else p := by
      constructor
      · intro p _
        by_cases hp : p = path
        · rw [if_pos hp, hsame, hp]
        · rw [if_neg hp]
      · intro p hgood
        by_cases hp : p = path
        · rw [if_pos hp]
          exact isCanonicalPath_iff.mpr ⟨hplain', hsize'⟩
        · rw [if_neg hp]
          exact hgood
    have hrespells := respells_ofBody hf hstructure
    obtain ⟨hbytes, -⟩ := hunique _ (validateAgainst_respell hf hstructure
      (hdraft _ hrespells)) hrespells
    have hbody := congrArg (fun i : StoredIr => i.body.nodes) (toVec_injective hbytes)
    have hnodes : ir.body.nodes.map (IrNode.respell fun p => if p = path then path' else p) =
        ir.body.nodes := hbody
    have hnodeSame := map_inj_left.mp (hnodes.trans (map_id _).symm) node hnode
    have hprovenance := congrArg IrNode.provenance hnodeSame
    have hpathSame := map_inj_left.mp (hprovenance.trans (map_id _).symm) path hpath
    rw [if_pos rfl] at hpathSame
    exact hpathSame
  · intro hfull other hother hrespells
    obtain ⟨hstructure', -, hdigest'⟩ := StoredIr.validateAgainst_ok.mp hother
    have hnodes : other.body.nodes = ir.body.nodes := by
      apply nodes_eq_of_forall₂ hrespells.nodes
      · intro node hnode path hpath path' hgood hsame
        obtain ⟨hplain, hsize⟩ := isCanonicalPath_iff.mp (hcanonical node hnode path hpath)
        obtain ⟨hplain', hsize'⟩ := isCanonicalPath_iff.mp hgood
        exact (unique_spelling hplain hsize).mpr (hfull node hnode path hpath) path'
          hplain' hsame hsize'
      · exact canonical_of_validate hstructure'
    have hsealed : ({ other with manifestSha256 := zero } : StoredIr) =
        { ir with manifestSha256 := zero } := by
      obtain ⟨hcapability, henvelope, hprimitives, hinputs, hparameters, -, houtputs⟩ := hrespells
      obtain ⟨_, ⟨_, _, _, _, _, _⟩, _⟩ := ir
      obtain ⟨_, ⟨_, _, _, _, _, _⟩, _⟩ := other
      simp_all
    have hmanifest : other.manifestSha256 = ir.manifestSha256 := by
      rw [← hdigest', ← hdigest]
      unfold StoredIr.calculateDigest
      rw [hsealed]
    refine ⟨?_, hmanifest⟩
    have hsame : other = ir := by
      obtain ⟨_, _, _⟩ := ir
      obtain ⟨_, _, _⟩ := other
      simp_all
    rw [hsame]

end

end Tidex.Capability

/-! ## Two forms of a sum -/

namespace Tidex.IrFormSample

open Tidex.Lib
open Tidex.Capability

lemma ones_valid :
    Sha256Digest.isValidStr "1111111111111111111111111111111111111111111111111111111111111111" =
      true := by
  decide

def ones : Sha256Digest :=
  ⟨"1111111111111111111111111111111111111111111111111111111111111111", ones_valid⟩

/-- SHA-256, with another digest in place of the draft marker. -/
@[reducible] noncomputable def guarded : Platform where
  sha256 bytes := if Tidex.sha256 bytes = Sha256Digest.zero then ones else Tidex.sha256 bytes
  fromSlice α _ bytes := decodeExactly α bytes

attribute [local instance] guarded

lemma digestDomain_ne_zero (domain : String) (payload : ByteArray) :
    Sha256Digest.digestDomain domain payload ≠ Sha256Digest.zero := by
  have hones : ones ≠ Sha256Digest.zero := by decide
  show (if Tidex.sha256 (domain.toByteArray ++ payload) = Sha256Digest.zero then ones
    else Tidex.sha256 (domain.toByteArray ++ payload)) ≠ Sha256Digest.zero
  by_cases hzero : Tidex.sha256 (domain.toByteArray ++ payload) = Sha256Digest.zero
  · rw [if_pos hzero]
    exact hones
  · rw [if_neg hzero]
    exact hzero

lemma calculateDigest_ne_zero (ir : StoredIr) : ir.calculateDigest ≠ Sha256Digest.zero := by
  unfold StoredIr.calculateDigest
  exact digestDomain_ne_zero _ _

/-- The sum of an input and a parameter. -/
noncomputable def body : CapabilityIr where
  systemEnvelopeSha256 := Sha256Digest.zero
  primitiveSet := PrimitiveSet.tidexCoreV1
  inputs := [IrSample.matrix IrSample.vector]
  parameters := [⟨IrSample.matrix IrSample.weight⟩]
  nodes := [IrSample.node]
  outputs := [⟨IrSample.matrix IrSample.result, .nodeOutput IrSample.sum⟩]

lemma checkNode_congr {ir other : CapabilityIr}
    (h : other.primitiveSet.primitives = ir.primitiveSet.primitives) :
    other.checkNode = ir.checkNode := by
  unfold CapabilityIr.checkNode PrimitiveSet.find
  rw [h]

lemma validate_body : body.validateStructureAgainst IrSample.envelope = .ok () := by
  -- the loops of the sample, on the lists themselves
  have hinputs : [IrSample.matrix IrSample.vector].foldlM CapabilityIr.checkInput ∅ =
      .ok IrSample.inputPorts := IrSample.inputs_ok
  have hparameters : [(⟨IrSample.matrix IrSample.weight⟩ : ParameterSlot)].foldlM
      (CapabilityIr.checkParameter IrSample.inputPorts) ∅ = .ok IrSample.parameterPorts :=
    IrSample.parameters_ok
  have hnode : body.checkNode (CapabilityIr.sourceFiles IrSample.envelope) IrSample.inputPorts
      IrSample.parameterPorts ⟨∅, ∅, ∅⟩ IrSample.node = .ok IrSample.nodePass := by
    have hbody : body.primitiveSet.primitives = PrimitiveSet.coreContracts := rfl
    have hsample : IrSample.ir.primitiveSet.primitives = PrimitiveSet.coreContracts := rfl
    rw [checkNode_congr (hbody.trans hsample.symm)]
    exact IrSample.node_ok
  have houtputs : [(⟨IrSample.matrix IrSample.result, .nodeOutput IrSample.sum⟩ :
      OutputBinding)].foldlM (CapabilityIr.checkOutput IrSample.inputPorts
        IrSample.parameterPorts IrSample.nodePass.known) ⟨∅, []⟩ =
      .ok ⟨(∅ : BTreeSet PortId).insert IrSample.result, [IrSample.sum]⟩ := IrSample.outputs_ok
  unfold CapabilityIr.validateStructureAgainst
  simp only [IrSample.envelope, bind_ok, failIf_ok]
  refine ⟨(), ?_, (), PrimitiveSet.verify_tidexCoreV1, (), ?_, IrSample.inputPorts, hinputs,
    IrSample.parameterPorts, hparameters, (), ?_, IrSample.nodePass, ?_, _, houtputs, _,
    IrSample.search_ok, (), ?_, ?_⟩
  · exact failIf_ok.mpr (not_not.mpr rfl)
  · show ¬(1 > maxIrInputs ∨ 1 > maxIrParameters ∨ 1 > maxIrNodes ∨ 1 > maxIrOutputs)
    decide
  · intro hempty
    rcases hempty with hempty | hempty <;> cases hempty
  · show [IrSample.node].foldlM (body.checkNode (CapabilityIr.sourceFiles IrSample.envelope)
      IrSample.inputPorts IrSample.parameterPorts) ⟨∅, ∅, ∅⟩ = _
    rw [List.foldlM_cons, hnode]
    rfl
  · rw [BTreeSet.size_insert_new Std.ExtTreeSet.not_mem_empty]
    show ¬(_ ≠ IrSample.knownNodes.size)
    unfold IrSample.knownNodes
    rw [BTreeMap.size_insert_new Std.ExtTreeMap.not_mem_empty]
    exact not_not.mpr rfl
  · show ((∅ : BTreeSet PortId).insert IrSample.weight).size ≠ IrSample.parameterPorts.size →
      False
    unfold IrSample.parameterPorts
    rw [BTreeSet.size_insert_new Std.ExtTreeSet.not_mem_empty,
      BTreeMap.size_insert_new Std.ExtTreeMap.not_mem_empty]
    intro hne
    exact hne rfl

def capabilityId : CapabilityId := ⟨"matrix.sum", by decide⟩

noncomputable def stored : StoredIr := StoredIr.ofBody capabilityId body

lemma stored_accepted : stored.validateAgainst IrSample.envelope = .ok () := by
  have hdigest : stored.calculateDigest = stored.manifestSha256 :=
    StoredIr.calculateDigest_ofBody capabilityId body
  rw [StoredIr.validateAgainst_ok, ← hdigest]
  exact ⟨validate_body, calculateDigest_ne_zero stored, rfl⟩

def respelled (path : String) : String := if path = "src/lib.rs" then "src//lib.rs" else path

lemma respelled_keeps : KeepsComponents respelled := by
  have hcomponents : Path.components "src//lib.rs" = Path.components "src/lib.rs" := by decide
  have hcanonical : isCanonicalPath "src//lib.rs" = true := by decide
  unfold respelled
  constructor
  · intro path _
    by_cases hpath : path = "src/lib.rs"
    · rw [if_pos hpath, hcomponents, hpath]
    · rw [if_neg hpath]
  · intro path hgood
    by_cases hpath : path = "src/lib.rs"
    · rw [if_pos hpath]
      exact hcanonical
    · rw [if_neg hpath]
      exact hgood

/-- Two accepted representations that differ in one slash have different bytes. -/
theorem two_forms : ∃ other : StoredIr,
    other.validateAgainst IrSample.envelope = .ok () ∧ Respells stored other ∧
      toVec other ≠ toVec stored := by
  refine ⟨StoredIr.ofBody capabilityId (body.respell respelled),
    validateAgainst_respell respelled_keeps validate_body (calculateDigest_ne_zero _),
    respells_ofBody respelled_keeps validate_body, ?_⟩
  intro hbytes
  have hnodes := congrArg (fun i : StoredIr => i.body.nodes.map IrNode.provenance)
    (toVec_injective hbytes)
  have htexts : [["src//lib.rs"]] = [["src/lib.rs"]] := hnodes
  exact absurd htexts (by decide)

/-- The paths of the sum do not fill their space. -/
theorem stored_not_unique : ¬∀ other : StoredIr,
    other.validateAgainst IrSample.envelope = .ok () → Respells stored other →
      toVec other = toVec stored ∧ other.manifestSha256 = stored.manifestSha256 := by
  rw [unique_form_iff stored_accepted fun other _ => calculateDigest_ne_zero other]
  intro hfull
  have hsize := hfull IrSample.node (List.mem_singleton.mpr rfl) "src/lib.rs"
    (List.mem_singleton.mpr rfl)
  have htidy : (Path.tidy "src/lib.rs").utf8ByteSize = 10 := by decide
  rw [htidy] at hsize
  omega

end Tidex.IrFormSample
