/-
  Capability.Ir — the typed intermediate representation of a capability.
-/
import Mathlib.Algebra.BigOperators.Ring.List
import Tidex.Foundation.Names
import Tidex.Foundation.Reference
import Tidex.Lib.Digraph
import Tidex.Lib.Path
import Tidex.Lib.Worklist

namespace Tidex

open Tidex.Lib List Function BTreeMap BTreeSet Sha256Digest

/-! ## Names -/

lemma SemanticId.asStr_injective {label : String} : Injective (@SemanticId.asStr label) := by
  intro a b h
  cases a
  cases b
  cases h
  rfl

instance {label : String} : Ord (SemanticId label) := ordBy SemanticId.asStr
instance {label : String} : Std.TransOrd (SemanticId label) := transOrd_ordBy SemanticId.asStr
instance {label : String} : Std.LawfulEqOrd (SemanticId label) :=
  lawfulEqOrd_ordBy SemanticId.asStr_injective

abbrev PrimitiveId := SemanticId "primitive_id"
abbrev PrimitiveProfileId := SemanticId "primitive_profile_id"
abbrev CapabilityNodeId := SemanticId "capability_node_id"

/-- A name without dots. -/
structure PortId where
  asStr : String
  valid : validateSemanticId false asStr = true
  deriving DecidableEq

lemma PortId.asStr_injective : Injective PortId.asStr := by
  intro a b h
  cases a
  cases b
  cases h
  rfl

instance : Ord PortId := ordBy PortId.asStr
instance : Std.TransOrd PortId := transOrd_ordBy PortId.asStr
instance : Std.LawfulEqOrd PortId := lawfulEqOrd_ordBy PortId.asStr_injective

instance : SerializeSome PortId where
  toJson i := .str i.asStr
  toJson_injective := by
    intro a b h
    exact PortId.asStr_injective (Json.str.inj h)

instance : Std.TransOrd PathComponent := transOrd_ordByPair Path.rank Path.componentText

instance : Std.LawfulEqOrd PathComponent := by
  apply lawfulEqOrd_ordByPair
  intro a b hrank htext
  cases a <;> cases b <;> first
    | rfl
    | (simp [Path.rank] at hrank; done)
    | exact congrArg PathComponent.normal htext

namespace Capability

/-! ## Ports -/

def maxIrInputs : Nat := 4096
def maxIrParameters : Nat := 4096
def maxIrNodes : Nat := 65536
def maxIrOutputs : Nat := 4096
def maxTensorRank : Nat := 16
def maxTensorElements : Nat := 2 ^ 40
def maxNodeProvenance : Nat := 4096

def dimensionWidth : Nat := 2 ^ 64

inductive ValueType where
  | bool
  | i64
  | f64
  | bytes
  | tensorF64
  deriving DecidableEq

structure TypedPort where
  name : PortId
  valueType : ValueType
  shape : List Nat
  deriving DecidableEq

/-- The number of elements of a tensor, within a machine word. -/
def elementCount (label : String) (shape : List Nat) : BrainResult Nat :=
  shape.foldlM (fun product dimension =>
    checkedMul dimensionWidth product dimension (invalid (label ++ "_element_count_overflow"))) 1

def TypedPort.validate (p : TypedPort) (label : String) : BrainResult Unit := do
  failIf (p.shape.length > maxTensorRank ∨ 0 ∈ p.shape) (invalid (label ++ "_invalid"))
  failIf (p.valueType ≠ .tensorF64 ∧ p.shape ≠ []) (invalid (label ++ "_shape_for_non_tensor"))
  if p.valueType = .tensorF64 then do
    let elements ← elementCount label p.shape
    failIf (p.shape = [] ∨ elements > maxTensorElements)
      (invalid (label ++ "_tensor_shape_invalid"))
  else return ()

/-- A value that a resident candidate supplies. -/
structure ParameterSlot where
  port : TypedPort
  deriving DecidableEq

/-! ## Primitives -/

inductive EffectKind where
  | pure
  deriving DecidableEq

def EffectKind.wireName : EffectKind → String
  | .pure => "pure"

lemma EffectKind.wireName_injective : Injective EffectKind.wireName := by
  intro a b _
  cases a
  cases b
  rfl

instance : Ord EffectKind := ordBy EffectKind.wireName
instance : Std.TransOrd EffectKind := transOrd_ordBy EffectKind.wireName
instance : Std.LawfulEqOrd EffectKind := lawfulEqOrd_ordBy EffectKind.wireName_injective

inductive ShapeRule where
  | elementwiseSame
  | tensorScale
  | matrixMultiply2d
  | preserveFirst
  | scalar
  deriving DecidableEq

structure PrimitiveContract where
  primitiveId : PrimitiveId
  inputTypes : List ValueType
  outputType : ValueType
  shapeRule : ShapeRule
  effects : BTreeSet EffectKind
  deriving DecidableEq

def PrimitiveContract.validate (c : PrimitiveContract) : BrainResult Unit := do
  failIf (c.inputTypes = [] ∨ c.effects.isEmpty = true) (invalid "primitive_contract_invalid")
  failIf (.pure ∈ c.effects ∧ c.effects.size ≠ 1) (invalid "primitive_effects_invalid")

structure PrimitiveSet where
  profileId : PrimitiveProfileId
  primitives : List PrimitiveContract
  sha256 : Sha256Digest
  deriving DecidableEq

def ValueType.wireName : ValueType → String
  | .bool => "bool"
  | .i64 => "i64"
  | .f64 => "f64"
  | .bytes => "bytes"
  | .tensorF64 => "tensor_f64"

lemma ValueType.wireName_injective : Injective ValueType.wireName := by
  intro a b h
  cases a <;> cases b <;> first | rfl | exact absurd h (by decide)

instance : Serialize ValueType := serializeName ValueType.wireName ValueType.wireName_injective

def ShapeRule.wireName : ShapeRule → String
  | .elementwiseSame => "elementwise_same"
  | .tensorScale => "tensor_scale"
  | .matrixMultiply2d => "matrix_multiply2d"
  | .preserveFirst => "preserve_first"
  | .scalar => "scalar"

lemma ShapeRule.wireName_injective : Injective ShapeRule.wireName := by
  intro a b h
  cases a <;> cases b <;> first | rfl | exact absurd h (by decide)

instance : Serialize ShapeRule := serializeName ShapeRule.wireName ShapeRule.wireName_injective

instance : Serialize EffectKind := serializeName EffectKind.wireName EffectKind.wireName_injective

instance : Serialize PrimitiveContract where
  toJson c := .obj [("primitive_id", toJson c.primitiveId), ("input_types", toJson c.inputTypes),
    ("output_type", toJson c.outputType), ("shape_rule", toJson c.shapeRule),
    ("effects", toJson c.effects)]

instance : Serialize PrimitiveSet where
  toJson s := .obj [("profile_id", toJson s.profileId), ("primitives", toJson s.primitives),
    ("sha256", toJson s.sha256)]

namespace PrimitiveSet

variable [Platform]

def calculateDigest (s : PrimitiveSet) : Sha256Digest :=
  digestDomain "TIDEX:PRIMITIVE-SET:v1\x00"
    (toVec { s with sha256 := zero })

def pureContract (id : PrimitiveId) (inputTypes : List ValueType) (outputType : ValueType)
    (shapeRule : ShapeRule) : PrimitiveContract where
  primitiveId := id
  inputTypes := inputTypes
  outputType := outputType
  shapeRule := shapeRule
  effects := (∅ : BTreeSet EffectKind).insert .pure

def coreContracts : List PrimitiveContract :=
  [pureContract ⟨"tensor.add", by decide⟩ [.tensorF64, .tensorF64] .tensorF64 .elementwiseSame,
    pureContract ⟨"tensor.scale", by decide⟩ [.tensorF64, .f64] .tensorF64 .tensorScale,
    pureContract ⟨"tensor.matmul", by decide⟩ [.tensorF64, .tensorF64] .tensorF64
      .matrixMultiply2d,
    pureContract ⟨"tensor.normalize", by decide⟩ [.tensorF64] .tensorF64 .preserveFirst,
    pureContract ⟨"select.arg_max", by decide⟩ [.tensorF64] .i64 .scalar,
    pureContract ⟨"compare.less_than", by decide⟩ [.f64, .f64] .bool .scalar]

def tidexCoreV1 : PrimitiveSet :=
  let primitiveSet : PrimitiveSet := {
    profileId := ⟨"tidex.core.v1", by decide⟩
    primitives := coreContracts
    sha256 := zero }
  { primitiveSet with sha256 := primitiveSet.calculateDigest }

def verifyPrimitive (identities : BTreeSet PrimitiveId) (c : PrimitiveContract) :
    BrainResult (BTreeSet PrimitiveId) := do
  c.validate
  BTreeSet.insertOnce PrimitiveContract.primitiveId (invalid "primitive_set_duplicate_id")
    identities c

def verify (s : PrimitiveSet) : BrainResult Unit := do
  failIf (s ≠ tidexCoreV1) (integrity "primitive_set_not_authorized")
  let _ ← s.primitives.foldlM verifyPrimitive ∅

omit [Platform] in
def find (s : PrimitiveSet) (id : PrimitiveId) : Option PrimitiveContract :=
  s.primitives.find? fun primitive => primitive.primitiveId = id

end PrimitiveSet

/-! ## Representations -/

inductive ValueReference where
  | input (name : PortId)
  | parameter (name : PortId)
  | nodeOutput (nodeId : CapabilityNodeId)
  deriving DecidableEq

structure OutputBinding where
  port : TypedPort
  source : ValueReference

structure IrNode where
  nodeId : CapabilityNodeId
  primitiveId : PrimitiveId
  inputs : List ValueReference
  output : TypedPort
  provenance : List String

inductive SnapshotEntryKind where
  | file
  | directory
  deriving DecidableEq

structure SnapshotEntry where
  relativePath : String
  kind : SnapshotEntryKind

/-- What a representation is checked against: whether the envelope's own manifest verifies, its
    digest, and its entries. -/
structure SystemEnvelope where
  manifest : BrainResult Unit
  manifestSha256 : Sha256Digest
  entries : List SnapshotEntry

structure CapabilityIr where
  systemEnvelopeSha256 : Sha256Digest
  primitiveSet : PrimitiveSet
  inputs : List TypedPort
  parameters : List ParameterSlot
  nodes : List IrNode
  outputs : List OutputBinding

/-! ## Validation -/

abbrev Ports := BTreeMap PortId TypedPort
abbrev NodePorts := BTreeMap CapabilityNodeId TypedPort

def resolveReference (reference : ValueReference) (inputs parameters : Ports)
    (knownNodes : NodePorts) : BrainResult TypedPort :=
  match reference with
  | .input name => okOr inputs[name]? (integrity "capability_ir_input_unknown")
  | .parameter name => okOr parameters[name]? (integrity "capability_ir_parameter_unknown")
  | .nodeOutput nodeId => okOr knownNodes[nodeId]? (integrity "capability_ir_node_reference_invalid")

def shapeRuleValid (rule : ShapeRule) (operands : List TypedPort) (output : TypedPort) : Bool :=
  match rule, operands with
  | .elementwiseSame, [a, b] => a.shape == b.shape && output.shape == a.shape
  | .tensorScale, [a, b] => b.shape.isEmpty && output.shape == a.shape
  | .matrixMultiply2d, [a, b] =>
    match a.shape, b.shape with
    | [m, k], [k', n] => k == k' && output.shape == [m, n]
    | _, _ => false
  | .preserveFirst, [a] => output.shape == a.shape
  | .scalar, _ => output.shape.isEmpty
  | _, _ => false

def validateShapeRule (rule : ShapeRule) (operands : List TypedPort) (output : TypedPort) :
    BrainResult Unit :=
  failIf (shapeRuleValid rule operands output = false)
    (integrity "capability_ir_operand_shape_mismatch")

abbrev PathKey := List PathComponent

/-- A path that is relative, short and plain. -/
def isCanonicalPath (path : String) : Bool :=
  !(path.toList.isEmpty || Path.isAbsolute path || path.utf8ByteSize > 4096
    || (Path.components path).any fun component => (Path.asNormal component).isNone)

def canonicalPath (label : String) (result : BTreeSet PathKey) (path : String) :
    BrainResult (BTreeSet PathKey) := do
  failIf (isCanonicalPath path = false) (invalid (label ++ "_invalid"))
  BTreeSet.insertOnce Path.components (invalid (label ++ "_invalid")) result path

def canonicalPaths (paths : List String) (label : String) : BrainResult (BTreeSet PathKey) :=
  paths.foldlM (canonicalPath label) ∅

structure NodePass where
  known : NodePorts
  dependencies : BTreeMap CapabilityNodeId (BTreeSet CapabilityNodeId)
  used : BTreeSet PortId

def ValueReference.asNode : ValueReference → Option CapabilityNodeId
  | .nodeOutput nodeId => some nodeId
  | _ => none

def ValueReference.asParameter : ValueReference → Option PortId
  | .parameter name => some name
  | _ => none

namespace CapabilityIr

variable (ir : CapabilityIr)

def checkInput (inputs : Ports) (input : TypedPort) : BrainResult Ports := do
  input.validate "capability_ir_input"
  insertEach TypedPort.name id (invalid "capability_ir_input_duplicate") inputs input

def checkParameter (inputs parameters : Ports) (parameter : ParameterSlot) :
    BrainResult Ports := do
  parameter.port.validate "capability_ir_parameter"
  failIf (parameter.port.valueType ≠ .f64 ∧ parameter.port.valueType ≠ .tensorF64)
    (invalid "capability_ir_parameter_not_numeric")
  failIf (parameter.port.name ∈ inputs) (invalid "capability_ir_input_parameter_name_collision")
  insertEach (fun p : ParameterSlot => p.port.name) ParameterSlot.port
    (invalid "capability_ir_parameter_duplicate") parameters parameter

def sourceFiles (envelope : SystemEnvelope) : BTreeSet PathKey :=
  BTreeSet.extend ∅ ((envelope.entries.filter fun entry => entry.kind = .file).map
    fun entry => Path.components entry.relativePath)

def checkNode (files : BTreeSet PathKey) (inputs parameters : Ports) (pass : NodePass)
    (node : IrNode) : BrainResult NodePass := do
  node.output.validate "capability_ir_node_output"
  let primitive ← okOr (ir.primitiveSet.find node.primitiveId)
    (integrity "capability_ir_primitive_not_admitted")
  failIf (node.inputs.length ≠ primitive.inputTypes.length ∨
    node.output.valueType ≠ primitive.outputType) (invalid "capability_ir_node_contract_invalid")
  failIf (node.nodeId ∈ pass.known) (invalid "capability_ir_node_duplicate")
  failIf (node.provenance = [] ∨ node.provenance.length > maxNodeProvenance)
    (invalid "capability_ir_node_provenance_missing")
  let provenance ← canonicalPaths node.provenance "capability_ir_provenance"
  failIf (provenance.toList ≠ node.provenance.map Path.components ∨
    ∃ path ∈ provenance.toList, path ∉ files) (integrity "capability_ir_provenance_invalid")
  let operands ← node.inputs.mapM fun reference =>
    resolveReference reference inputs parameters pass.known
  forM (operands.zip primitive.inputTypes) fun pair =>
    failIf (pair.1.valueType ≠ pair.2) (integrity "capability_ir_operand_type_mismatch")
  validateShapeRule primitive.shapeRule operands node.output
  return {
    known := pass.known.insert node.nodeId node.output
    dependencies := pass.dependencies.insert node.nodeId
      (BTreeSet.extend ∅ (node.inputs.filterMap ValueReference.asNode))
    used := BTreeSet.extend pass.used (node.inputs.filterMap ValueReference.asParameter) }

/-- The names of the outputs so far, and the nodes to search from, the last first. -/
structure OutputPass where
  names : BTreeSet PortId
  pending : List CapabilityNodeId

def checkOutput (inputs parameters : Ports) (known : NodePorts) (pass : OutputPass)
    (binding : OutputBinding) : BrainResult OutputPass := do
  binding.port.validate "capability_ir_output"
  let names ← BTreeSet.insertOnce (fun b : OutputBinding => b.port.name)
    (invalid "capability_ir_output_duplicate") pass.names binding
  let source ← resolveReference binding.source inputs parameters known
  failIf (source.valueType ≠ binding.port.valueType ∨ source.shape ≠ binding.port.shape)
    (integrity "capability_ir_output_contract_mismatch")
  return { names := names, pending := binding.source.asNode.toList ++ pass.pending }

def validateStructureAgainst [Platform] (envelope : SystemEnvelope) : BrainResult Unit := do
  match envelope.manifest with
  | .error _ => .error (integrity "capability_ir_envelope_not_authenticated")
  | .ok () => do
    failIf (ir.systemEnvelopeSha256 ≠ envelope.manifestSha256)
      (integrity "capability_ir_envelope_mismatch")
    ir.primitiveSet.verify
    failIf (ir.inputs.length > maxIrInputs ∨ ir.parameters.length > maxIrParameters ∨
      ir.nodes.length > maxIrNodes ∨ ir.outputs.length > maxIrOutputs)
      (invalid "capability_ir_budget_exceeded")
    let inputs ← ir.inputs.foldlM checkInput ∅
    let parameters ← ir.parameters.foldlM (checkParameter inputs) ∅
    failIf (ir.outputs = [] ∨ ir.nodes = []) (invalid "capability_ir_empty")
    let pass ← ir.nodes.foldlM (ir.checkNode (sourceFiles envelope) inputs parameters) ⟨∅, ∅, ∅⟩
    let outputs ← ir.outputs.foldlM (checkOutput inputs parameters pass.known) ⟨∅, []⟩
    let reachable ← search (integrity "capability_ir_reachability_invalid") pass.dependencies ∅
      outputs.pending
    failIf (reachable.size ≠ pass.known.size) (integrity "capability_ir_dead_node")
    failIf (pass.used.size ≠ parameters.size) (integrity "capability_ir_dead_parameter")

end CapabilityIr

/-! ## Evaluation -/

def outputShape : ShapeRule → List (List Nat) → Option (List Nat)
  | .elementwiseSame, [a, b] => if a = b then some a else none
  | .tensorScale, [a, b] => if b = [] then some a else none
  | .matrixMultiply2d, [a, b] =>
    match a, b with
    | [m, k], [k', n] => if k = k' then some [m, n] else none
    | _, _ => none
  | .preserveFirst, [a] => some a
  | .scalar, _ => some []
  | _, _ => none

class Typed (V : Type) where
  typeOf : V → ValueType
  shapeOf : V → List Nat

export Typed (typeOf shapeOf)

structure HasPort {V : Type} [Typed V] (v : V) (port : TypedPort) : Prop where
  type : typeOf v = port.valueType
  shape : shapeOf v = port.shape

inductive EvalError where
  | inputUndefined
  | parameterUndefined
  | nodeUndefined
  | primitiveUndefined
  | typeMismatch
  | shapeMismatch

/-- What each primitive does to its operands. -/
abbrev Semantics (V : Type) := PrimitiveId → List V → Option V

/-- The values that are given, and those of the nodes so far. -/
structure Env (V : Type) where
  inputs : PortId → Option V
  parameters : PortId → Option V
  nodes : CapabilityNodeId → Option V

section

variable {V : Type} [Typed V]

namespace Env

omit [Typed V] in
def resolve (env : Env V) : ValueReference → Except EvalError V
  | .input name => okOr (env.inputs name) .inputUndefined
  | .parameter name => okOr (env.parameters name) .parameterUndefined
  | .nodeOutput nodeId => okOr (env.nodes nodeId) .nodeUndefined

omit [Typed V] in
def setNode (env : Env V) (nodeId : CapabilityNodeId) (v : V) : Env V :=
  { env with nodes := update env.nodes nodeId (some v) }

end Env

/-- Evaluate a node on values whose types and shapes are looked at again. -/
def evalNode (primitiveSet : PrimitiveSet) (semantics : Semantics V) (env : Env V)
    (node : IrNode) : Except EvalError (Env V) := do
  let operands ← node.inputs.mapM env.resolve
  let primitive ← okOr (primitiveSet.find node.primitiveId) .primitiveUndefined
  failIf (operands.map typeOf ≠ primitive.inputTypes) .typeMismatch
  let shape ← okOr (outputShape primitive.shapeRule (operands.map shapeOf)) .shapeMismatch
  let value ← okOr (semantics node.primitiveId operands) .primitiveUndefined
  failIf (typeOf value ≠ node.output.valueType) .typeMismatch
  failIf (shape ≠ node.output.shape ∨ shapeOf value ≠ node.output.shape) .shapeMismatch
  return env.setNode node.nodeId value

def evalOutput (env : Env V) (binding : OutputBinding) : Except EvalError V := do
  let value ← env.resolve binding.source
  failIf (typeOf value ≠ binding.port.valueType) .typeMismatch
  failIf (shapeOf value ≠ binding.port.shape) .shapeMismatch
  return value

/-- Evaluate the nodes in the order of the list, then the outputs. -/
def CapabilityIr.evaluate (ir : CapabilityIr) (semantics : Semantics V) (env : Env V) :
    Except EvalError (List V) := do
  let env ← ir.nodes.foldlM (evalNode ir.primitiveSet semantics) env
  ir.outputs.mapM (evalOutput env)

def Respects (primitiveSet : PrimitiveSet) (semantics : Semantics V) : Prop :=
  ∀ contract ∈ primitiveSet.primitives, ∀ (operands : List V) (shape : List Nat),
    operands.map typeOf = contract.inputTypes →
    outputShape contract.shapeRule (operands.map shapeOf) = some shape →
    ∃ v, semantics contract.primitiveId operands = some v ∧
      typeOf v = contract.outputType ∧ shapeOf v = shape

/-- Every input and every parameter is given a value of its port. -/
structure Supplies (ir : CapabilityIr) (env : Env V) : Prop where
  inputs : ∀ port ∈ ir.inputs, ∃ v, env.inputs port.name = some v ∧ HasPort v port
  parameters : ∀ slot ∈ ir.parameters,
    ∃ v, env.parameters slot.port.name = some v ∧ HasPort v slot.port

end

/-- One node's value is an operand of another one. -/
def Feeds (nodes : List IrNode) (a b : CapabilityNodeId) : Prop :=
  ∃ node ∈ nodes, node.nodeId = b ∧ .nodeOutput a ∈ node.inputs

/-- A node's value goes into an output, by way of other nodes or at once. -/
def Contributes (ir : CapabilityIr) (nodeId : CapabilityNodeId) : Prop :=
  ∃ binding ∈ ir.outputs, ∃ last, binding.source = .nodeOutput last ∧
    Relation.ReflTransGen (Feeds ir.nodes) nodeId last

def CapabilityIr.ports (ir : CapabilityIr) : List TypedPort :=
  ir.inputs ++ ir.parameters.map ParameterSlot.port ++ ir.nodes.map IrNode.output ++
    ir.outputs.map OutputBinding.port

/-- What an accepted representation promises. -/
structure Sound (ir : CapabilityIr) : Prop where
  /-- It is evaluated without an error, and each output is of its port. -/
  evaluates : ∀ {V : Type} [Typed V] (semantics : Semantics V) (env : Env V),
    Respects ir.primitiveSet semantics → Supplies ir env →
    ∃ values, ir.evaluate semantics env = .ok values ∧
      List.Forall₂ (fun binding v => HasPort v binding.port) ir.outputs values
  acyclic : Acyclic (Feeds ir.nodes)
  /-- Every node contributes to an output. -/
  nodes : ∀ node ∈ ir.nodes, Contributes ir node.nodeId
  /-- Every parameter is an operand of a node, which contributes to an output. -/
  parameters : ∀ slot ∈ ir.parameters, ∃ node ∈ ir.nodes,
    .parameter slot.port.name ∈ node.inputs ∧ Contributes ir node.nodeId
  /-- Every tensor has an element, and not too many. -/
  elements : ∀ port ∈ ir.ports, port.valueType = .tensorF64 →
    1 ≤ port.shape.prod ∧ port.shape.prod ≤ maxTensorElements

/-! ## Ports and rules -/

lemma elementCount_ok {label : String} {shape : List Nat} {n : Nat}
    (h : elementCount label shape = .ok n) : n = shape.prod := by
  have hgeneral : ∀ (dims : List Nat) (acc : Nat), dims.foldlM (fun product dimension =>
      checkedMul dimensionWidth product dimension
        (invalid (label ++ "_element_count_overflow"))) acc = .ok n → n = acc * dims.prod := by
    intro dims
    induction dims with
    | nil =>
      intro acc hfold
      rw [foldlM_nil, pure_ok] at hfold
      rw [prod_nil, Nat.mul_one, hfold]
    | cons d dims ih =>
      intro acc hfold
      rw [foldlM_cons, bind_ok] at hfold
      obtain ⟨product, hproduct, hrest⟩ := hfold
      rw [checkedMul_ok] at hproduct
      rw [ih product hrest, hproduct.2, prod_cons, Nat.mul_assoc]
  rw [hgeneral shape 1 h, Nat.one_mul]

/-- A tensor of a valid port has at least one element and not too many. -/
lemma TypedPort.elements_of_validate {p : TypedPort} {label : String} {u : Unit}
    (h : p.validate label = .ok u) (htensor : p.valueType = .tensorF64) :
    1 ≤ p.shape.prod ∧ p.shape.prod ≤ maxTensorElements := by
  unfold TypedPort.validate at h
  simp only [htensor, if_true, bind_ok, failIf_ok] at h
  obtain ⟨-, hdims, -, -, elements, hcount, hbound⟩ := h
  rw [not_or] at hdims hbound
  have hprod := elementCount_ok hcount
  constructor
  · apply Nat.one_le_iff_ne_zero.mpr
    exact prod_ne_zero hdims.2
  · rw [← hprod]
    exact not_lt.mp hbound.2

lemma validateShapeRule_ok {rule : ShapeRule} {operands : List TypedPort}
    {output : TypedPort} {u : Unit} : validateShapeRule rule operands output = .ok u ↔
      outputShape rule (operands.map TypedPort.shape) = some output.shape := by
  unfold validateShapeRule
  rw [failIf_ok, Bool.not_eq_false]
  cases rule with
  | scalar =>
    simp only [shapeRuleValid, outputShape, List.isEmpty_iff, Option.some.injEq]
    exact eq_comm
  | preserveFirst =>
    rcases operands with _ | ⟨a, _ | ⟨b, rest⟩⟩
    · simp [shapeRuleValid, outputShape]
    · simp only [shapeRuleValid, outputShape, List.map_cons, List.map_nil, beq_iff_eq,
        Option.some.injEq]
      exact eq_comm
    · simp [shapeRuleValid, outputShape]
  | elementwiseSame =>
    rcases operands with _ | ⟨a, _ | ⟨b, _ | ⟨c, rest⟩⟩⟩
    · simp [shapeRuleValid, outputShape]
    · simp [shapeRuleValid, outputShape]
    · simp only [shapeRuleValid, outputShape, List.map_cons, List.map_nil, Bool.and_eq_true,
        beq_iff_eq, Option.ite_none_right_eq_some, Option.some.injEq]
      exact and_congr_right fun _ => eq_comm
    · simp [shapeRuleValid, outputShape]
  | tensorScale =>
    rcases operands with _ | ⟨a, _ | ⟨b, _ | ⟨c, rest⟩⟩⟩
    · simp [shapeRuleValid, outputShape]
    · simp [shapeRuleValid, outputShape]
    · simp only [shapeRuleValid, outputShape, List.map_cons, List.map_nil, Bool.and_eq_true,
        beq_iff_eq, List.isEmpty_iff, Option.ite_none_right_eq_some, Option.some.injEq]
      exact and_congr_right fun _ => eq_comm
    · simp [shapeRuleValid, outputShape]
  | matrixMultiply2d =>
    rcases operands with _ | ⟨a, _ | ⟨b, _ | ⟨c, rest⟩⟩⟩
    · simp [shapeRuleValid, outputShape]
    · simp [shapeRuleValid, outputShape]
    · simp only [shapeRuleValid, outputShape, List.map_cons, List.map_nil]
      rcases a.shape with _ | ⟨m, _ | ⟨k, _ | ⟨l, more⟩⟩⟩
      · simp
      · simp
      · rcases b.shape with _ | ⟨k', _ | ⟨n, _ | ⟨l', more'⟩⟩⟩
        · simp
        · simp
        · simp only [Bool.and_eq_true, beq_iff_eq, Option.ite_none_right_eq_some, Option.some.injEq]
          exact and_congr_right fun _ => eq_comm
        · simp
      · simp
    · simp [shapeRuleValid, outputShape]

lemma map_eq_of_zip {α β : Type} {f : α → β} {xs : List α} {ys : List β}
    (hlength : xs.length = ys.length) (h : ∀ pair ∈ xs.zip ys, f pair.1 = pair.2) :
    xs.map f = ys := by
  induction xs generalizing ys with
  | nil =>
    cases ys with
    | nil => rfl
    | cons y ys => cases hlength
  | cons x xs ih =>
    cases ys with
    | nil => cases hlength
    | cons y ys =>
      rw [length_cons, length_cons, Nat.add_right_cancel_iff] at hlength
      rw [zip_cons_cons, forall_mem_cons] at h
      rw [map_cons, ih hlength h.2, h.1]

lemma PrimitiveSet.find_some {s : PrimitiveSet} {primitiveId : PrimitiveId}
    {primitive : PrimitiveContract} (h : s.find primitiveId = some primitive) :
    primitive ∈ s.primitives ∧ primitive.primitiveId = primitiveId := by
  refine ⟨mem_of_find?_eq_some h, ?_⟩
  have hfound := find?_some h
  exact of_decide_eq_true hfound

/-! ## The pass over the nodes -/

structure NodeOk (ir : CapabilityIr) (inputs parameters : Ports) (known : NodePorts)
    (node : IrNode) : Prop where
  output : node.output.validate "capability_ir_node_output" = .ok ()
  typed : ∃ primitive operands, ir.primitiveSet.find node.primitiveId = some primitive ∧
    node.output.valueType = primitive.outputType ∧
    List.Forall₂ (fun reference port =>
      resolveReference reference inputs parameters known = .ok port) node.inputs operands ∧
    operands.map TypedPort.valueType = primitive.inputTypes ∧
    outputShape primitive.shapeRule (operands.map TypedPort.shape) = some node.output.shape

section

variable {ir : CapabilityIr} {files : BTreeSet PathKey} {inputs parameters : Ports}

lemma checkNode_ok {pass pass' : NodePass} {node : IrNode}
    (h : ir.checkNode files inputs parameters pass node = .ok pass') :
    NodeOk ir inputs parameters pass.known node ∧ node.nodeId ∉ pass.known ∧
      pass' = {
        known := pass.known.insert node.nodeId node.output
        dependencies := pass.dependencies.insert node.nodeId
          (extend ∅ (node.inputs.filterMap ValueReference.asNode))
        used := extend pass.used (node.inputs.filterMap ValueReference.asParameter) } := by
  unfold CapabilityIr.checkNode at h
  simp only [bind_ok, okOr_ok, failIf_ok, forM_ok, mapM_ok, pure_ok, validateShapeRule_ok] at h
  obtain ⟨_, houtput, primitive, hfind, _, hcontract, _, hnew, _, -, _, -, _, -, operands,
    hoperands, _, htypes, _, hshape, hpass⟩ := h
  rw [not_or, not_not, not_not] at hcontract
  have hlength : operands.length = primitive.inputTypes.length :=
    hoperands.length_eq.symm.trans hcontract.1
  have hmap : operands.map TypedPort.valueType = primitive.inputTypes := by
    apply map_eq_of_zip hlength
    intro pair hpair
    exact not_not.mp (htypes pair hpair)
  exact ⟨⟨houtput, primitive, operands, hfind, hcontract.2, hoperands, hmap, hshape⟩, hnew,
    hpass.symm⟩

lemma resolveReference_mono {known known' : NodePorts}
    (hmono : ∀ (nodeId : CapabilityNodeId) (port : TypedPort), known[nodeId]? = some port → known'[nodeId]? = some port)
    {reference : ValueReference} {port : TypedPort}
    (h : resolveReference reference inputs parameters known = .ok port) :
    resolveReference reference inputs parameters known' = .ok port := by
  cases reference with
  | input name => exact h
  | parameter name => exact h
  | nodeOutput nodeId =>
    unfold resolveReference at h ⊢
    rw [okOr_ok] at h ⊢
    exact hmono nodeId port h

/-- What the pass has built from the nodes so far. -/
structure Checked (inputs parameters : Ports) (done : List IrNode) (pass : NodePass) : Prop where
  nodup : (done.map IrNode.nodeId).Nodup
  known : ∀ nodeId port, pass.known[nodeId]? = some port ↔
    ∃ node ∈ done, node.nodeId = nodeId ∧ node.output = port
  dependencies : ∀ nodeId next, pass.dependencies[nodeId]? = some next ↔
    ∃ node ∈ done, node.nodeId = nodeId ∧
      BTreeSet.extend ∅ (node.inputs.filterMap ValueReference.asNode) = next
  used : ∀ name, name ∈ pass.used ↔ ∃ node ∈ done, .parameter name ∈ node.inputs
  resolved : ∀ node ∈ done, ∀ reference ∈ node.inputs,
    ∃ port, resolveReference reference inputs parameters pass.known = .ok port
  ordered : PeelOrder (Feeds done) (done.map IrNode.nodeId).reverse
  outputs : ∀ node ∈ done, node.output.validate "capability_ir_node_output" = .ok ()

variable {references : List ValueReference} {nodeId : CapabilityNodeId}

lemma mem_asNode :
    nodeId ∈ references.filterMap ValueReference.asNode ↔ .nodeOutput nodeId ∈ references := by
  rw [mem_filterMap]
  constructor
  · intro h
    obtain ⟨reference, hmem, hnode⟩ := h
    cases reference with
    | nodeOutput id =>
      cases hnode
      exact hmem
    | input name => cases hnode
    | parameter name => cases hnode
  · intro h
    exact ⟨_, h, rfl⟩

lemma mem_asParameter {name : PortId} :
    name ∈ references.filterMap ValueReference.asParameter ↔ .parameter name ∈ references := by
  rw [mem_filterMap]
  constructor
  · intro h
    obtain ⟨reference, hmem, hparameter⟩ := h
    cases reference with
    | parameter found =>
      cases hparameter
      exact hmem
    | input found => cases hparameter
    | nodeOutput id => cases hparameter
  · intro h
    exact ⟨_, h, rfl⟩

variable {done : List IrNode} {pass : NodePass}

lemma Checked.mem_known (h : Checked inputs parameters done pass) :
    nodeId ∈ pass.known ↔ nodeId ∈ done.map IrNode.nodeId := by
  rw [BTreeMap.mem_iff_getElem?, mem_map]
  constructor
  · intro hk
    obtain ⟨port, hport⟩ := hk
    obtain ⟨node, hmem, hid, -⟩ := (h.known nodeId port).mp hport
    exact ⟨node, hmem, hid⟩
  · intro hk
    obtain ⟨node, hmem, hid⟩ := hk
    exact ⟨node.output, (h.known nodeId node.output).mpr ⟨node, hmem, hid, rfl⟩⟩

lemma Checked.mem_dependencies (h : Checked inputs parameters done pass) :
    nodeId ∈ pass.dependencies ↔ nodeId ∈ pass.known := by
  rw [h.mem_known, BTreeMap.mem_iff_getElem?, mem_map]
  constructor
  · intro hk
    obtain ⟨next, hnext⟩ := hk
    obtain ⟨node, hmem, hid, -⟩ := (h.dependencies nodeId next).mp hnext
    exact ⟨node, hmem, hid⟩
  · intro hk
    obtain ⟨node, hmem, hid⟩ := hk
    exact ⟨_, (h.dependencies nodeId _).mpr ⟨node, hmem, hid, rfl⟩⟩

lemma checked_nil : Checked inputs parameters [] ⟨∅, ∅, ∅⟩ := by
  constructor
  · exact nodup_nil
  · intro nodeId port
    simp
  · intro nodeId next
    simp
  · intro name
    simp
  · intro node hnode
    cases hnode
  · exact PeelOrder.nil
  · intro node hnode
    cases hnode

lemma Checked.snoc {pass pass' : NodePass} {node : IrNode}
    (h : Checked inputs parameters done pass)
    (hstep : ir.checkNode files inputs parameters pass node = .ok pass') :
    Checked inputs parameters (done ++ [node]) pass' := by
  obtain ⟨hnode, hnew, rfl⟩ := checkNode_ok hstep
  obtain ⟨primitive, operands, -, -, hoperands, -, -⟩ := hnode.typed
  have hfresh : node.nodeId ∉ done.map IrNode.nodeId := by
    rw [← h.mem_known]
    exact hnew
  have hfreshDependencies : node.nodeId ∉ pass.dependencies := by
    rw [h.mem_dependencies]
    exact hnew
  have hresolved : ∀ reference ∈ node.inputs,
      ∃ port, resolveReference reference inputs parameters pass.known = .ok port := by
    intro reference hmem
    obtain ⟨i, hi, rfl⟩ := mem_iff_getElem.mp hmem
    have hi' : i < operands.length := hoperands.length_eq ▸ hi
    exact ⟨operands[i], forall₂_iff_get.mp hoperands |>.2 i hi hi'⟩
  have hmono : ∀ (nodeId : CapabilityNodeId) (port : TypedPort), pass.known[nodeId]? = some port →
      (pass.known.insert node.nodeId node.output)[nodeId]? = some port := by
    intro nodeId port hport
    rw [getElem?_insert_new hnew]
    exact .inl hport
  constructor
  · rw [map_append]
    exact nodup_snoc h.nodup hfresh
  · intro nodeId port
    rw [getElem?_insert_new hnew, h.known, eq_comm (a := nodeId), eq_comm (a := port)]
    rw [exists_mem_concat]
  · intro nodeId next
    rw [getElem?_insert_new hfreshDependencies, h.dependencies,
      eq_comm (a := nodeId), eq_comm (a := next)]
    rw [exists_mem_concat]
  · intro name
    rw [mem_extend, h.used, mem_asParameter]
    rw [exists_mem_concat]
  · intro other hother reference href
    rcases mem_append.mp hother with hother | hother
    · obtain ⟨port, hport⟩ := h.resolved other hother reference href
      exact ⟨port, resolveReference_mono hmono hport⟩
    · rw [mem_singleton.mp hother] at href
      obtain ⟨port, hport⟩ := hresolved reference href
      exact ⟨port, resolveReference_mono hmono hport⟩
  · rw [map_append, map_singleton, reverse_append, reverse_singleton, singleton_append]
    apply PeelOrder.cons
    · apply h.ordered.congr
      intro u v hv hfeeds
      obtain ⟨other, hother, hid, href⟩ := hfeeds
      rcases mem_append.mp hother with hother | hother
      · exact ⟨other, hother, hid, href⟩
      · rw [mem_singleton.mp hother] at hid
        rw [mem_reverse, ← hid] at hv
        exact absurd hv hfresh
    · rw [mem_reverse]
      exact hfresh
    · -- what a node refers to was known before it
      intro u hfeeds
      obtain ⟨other, hother, hid, href⟩ := hfeeds
      have hsame : other = node := by
        rcases mem_append.mp hother with hother | hother
        · exact absurd (hid ▸ mem_map_of_mem hother) hfresh
        · exact mem_singleton.mp hother
      rw [hsame] at href
      obtain ⟨port, hport⟩ := hresolved _ href
      unfold resolveReference at hport
      rw [okOr_ok] at hport
      rw [mem_reverse, ← h.mem_known]
      exact mem_iff_getElem?.mpr ⟨port, hport⟩
  · exact forall_mem_concat h.outputs hnode.output

lemma checked_of_fold {nodes : List IrNode}
    (h : nodes.foldlM (ir.checkNode files inputs parameters) ⟨∅, ∅, ∅⟩ = .ok pass) :
    Checked inputs parameters nodes pass :=
  foldlM_ok_prefix_induction (Checked inputs parameters) checked_nil
    (fun _ _ _ _ hchecked hstep => hchecked.snoc hstep) h

end

/-! ## Evaluation meets no error -/

section

variable {V : Type} [Typed V] {ir : CapabilityIr} {files : BTreeSet PathKey}
  {inputs parameters : Ports}

/-- The values of an environment are those of the ports that are known. -/
structure Agrees (inputs parameters : Ports) (known : NodePorts) (env : Env V) : Prop where
  inputs : ∀ name port, inputs[name]? = some port →
    ∃ v, env.inputs name = some v ∧ HasPort v port
  parameters : ∀ name port, parameters[name]? = some port →
    ∃ v, env.parameters name = some v ∧ HasPort v port
  nodes : ∀ nodeId port, known[nodeId]? = some port →
    ∃ v, env.nodes nodeId = some v ∧ HasPort v port

variable {env : Env V}

lemma Agrees.resolve {known : NodePorts} (h : Agrees inputs parameters known env)
    {reference : ValueReference} {port : TypedPort}
    (hresolve : resolveReference reference inputs parameters known = .ok port) :
    ∃ v, env.resolve reference = .ok v ∧ HasPort v port := by
  unfold resolveReference at hresolve
  unfold Env.resolve
  cases reference with
  | input name =>
    rw [okOr_ok] at hresolve
    obtain ⟨v, hv, hport⟩ := h.inputs name port hresolve
    exact ⟨v, okOr_ok.mpr hv, hport⟩
  | parameter name =>
    rw [okOr_ok] at hresolve
    obtain ⟨v, hv, hport⟩ := h.parameters name port hresolve
    exact ⟨v, okOr_ok.mpr hv, hport⟩
  | nodeOutput nodeId =>
    rw [okOr_ok] at hresolve
    obtain ⟨v, hv, hport⟩ := h.nodes nodeId port hresolve
    exact ⟨v, okOr_ok.mpr hv, hport⟩

lemma Agrees.resolveAll {known : NodePorts} {env : Env V}
    (h : Agrees inputs parameters known env) {references : List ValueReference}
    {ports : List TypedPort} (hresolve : Forall₂ (fun reference port =>
      resolveReference reference inputs parameters known = .ok port) references ports) :
    ∃ operands, references.mapM env.resolve = .ok operands ∧
      operands.map typeOf = ports.map TypedPort.valueType ∧
      operands.map shapeOf = ports.map TypedPort.shape := by
  induction hresolve with
  | nil => exact ⟨[], rfl, rfl, rfl⟩
  | cons hfirst _ ih =>
    obtain ⟨v, hv, hport⟩ := h.resolve hfirst
    obtain ⟨operands, hoperands, htypes, hshapes⟩ := ih
    refine ⟨v :: operands, ?_, ?_, ?_⟩
    · rw [mapM_cons, hv, ok_bind, hoperands, ok_bind]
      rfl
    · rw [map_cons, map_cons, htypes, hport.type]
    · rw [map_cons, map_cons, hshapes, hport.shape]

/-- A node that was checked is evaluated, and its value is of its port. -/
lemma evalNode_ok {semantics : Semantics V} (hrespects : Respects ir.primitiveSet semantics)
    {pass pass' : NodePass} {node : IrNode} (hagrees : Agrees inputs parameters pass.known env)
    (hstep : ir.checkNode files inputs parameters pass node = .ok pass') :
    ∃ env', evalNode ir.primitiveSet semantics env node = .ok env' ∧
      Agrees inputs parameters pass'.known env' := by
  obtain ⟨hnode, hnew, rfl⟩ := checkNode_ok hstep
  obtain ⟨primitive, ports, hfind, houtput, hresolve, htypes, hshape⟩ := hnode.typed
  obtain ⟨hmem, hid⟩ := PrimitiveSet.find_some hfind
  obtain ⟨operands, hoperands, hoperandTypes, hoperandShapes⟩ := hagrees.resolveAll hresolve
  have htyped : operands.map typeOf = primitive.inputTypes := hoperandTypes.trans htypes
  have hshaped : outputShape primitive.shapeRule (operands.map shapeOf) =
      some node.output.shape := by
    rw [hoperandShapes]
    exact hshape
  obtain ⟨v, hv, hvtype, hvshape⟩ := hrespects primitive hmem operands _ htyped hshaped
  rw [hid] at hv
  refine ⟨env.setNode node.nodeId v, ?_, ?_⟩
  · unfold evalNode
    simp only [bind_ok, okOr_ok, failIf_ok, pure_ok]
    refine ⟨operands, hoperands, primitive, hfind, (), not_not.mpr htyped, _, hshaped, v, hv, (),
      not_not.mpr (hvtype.trans houtput.symm), (), ?_, rfl⟩
    rw [not_or]
    exact ⟨not_not.mpr rfl, not_not.mpr hvshape⟩
  · constructor
    · exact hagrees.inputs
    · exact hagrees.parameters
    · intro nodeId port hport
      rcases (getElem?_insert_new hnew nodeId port).mp hport with hold | ⟨rfl, rfl⟩
      · have hne : nodeId ≠ node.nodeId := by
          intro heq
          apply hnew
          rw [heq] at hold
          exact mem_iff_getElem?.mpr ⟨port, hold⟩
        obtain ⟨w, hw, hwport⟩ := hagrees.nodes nodeId port hold
        refine ⟨w, ?_, hwport⟩
        exact (update_of_ne hne ..).trans hw
      · exact ⟨v, update_self .., hvtype.trans houtput.symm, hvshape⟩

/-- The nodes are evaluated in the order of the list. -/
lemma evalNodes_ok {semantics : Semantics V} (hrespects : Respects ir.primitiveSet semantics)
    {nodes : List IrNode} {pass pass' : NodePass}
    (hagrees : Agrees inputs parameters pass.known env)
    (hfold : nodes.foldlM (ir.checkNode files inputs parameters) pass = .ok pass') :
    ∃ env', nodes.foldlM (evalNode ir.primitiveSet semantics) env = .ok env' ∧
      Agrees inputs parameters pass'.known env' := by
  induction nodes generalizing pass env with
  | nil =>
    rw [foldlM_nil, pure_ok] at hfold
    exact ⟨env, rfl, hfold ▸ hagrees⟩
  | cons node nodes ih =>
    rw [foldlM_cons, bind_ok] at hfold
    obtain ⟨mid, hnode, hrest⟩ := hfold
    obtain ⟨env', henv, hmid⟩ := evalNode_ok hrespects hagrees hnode
    obtain ⟨final, hfinal, hagrees'⟩ := ih hmid hrest
    refine ⟨final, ?_, hagrees'⟩
    rw [foldlM_cons, henv, ok_bind]
    exact hfinal

end

/-! ## Inputs, parameters and outputs -/

section

variable {ir : CapabilityIr} {inputs parameters : Ports}

lemma inputs_of_fold {xs : List TypedPort}
    (h : xs.foldlM CapabilityIr.checkInput ∅ = .ok inputs) :
    (∀ port ∈ xs, port.validate "capability_ir_input" = .ok ()) ∧
      ∀ name port, inputs[name]? = some port ↔ port ∈ xs ∧ port.name = name := by
  obtain ⟨hvalid, hfold⟩ := foldlM_seq_ok.mp h
  obtain ⟨-, -, hget⟩ := foldlM_insertEach_ok.mp hfold
  refine ⟨hvalid, ?_⟩
  intro name port
  rw [hget]
  constructor
  · intro hport
    rcases hport with hport | ⟨found, hmem, hname, hfound⟩
    · simp at hport
    · have hsame : found = port := hfound
      exact ⟨hsame ▸ hmem, hsame ▸ hname⟩
  · intro hport
    exact .inr ⟨port, hport.1, hport.2, rfl⟩

lemma parameters_of_fold {xs : List ParameterSlot}
    (h : xs.foldlM (CapabilityIr.checkParameter inputs) ∅ = .ok parameters) :
    (∀ slot ∈ xs, slot.port.validate "capability_ir_parameter" = .ok ()) ∧
      ∀ name port, parameters[name]? = some port ↔
        ∃ slot ∈ xs, slot.port.name = name ∧ slot.port = port := by
  have hshape : CapabilityIr.checkParameter inputs = fun parameters slot =>
      (do
        slot.port.validate "capability_ir_parameter"
        failIf (slot.port.valueType ≠ .f64 ∧ slot.port.valueType ≠ .tensorF64)
          (invalid "capability_ir_parameter_not_numeric")
        failIf (slot.port.name ∈ inputs)
          (invalid "capability_ir_input_parameter_name_collision")) >>= fun _ =>
        insertEach (fun p : ParameterSlot => p.port.name) ParameterSlot.port
          (invalid "capability_ir_parameter_duplicate") parameters slot := by
    funext parameters slot
    unfold CapabilityIr.checkParameter
    simp only [bind_assoc]
  rw [hshape] at h
  obtain ⟨hvalid, hfold⟩ := foldlM_seq_ok.mp h
  obtain ⟨-, -, hget⟩ := foldlM_insertEach_ok.mp hfold
  constructor
  · intro slot hmem
    have hslot := hvalid slot hmem
    rw [seq_ok] at hslot
    exact hslot.1
  · intro name port
    rw [hget]
    simp

/-- What the pass over the outputs has built. -/
structure OutputsChecked (inputs parameters : Ports) (known : NodePorts)
    (done : List OutputBinding) (pass : CapabilityIr.OutputPass) : Prop where
  valid : ∀ binding ∈ done, binding.port.validate "capability_ir_output" = .ok ()
  resolved : ∀ binding ∈ done, ∃ source,
    resolveReference binding.source inputs parameters known = .ok source ∧
      source.valueType = binding.port.valueType ∧ source.shape = binding.port.shape
  pending : ∀ nodeId ∈ pass.pending, ∃ binding ∈ done, binding.source = .nodeOutput nodeId

lemma outputsChecked_of_fold {known : NodePorts} {xs : List OutputBinding}
    {pass : CapabilityIr.OutputPass}
    (h : xs.foldlM (CapabilityIr.checkOutput inputs parameters known) ⟨∅, []⟩ = .ok pass) :
    OutputsChecked inputs parameters known xs pass := by
  apply foldlM_ok_prefix_induction (OutputsChecked inputs parameters known) ?_ ?_ h
  · constructor
    · intro binding hmem
      cases hmem
    · intro binding hmem
      cases hmem
    · intro nodeId hmem
      cases hmem
  · intro done binding before after hdone hstep
    unfold CapabilityIr.checkOutput at hstep
    simp only [bind_ok, failIf_ok, pure_ok] at hstep
    obtain ⟨_, hvalid, names, -, source, hsource, _, hcontract, rfl⟩ := hstep
    rw [not_or, not_not, not_not] at hcontract
    constructor
    · exact forall_mem_concat hdone.valid hvalid
    · exact forall_mem_concat hdone.resolved ⟨source, hsource, hcontract⟩
    · intro nodeId hmem
      rcases mem_append.mp hmem with hmem | hmem
      · refine ⟨binding, mem_append_right _ mem_cons_self, ?_⟩
        rw [Option.mem_toList] at hmem
        cases hsourceCase : binding.source with
        | nodeOutput found =>
          rw [hsourceCase] at hmem
          cases hmem
          rfl
        | input name =>
          rw [hsourceCase] at hmem
          cases hmem
        | parameter name =>
          rw [hsourceCase] at hmem
          cases hmem
      · obtain ⟨b, hb, hbsource⟩ := hdone.pending nodeId hmem
        exact ⟨b, mem_append_left _ hb, hbsource⟩

end

/-! ## What acceptance promises -/

section

variable {V : Type} [Typed V] {ir : CapabilityIr} {inputs parameters : Ports}

lemma evalOutputs_ok {known : NodePorts} {env : Env V}
    (hagrees : Agrees inputs parameters known env) {xs : List OutputBinding}
    (hresolved : ∀ binding ∈ xs, ∃ source,
      resolveReference binding.source inputs parameters known = .ok source ∧
        source.valueType = binding.port.valueType ∧ source.shape = binding.port.shape) :
    ∃ values, xs.mapM (evalOutput env) = .ok values ∧
      Forall₂ (fun binding v => HasPort v binding.port) xs values := by
  induction xs with
  | nil => exact ⟨[], rfl, Forall₂.nil⟩
  | cons binding xs ih =>
    rw [forall_mem_cons] at hresolved
    obtain ⟨source, hsource, htype, hshape⟩ := hresolved.1
    obtain ⟨v, hv, hport⟩ := hagrees.resolve hsource
    obtain ⟨values, hvalues, hall⟩ := ih hresolved.2
    have hvtype : typeOf v = binding.port.valueType := hport.type.trans htype
    have hvshape : shapeOf v = binding.port.shape := hport.shape.trans hshape
    have hone : evalOutput env binding = .ok v := by
      unfold evalOutput
      rw [hv, ok_bind]
      simp only [bind_ok, failIf_ok, pure_ok]
      exact ⟨(), not_not.mpr hvtype, (), not_not.mpr hvshape, trivial⟩
    refine ⟨v :: values, ?_, Forall₂.cons ⟨hvtype, hvshape⟩ hall⟩
    rw [mapM_cons, hone, ok_bind, hvalues, ok_bind]
    rfl

lemma Checked.feeds_of_leads {done : List IrNode} {pass : NodePass}
    (h : Checked inputs parameters done pass) {a b : CapabilityNodeId}
    (hleads : Leads pass.dependencies a b) : Feeds done b a := by
  obtain ⟨next, hnext, hmem⟩ := hleads
  obtain ⟨node, hnode, hid, rfl⟩ := (h.dependencies a next).mp hnext
  refine ⟨node, hnode, hid, ?_⟩
  rw [mem_extend, mem_asNode] at hmem
  rcases hmem with hmem | hmem
  · simp at hmem
  · exact hmem

/-- **Capability IR type soundness.** -/
theorem validate_sound [Platform] {envelope : SystemEnvelope}
    (h : ir.validateStructureAgainst envelope = .ok ()) : Sound ir := by
  unfold CapabilityIr.validateStructureAgainst at h
  cases hmanifest : envelope.manifest with
  | error e =>
    rw [hmanifest] at h
    cases h
  | ok u =>
    rw [hmanifest] at h
    simp only [bind_ok, failIf_ok] at h
    obtain ⟨_, -, _, -, _, -, inputs, hinputs, parameters, hparameters, _, -, pass, hpass, outputs,
      houtputs, reachable, hsearch, _, hsize, hused⟩ := h
    rw [not_not] at hsize hused
    obtain ⟨hvalidInputs, hgetInputs⟩ := inputs_of_fold hinputs
    obtain ⟨hvalidParameters, hgetParameters⟩ := parameters_of_fold hparameters
    have hchecked := checked_of_fold hpass
    have hout := outputsChecked_of_fold houtputs
    have hfound := search_sound hsearch
    -- what was reached are the nodes, all of them
    have hreached : ∀ nodeId ∈ pass.known, nodeId ∈ reachable := by
      intro nodeId hmem
      refine mem_of_subset_keys_of_size_eq ?_ hsize hmem
      intro k hk
      rcases hfound k hk with hk | ⟨hkey, -⟩
      · simp at hk
      · exact hchecked.mem_dependencies.mp hkey
    have hcontributes : ∀ node ∈ ir.nodes, Contributes ir node.nodeId := by
      intro node hnode
      have hknown : node.nodeId ∈ pass.known :=
        hchecked.mem_known.mpr (mem_map_of_mem hnode)
      rcases hfound _ (hreached _ hknown) with hk | ⟨-, start, hstart, hpath⟩
      · simp at hk
      · obtain ⟨binding, hbinding, hsource⟩ := hout.pending start hstart
        refine ⟨binding, hbinding, start, hsource, ?_⟩
        have hback : ∀ a b, Leads pass.dependencies a b → swap (Feeds ir.nodes) a b :=
          fun a b hleads => hchecked.feeds_of_leads hleads
        exact Relation.reflTransGen_swap.mp (Relation.ReflTransGen.mono hback _ _ hpath)
    constructor
    · intro V _ semantics env hrespects hsupplies
      have hagrees : Agrees inputs parameters (∅ : NodePorts) env := by
        constructor
        · intro name port hport
          obtain ⟨hmem, rfl⟩ := (hgetInputs name port).mp hport
          exact hsupplies.inputs port hmem
        · intro name port hport
          obtain ⟨slot, hmem, rfl, rfl⟩ := (hgetParameters name port).mp hport
          exact hsupplies.parameters slot hmem
        · intro nodeId port hport
          simp at hport
      obtain ⟨env', henv, hagrees'⟩ := evalNodes_ok hrespects hagrees hpass
      obtain ⟨values, hvalues, hports⟩ := evalOutputs_ok hagrees' hout.resolved
      refine ⟨values, ?_, hports⟩
      unfold CapabilityIr.evaluate
      rw [henv, ok_bind]
      exact hvalues
    · apply hchecked.ordered.acyclic
      intro a b hfeeds
      obtain ⟨node, hnode, rfl, -⟩ := hfeeds
      rw [mem_reverse]
      exact mem_map_of_mem hnode
    · exact hcontributes
    · intro slot hslot
      -- the parameters that are used are all of them
      have hname : slot.port.name ∈ pass.used := by
        refine mem_of_subset_keys_of_size_eq ?_ hused ?_
        · intro name hname
          obtain ⟨node, hnode, href⟩ := (hchecked.used name).mp hname
          obtain ⟨port, hport⟩ := hchecked.resolved node hnode _ href
          unfold resolveReference at hport
          rw [okOr_ok] at hport
          exact mem_iff_getElem?.mpr ⟨port, hport⟩
        · exact mem_iff_getElem?.mpr
            ⟨slot.port, (hgetParameters _ _).mpr ⟨slot, hslot, rfl, rfl⟩⟩
      obtain ⟨node, hnode, href⟩ := (hchecked.used _).mp hname
      exact ⟨node, hnode, href, hcontributes node hnode⟩
    · intro port hport htensor
      unfold CapabilityIr.ports at hport
      simp only [mem_append, mem_map] at hport
      rcases hport with ((hport | ⟨slot, hslot, rfl⟩) | ⟨node, hnode, rfl⟩) | ⟨binding, hb, rfl⟩
      · exact TypedPort.elements_of_validate (hvalidInputs port hport) htensor
      · exact TypedPort.elements_of_validate (hvalidParameters slot hslot) htensor
      · exact TypedPort.elements_of_validate (hchecked.outputs node hnode) htensor
      · exact TypedPort.elements_of_validate (hout.valid binding hb) htensor

end

lemma PrimitiveSet.verify_tidexCoreV1 [Platform] : PrimitiveSet.tidexCoreV1.verify = .ok () := by
  have hshape : PrimitiveSet.verifyPrimitive = fun identities c =>
      c.validate >>= fun _ => insertOnce PrimitiveContract.primitiveId
        (invalid "primitive_set_duplicate_id") identities c := rfl
  have hvalid : ∀ c ∈ PrimitiveSet.coreContracts, c.validate = .ok () := by
    have hpure : ∀ (id : PrimitiveId) (types : List ValueType) (output : ValueType)
        (rule : ShapeRule), types ≠ [] →
        (PrimitiveSet.pureContract id types output rule).validate = .ok () := by
      intro id types output rule htypes
      unfold PrimitiveContract.validate PrimitiveSet.pureContract
      have hsize : ((∅ : BTreeSet EffectKind).insert .pure).size = 1 := by
        rw [BTreeSet.size_insert_new (by simp)]
        rfl
      simp [htypes, hsize, seq_ok]
    intro c hc
    simp only [PrimitiveSet.coreContracts, mem_cons, not_mem_nil, or_false] at hc
    rcases hc with rfl | rfl | rfl | rfl | rfl | rfl <;> exact hpure _ _ _ _ (by decide)
  have hnodup : (PrimitiveSet.coreContracts.map PrimitiveContract.primitiveId).Nodup := by
    decide
  obtain ⟨identities, hidentities⟩ := foldlM_insertOnce_ok
    (invalid "primitive_set_duplicate_id") ∅ hnodup (by simp)
  have hfold : PrimitiveSet.tidexCoreV1.primitives.foldlM PrimitiveSet.verifyPrimitive ∅ =
      .ok identities := by
    rw [hshape]
    exact foldlM_seq_ok.mpr ⟨hvalid, hidentities⟩
  unfold PrimitiveSet.verify
  rw [hfold]
  simp [failIf]

end Capability

end Tidex

/-! ## A sum of an input and a parameter -/

namespace Tidex.IrSample

open Tidex.Lib
open Tidex.Capability

attribute [local instance] Platform.reference

def matrix (name : PortId) : TypedPort where
  name := name
  valueType := .tensorF64
  shape := [2, 3]

lemma vector_valid : validateSemanticId false "vector" = true := by
  decide

lemma weight_valid : validateSemanticId false "weight" = true := by
  decide

lemma result_valid : validateSemanticId false "result" = true := by
  decide

lemma sum_valid : validateSemanticId true "sum" = true := by
  decide

def vector : PortId := ⟨"vector", vector_valid⟩
def weight : PortId := ⟨"weight", weight_valid⟩
def result : PortId := ⟨"result", result_valid⟩
def sum : CapabilityNodeId := ⟨"sum", sum_valid⟩

def node : IrNode where
  nodeId := sum
  primitiveId := ⟨"tensor.add", by decide⟩
  inputs := [.input vector, .parameter weight]
  output := matrix result
  provenance := ["src/lib.rs"]

def add : PrimitiveContract :=
  PrimitiveSet.pureContract ⟨"tensor.add", by decide⟩ [.tensorF64, .tensorF64] .tensorF64
    .elementwiseSame

noncomputable def ir : CapabilityIr where
  systemEnvelopeSha256 := Sha256Digest.zero
  primitiveSet := PrimitiveSet.tidexCoreV1
  inputs := [matrix vector]
  parameters := [⟨matrix weight⟩]
  nodes := [node]
  outputs := [⟨matrix result, .nodeOutput sum⟩]

def envelope : SystemEnvelope where
  manifest := .ok ()
  manifestSha256 := Sha256Digest.zero
  entries := [⟨"src/lib.rs", .file⟩]

lemma validate_matrix (name : PortId) (label : String) :
    (matrix name).validate label = .ok () := rfl

lemma inputs_ok : ir.inputs.foldlM CapabilityIr.checkInput ∅ =
    .ok ((∅ : Ports).insert vector (matrix vector)) := by
  show [matrix vector].foldlM CapabilityIr.checkInput ∅ = _
  rw [List.foldlM_cons]
  unfold CapabilityIr.checkInput
  rw [validate_matrix]
  simp [BTreeMap.insertEach, failIf]
  rfl

def inputPorts : Ports := (∅ : Ports).insert vector (matrix vector)
def parameterPorts : Ports := (∅ : Ports).insert weight (matrix weight)
def knownNodes : NodePorts := (∅ : NodePorts).insert sum (matrix result)

def nodePass : NodePass where
  known := knownNodes
  dependencies := (∅ : BTreeMap CapabilityNodeId (BTreeSet CapabilityNodeId)).insert sum ∅
  used := (∅ : BTreeSet PortId).insert weight

lemma weight_not_mem : weight ∉ inputPorts := by
  unfold inputPorts
  rw [Std.ExtTreeMap.mem_insert]
  simp [vector, weight]

lemma parameters_ok : ir.parameters.foldlM (CapabilityIr.checkParameter inputPorts) ∅ =
    .ok parameterPorts := by
  show [(⟨matrix weight⟩ : ParameterSlot)].foldlM (CapabilityIr.checkParameter inputPorts) ∅ = _
  simp only [List.foldlM_cons, List.foldlM_nil, bind_ok]
  refine ⟨parameterPorts, ?_, rfl⟩
  unfold CapabilityIr.checkParameter
  simp only [bind_ok, failIf_ok, BTreeMap.insertEach_ok]
  refine ⟨(), validate_matrix _ _, (), ?_, (), weight_not_mem, ?_, rfl⟩
  · intro htypes
    exact htypes.2 rfl
  · show weight ∉ (∅ : Ports)
    exact Std.ExtTreeMap.not_mem_empty

lemma node_ok : ir.checkNode (CapabilityIr.sourceFiles envelope) inputPorts parameterPorts
    ⟨∅, ∅, ∅⟩ node = .ok nodePass := by
  have hprovenance : canonicalPaths ["src/lib.rs"] "capability_ir_provenance" =
      .ok ((∅ : BTreeSet PathKey).insert (Path.components "src/lib.rs")) := by
    unfold canonicalPaths canonicalPath
    simp only [List.foldlM_cons, List.foldlM_nil, bind_ok, failIf_ok, BTreeSet.insertOnce_ok]
    refine ⟨_, ⟨(), ?_, ?_, rfl⟩, rfl⟩
    · decide
    · exact Std.ExtTreeSet.not_mem_empty
  unfold CapabilityIr.checkNode
  simp only [bind_ok, failIf_ok, okOr_ok]
  refine ⟨(), validate_matrix _ _, add, rfl, (), ?_, (), ?_, (), ?_, _, hprovenance, (), ?_,
    [matrix vector, matrix weight], ?_, (), ?_, (), ?_, rfl⟩
  · decide
  · exact Std.ExtTreeMap.not_mem_empty
  · decide
  · rw [BTreeSet.toList_insert_empty]
    intro hbad
    rcases hbad with hbad | ⟨path, hpath, hmissing⟩
    · exact hbad rfl
    · rw [List.mem_singleton] at hpath
      apply hmissing
      unfold CapabilityIr.sourceFiles
      rw [BTreeSet.mem_extend, hpath]
      right
      exact List.mem_singleton.mpr rfl
  · show ([.input vector, .parameter weight] : List ValueReference).mapM
      (fun reference => resolveReference reference inputPorts parameterPorts ∅) = _
    simp [resolveReference, inputPorts, parameterPorts, okOr]
  · rfl
  · rfl

lemma outputs_ok : ir.outputs.foldlM
    (CapabilityIr.checkOutput inputPorts parameterPorts nodePass.known) ⟨∅, []⟩ =
      .ok ⟨(∅ : BTreeSet PortId).insert result, [sum]⟩ := by
  show [(⟨matrix result, .nodeOutput sum⟩ : OutputBinding)].foldlM
    (CapabilityIr.checkOutput inputPorts parameterPorts nodePass.known) ⟨∅, []⟩ = _
  simp only [List.foldlM_cons, List.foldlM_nil, bind_ok]
  refine ⟨_, ?_, rfl⟩
  unfold CapabilityIr.checkOutput
  simp only [bind_ok, failIf_ok, BTreeSet.insertOnce_ok]
  refine ⟨(), validate_matrix _ _, _, ⟨Std.ExtTreeSet.not_mem_empty, rfl⟩, matrix result, ?_,
    (), ?_, rfl⟩
  · simp [resolveReference, nodePass, knownNodes, okOr]
  · intro hbad
    rcases hbad with hbad | hbad <;> exact hbad rfl

lemma search_ok : search (integrity "capability_ir_reachability_invalid") nodePass.dependencies ∅
    [sum] = .ok ((∅ : BTreeSet CapabilityNodeId).insert sum) := by
  have hedges : nodePass.dependencies[sum]? = some ∅ := by
    simp [nodePass]
  rw [search, if_neg Std.ExtTreeSet.not_mem_empty]
  split
  · rename_i hnext
    rw [hedges] at hnext
    cases hnext
  · rename_i next hnext
    rw [hedges] at hnext
    cases hnext
    have hnone : (∅ : BTreeSet CapabilityNodeId).toList = [] := rfl
    rw [hnone]
    show search _ _ _ [] = _
    rw [search]

lemma validate_ir : ir.validateStructureAgainst envelope = .ok () := by
  unfold CapabilityIr.validateStructureAgainst
  simp only [envelope, bind_ok, failIf_ok]
  refine ⟨(), ?_, (), PrimitiveSet.verify_tidexCoreV1, (), ?_, inputPorts, inputs_ok,
    parameterPorts, parameters_ok, (), ?_, nodePass, ?_, _, outputs_ok, _, search_ok, (), ?_, ?_⟩
  · exact failIf_ok.mpr (not_not.mpr rfl)
  · show ¬(1 > maxIrInputs ∨ 1 > maxIrParameters ∨ 1 > maxIrNodes ∨ 1 > maxIrOutputs)
    decide
  · intro hempty
    rcases hempty with hempty | hempty <;> cases hempty
  · show [node].foldlM (ir.checkNode (CapabilityIr.sourceFiles envelope) inputPorts parameterPorts)
      ⟨∅, ∅, ∅⟩ = _
    simp only [List.foldlM_cons, List.foldlM_nil, bind_ok]
    exact ⟨nodePass, node_ok, rfl⟩
  · rw [BTreeSet.size_insert_new Std.ExtTreeSet.not_mem_empty]
    show ¬(_ ≠ knownNodes.size)
    unfold knownNodes
    rw [BTreeMap.size_insert_new Std.ExtTreeMap.not_mem_empty]
    exact not_not.mpr rfl
  · show ((∅ : BTreeSet PortId).insert weight).size ≠ parameterPorts.size → False
    unfold parameterPorts
    rw [BTreeSet.size_insert_new Std.ExtTreeSet.not_mem_empty,
      BTreeMap.size_insert_new Std.ExtTreeMap.not_mem_empty]
    intro hne
    exact hne rfl

/-- The graph of the sum is sound. -/
theorem sound_ir : Sound ir := validate_sound validate_ir

end Tidex.IrSample
