/-
  Foundation.Ledger — the hash-chained ledger of a private root.
-/
import Tidex.Foundation.Authority
import Tidex.Lib.Bytes
import Tidex.Lib.JsonWrite
import Tidex.Lib.Lines
import Tidex.Lib.Path

namespace Tidex

open Tidex.Lib List Function Option ByteArray JsonReader Sha256Digest

/-! ## Events -/

def eventSchemaV2 : String := "tidex.ledger_event/v2"
def domainV1 : ByteArray := "TIDEX:LEDGER:v1\x00".toByteArray
def domainV2 : ByteArray := "TIDEX:LEDGER:v2\x00".toByteArray
def maxLedgerBytes : Nat := 256 * 1024 * 1024

/-- The number of values of an unsigned machine word. -/
def ledgerWidth : Nat := 2 ^ 64

/-- An event, with the exact text of its payload. -/
structure LedgerEvent where
  schema : String
  seq : Nat
  prevHash : String
  kind : String
  payloadJson : String
  eventHash : String
  deriving DecidableEq

instance : Serialize LedgerEvent where
  toJson e := .obj [("schema", toJson e.schema), ("seq", toJson e.seq),
    ("prev_hash", toJson e.prevHash), ("kind", toJson e.kind),
    ("payload_json", toJson e.payloadJson), ("event_hash", toJson e.eventHash)]

/-- The older wire form, with the payload itself. -/
structure LegacyLedgerEventV1 where
  seq : Nat
  prevHash : String
  kind : String
  payload : JsonValue
  eventHash : String

structure LedgerStatus where
  events : Nat
  head : String
  deriving DecidableEq

def recordFields (names : List String) : JsonValue → Option (List JsonValue)
  | .object members => names.mapM fun name => (ofMembers members)[name]?
  | .array elements => if elements.length = names.length then some elements else none
  | _ => none

def LedgerEvent.ofFields : List JsonValue → Option LedgerEvent
  | [schema, seq, prevHash, kind, payloadJson, eventHash] => do
    return {
      schema := ← schema.asStr, seq := ← seq.asU64, prevHash := ← prevHash.asStr
      kind := ← kind.asStr, payloadJson := ← payloadJson.asStr, eventHash := ← eventHash.asStr }
  | _ => none

def LedgerEvent.ofValue (raw : JsonValue) : BrainResult LedgerEvent :=
  okOr (recordFields ["schema", "seq", "prev_hash", "kind", "payload_json", "event_hash"] raw
    >>= LedgerEvent.ofFields) .json

def LegacyLedgerEventV1.ofFields : List JsonValue → Option LegacyLedgerEventV1
  | [seq, prevHash, kind, payload, eventHash] => do
    return {
      seq := ← seq.asU64, prevHash := ← prevHash.asStr, kind := ← kind.asStr
      payload := payload, eventHash := ← eventHash.asStr }
  | _ => none

def LegacyLedgerEventV1.ofValue (raw : JsonValue) : BrainResult LegacyLedgerEventV1 :=
  okOr (recordFields ["seq", "prev_hash", "kind", "payload", "event_hash"] raw
    >>= LegacyLedgerEventV1.ofFields) .json

def memberStr (raw : JsonValue) (name : String) : Option String := do
  let object ← raw.asObject
  let value ← object[name]?
  value.asStr

/-! ## Verification -/

/-- The bytes of a machine word, the highest first. -/
def be64 (n : Nat) : ByteArray := ⟨(le64 n).data.reverse⟩

variable [Platform] [JsonReader] [FractionText]

def hashEvent (domain : ByteArray) (seq : Nat) (prev kind : String) (payload : ByteArray) : String :=
  (digestBytes
    (domain ++ be64 seq ++ prev.toByteArray ++ kind.toByteArray ++ payload)).hex

def hashEventV1 (seq : Nat) (prev kind : String) (payload : JsonValue) : String :=
  hashEvent domainV1 seq prev kind payload.canonical.toBytes

def hashEventV2 (seq : Nat) (prev kind payloadJson : String) : String :=
  hashEvent domainV2 seq prev kind payloadJson.toByteArray

def LedgerEvent.payload (e : LedgerEvent) : BrainResult JsonValue :=
  okOr (JsonReader.read e.payloadJson.toByteArray) .json

def verifyV2Event (e : LedgerEvent) (seq : Nat) (prev : String) : BrainResult Unit := do
  failIf (e.schema ≠ eventSchemaV2 ∨ e.seq ≠ seq ∨ e.prevHash ≠ prev)
    (integrity "ledger_chain_sequence_or_parent_mismatch")
  let _ ← e.payload
  failIf (hashEventV2 e.seq e.prevHash e.kind e.payloadJson ≠ e.eventHash)
    (integrity "ledger_event_hash_mismatch")

def verifyV1Event (e : LegacyLedgerEventV1) (seq : Nat) (prev : String) : BrainResult Unit := do
  failIf (e.seq ≠ seq ∨ e.prevHash ≠ prev)
    (integrity "ledger_chain_sequence_or_parent_mismatch")
  failIf (hashEventV1 e.seq e.prevHash e.kind e.payload ≠ e.eventHash)
    (integrity "ledger_v1_event_hash_mismatch_requires_migration")

/-- A character that trimming removes. -/
def isWhiteSpace (c : Char) : Bool :=
  let code := c.toNat
  (9 ≤ code && code ≤ 13) || code == 0x20 || code == 0x85 || code == 0xa0 || code == 0x1680
    || (0x2000 ≤ code && code ≤ 0x200a) || code == 0x2028 || code == 0x2029 || code == 0x202f
    || code == 0x205f || code == 0x3000

def readLine (line : ByteArray) : BrainResult (Option JsonValue) := do
  let text ← okOr (String.fromUTF8? line) (.io .other)
  bif text.toList.all isWhiteSpace then return none
  else do
    let raw ← okOr (JsonReader.read line) .json
    return some raw

def isV2 (raw : JsonValue) : Bool := memberStr raw "schema" == some eventSchemaV2

def verifyEvent (raw : JsonValue) (seq : Nat) (prev : String) : BrainResult String :=
  if isV2 raw then do
    let event ← LedgerEvent.ofValue raw
    verifyV2Event event seq prev
    return event.eventHash
  else do
    let event ← LegacyLedgerEventV1.ofValue raw
    verifyV1Event event seq prev
    return event.eventHash

def verifyLine (status : LedgerStatus) (line : ByteArray) : BrainResult LedgerStatus := do
  match ← readLine line with
  | none => return status
  | some raw => do
    let seq ← checkedAdd ledgerWidth status.events 1 (integrity "ledger_sequence_overflow")
    let head ← verifyEvent raw seq status.head
    return { events := seq, head := head }

def LedgerStatus.start : LedgerStatus where
  events := 0
  head := String.ofList (List.replicate 64 '0')

def verifyLedgerBytes (bytes : ByteArray) : BrainResult LedgerStatus :=
  (lines bytes).foldlM verifyLine LedgerStatus.start

/-! ## Files -/

def ledgerPath (root : String) : String := Path.push (Path.push root "state") "ledger.jsonl"

def ledgerLockPath (root : String) : String := Path.push (Path.push root "state") ".ledger.lock"

def readLedgerBytes (root : String) (fs : PrivateRoot) : BrainResult (Option ByteArray) :=
  match readUntrustedPrivateFileBounded fs (ledgerPath root) maxLedgerBytes with
  | .ok bytes => .ok (some bytes)
  | .error (.io .notFound) => .ok none
  | .error e => .error e

def matchLine (kind key expected : String) (line : ByteArray) :
    BrainResult (Option LedgerEvent) := do
  match ← readLine line with
  | none => return none
  | some raw =>
    if isV2 raw then do
      let event ← LedgerEvent.ofValue raw
      if event.kind ≠ kind then return none
      else do
        let payload ← event.payload
        return if memberStr payload key = some expected then some event else none
    else return none

/-- One line of a search, which stops at a second match. -/
def findLine (kind key expected : String) (found : Option LedgerEvent) (line : ByteArray) :
    BrainResult (Option LedgerEvent) := do
  match ← matchLine kind key expected line with
  | none => return found
  | some event => do
    failIf found.isSome (integrity "ledger_v2_event_payload_match_ambiguous")
    return some event

def findV2EventByPayloadString (root : String) (fs : PrivateRoot) (kind key expected : String) :
    BrainResult (Option LedgerEvent) := do
  match ← readLedgerBytes root fs with
  | none => return none
  | some bytes => do
    let _ ← verifyLedgerBytes bytes
    (lines bytes).foldlM (findLine kind key expected) none

/-! ## Appending -/

/-- Run an operation under the lock of a file, which is created if it is missing. -/
def withPrivateAuthorityLock {α : Type} (fs : PrivateRoot) (lockPath : String)
    (operation : PrivateRoot → PrivateRoot × BrainResult α) : PrivateRoot × BrainResult α :=
  match writeOrVerifyImmutable fs lockPath ByteArray.empty with
  | .error e => (fs, .error e)
  | .ok (fs, _) => operation fs

def canonicalPayloadJson (payload : JsonValue) : String := String.ofList payload.canonical.render

def nextEvent (status : LedgerStatus) (kind : String) (payload : JsonValue) : LedgerEvent where
  schema := eventSchemaV2
  seq := status.events + 1
  prevHash := status.head
  kind := kind
  payloadJson := canonicalPayloadJson payload
  eventHash := hashEventV2 (status.events + 1) status.head kind (canonicalPayloadJson payload)

/-- The next event and the whole ledger with it. -/
def extendLedger (root : String) (fs : PrivateRoot) (kind : String) (payload : JsonValue) :
    BrainResult (LedgerEvent × ByteArray) := do
  let current ← readLedgerBytes root fs
  let current := current.getD ByteArray.empty
  let status ← verifyLedgerBytes current
  let _ ← checkedAdd ledgerWidth status.events 1 (integrity "ledger_sequence_overflow")
  let event := nextEvent status kind payload
  let _ ← event.payload
  let next := current ++ withFeed (toVec event)
  failIf (next.size > maxLedgerBytes) (invalid "ledger_size_limit_exceeded")
  return (event, next)

def checkPersisted (root : String) (fs : PrivateRoot) (event : LedgerEvent) (next : ByteArray) :
    BrainResult LedgerEvent := do
  let persisted ← readLedgerBytes root fs
  let persisted ← okOr persisted (integrity "ledger_missing_after_atomic_replace")
  failIf (persisted ≠ next) (integrity "ledger_atomic_replace_content_mismatch")
  let status ← verifyLedgerBytes persisted
  failIf (status.events ≠ event.seq ∨ status.head ≠ event.eventHash)
    (integrity "ledger_atomic_replace_chain_mismatch")
  return event

def appendLocked (root kind : String) (payload : JsonValue) (fs : PrivateRoot) :
    PrivateRoot × BrainResult LedgerEvent :=
  match extendLedger root fs kind payload with
  | .error e => (fs, .error e)
  | .ok (event, next) =>
    let fs := replacePrivateFileAtomic fs (ledgerPath root) next
    (fs, checkPersisted root fs event next)

def append (root : String) (fs : PrivateRoot) (kind : String) (payload : JsonValue) :
    PrivateRoot × BrainResult LedgerEvent :=
  if kind.toList.all isWhiteSpace then (fs, .error (invalid "ledger_kind_empty"))
  else withPrivateAuthorityLock fs (ledgerLockPath root) (appendLocked root kind payload)

/-! ## What an append leaves -/

section

omit [Platform] [JsonReader] [FractionText]

lemma fromUTF8?_toByteArray (s : String) : String.fromUTF8? s.toByteArray = some s := by
  unfold String.fromUTF8?
  rw [dif_pos s.isValidUTF8]
  rfl

lemma recordFields_object {members : List (String × JsonValue)}
    (hnodup : (members.map Prod.fst).Nodup) :
    recordFields (members.map Prod.fst) (.object members) = some (members.map Prod.snd) := by
  have hall : ∀ part : List (String × JsonValue), part ⊆ members →
      ((part.map Prod.fst).mapM fun name => (ofMembers members)[name]?) =
        some (part.map Prod.snd) := by
    intro part hsubset
    induction part with
    | nil => rfl
    | cons member part ih =>
      obtain ⟨hmem, hrest⟩ := cons_subset.mp hsubset
      have hone : (ofMembers members)[member.1]? = some member.2 :=
        getElem?_collect_of_mem hnodup hmem
      rw [map_cons, mapM_cons, hone, ih hrest]
      rfl
  exact hall members (Subset.refl _)

lemma memberStr_of_mem {members : List (String × JsonValue)} {name value : String}
    (hnodup : (members.map Prod.fst).Nodup) (hmem : (name, .string value) ∈ members) :
    memberStr (.object members) name = some value := by
  have hlookup : (ofMembers members)[name]? = some (.string value) :=
    getElem?_collect_of_mem hnodup hmem
  unfold memberStr JsonValue.asObject
  simp only [bind_eq_bind, bind_some, hlookup]
  rfl

end

omit [Platform] [FractionText] in
lemma readLine_of_read {line : ByteArray} {text : String} {value : JsonValue}
    (htext : String.fromUTF8? line = some text) (hvisible : text.toList.all isWhiteSpace = false)
    (hread : read line = some value) : readLine line = .ok (some value) := by
  unfold readLine
  rw [bind_ok]
  refine ⟨text, okOr_ok.mpr htext, ?_⟩
  rw [hvisible, cond_false, bind_ok]
  exact ⟨value, okOr_ok.mpr hread, rfl⟩

namespace LedgerEvent

variable {e : LedgerEvent}

def members (e : LedgerEvent) : List (String × JsonValue) :=
  [("schema", .string e.schema), ("seq", .number (.int e.seq)), ("prev_hash", .string e.prevHash),
    ("kind", .string e.kind), ("payload_json", .string e.payloadJson),
    ("event_hash", .string e.eventHash)]

section

omit [Platform] [JsonReader] [FractionText]

lemma toValue_toJson : (toJson e).toValue = .object e.members := rfl

lemma nodup_members : (e.members.map Prod.fst).Nodup := by
  show ["schema", "seq", "prev_hash", "kind", "payload_json", "event_hash"].Nodup
  decide

lemma ofValue_toValue (hseq : e.seq < 2 ^ 64) : ofValue (toJson e).toValue = .ok e := by
  have hfields : recordFields
      ["schema", "seq", "prev_hash", "kind", "payload_json", "event_hash"] (.object e.members) =
      some (e.members.map Prod.snd) := recordFields_object nodup_members
  have hnumber : (JsonValue.number (.int e.seq)).asU64 = some e.seq := if_pos hseq
  unfold ofValue
  rw [okOr_ok, toValue_toJson, hfields]
  show ofFields (e.members.map Prod.snd) = some e
  unfold members ofFields
  simp only [map_cons, map_nil, hnumber]
  rfl

lemma isV2_toValue (hschema : e.schema = eventSchemaV2) : isV2 (toJson e).toValue = true := by
  have hmember : memberStr (.object e.members) "schema" = some e.schema :=
    memberStr_of_mem nodup_members mem_cons_self
  unfold isV2
  rw [toValue_toJson, hmember, hschema]
  exact beq_self_eq_true _

end

omit [Platform] [FractionText] in
lemma readLine_toVec (hreads : read (toVec e) = some (toJson e).toValue) :
    readLine (toVec e) = .ok (some (toJson e).toValue) := by
  have htext : String.fromUTF8? (toVec e) = some (String.ofList (toJson e).render) :=
    fromUTF8?_toByteArray _
  have hbrace : (String.ofList (toJson e).render).toList.all isWhiteSpace = false := by
    rw [String.toList_ofList]
    have hdocument : toJson e = .obj (("schema", toJson e.schema) :: (
      [("seq", toJson e.seq), ("prev_hash", toJson e.prevHash), ("kind", toJson e.kind),
        ("payload_json", toJson e.payloadJson), ("event_hash", toJson e.eventHash)])) := rfl
    rw [hdocument, Json.render, all_cons]
    rfl
  exact readLine_of_read htext hbrace hreads

end LedgerEvent

/-- A new event can be written and read back. -/
structure Continues (status : LedgerStatus) (kind : String) (payload : JsonValue) : Prop where
  seq_lt : status.events + 1 < ledgerWidth
  reads : JsonReader.read (toVec (nextEvent status kind payload)) =
    some (toJson (nextEvent status kind payload)).toValue
  payload : JsonReader.read (canonicalPayloadJson payload).toByteArray = some payload

def LedgerStatus.next (status : LedgerStatus) (kind : String) (payload : JsonValue) :
    LedgerStatus where
  events := status.events + 1
  head := (nextEvent status kind payload).eventHash

section

variable {root kind : String} {payload : JsonValue} {status : LedgerStatus} {bytes : ByteArray}
  {fs : PrivateRoot}

lemma payload_nextEvent (h : Continues status kind payload) :
    (nextEvent status kind payload).payload = .ok payload := by
  unfold LedgerEvent.payload
  rw [okOr_ok]
  exact h.payload

lemma verifyLine_nextEvent (h : Continues status kind payload) :
    verifyLine status (toVec (nextEvent status kind payload)) = .ok (status.next kind payload) := by
  have hline := LedgerEvent.readLine_toVec h.reads
  have hverified : verifyV2Event (nextEvent status kind payload) (status.events + 1) status.head =
      .ok () := by
    unfold verifyV2Event
    simp only [bind_ok, failIf_ok]
    refine ⟨(), ?_, payload, payload_nextEvent h, not_not.mpr rfl⟩
    simp [nextEvent]
  have hevent : verifyEvent (toJson (nextEvent status kind payload)).toValue (status.events + 1)
      status.head = .ok (nextEvent status kind payload).eventHash := by
    unfold verifyEvent
    rw [if_pos (LedgerEvent.isV2_toValue rfl)]
    simp only [bind_ok, pure_ok]
    exact ⟨_, LedgerEvent.ofValue_toValue h.seq_lt, (), hverified, rfl⟩
  unfold verifyLine
  rw [hline, ok_bind]
  simp only [bind_ok, checkedAdd_ok, pure_ok]
  exact ⟨_, ⟨h.seq_lt, rfl⟩, _, hevent, rfl⟩

omit [JsonReader] in
lemma lines_nextEvent (hterminated : Terminated bytes) :
    lines (bytes ++ withFeed (toVec (nextEvent status kind payload))) =
      lines bytes ++ [toVec (nextEvent status kind payload)] := by
  have hlines := Json.lines_append_toBytes hterminated (toJson (nextEvent status kind payload))
  exact hlines

/-- The chain goes on with the new event. -/
lemma verifyLedgerBytes_append (hterminated : Terminated bytes)
    (hverify : verifyLedgerBytes bytes = .ok status) (h : Continues status kind payload) :
    verifyLedgerBytes (bytes ++ withFeed (toVec (nextEvent status kind payload))) =
      .ok (status.next kind payload) := by
  unfold verifyLedgerBytes at hverify ⊢
  rw [lines_nextEvent hterminated, foldlM_append, hverify, ok_bind, foldlM_cons]
  rw [verifyLine_nextEvent h]
  rfl

/-- What a ledger holds, nothing where there is no file. -/
def ledgerBytes (root : String) (fs : PrivateRoot) : BrainResult ByteArray := do
  let current ← readLedgerBytes root fs
  return current.getD ByteArray.empty

variable {key expected : String}

lemma matchLine_nextEvent (h : Continues status kind payload)
    (hmatch : memberStr payload key = some expected) :
    matchLine kind key expected (toVec (nextEvent status kind payload)) =
      .ok (some (nextEvent status kind payload)) := by
  have hkind : ¬(nextEvent status kind payload).kind ≠ kind := not_not.mpr rfl
  have hv2 : isV2 (toJson (nextEvent status kind payload)).toValue = true :=
    LedgerEvent.isV2_toValue rfl
  have hvalue : LedgerEvent.ofValue (toJson (nextEvent status kind payload)).toValue =
      .ok (nextEvent status kind payload) := LedgerEvent.ofValue_toValue h.seq_lt
  unfold matchLine
  rw [LedgerEvent.readLine_toVec h.reads, ok_bind]
  simp only [hv2, if_true, hvalue, ok_bind]
  rw [if_neg hkind, payload_nextEvent h, ok_bind, if_pos hmatch]
  rfl

/-- A search after an append finds the new event where it matches and none did before. -/
lemma find_append (hterminated : Terminated bytes) (h : Continues status kind payload)
    (hmatch : memberStr payload key = some expected) {found : Option LedgerEvent}
    (hfound : (lines bytes).foldlM (findLine kind key expected) none = .ok found) :
    (lines (bytes ++ withFeed (toVec (nextEvent status kind payload)))).foldlM
        (findLine kind key expected) none =
      if found.isSome then .error (integrity "ledger_v2_event_payload_match_ambiguous")
      else .ok (some (nextEvent status kind payload)) := by
  rw [lines_nextEvent hterminated, foldlM_append, hfound, ok_bind, foldlM_cons]
  unfold findLine
  rw [matchLine_nextEvent h hmatch, ok_bind]
  cases found <;> rfl

def matchesLine (kind key expected : String) (line : ByteArray) : Bool :=
  match matchLine kind key expected line with
  | .ok (some _) => true
  | _ => false

def matchCount (kind key expected : String) (bytes : ByteArray) : Nat :=
  (lines bytes).countP (matchesLine kind key expected)

lemma countP_nextEvent (h : Continues status kind payload)
    (hmatch : memberStr payload key = some expected) :
    [toVec (nextEvent status kind payload)].countP (matchesLine kind key expected) = 1 := by
  have hmatches : matchesLine kind key expected (toVec (nextEvent status kind payload)) = true := by
    unfold matchesLine
    rw [matchLine_nextEvent h hmatch]
  rw [countP_singleton, if_pos hmatches]

omit [Platform] [FractionText] in
/-- A search that ends has matched a line where it found one, and no other. -/
lemma matchCount_of_find {found : Option LedgerEvent}
    (h : (lines bytes).foldlM (findLine kind key expected) none = .ok found) :
    matchCount kind key expected bytes = if found.isSome then 1 else 0 := by
  have hgeneral : ∀ (ls : List ByteArray) (before : Option LedgerEvent),
      ls.foldlM (findLine kind key expected) before = .ok found →
      ls.countP (matchesLine kind key expected) + (if before.isSome then 1 else 0) =
        if found.isSome then 1 else 0 := by
    intro ls
    induction ls with
    | nil =>
      intro before hfold
      rw [foldlM_nil, pure_ok] at hfold
      rw [hfold, countP_nil, Nat.zero_add]
    | cons line ls ih =>
      intro before hfold
      rw [foldlM_cons, bind_ok] at hfold
      obtain ⟨next, hline, hrest⟩ := hfold
      have hih := ih next hrest
      unfold findLine at hline
      rw [bind_ok] at hline
      obtain ⟨matched, hmatched, hnext⟩ := hline
      rw [countP_cons]
      cases matched with
      | none =>
        have hno : matchesLine kind key expected line = false := by
          unfold matchesLine
          rw [hmatched]
        rw [pure_ok] at hnext
        rw [hno, if_neg (by decide), hnext]
        exact hih
      | some event =>
        have hyes : matchesLine kind key expected line = true := by
          unfold matchesLine
          rw [hmatched]
        simp only [bind_ok, failIf_ok, pure_ok] at hnext
        obtain ⟨-, hnew, rfl⟩ := hnext
        rw [isSome_some, if_pos rfl] at hih
        rw [hyes, if_pos rfl, if_neg hnew]
        exact hih
  have hcount := hgeneral (lines bytes) none h
  rwa [isSome_none, if_neg (by decide), Nat.add_zero] at hcount

section

omit [Platform] [JsonReader] [FractionText]

lemma readLedgerBytes_of_content (hcontent : fs.content (ledgerPath root) = .ok bytes)
    (hsize : bytes.size ≤ maxLedgerBytes) : readLedgerBytes root fs = .ok (some bytes) := by
  unfold readLedgerBytes
  rw [readUntrustedPrivateFileBounded_ok.mpr ⟨hcontent, hsize⟩]

lemma ledgerBytes_of_content (hcontent : fs.content (ledgerPath root) = .ok bytes)
    (hsize : bytes.size ≤ maxLedgerBytes) : ledgerBytes root fs = .ok bytes := by
  unfold ledgerBytes
  rw [readLedgerBytes_of_content hcontent hsize]
  rfl

lemma ledgerBytes_cases (h : ledgerBytes root fs = .ok bytes) :
    readLedgerBytes root fs = .ok (some bytes) ∨
      (readLedgerBytes root fs = .ok none ∧ bytes = empty) := by
  unfold ledgerBytes at h
  rw [bind_ok] at h
  obtain ⟨current, hread, hbytes⟩ := h
  rw [pure_ok] at hbytes
  cases current with
  | none => exact .inr ⟨hread, hbytes.symm⟩
  | some existing =>
    have hexisting : existing = bytes := hbytes
    exact .inl (hexisting ▸ hread)

end

lemma find_eq (h : ledgerBytes root fs = .ok bytes)
    (hverify : verifyLedgerBytes bytes = .ok status) :
    findV2EventByPayloadString root fs kind key expected =
      (lines bytes).foldlM (findLine kind key expected) none := by
  unfold findV2EventByPayloadString
  rcases ledgerBytes_cases h with hread | ⟨hread, hbytes⟩
  · rw [hread]
    show (verifyLedgerBytes bytes >>= fun _ => _) = _
    rw [hverify]
    rfl
  · rw [hread, hbytes]
    rfl

/-- The lock file is empty, or it can be made. -/
def LockUsable (root : String) (fs : PrivateRoot) : Prop :=
  fs.content (ledgerLockPath root) = .error (.io .notFound) ∨
    ∃ lock, fs.content (ledgerLockPath root) = .ok lock ∧
      digestBytes lock = digestBytes ByteArray.empty

omit [Platform] [JsonReader] [FractionText] in
lemma ledgerPath_ne_lockPath : ledgerPath root ≠ ledgerLockPath root := by
  intro h
  exact absurd (Path.push_injective _ h) (by decide)

omit [JsonReader] [FractionText] in
lemma lock_spec (h : LockUsable root fs) :
    ∃ fs' digest, writeOrVerifyImmutable fs (ledgerLockPath root) empty =
        .ok (fs', digest) ∧ LockUsable root fs' ∧
      (∀ path, path ≠ ledgerLockPath root → fs'.content path = fs.content path) ∧
      ∀ path file, fs.content path = .ok file → fs'.content path = .ok file := by
  unfold writeOrVerifyImmutable
  rcases h with hnone | ⟨lock, hlock, hdigest⟩
  · rw [hnone]
    refine ⟨_, _, rfl, .inr ⟨empty, update_self .., rfl⟩, ?_, ?_⟩
    · intro path hpath
      exact update_of_ne hpath ..
    · intro path file hfile
      have hpath : path ≠ ledgerLockPath root := by
        intro heq
        rw [heq, hnone] at hfile
        cases hfile
      dsimp only
      rw [update_of_ne hpath]
      exact hfile
  · rw [hlock]
    refine ⟨fs, digestBytes empty, ?_, .inr ⟨lock, hlock, hdigest⟩,
      fun _ _ => rfl, fun _ _ hfile => hfile⟩
    simp only [bind_ok, failIf_ok, pure_ok]
    exact ⟨(), not_not.mpr hdigest, trivial⟩

omit [Platform] [JsonReader] [FractionText] in
lemma ledgerBytes_congr {fs' : PrivateRoot}
    (h : fs'.content (ledgerPath root) = fs.content (ledgerPath root)) :
    ledgerBytes root fs' = ledgerBytes root fs := by
  unfold ledgerBytes readLedgerBytes readUntrustedPrivateFileBounded
  rw [h]

def extended (status : LedgerStatus) (kind : String) (payload : JsonValue) (bytes : ByteArray) :
    ByteArray :=
  bytes ++ withFeed (toVec (nextEvent status kind payload))

/-- Under the lock, what extends the ledger is stored, and its event returned. -/
lemma appendLocked_extends (hextend : extendLedger root fs kind payload =
      .ok (nextEvent status kind payload, extended status kind payload bytes))
    (hroom : (extended status kind payload bytes).size ≤ maxLedgerBytes)
    (hnext : verifyLedgerBytes (extended status kind payload bytes) =
      .ok (status.next kind payload)) :
    appendLocked root kind payload fs = (replacePrivateFileAtomic fs (ledgerPath root)
      (extended status kind payload bytes), .ok (nextEvent status kind payload)) := by
  have hreplaced : (replacePrivateFileAtomic fs (ledgerPath root)
      (extended status kind payload bytes)).content (ledgerPath root) =
      .ok (extended status kind payload bytes) := update_self ..
  have hcheck : checkPersisted root (replacePrivateFileAtomic fs (ledgerPath root)
      (extended status kind payload bytes)) (nextEvent status kind payload)
      (extended status kind payload bytes) = .ok (nextEvent status kind payload) := by
    unfold checkPersisted
    rw [readLedgerBytes_of_content hreplaced hroom]
    simp only [ok_bind, bind_ok, okOr_ok, failIf_ok, pure_ok]
    refine ⟨_, rfl, (), not_not.mpr rfl, _, hnext, (), ?_, trivial⟩
    rw [not_or]
    exact ⟨not_not.mpr rfl, not_not.mpr rfl⟩
  unfold appendLocked
  simp only [hextend, hcheck]

/-- An append that has room returns the next event, and only the ledger and its lock
    change. -/
lemma append_spec (hkind : kind.toList.all isWhiteSpace = false) (hlock : LockUsable root fs)
    (hbytes : ledgerBytes root fs = .ok bytes) (hterminated : Terminated bytes)
    (hverify : verifyLedgerBytes bytes = .ok status) (h : Continues status kind payload)
    (hroom : (extended status kind payload bytes).size ≤ maxLedgerBytes) :
    ∃ fs', append root fs kind payload = (fs', .ok (nextEvent status kind payload)) ∧
      fs'.content (ledgerPath root) = .ok (extended status kind payload bytes) ∧
      LockUsable root fs' ∧ (∀ path, path ≠ ledgerPath root → path ≠ ledgerLockPath root →
        fs'.content path = fs.content path) ∧
      ∀ path file, path ≠ ledgerPath root → fs.content path = .ok file →
        fs'.content path = .ok file := by
  obtain ⟨locked, digest, hwrite, husable, hsame, hkept⟩ := lock_spec hlock
  have hcurrent : ledgerBytes root locked = .ok bytes := by
    rw [ledgerBytes_congr (hsame _ ledgerPath_ne_lockPath)]
    exact hbytes
  have hextend : extendLedger root locked kind payload =
      .ok (nextEvent status kind payload, extended status kind payload bytes) := by
    unfold ledgerBytes at hcurrent
    rw [bind_ok] at hcurrent
    obtain ⟨current, hread, hgetD⟩ := hcurrent
    rw [pure_ok] at hgetD
    unfold extendLedger
    simp only [hread, ok_bind, hgetD, bind_ok, failIf_ok, checkedAdd_ok, pure_ok]
    exact ⟨status, hverify, _, ⟨h.seq_lt, rfl⟩, payload, payload_nextEvent h, (),
      not_lt.mpr hroom, rfl⟩
  refine ⟨replacePrivateFileAtomic locked (ledgerPath root) (extended status kind payload bytes),
    ?_, update_self .., ?_, ?_, ?_⟩
  · unfold append withPrivateAuthorityLock
    rw [hkind, if_neg (by decide), hwrite]
    exact appendLocked_extends hextend hroom (verifyLedgerBytes_append hterminated hverify h)
  · have hother : (replacePrivateFileAtomic locked (ledgerPath root)
        (extended status kind payload bytes)).content (ledgerLockPath root) =
        locked.content (ledgerLockPath root) := update_of_ne ledgerPath_ne_lockPath.symm ..
    unfold LockUsable
    rw [hother]
    exact husable
  · intro path hledger hlockPath
    have hother : (replacePrivateFileAtomic locked (ledgerPath root)
        (extended status kind payload bytes)).content path = locked.content path :=
      update_of_ne hledger ..
    rw [hother]
    exact hsame path hlockPath
  · intro path file hledger hfile
    have hother : (replacePrivateFileAtomic locked (ledgerPath root)
        (extended status kind payload bytes)).content path = locked.content path :=
      update_of_ne hledger ..
    rw [hother]
    exact hkept path file hfile

end

end Tidex
