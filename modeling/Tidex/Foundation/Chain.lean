/-
  Foundation.Chain — what the hash chain of the ledger binds.
-/
import Tidex.Foundation.Ledger
import Tidex.Foundation.Reference
import Tidex.Lib.Frame
import Tidex.Lib.JsonPretty
import Tidex.Lib.JsonSpace
import Tidex.Lib.Tail

namespace Tidex

open Tidex.Lib List Function Json Sha256Digest ByteArray String LedgerStatus LedgerEvent JsonReader

variable [Platform] [JsonReader] [FractionText]

/-! ## The events of a ledger -/

def snapshotLine (events : List LedgerEvent) (line : ByteArray) :
    BrainResult (List LedgerEvent) := do
  match ← readLine line with
  | none => return events
  | some raw =>
    if isV2 raw then do
      let event ← LedgerEvent.ofValue raw
      return events ++ [event]
    else .error (integrity "ledger_diagnostic_snapshot_contains_legacy_event")

def snapshotEvents (bytes : ByteArray) : BrainResult (List LedgerEvent) :=
  (lines bytes).foldlM snapshotLine []

/-! ## Chains -/

/-- What the hash of an event is taken over. -/
def LedgerEvent.preimage (e : LedgerEvent) : ByteArray :=
  domainV2 ++ be64 e.seq ++ e.prevHash.toByteArray ++ e.kind.toByteArray ++
    e.payloadJson.toByteArray

/-- An event continues a chain. -/
structure Follows (status : LedgerStatus) (e : LedgerEvent) : Prop where
  seq_eq : e.seq = status.events + 1
  prevHash_eq : e.prevHash = status.head
  hash_eq : e.eventHash = (digestBytes e.preimage).hex

def LedgerEvent.status (e : LedgerEvent) : LedgerStatus where
  events := e.seq
  head := e.eventHash

def Linked (status : LedgerStatus) : List LedgerEvent → LedgerStatus → Prop
  | [], final => final = status
  | e :: es, final => Follows status e ∧ Linked e.status es final

variable {status final : LedgerStatus} {es : List LedgerEvent} {e : LedgerEvent}

section

omit [JsonReader] [FractionText]

lemma linked_snoc : Linked status (es ++ [e]) final ↔
      ∃ mid, Linked status es mid ∧ Follows mid e ∧ final = e.status := by
  induction es generalizing status with
  | nil =>
    constructor
    · intro h
      exact ⟨status, rfl, h.1, h.2⟩
    · intro h
      obtain ⟨mid, rfl, hfollows, hfinal⟩ := h
      exact ⟨hfollows, hfinal⟩
  | cons a es ih =>
    constructor
    · intro h
      obtain ⟨mid, hmid, hfollows, hfinal⟩ := ih.mp h.2
      exact ⟨mid, ⟨h.1, hmid⟩, hfollows, hfinal⟩
    · intro h
      obtain ⟨mid, hmid, hfollows, hfinal⟩ := h
      exact ⟨hmid.1, ih.mpr ⟨mid, hmid.2, hfollows, hfinal⟩⟩

lemma Linked.events_eq (h : Linked status es final) :
    final.events = status.events + es.length := by
  induction es generalizing status with
  | nil =>
    rw [show final = status from h, length_nil, Nat.add_zero]
  | cons e es ih =>
    have hrest := ih h.2
    have hseq : e.status.events = status.events + 1 := h.1.seq_eq
    rw [length_cons]
    omega

end

variable {status : LedgerStatus}

omit [FractionText] in
lemma follows_of_verifyV2Event (h : verifyV2Event e (status.events + 1) status.head = .ok ()) :
    Follows status e := by
  unfold verifyV2Event at h
  simp only [bind_ok, failIf_ok] at h
  obtain ⟨-, hfields, -, -, hhash⟩ := h
  rw [not_or, not_or, not_not, not_not, not_not] at hfields
  rw [not_not] at hhash
  exact ⟨hfields.2.1, hfields.2.2, hhash.symm⟩

lemma line_cases {status next : LedgerStatus} {events events' : List LedgerEvent}
    {line : ByteArray} (hverify : verifyLine status line = .ok next)
    (hsnapshot : snapshotLine events line = .ok events') : (next = status ∧ events' = events) ∨
      ∃ e, events' = events ++ [e] ∧ Follows status e ∧ next = e.status := by
  unfold verifyLine at hverify
  unfold snapshotLine at hsnapshot
  rw [bind_ok] at hverify hsnapshot
  obtain ⟨raw, hread, hverify⟩ := hverify
  obtain ⟨raw', hread', hsnapshot⟩ := hsnapshot
  rw [hread] at hread'
  cases hread'
  cases raw with
  | none =>
    rw [pure_ok] at hverify hsnapshot
    exact .inl ⟨hverify.symm, hsnapshot.symm⟩
  | some raw =>
    by_cases hv2 : isV2 raw = true
    · simp only [hv2, if_true, bind_ok, pure_ok] at hsnapshot
      obtain ⟨e, hvalue, hevents⟩ := hsnapshot
      simp only [bind_ok, checkedAdd_ok, pure_ok] at hverify
      obtain ⟨seq, ⟨-, rfl⟩, head, hevent, rfl⟩ := hverify
      unfold verifyEvent at hevent
      simp only [hv2, if_true, bind_ok, pure_ok, hvalue] at hevent
      obtain ⟨e', he', _, hchecked, rfl⟩ := hevent
      cases he'
      have hfollows := follows_of_verifyV2Event hchecked
      refine .inr ⟨e, hevents.symm, hfollows, ?_⟩
      rw [LedgerEvent.status, hfollows.seq_eq]
    · simp only [hv2] at hsnapshot
      cases hsnapshot

lemma linked_of_verify {bytes : ByteArray} {events : List LedgerEvent}
    (hverify : verifyLedgerBytes bytes = .ok status) (hevents : snapshotEvents bytes = .ok events) :
    Linked start events status := by
  have hgeneral : ∀ (ls : List ByteArray) (before : LedgerStatus) (es : List LedgerEvent),
      ls.foldlM verifyLine before = .ok status → ls.foldlM snapshotLine es = .ok events →
      ∃ new, events = es ++ new ∧ Linked before new status := by
    intro ls
    induction ls with
    | nil =>
      intro before es hfold hsnapshot
      rw [foldlM_nil, pure_ok] at hfold hsnapshot
      exact ⟨[], by rw [append_nil, hsnapshot], hfold.symm⟩
    | cons line ls ih =>
      intro before es hfold hsnapshot
      rw [foldlM_cons, bind_ok] at hfold hsnapshot
      obtain ⟨next, hline, hfold⟩ := hfold
      obtain ⟨es', hline', hsnapshot⟩ := hsnapshot
      obtain ⟨new, hnew, hlinked⟩ := ih next es' hfold hsnapshot
      rcases line_cases hline hline' with ⟨hsame, hes⟩ | ⟨e, hes, hfollows, hnext⟩
      · exact ⟨new, by rw [hnew, hes], hsame ▸ hlinked⟩
      · refine ⟨e :: new, ?_, hfollows, hnext ▸ hlinked⟩
        rw [hnew, hes, List.append_assoc, singleton_append]
  obtain ⟨new, hnew, hlinked⟩ := hgeneral (lines bytes) start [] hverify hevents
  rw [hnew, nil_append]
  exact hlinked

/-! ## What the head fixes -/

def HeadSized (status : LedgerStatus) : Prop := status.head.toByteArray.size = 64

section

omit [Platform] [JsonReader] [FractionText]

lemma headSized_start : HeadSized start := by
  unfold HeadSized
  rfl

lemma size_hex (d : Sha256Digest) : d.hex.toByteArray.size = 64 := by
  have hascii : ∀ c ∈ d.hex.toList, c.toNat < 128 := by
    intro c hc
    have hdigit := d.isAsciiHexdigit_of_mem hc
    have hcode : c.toNat ≤ 102 := by
      simp only [isAsciiHexdigit, Char.isDigit, Bool.or_eq_true, Bool.and_eq_true,
        decide_eq_true_eq] at hdigit
      rcases hdigit with (h | h) | h
      · have hdecimal : c.toNat ≤ 57 := h.2
        omega
      · exact h.2
      · have hupper : c.toNat ≤ 70 := h.2
        omega
    omega
  have htext : d.hex.toByteArray = encodeText d.hex.toList := by
    rw [encodeText, ofList_toList]
  have hbytes := congrArg List.length (data_encodeText_ascii hascii)
  rw [List.length_map, List.length_map, d.length_hex] at hbytes
  rw [htext]
  exact hbytes

end

section

omit [JsonReader] [FractionText]

lemma Follows.headSized (h : Follows status e) : HeadSized e.status := by
  show e.eventHash.toByteArray.size = 64
  rw [h.hash_eq]
  exact size_hex _

lemma Linked.headSized (hstatus : HeadSized status) (h : Linked status es final) :
    HeadSized final := by
  induction es generalizing status with
  | nil =>
    rw [show final = status from h]
    exact hstatus
  | cons e es ih => exact ih h.1.headSized h.2

end

omit [Platform] [JsonReader] [FractionText] in
/-- Events of one preimage and of parents of one size have the same parent, and their kinds
    and payloads together are the same text. -/
lemma preimage_inj {e e' : LedgerEvent} (hseq : e.seq = e'.seq)
    (hsize : e.prevHash.toByteArray.size = e'.prevHash.toByteArray.size)
    (h : e.preimage = e'.preimage) : e.prevHash = e'.prevHash ∧
      e.kind.toByteArray ++ e.payloadJson.toByteArray =
        e'.kind.toByteArray ++ e'.payloadJson.toByteArray := by
  unfold preimage at h
  rw [hseq] at h
  simp only [ByteArray.append_assoc] at h
  obtain ⟨-, hafterDomain⟩ := append_inj_of_size rfl h
  obtain ⟨-, hafterSeq⟩ := append_inj_of_size rfl hafterDomain
  obtain ⟨hprev, hrest⟩ := append_inj_of_size hsize hafterSeq
  exact ⟨toByteArray_inj.mp hprev, hrest⟩

/-- What an event's hash fixes of its content: the kind followed by the payload. -/
def LedgerEvent.joint (e : LedgerEvent) : ByteArray :=
  e.kind.toByteArray ++ e.payloadJson.toByteArray

omit [JsonReader] [FractionText] in
/-- Chains of one length and one head hold the same texts of kind and payload together. -/
lemma joint_eq_of_linked (hstatus : HeadSized status) :
    ∀ {es es' : List LedgerEvent} {final final' : LedgerStatus},
      Linked status es final → Linked status es' final' → es.length = es'.length →
      final.head = final'.head →
      Set.InjOn Platform.sha256 {bytes | ∃ e ∈ es ++ es', bytes = e.preimage} →
      es.map joint = es'.map joint := by
  intro es
  induction es using reverseRecOn with
  | nil =>
    intro es' final final' _ _ hlength _ _
    rw [length_eq_zero_iff.mp hlength.symm]
  | append_singleton es e ih =>
    intro es' final final' hlinked hlinked' hlength hhead hinj
    -- the other chain ends in an event too
    have hne : es' ≠ [] := by
      intro hnil
      rw [hnil, List.length_append] at hlength
      simp at hlength
    rw [← dropLast_append_getLast hne] at hlinked' hlength hinj ⊢
    generalize es'.dropLast = init at *
    generalize es'.getLast hne = e' at *
    obtain ⟨mid, hmid, hfollows, rfl⟩ := linked_snoc.mp hlinked
    obtain ⟨mid', hmid', hfollows', rfl⟩ := linked_snoc.mp hlinked'
    simp only [List.length_append, List.length_singleton, Nat.add_right_cancel_iff] at hlength
    have hseq : e.seq = e'.seq := by
      have hevents := hmid.events_eq
      have hevents' := hmid'.events_eq
      rw [hfollows.seq_eq, hfollows'.seq_eq]
      omega
    -- one head means one preimage
    have hpreimage : e.preimage = e'.preimage := by
      have hhash : e.eventHash = e'.eventHash := hhead
      rw [hfollows.hash_eq, hfollows'.hash_eq] at hhash
      apply hinj ⟨e, by simp, rfl⟩ ⟨e', by simp, rfl⟩
      exact hex_injective hhash
    have hsize : e.prevHash.toByteArray.size = e'.prevHash.toByteArray.size := by
      rw [hfollows.prevHash_eq, hfollows'.prevHash_eq]
      exact (hmid.headSized hstatus).trans (hmid'.headSized hstatus).symm
    obtain ⟨hprev, hjoint⟩ := preimage_inj hseq hsize hpreimage
    rw [hfollows.prevHash_eq, hfollows'.prevHash_eq] at hprev
    have hinit := ih hmid hmid' hlength hprev (hinj.mono (by
      intro bytes hbytes
      obtain ⟨x, hx, hxbytes⟩ := hbytes
      refine ⟨x, ?_, hxbytes⟩
      simp only [mem_append] at hx ⊢
      tauto))
    rw [map_append, map_append, hinit, map_singleton, map_singleton]
    rw [show e.joint = e'.joint from hjoint]

def LedgerEvent.content (e : LedgerEvent) : String × String := (e.kind, e.payloadJson)

/-- **What two ledgers of one head have in common.** -/
theorem content_eq_iff {bytes bytes' : ByteArray} {status status' : LedgerStatus}
    {events events' : List LedgerEvent} (hverify : verifyLedgerBytes bytes = .ok status)
    (hevents : snapshotEvents bytes = .ok events)
    (hverify' : verifyLedgerBytes bytes' = .ok status')
    (hevents' : snapshotEvents bytes' = .ok events')
    (hcount : status.events = status'.events) (hhead : status.head = status'.head)
    (hcollision : Set.InjOn Platform.sha256
      {preimage | ∃ e ∈ events ++ events', preimage = e.preimage}) :
    events.map LedgerEvent.content = events'.map LedgerEvent.content ↔
      events.map (fun e => e.kind.utf8ByteSize) = events'.map (fun e => e.kind.utf8ByteSize) := by
  have hlinked := linked_of_verify hverify hevents
  have hlinked' := linked_of_verify hverify' hevents'
  have hlength : events.length = events'.length := by
    have hevents := hlinked.events_eq
    have hevents' := hlinked'.events_eq
    omega
  have hjoint := joint_eq_of_linked headSized_start hlinked hlinked' hlength hhead hcollision
  constructor
  · intro h
    have hsizes := congrArg (map fun content : String × String => content.1.utf8ByteSize) h
    rwa [List.map_map, List.map_map] at hsizes
  · intro h
    clear hverify hverify' hevents hevents' hlinked hlinked' hcollision hcount
    induction events generalizing events' with
    | nil => rw [length_eq_zero_iff.mp hlength.symm]
    | cons e events ih =>
      cases events' with
      | nil => cases hlength
      | cons e' events' =>
        simp only [map_cons, cons.injEq, length_cons,
          Nat.add_right_cancel_iff] at h hjoint hlength ⊢
        obtain ⟨hkind, hpayload⟩ := append_inj_of_size h.1 hjoint.1
        refine ⟨?_, ih hlength hjoint.2 h.2⟩
        exact Prod.ext (String.toByteArray_inj.mp hkind) (String.toByteArray_inj.mp hpayload)

/-! ## What an append does to a file -/

/-- A reader that tells one event from what is glued to it: white space of documents around an
    event is skipped, anything else beside it is an error. -/
structure TellsEvents : Prop where
  around : ∀ (ws : List Char) (e : LedgerEvent), (∀ c ∈ ws, isJsonSpace c = true) →
    e.seq < ledgerWidth →
    JsonReader.read (encodeText ws ++ toVec e) = some (toJson e).toValue
  followed : ∀ (line : ByteArray) (value : JsonValue) (e : LedgerEvent),
    JsonReader.read line = some value → JsonReader.read (line ++ toVec e) = none
  foreign : ∀ (ws : List Char) (e : LedgerEvent), (∀ c ∈ ws, isWhiteSpace c = true) →
    (∃ c ∈ ws, isJsonSpace c = false) → JsonReader.read (encodeText ws ++ toVec e) = none

/-- What follows the last line feed is white space of documents only. -/
def BlankTail (bytes : ByteArray) : Prop :=
  ∃ ws, (∀ c ∈ ws, isJsonSpace c = true) ∧ tail bytes = encodeText ws

def PayloadReads (payload : JsonValue) : Prop :=
  ∃ value, JsonReader.read (canonicalPayloadJson payload).toByteArray = some value

/-- The documents of a ledger, line by line. -/
def documents (bytes : ByteArray) : List JsonValue :=
  (lines bytes).filterMap fun line => (readLine line).toOption.join

section

omit [Platform] [JsonReader] [FractionText]

lemma isWhiteSpace_of_isJsonSpace {c : Char} (h : isJsonSpace c = true) :
    isWhiteSpace c = true := by
  simp only [isJsonSpace, Bool.or_eq_true, beq_iff_eq] at h
  rcases h with ((h | h) | h) | h <;> subst h <;> decide

lemma headKind_of_isWhiteSpace {c : Char} (h : isWhiteSpace c = true) : headKind c = 7 := by
  have hne : ∀ d : Char, isWhiteSpace d = false → c ≠ d := by
    intro d hd heq
    rw [heq, hd] at h
    cases h
  have hdigit : c.isDigit = false := by
    by_contra hdigit
    rw [Bool.not_eq_false] at hdigit
    simp only [Char.isDigit, Bool.and_eq_true, decide_eq_true_eq] at hdigit
    have hlow : 48 ≤ c.toNat := hdigit.1
    have hhigh : c.toNat ≤ 57 := hdigit.2
    simp only [isWhiteSpace, Bool.or_eq_true, Bool.and_eq_true, decide_eq_true_eq, beq_iff_eq] at h
    omega
  unfold headKind
  rw [if_neg (hne 'n' (by decide)), if_neg (hne 't' (by decide)), if_neg (hne 'f' (by decide)),
    if_neg, if_neg (hne '\x22' (by decide)), if_neg (hne '[' (by decide)),
    if_neg (hne '\x7b' (by decide))]
  rw [not_or, hdigit]
  exact ⟨by decide, hne '-' (by decide)⟩

end

omit [JsonReader] [FractionText] [Platform] in
lemma visible_toVec (text : List Char) (e : LedgerEvent) :
    fromUTF8? (encodeText text ++ toVec e) = some (ofList (text ++ (toJson e).render)) ∧
      (ofList (text ++ (toJson e).render)).toList.all isWhiteSpace = false := by
  constructor
  · have hbytes : encodeText text ++ toVec e =
        (ofList (text ++ (toJson e).render)).toByteArray := by
      rw [toVec, toBytes, ← encodeText_append]
      rfl
    rw [hbytes]
    exact fromUTF8?_toByteArray _
  · have hdocument : toJson e = .obj (("schema", toJson e.schema) :: (
      [("seq", toJson e.seq), ("prev_hash", toJson e.prevHash), ("kind", toJson e.kind),
        ("payload_json", toJson e.payloadJson), ("event_hash", toJson e.eventHash)])) := rfl
    have hbrace : (toJson e).render.all isWhiteSpace = false := by
      rw [hdocument, render, all_cons]
      rfl
    rw [toList_ofList, all_append, hbrace, Bool.and_false]

omit [Platform] [FractionText] in
lemma text_of_readLine {line : ByteArray} {raw : Option JsonValue}
    (h : readLine line = .ok raw) : ∃ text, line = encodeText text ∧
      ((raw = none ∧ ∀ c ∈ text, isWhiteSpace c = true) ∨
        ∃ value, raw = some value ∧ read line = some value) := by
  unfold readLine at h
  rw [bind_ok] at h
  obtain ⟨text, htext, hrest⟩ := h
  rw [okOr_ok] at htext
  have hline : line = text.toByteArray := by
    unfold fromUTF8? at htext
    by_cases hvalid : IsValidUTF8 line
    · rw [dif_pos hvalid] at htext
      cases htext
      rfl
    · rw [dif_neg hvalid] at htext
      cases htext
  refine ⟨text.toList, ?_, ?_⟩
  · rw [hline, encodeText, ofList_toList]
  · cases hblank : text.toList.all isWhiteSpace with
    | true =>
      rw [hblank, cond_true, pure_ok] at hrest
      exact .inl ⟨hrest.symm, fun c hc => all_eq_true.mp hblank c hc⟩
    | false =>
      rw [hblank, cond_false, bind_ok] at hrest
      obtain ⟨value, hread, hraw⟩ := hrest
      rw [okOr_ok] at hread
      rw [pure_ok] at hraw
      exact .inr ⟨value, hraw.symm, hread⟩

omit [Platform] [JsonReader] [FractionText] in
lemma size_toVec_le (e : LedgerEvent) : (toVec e).size ≤
    12 * (e.schema.toList.length + e.prevHash.toList.length + e.kind.toList.length +
      e.payloadJson.toList.length + e.eventHash.toList.length) +
      textSize (renderInt e.seq) + 2000 := by
  have hdocument : toJson e = .obj [("schema", .str e.schema), ("seq", .num e.seq),
      ("prev_hash", .str e.prevHash), ("kind", .str e.kind), ("payload_json", .str e.payloadJson),
      ("event_hash", .str e.eventHash)] := rfl
  have hbound := size_toBytes_le (toJson e)
  have hnames : "schema".toList.length + "seq".toList.length + "prev_hash".toList.length +
      "kind".toList.length + "payload_json".toList.length + "event_hash".toList.length = 44 := by
    decide
  rw [hdocument] at hbound
  simp only [sizeBound_obj, membersBound_cons, membersBound_nil,
    sizeBound_str, sizeBound_num] at hbound
  show (toJson e).toBytes.size ≤ _
  rw [hdocument]
  omega

section

variable {status : LedgerStatus} {payload : JsonValue} {bytes : ByteArray}

omit [Platform] [JsonReader] [FractionText] in
lemma oneLine_toVec (e : LedgerEvent) : lineFeed ∉ (toVec e).data.toList ∧
    (toVec e).data.toList ≠ [] ∧ (toVec e).data.toList.getLast? ≠ some carriageReturn := by
  refine ⟨?_, ?_, ?_⟩
  · apply lineFeed_not_mem
    intro hmem
    exact not_control_render _ _ hmem (by decide)
  · have hpos := size_toBytes_pos (toJson e)
    intro hnil
    have hlength := congrArg List.length hnil
    have hsize : (toVec e).data.toList.length = (toJson e).toBytes.size := rfl
    rw [hsize, length_nil] at hlength
    omega
  · apply getLast?_encodeText_ne
    intro hmem
    exact not_control_render _ _ hmem (by decide)

lemma events_le_size (hverify : verifyLedgerBytes bytes = .ok status) :
    status.events ≤ bytes.size := by
  have hgeneral : ∀ (ls : List ByteArray) (before : LedgerStatus),
      ls.foldlM verifyLine before = .ok status → status.events ≤ before.events + ls.length := by
    intro ls
    induction ls with
    | nil =>
      intro before h
      rw [foldlM_nil, pure_ok] at h
      rw [h, length_nil, Nat.add_zero]
    | cons line ls ih =>
      intro before h
      rw [foldlM_cons, bind_ok] at h
      obtain ⟨next, hline, hrest⟩ := h
      have hih := ih next hrest
      have hnext : next.events ≤ before.events + 1 := by
        unfold verifyLine at hline
        rw [bind_ok] at hline
        obtain ⟨raw, -, hline⟩ := hline
        cases raw with
        | none =>
          rw [pure_ok] at hline
          rw [← hline]
          omega
        | some raw =>
          simp only [bind_ok, checkedAdd_ok, pure_ok] at hline
          obtain ⟨seq, ⟨-, rfl⟩, head, -, rfl⟩ := hline
          exact Nat.le_refl _
      rw [length_cons]
      omega
  have hlines := length_lines_le bytes
  have hcount := hgeneral (lines bytes) start hverify
  have hstart : start.events = 0 := rfl
  omega

/-- A new event after a blank tail is the next of the chain. -/
lemma verifyLine_glued (kind : String) (hreader : TellsEvents) {ws : List Char}
    (hws : ∀ c ∈ ws, isJsonSpace c = true) (hseq : status.events + 1 < ledgerWidth)
    (hpayload : PayloadReads payload) :
    readLine (encodeText ws ++ toVec (nextEvent status kind payload)) =
        .ok (some (toJson (nextEvent status kind payload)).toValue) ∧
      verifyLine status (encodeText ws ++ toVec (nextEvent status kind payload)) =
        .ok (status.next kind payload) := by
  obtain ⟨htext, hvisible⟩ := visible_toVec ws (nextEvent status kind payload)
  have hline := readLine_of_read htext hvisible (hreader.around ws _ hws hseq)
  obtain ⟨value, hvalue⟩ := hpayload
  have hread : (nextEvent status kind payload).payload = .ok value := okOr_ok.mpr hvalue
  have hverified : verifyV2Event (nextEvent status kind payload) (status.events + 1) status.head =
      .ok () := by
    unfold verifyV2Event
    simp only [bind_ok, failIf_ok]
    refine ⟨(), ?_, value, hread, not_not.mpr rfl⟩
    simp [nextEvent]
  have hevent : verifyEvent (toJson (nextEvent status kind payload)).toValue (status.events + 1)
      status.head = .ok (nextEvent status kind payload).eventHash := by
    unfold verifyEvent
    rw [if_pos (isV2_toValue rfl)]
    simp only [bind_ok, pure_ok]
    exact ⟨_, ofValue_toValue hseq, (), hverified, rfl⟩
  refine ⟨hline, ?_⟩
  unfold verifyLine
  rw [hline, ok_bind]
  simp only [bind_ok, checkedAdd_ok, pure_ok]
  exact ⟨_, ⟨hseq, rfl⟩, _, hevent, rfl⟩

/-- What an append makes of an accepted file. -/
lemma extended_cases (kind : String) (hreader : TellsEvents)
    (hverify : verifyLedgerBytes bytes = .ok status) (hseq : status.events + 1 < ledgerWidth)
    (hpayload : PayloadReads payload) : (BlankTail bytes →
      verifyLedgerBytes (extended status kind payload bytes) = .ok (status.next kind payload) ∧
      documents (extended status kind payload bytes) =
        documents bytes ++ [(toJson (nextEvent status kind payload)).toValue]) ∧
    (¬ BlankTail bytes → ∀ next,
      verifyLedgerBytes (extended status kind payload bytes) ≠ .ok next) := by
  obtain ⟨before, hlines, happend⟩ := lines_append_tail bytes
  obtain ⟨hfeed, hne, hreturn⟩ := oneLine_toVec (nextEvent status kind payload)
  have hextended := happend _ hfeed hne hreturn
  unfold verifyLedgerBytes at hverify
  rw [hlines, foldlM_append, bind_ok] at hverify
  obtain ⟨mid, hbefore, hlast⟩ := hverify
  constructor
  · intro hblank
    obtain ⟨ws, hws, htail⟩ := hblank
    -- the tail holds no document
    have hempty : ∀ text : List Char, (∀ c ∈ text, isJsonSpace c = true) →
        readLine (encodeText text) = .ok none := by
      intro text htext
      have hutf : fromUTF8? (encodeText text) = some (ofList text) :=
        fromUTF8?_toByteArray _
      have hall : (ofList text).toList.all isWhiteSpace = true := by
        rw [toList_ofList, all_eq_true]
        intro c hc
        exact isWhiteSpace_of_isJsonSpace (htext c hc)
      unfold readLine
      rw [hutf]
      show (bif (ofList text).toList.all isWhiteSpace then _ else _) = _
      rw [hall]
      rfl
    have hnone := hempty ws hws
    have hmid : mid = status ∧ documents bytes = before.filterMap fun line =>
        (readLine line).toOption.join := by
      unfold documents
      rw [hlines, filterMap_append]
      by_cases hno : tail bytes = empty
      · rw [if_pos hno] at hlast ⊢
        rw [foldlM_nil, pure_ok] at hlast
        exact ⟨hlast, by rw [filterMap_nil, append_nil]⟩
      · rw [if_neg hno] at hlast ⊢
        rw [foldlM_cons, verifyLine, htail, hnone, ok_bind, bind_ok] at hlast
        obtain ⟨next, hnext, hlast⟩ := hlast
        rw [pure_ok] at hnext
        rw [foldlM_nil, pure_ok, ← hnext] at hlast
        refine ⟨hlast, ?_⟩
        rw [htail, filterMap_cons, hnone, filterMap_nil]
        exact append_nil _
    obtain ⟨hline, hnext⟩ := verifyLine_glued kind hreader hws hseq hpayload
    constructor
    · unfold verifyLedgerBytes extended
      rw [hextended, htail, foldlM_append, hbefore, ok_bind, hmid.1, foldlM_cons, hnext]
      rfl
    · rw [hmid.2]
      unfold documents extended
      rw [hextended, htail, filterMap_append, filterMap_cons, hline]
      rfl
  · intro hblank next hnext
    unfold verifyLedgerBytes extended at hnext
    rw [hextended, foldlM_append, hbefore, ok_bind, foldlM_cons, bind_ok] at hnext
    obtain ⟨after, hafter, -⟩ := hnext
    unfold verifyLine at hafter
    rw [bind_ok] at hafter
    obtain ⟨raw, hread, -⟩ := hafter
    have hnoTail : tail bytes ≠ empty := by
      intro hno
      exact hblank ⟨[], by simp, hno⟩
    rw [if_neg hnoTail, foldlM_cons, verifyLine, bind_ok] at hlast
    obtain ⟨_, htailLine, -⟩ := hlast
    rw [bind_ok] at htailLine
    obtain ⟨rawTail, htailRead, -⟩ := htailLine
    obtain ⟨text, htext, hcases⟩ := text_of_readLine htailRead
    -- the line that is glued to the tail is not read
    have hunread : read (tail bytes ++ toVec (nextEvent status kind payload)) = none := by
      rcases hcases with ⟨-, hwhite⟩ | ⟨value, -, hvalue⟩
      · have hforeign : ∃ c ∈ text, isJsonSpace c = false := by
          by_contra hnone
          apply hblank
          refine ⟨text, ?_, htext⟩
          intro c hc
          by_contra hspace
          exact hnone ⟨c, hc, Bool.eq_false_iff.mpr hspace⟩
        rw [htext]
        exact hreader.foreign text _ hwhite hforeign
      · exact hreader.followed _ value _ hvalue
    obtain ⟨hutf, hvisible⟩ := visible_toVec text (nextEvent status kind payload)
    unfold readLine at hread
    rw [htext] at hread hunread
    rw [hutf, hunread] at hread
    change (bif (ofList (text ++ _)).toList.all isWhiteSpace then _ else _) = _ at hread
    rw [hvisible] at hread
    cases hread

end

/-! ## What an append returns -/

section

variable {root kind : String} {payload : JsonValue} {status : LedgerStatus} {bytes : ByteArray}
  {fs : PrivateRoot}

/-- The kind is not blank and the record fits. -/
structure Fits (kind : String) (payload : JsonValue) (status : LedgerStatus) (bytes : ByteArray) :
    Prop where
  visible : kind.toList.all isWhiteSpace = false
  room : (extended status kind payload bytes).size ≤ maxLedgerBytes

/-- An append returns an event, and the ledger verifies with one event more, whose hash is its
    head, after the documents it held. -/
def Extends (root : String) (fs : PrivateRoot) (kind : String) (payload : JsonValue)
    (status : LedgerStatus) (bytes : ByteArray) : Prop :=
  ∃ fs' event next, append root fs kind payload = (fs', .ok event) ∧
    ledgerBytes root fs' = .ok next ∧
    verifyLedgerBytes next = .ok { events := status.events + 1, head := event.eventHash } ∧
    documents next = documents bytes ++ [(toJson event).toValue]

/-- An append that fails leaves a ledger that verifies with its head. -/
def KeepsHead (root : String) (fs : PrivateRoot) (kind : String) (payload : JsonValue)
    (status : LedgerStatus) : Prop :=
  ∀ fs' e, append root fs kind payload = (fs', .error e) →
    ∃ next status', ledgerBytes root fs' = .ok next ∧ verifyLedgerBytes next = .ok status' ∧
      status'.head = status.head

omit [JsonReader] [FractionText] in
lemma lock_error (h : ¬ LockUsable root fs) :
    ∃ e, writeOrVerifyImmutable fs (ledgerLockPath root) empty = .error e := by
  unfold LockUsable at h
  rw [not_or] at h
  unfold writeOrVerifyImmutable
  rcases hcontent : fs.content (ledgerLockPath root) with e | lock
  · cases e with
    | io kind =>
      cases kind with
      | notFound => exact absurd hcontent h.1
      | _ => exact ⟨_, rfl⟩
    | _ => exact ⟨_, rfl⟩
  · have hdigest : digestBytes lock ≠ digestBytes empty := by
      intro heq
      exact h.2 ⟨lock, hcontent, heq⟩
    refine ⟨integrity "private_file_immutable_content_mismatch", ?_⟩
    simp only [failIf, if_pos hdigest]
    rfl

lemma extendLedger_ok (hbytes : ledgerBytes root fs = .ok bytes)
    (hverify : verifyLedgerBytes bytes = .ok status) (hseq : status.events + 1 < ledgerWidth)
    {result : LedgerEvent × ByteArray} : extendLedger root fs kind payload = .ok result ↔
      PayloadReads payload ∧ (extended status kind payload bytes).size ≤ maxLedgerBytes ∧
        result = (nextEvent status kind payload, extended status kind payload bytes) := by
  unfold ledgerBytes at hbytes
  rw [bind_ok] at hbytes
  obtain ⟨current, hread, hgetD⟩ := hbytes
  rw [pure_ok] at hgetD
  unfold extendLedger
  rw [hread, ok_bind]
  simp only [hgetD, hverify, ok_bind, bind_ok, failIf_ok, checkedAdd_ok, pure_ok,
    LedgerEvent.payload, okOr_ok]
  constructor
  · intro h
    obtain ⟨_, -, value, hvalue, -, hroom, hresult⟩ := h
    exact ⟨⟨value, hvalue⟩, not_lt.mp hroom, hresult.symm⟩
  · intro h
    obtain ⟨⟨value, hvalue⟩, hroom, hresult⟩ := h
    exact ⟨_, ⟨hseq, rfl⟩, value, hvalue, (), not_lt.mpr hroom, hresult.symm⟩

omit [Platform] [JsonReader] [FractionText] in
lemma size_le_of_ledgerBytes (h : ledgerBytes root fs = .ok bytes) :
    bytes.size ≤ maxLedgerBytes := by
  rcases ledgerBytes_cases h with hread | ⟨-, hempty⟩
  · unfold readLedgerBytes at hread
    rcases hcontent : readUntrustedPrivateFileBounded fs (ledgerPath root) maxLedgerBytes with
      e | existing
    · rw [hcontent] at hread
      cases e with
      | io kind => cases kind <;> cases hread
      | _ => cases hread
    · rw [hcontent] at hread
      cases hread
      exact (readUntrustedPrivateFileBounded_ok.mp hcontent).2
  · rw [hempty]
    exact Nat.zero_le _

lemma seq_lt_of_verify (hbytes : ledgerBytes root fs = .ok bytes)
    (hverify : verifyLedgerBytes bytes = .ok status) : status.events + 1 < ledgerWidth := by
  have hsize := size_le_of_ledgerBytes hbytes
  have hevents := events_le_size hverify
  have hmax : maxLedgerBytes < 2 ^ 32 := by decide
  have hwidth : 2 ^ 32 + 1 < ledgerWidth := by decide
  omega

/-- Under the lock, an append whose record fits after a blank tail returns the next event. -/
lemma appendLocked_eq (hreader : TellsEvents) (hbytes : ledgerBytes root fs = .ok bytes)
    (hverify : verifyLedgerBytes bytes = .ok status) (hreads : PayloadReads payload)
    (hroom : (extended status kind payload bytes).size ≤ maxLedgerBytes)
    (hblank : BlankTail bytes) :
    appendLocked root kind payload fs = (replacePrivateFileAtomic fs (ledgerPath root)
      (extended status kind payload bytes), .ok (nextEvent status kind payload)) := by
  have hseq := seq_lt_of_verify hbytes hverify
  exact appendLocked_extends ((extendLedger_ok hbytes hverify hseq).mpr ⟨hreads, hroom, rfl⟩) hroom
    ((extended_cases kind hreader hverify hseq hreads).1 hblank).1

lemma appendLocked_ok (hreader : TellsEvents) (hbytes : ledgerBytes root fs = .ok bytes)
    (hverify : verifyLedgerBytes bytes = .ok status) {fs' : PrivateRoot} {event : LedgerEvent}
    (h : appendLocked root kind payload fs = (fs', .ok event)) :
    BlankTail bytes ∧ PayloadReads payload := by
  have hseq := seq_lt_of_verify hbytes hverify
  unfold appendLocked at h
  rcases hextend : extendLedger root fs kind payload with e | result
  · rw [hextend] at h
    cases h
  · obtain ⟨hreads, hroom, rfl⟩ := (extendLedger_ok hbytes hverify hseq).mp hextend
    rw [hextend] at h
    have hcheck := (Prod.mk.inj h).2
    refine ⟨?_, hreads⟩
    by_contra hblank
    unfold checkPersisted at hcheck
    simp only [bind_ok, failIf_ok] at hcheck
    obtain ⟨_, -, persisted, -, -, hsame, after, hafter, -⟩ := hcheck
    rw [not_not.mp hsame] at hafter
    exact (extended_cases kind hreader hverify hseq hreads).2 hblank after hafter

lemma append_locked (payload : JsonValue) (hkind : kind.toList.all isWhiteSpace = false)
    (hlock : LockUsable root fs) (hbytes : ledgerBytes root fs = .ok bytes) :
    ∃ locked, append root fs kind payload = appendLocked root kind payload locked ∧
      ledgerBytes root locked = .ok bytes := by
  obtain ⟨locked, digest, hwrite, -, hsame, -⟩ := lock_spec hlock
  refine ⟨locked, ?_, ?_⟩
  · unfold append withPrivateAuthorityLock
    rw [hkind, if_neg (by decide), hwrite]
  · rw [ledgerBytes_congr (hsame _ ledgerPath_ne_lockPath)]
    exact hbytes

lemma append_unlocked (hkind : kind.toList.all isWhiteSpace = false)
    (hlock : ¬ LockUsable root fs) : ∃ e, append root fs kind payload = (fs, .error e) := by
  obtain ⟨e, hwrite⟩ := lock_error hlock
  refine ⟨e, ?_⟩
  unfold append withPrivateAuthorityLock
  rw [hkind, if_neg (by decide), hwrite]

/-- An append that glues its line to another fails, and leaves a file that is no ledger. -/
lemma appendLocked_glued (hreader : TellsEvents) (hbytes : ledgerBytes root fs = .ok bytes)
    (hverify : verifyLedgerBytes bytes = .ok status) (hreads : PayloadReads payload)
    (hroom : (extended status kind payload bytes).size ≤ maxLedgerBytes)
    (hblank : ¬ BlankTail bytes) : ∃ fs' e next, appendLocked root kind payload fs =
      (fs', .error e) ∧ ledgerBytes root fs' = .ok next ∧
      ∀ after, verifyLedgerBytes next ≠ .ok after := by
  have hseq := seq_lt_of_verify hbytes hverify
  have hextend : extendLedger root fs kind payload =
      .ok (nextEvent status kind payload, extended status kind payload bytes) :=
    (extendLedger_ok hbytes hverify hseq).mpr ⟨hreads, hroom, rfl⟩
  have hreplaced : (replacePrivateFileAtomic fs (ledgerPath root)
      (extended status kind payload bytes)).content (ledgerPath root) =
      .ok (extended status kind payload bytes) := update_self ..
  have hstored := ledgerBytes_of_content hreplaced hroom
  have hbroken := (extended_cases kind hreader hverify hseq hreads).2 hblank
  rcases hresult : (appendLocked root kind payload fs).2 with e | event
  · refine ⟨_, e, _, ?_, hstored, hbroken⟩
    rw [← hresult]
    unfold appendLocked
    simp only [hextend]
  · exact absurd (appendLocked_ok hreader hbytes hverify (Prod.ext rfl hresult)).1 hblank

/-- **Which accepted ledgers an append extends.** -/
theorem append_total_iff (hreader : TellsEvents) (hbytes : ledgerBytes root fs = .ok bytes)
    (hverify : verifyLedgerBytes bytes = .ok status) :
    ((Fits kind payload status bytes → Extends root fs kind payload status bytes) ∧
        KeepsHead root fs kind payload status) ↔ (Fits kind payload status bytes →
        LockUsable root fs ∧ BlankTail bytes ∧ PayloadReads payload) := by
  constructor
  · intro h hfits
    obtain ⟨fs', event, next, happend, -, -, -⟩ := h.1 hfits
    by_cases hlock : LockUsable root fs
    · obtain ⟨locked, hlocked, hcurrent⟩ := append_locked payload hfits.visible hlock hbytes
      rw [hlocked] at happend
      exact ⟨hlock, appendLocked_ok hreader hcurrent hverify happend⟩
    · obtain ⟨e, herror⟩ := append_unlocked hfits.visible hlock
      rw [herror] at happend
      cases happend
  · intro hcond
    constructor
    · intro hfits
      obtain ⟨hlock, hblank, hreads⟩ := hcond hfits
      obtain ⟨locked, hlocked, hcurrent⟩ := append_locked payload hfits.visible hlock hbytes
      have hseq := seq_lt_of_verify hbytes hverify
      obtain ⟨hnext, hdocuments⟩ := (extended_cases kind hreader hverify hseq hreads).1
        hblank
      have happend := appendLocked_eq hreader hcurrent hverify hreads hfits.room hblank
      have hreplaced : (replacePrivateFileAtomic locked (ledgerPath root)
          (extended status kind payload bytes)).content (ledgerPath root) =
          .ok (extended status kind payload bytes) := update_self ..
      have hstored := ledgerBytes_of_content hreplaced hfits.room
      exact ⟨_, _, _, hlocked.trans happend, hstored, hnext, hdocuments⟩
    · intro fs' e happend
      by_cases hkind : kind.toList.all isWhiteSpace = true
      · unfold append at happend
        rw [if_pos hkind] at happend
        cases happend
        exact ⟨bytes, status, hbytes, hverify, rfl⟩
      · rw [Bool.not_eq_true] at hkind
        by_cases hlock : LockUsable root fs
        · obtain ⟨locked, hlocked, hcurrent⟩ := append_locked payload hkind hlock hbytes
          rw [hlocked] at happend
          rcases hextend : extendLedger root locked kind payload with error | result
          · -- nothing is published
            unfold appendLocked at happend
            rw [hextend] at happend
            cases happend
            exact ⟨bytes, status, hcurrent, hverify, rfl⟩
          · obtain ⟨hreads, hroom, -⟩ := (extendLedger_ok hcurrent hverify
              (seq_lt_of_verify hbytes hverify)).mp hextend
            obtain ⟨-, hblank, -⟩ := hcond ⟨hkind, hroom⟩
            rw [appendLocked_eq hreader hcurrent hverify hreads hroom hblank] at happend
            cases happend
        · obtain ⟨error, herror⟩ := append_unlocked hkind hlock
          rw [herror] at happend
          cases happend
          exact ⟨bytes, status, hbytes, hverify, rfl⟩

/-! ## Many appends -/

/-- What is stored after some calls, of which some may fail, and the events of the others. -/
def appendAll (root : String) : List (String × JsonValue) → PrivateRoot →
    PrivateRoot × List LedgerEvent
  | [], fs => (fs, [])
  | (kind, payload) :: calls, fs =>
    let (fs, result) := append root fs kind payload
    let (fs, events) := appendAll root calls fs
    (fs, result.toOption.toList ++ events)

/-- A ledger that verifies and that a new line can follow. -/
structure Extendable (root : String) (fs : PrivateRoot) (status : LedgerStatus) (bytes : ByteArray) :
    Prop where
  stored : ledgerBytes root fs = .ok bytes
  verified : verifyLedgerBytes bytes = .ok status
  blank : BlankTail bytes

omit [JsonReader] in
lemma blankTail_extended : BlankTail (extended status kind payload bytes) := by
  refine ⟨[], forall_mem_nil _, ?_⟩
  rw [extended, tail_append_withFeed]
  rfl

lemma Extendable.append (h : Extendable root fs status bytes) (hreader : TellsEvents) (kind : String)
    (payload : JsonValue) :
    (∃ fs' e, append root fs kind payload = (fs', .error e) ∧ Extendable root fs' status bytes) ∨
      ∃ fs', append root fs kind payload = (fs', .ok (nextEvent status kind payload)) ∧
        Extendable root fs' (status.next kind payload) (extended status kind payload bytes) ∧
        documents (extended status kind payload bytes) =
          documents bytes ++ [(toJson (nextEvent status kind payload)).toValue] := by
  by_cases hkind : kind.toList.all isWhiteSpace = true
  · refine .inl ⟨fs, invalid "ledger_kind_empty", ?_, h⟩
    unfold Tidex.append
    rw [if_pos hkind]
  rw [Bool.not_eq_true] at hkind
  by_cases hlock : LockUsable root fs
  · obtain ⟨locked, hlocked, hstored⟩ := append_locked payload hkind hlock h.stored
    rw [hlocked]
    have hseq := seq_lt_of_verify hstored h.verified
    rcases hextend : extendLedger root locked kind payload with e | result
    · refine .inl ⟨locked, e, ?_, hstored, h.verified, h.blank⟩
      unfold appendLocked
      rw [hextend]
    · obtain ⟨hreads, hroom, -⟩ := (extendLedger_ok hstored h.verified hseq).mp hextend
      obtain ⟨hnext, hdocuments⟩ := (extended_cases kind hreader h.verified hseq hreads).1 h.blank
      refine .inr ⟨_, appendLocked_eq hreader hstored h.verified hreads hroom h.blank, ?_,
        hdocuments⟩
      exact ⟨ledgerBytes_of_content (update_self ..) hroom, hnext, blankTail_extended⟩
  · obtain ⟨e, herror⟩ := append_unlocked hkind hlock
    exact .inl ⟨fs, e, herror, h⟩

/-- **The ledger is the log of the appends that return**, one event for each, in their order and
    linked, after what it held; an append that fails leaves no trace. -/
theorem append_log (hreader : TellsEvents) (calls : List (String × JsonValue))
    (hstored : ledgerBytes root fs = .ok bytes) (hverify : verifyLedgerBytes bytes = .ok status)
    (hblank : BlankTail bytes) : ∃ fs' events next final,
      appendAll root calls fs = (fs', events) ∧ ledgerBytes root fs' = .ok next ∧
      verifyLedgerBytes next = .ok final ∧ Linked status events final ∧
      documents next = documents bytes ++ events.map (fun e => (toJson e).toValue) ∧
      (events.map LedgerEvent.content).Sublist
        (calls.map fun call => (call.1, canonicalPayloadJson call.2)) := by
  have h : Extendable root fs status bytes := ⟨hstored, hverify, hblank⟩
  clear hstored hverify hblank
  induction calls generalizing fs status bytes with
  | nil => exact ⟨fs, [], bytes, status, rfl, h.stored, h.verified, rfl, by simp, .refl _⟩
  | cons call calls ih =>
    rcases h.append hreader call.1 call.2 with ⟨fs', e, happend, hopen⟩ |
      ⟨fs', happend, hopen, hdocuments⟩
    · obtain ⟨after, events, next, final, hall, hstored, hverify, hlinked, hdocs, hsub⟩ := ih hopen
      refine ⟨after, events, next, final, ?_, hstored, hverify, hlinked, hdocs, hsub.cons _⟩
      rw [appendAll, happend]
      simp only [hall]
      rfl
    · obtain ⟨after, events, next, final, hall, hstored, hverify, hlinked, hdocs, hsub⟩ := ih hopen
      refine ⟨after, nextEvent status call.1 call.2 :: events, next, final, ?_, hstored, hverify,
        ⟨⟨rfl, rfl, rfl⟩, hlinked⟩, ?_, hsub.cons_cons _⟩
      · rw [appendAll, happend]
        simp only [hall]
        rfl
      · rw [hdocs, hdocuments, List.append_assoc]
        rfl

end

/-! ## The reader of documents with white space around them -/

omit [Platform] [JsonReader] [FractionText] in
lemma tellsEvents_spaced : @TellsEvents spaced := by
  refine @TellsEvents.mk spaced ?_ ?_ ?_
  · intro ws e hws _
    have htext : encodeText ws ++ toVec e =
        encodeText (ws ++ ((toJson e).render ++ [])) := by
      rw [append_nil, encodeText_append]
      rfl
    have hnone : ∀ c ∈ ([] : List Char), isJsonSpace c = true := by simp
    rw [htext]
    exact readSpaced_around (toJson e) hws hnone
  · intro line value e hread
    exact readSpaced_followed hread _
  · intro ws e hws hforeign
    obtain ⟨c, hc, hspace⟩ := hforeign
    have htext : encodeText ws ++ toVec e = encodeText (ws ++ (toJson e).render) := by
      rw [encodeText_append]
      rfl
    rw [htext]
    exact readSpaced_foreign (fun d hd => headKind_of_isWhiteSpace (hws d hd)) hc hspace

end Tidex

/-! ## Two ledgers of one head, and one without its line feed -/

namespace Tidex.ChainSample

open Tidex.Lib

@[reducible] def fractions : FractionText where
  text _ := ['1', '.', '0']

attribute [local instance] Platform.reference JsonReader.spaced fractions

def number (n : Int) : JsonValue := .number (.int n)

noncomputable def first (kind : String) (n : Int) : LedgerEvent :=
  nextEvent LedgerStatus.start kind (number n)

noncomputable def ledger (kind : String) (n : Int) : ByteArray :=
  extended LedgerStatus.start kind (number n) ByteArray.empty

lemma read_number (n : Int) :
    JsonReader.read (canonicalPayloadJson (number n)).toByteArray = some (number n) := by
  have hnone : ∀ c ∈ ([] : List Char), isJsonSpace c = true := by simp
  have hread := readSpaced_around (Json.num n) hnone hnone
  rw [List.nil_append, List.append_nil] at hread
  exact hread

lemma continues_first (kind : String) (n : Int) :
    Continues LedgerStatus.start kind (number n) := by
  refine ⟨by decide, ?_, read_number n⟩
  have hread := tellsEvents_spaced.around [] (first kind n) (by simp)
    (by show 1 < ledgerWidth; decide)
  rw [show Json.encodeText [] = ByteArray.empty from rfl, ByteArray.empty_append] at hread
  exact hread

lemma verify_ledger (kind : String) (n : Int) : verifyLedgerBytes (ledger kind n) =
    .ok (LedgerStatus.start.next kind (number n)) :=
  verifyLedgerBytes_append (.inl rfl) rfl (continues_first kind n)

lemma snapshot_ledger (kind : String) (n : Int) :
    snapshotEvents (ledger kind n) = .ok [first kind n] := by
  have hread : readLine (toVec (first kind n)) = .ok (some (toJson (first kind n)).toValue) :=
    LedgerEvent.readLine_toVec (continues_first kind n).reads
  have hv2 : isV2 (toJson (first kind n)).toValue = true := LedgerEvent.isV2_toValue rfl
  have hvalue : LedgerEvent.ofValue (toJson (first kind n)).toValue = .ok (first kind n) :=
    LedgerEvent.ofValue_toValue (by show 1 < 2 ^ 64; decide)
  have hlines : lines (ledger kind n) = [toVec (first kind n)] :=
    lines_nextEvent (.inl rfl)
  have hline : snapshotLine [] (toVec (first kind n)) = .ok [first kind n] := by
    unfold snapshotLine
    rw [hread, ok_bind]
    simp only [hv2, if_true, hvalue, ok_bind]
    rfl
  rw [snapshotEvents, hlines, List.foldlM_cons, hline]
  rfl

lemma preimage_eq : (first "a" 12).preimage = (first "a1" 2).preimage := by
  have htext : (first "a" 12).kind.toByteArray ++ (first "a" 12).payloadJson.toByteArray =
      (first "a1" 2).kind.toByteArray ++ (first "a1" 2).payloadJson.toByteArray := by
    rw [← String.toByteArray_append, ← String.toByteArray_append]
    have hjoined : (first "a" 12).kind ++ (first "a" 12).payloadJson =
        (first "a1" 2).kind ++ (first "a1" 2).payloadJson := by
      show "a" ++ String.ofList (Json.renderInt 12) = "a1" ++ String.ofList (Json.renderInt 2)
      decide
    rw [hjoined]
  unfold LedgerEvent.preimage
  rw [ByteArray.append_assoc, htext, ← ByteArray.append_assoc]
  rfl

lemma head_eq : (LedgerStatus.start.next "a" (number 12)).head =
    (LedgerStatus.start.next "a1" (number 2)).head :=
  congrArg (fun bytes => (Sha256Digest.digestBytes bytes).hex) preimage_eq

lemma no_collision : Set.InjOn Platform.sha256
    {preimage | ∃ e ∈ [first "a" 12] ++ [first "a1" 2], preimage = e.preimage} := by
  have hone : ∀ bytes, (∃ e ∈ [first "a" 12] ++ [first "a1" 2], bytes = e.preimage) →
      bytes = (first "a" 12).preimage := by
    intro bytes h
    obtain ⟨e, hmem, hbytes⟩ := h
    rcases List.mem_append.mp hmem with he | he
    · rw [hbytes, List.mem_singleton.mp he]
    · rw [hbytes, List.mem_singleton.mp he, preimage_eq]
  intro a ha b hb _
  rw [hone a ha, hone b hb]

/-- The law at the two ledgers. -/
theorem content_eq_iff_ledgers :
    [first "a" 12].map LedgerEvent.content = [first "a1" 2].map LedgerEvent.content ↔
      [first "a" 12].map (fun e => e.kind.utf8ByteSize) =
        [first "a1" 2].map (fun e => e.kind.utf8ByteSize) :=
  content_eq_iff (verify_ledger "a" 12) (snapshot_ledger "a" 12) (verify_ledger "a1" 2)
    (snapshot_ledger "a1" 2) rfl head_eq no_collision

/-- **Two accepted ledgers of one event and one head** whose events differ: a kind `a` with the
    payload `12`, and a kind `a1` with the payload `2`. -/
theorem one_head_two_contents :
    verifyLedgerBytes (ledger "a" 12) = .ok (LedgerStatus.start.next "a" (number 12)) ∧
      snapshotEvents (ledger "a" 12) = .ok [first "a" 12] ∧
      verifyLedgerBytes (ledger "a1" 2) = .ok (LedgerStatus.start.next "a1" (number 2)) ∧
      snapshotEvents (ledger "a1" 2) = .ok [first "a1" 2] ∧
      (LedgerStatus.start.next "a" (number 12)).head =
        (LedgerStatus.start.next "a1" (number 2)).head ∧
      Set.InjOn Platform.sha256
        {preimage | ∃ e ∈ [first "a" 12] ++ [first "a1" 2], preimage = e.preimage} ∧
      [first "a" 12].map LedgerEvent.content ≠ [first "a1" 2].map LedgerEvent.content := by
  refine ⟨verify_ledger _ _, snapshot_ledger _ _, verify_ledger _ _, snapshot_ledger _ _, head_eq,
    no_collision, ?_⟩
  intro h
  have hcontent := (List.cons.inj h).1
  have hkind : "a" = "a1" := congrArg Prod.fst hcontent
  exact absurd hkind (by decide)

/-! A ledger whose last line lacks its line feed. -/

/-- The line of a first event, without its line feed. -/
noncomputable def unterminated : ByteArray := toVec (first "a" 12)

def root : String := "/r"

/-- A root that holds this ledger and no lock. -/
noncomputable def files : PrivateRoot where
  content path :=
    if path = ledgerPath root then .ok unterminated else .error (.io .notFound)
  capabilityBundle _ := .error (.io .notFound)

lemma verify_unterminated : verifyLedgerBytes unterminated =
    .ok (LedgerStatus.start.next "a" (number 12)) := by
  obtain ⟨hfeed, hne, -⟩ := oneLine_toVec (first "a" 12)
  unfold verifyLedgerBytes
  rw [unterminated, lines_of_unterminated hfeed hne, List.foldlM_cons,
    show verifyLine LedgerStatus.start (toVec (first "a" 12)) = _ from
      verifyLine_nextEvent (continues_first "a" 12)]
  rfl

lemma not_blankTail : ¬ BlankTail unterminated := by
  intro h
  obtain ⟨ws, hws, htail⟩ := h
  obtain ⟨hfeed, -, -⟩ := oneLine_toVec (first "a" 12)
  rw [unterminated, tail_of_unterminated hfeed] at htail
  have htext : (toJson (first "a" 12)).render = ws := Json.encodeText_injective htail
  have hbrace : '\x7b' ∈ ws := by
    have hdocument : toJson (first "a" 12) = .obj (("schema", toJson eventSchemaV2) :: (
        [("seq", toJson (first "a" 12).seq), ("prev_hash", toJson (first "a" 12).prevHash),
          ("kind", toJson "a"), ("payload_json", toJson (first "a" 12).payloadJson),
          ("event_hash", toJson (first "a" 12).eventHash)])) := rfl
    rw [← htext, hdocument, Json.render]
    exact List.mem_cons_self
  exact absurd (hws _ hbrace) (by decide)

lemma size_line {status : LedgerStatus} (hhead : status.head.toList.length = 64)
    (hseq : Json.textSize (Json.renderInt (status.events + 1 : Nat)) = 1) :
    (toVec (nextEvent status "a" (number 12))).size ≤ 3825 := by
  have hbound := size_toVec_le (nextEvent status "a" (number 12))
  have hhash : (nextEvent status "a" (number 12)).eventHash.toList.length = 64 :=
    Sha256Digest.length_hex _
  have hschema : eventSchemaV2.toList.length = 21 := by decide
  have hpayload : (canonicalPayloadJson (number 12)).toList.length = 2 := by decide
  have hkind : "a".toList.length = 1 := by decide
  rw [hhash] at hbound
  simp only [nextEvent, hschema, hpayload, hkind, hhead, hseq] at hbound
  exact hbound

lemma size_unterminated : unterminated.size ≤ 3825 := size_line rfl rfl

lemma fits : Fits "a" (number 12) (LedgerStatus.start.next "a" (number 12)) unterminated := by
  refine ⟨by decide, ?_⟩
  have hfirst := size_unterminated
  have hnext : (toVec (nextEvent (LedgerStatus.start.next "a" (number 12)) "a"
      (number 12))).size ≤ 3825 := size_line (Sha256Digest.length_hex _) rfl
  have hmax : 8000 < maxLedgerBytes := by decide
  rw [extended, withFeed, ByteArray.size_append, ByteArray.size_push]
  omega

lemma ledgerBytes_files : ledgerBytes root files = .ok unterminated := by
  have hcontent : files.content (ledgerPath root) = .ok unterminated := by
    unfold files
    dsimp only
    rw [if_pos rfl]
  have hmax : 8000 < maxLedgerBytes := by decide
  have hsize := size_unterminated
  exact ledgerBytes_of_content hcontent (by omega)

lemma lockUsable_files : LockUsable root files := by
  apply Or.inl
  unfold files
  dsimp only
  rw [if_neg ledgerPath_ne_lockPath.symm]

/-- The law at this ledger. -/
theorem append_total_iff_unterminated :
    ((Fits "a" (number 12) (LedgerStatus.start.next "a" (number 12)) unterminated →
        Extends root files "a" (number 12) (LedgerStatus.start.next "a" (number 12)) unterminated) ∧
        KeepsHead root files "a" (number 12) (LedgerStatus.start.next "a" (number 12))) ↔
      (Fits "a" (number 12) (LedgerStatus.start.next "a" (number 12)) unterminated →
        LockUsable root files ∧ BlankTail unterminated ∧ PayloadReads (number 12)) :=
  append_total_iff tellsEvents_spaced ledgerBytes_files verify_unterminated

/-- **An append to an accepted ledger without its last line feed** fails after it has replaced the
    file by one that is no ledger. -/
theorem append_breaks_unterminated : ledgerBytes root files = .ok unterminated ∧
    verifyLedgerBytes unterminated = .ok (LedgerStatus.start.next "a" (number 12)) ∧
    Fits "a" (number 12) (LedgerStatus.start.next "a" (number 12)) unterminated ∧
    LockUsable root files ∧ PayloadReads (number 12) ∧
    ¬ Extends root files "a" (number 12) (LedgerStatus.start.next "a" (number 12)) unterminated ∧
    ¬ KeepsHead root files "a" (number 12) (LedgerStatus.start.next "a" (number 12)) := by
  obtain ⟨locked, hlocked, hcurrent⟩ := append_locked (number 12) fits.visible
    lockUsable_files ledgerBytes_files
  obtain ⟨fs', e, next, hglued, hstored, hbroken⟩ := appendLocked_glued tellsEvents_spaced hcurrent
    verify_unterminated ⟨_, read_number 12⟩ fits.room not_blankTail
  have happend := hlocked.trans hglued
  refine ⟨ledgerBytes_files, verify_unterminated, fits, lockUsable_files, ⟨_, read_number 12⟩,
    ?_, ?_⟩
  · intro h
    obtain ⟨fs'', event, next', hok, -⟩ := h
    rw [happend] at hok
    cases hok
  · intro h
    obtain ⟨next', status', hnext, hverify, -⟩ := h fs' e happend
    rw [hstored] at hnext
    cases hnext
    exact hbroken status' hverify

def fresh : PrivateRoot := ⟨fun _ => .error (.io .notFound), fun _ => .error (.io .notFound)⟩

theorem append_log_fresh : ∃ fs events final,
    appendAll root [("a", number 12), ("", number 2)] fresh = (fs, events) ∧
      Linked LedgerStatus.start events final := by
  have hstored : ledgerBytes root fresh = .ok ByteArray.empty := rfl
  have hblank : BlankTail ByteArray.empty := ⟨[], by simp, rfl⟩
  obtain ⟨fs, events, -, final, hall, -, -, hlinked, -⟩ :=
    append_log tellsEvents_spaced [("a", number 12), ("", number 2)] hstored rfl hblank
  exact ⟨fs, events, final, hall, hlinked⟩

end Tidex.ChainSample
