/-
  Engine.HeadChain — the heads of a run form one chain.
-/
import Tidex.Engine.HeadAdvance

namespace Tidex.Engine

open Tidex.Lib List

section

variable [Platform]

/-! ## Chains -/

/-- The history leads from a head, each time to the head that its parent digest names
    and whose revision is one less, down to a genesis. -/
inductive HeadChain (s : EngineRoot) : CanonicalEngineHead → List CanonicalEngineHead → Prop
  | genesis {head : CanonicalEngineHead} (hstored : InHistory s head)
      (hrevision : head.revision = 0) (hparent : head.parentDigest = none) :
      HeadChain s head [head]
  | next {head parent : CanonicalEngineHead} {rest : List CanonicalEngineHead}
      (hstored : InHistory s head) (hparent : head.parentDigest = some parent.manifestDigest)
      (hrevision : head.revision = parent.revision + 1) (hrest : HeadChain s parent rest) :
      HeadChain s head (head :: rest)

namespace HeadChain

variable {s t : EngineRoot} {head : CanonicalEngineHead} {chain : List CanonicalEngineHead}

lemma mono (h : HeadChain s head chain) (hst : ∀ a, InHistory s a → InHistory t a) :
    HeadChain t head chain := by
  induction h with
  | genesis hstored hrevision hparent => exact .genesis (hst _ hstored) hrevision hparent
  | next hstored hparent hrevision _ ih => exact .next (hst _ hstored) hparent hrevision ih

lemma head_mem (h : HeadChain s head chain) : head ∈ chain := by
  cases h with
  | genesis => exact mem_cons_self
  | next => exact mem_cons_self

lemma revision_le (h : HeadChain s head chain) : ∀ a ∈ chain, a.revision ≤ head.revision := by
  induction h with
  | genesis =>
    intro a ha
    rw [mem_singleton.mp ha]
  | @next head parent rest _ _ hrevision _ ih =>
    intro a ha
    rcases mem_cons.mp ha with rfl | ha
    · exact le_rfl
    · have hle := ih a ha
      omega

lemma pairwise (h : HeadChain s head chain) :
    chain.Pairwise fun a b => b.revision < a.revision := by
  induction h with
  | genesis => exact pairwise_singleton _ _
  | next _ _ hrevision hrest ih =>
    refine Pairwise.cons ?_ ih
    intro a ha
    have hle := hrest.revision_le a ha
    omega

lemma eq_of_revision (h : HeadChain s head chain) {a b : CanonicalEngineHead} (ha : a ∈ chain)
    (hb : b ∈ chain) (hrevision : a.revision = b.revision) : a = b := by
  have hnodup : (chain.map CanonicalEngineHead.revision).Nodup := by
    rw [Nodup, pairwise_map]
    exact h.pairwise.imp fun hlt heq => absurd heq.symm (Nat.ne_of_lt hlt)
  exact inj_on_of_nodup_map hnodup ha hb hrevision

end HeadChain

/-! ## What the history holds -/

def HistoryOfHeads (s : EngineRoot) : Prop :=
  ∀ d bytes, s.content (canonicalEngineHeadHistoryPath d) = .ok bytes →
    ∃ head : CanonicalEngineHead, bytes = serializePrettyLine head

variable {s t mid : EngineRoot} {head next : CanonicalEngineHead}
  {expected : Option CanonicalEngineHead} {chain : List CanonicalEngineHead}

section

omit [Platform]

lemma HistoryOfHeads.more (h : HistoryOfHeads s) (hst : MoreHistory s t) : HistoryOfHeads t := by
  intro d bytes hcontent
  rcases hst.content_eq (canonicalEngineHeadHistoryPath d) with heq | ⟨-, head, -, hline⟩
  · exact h d bytes (heq ▸ hcontent)
  · rw [hline] at hcontent
    exact ⟨head, (Except.ok.inj hcontent).symm⟩

lemma HistoryOfHeads.replace (h : HistoryOfHeads s) (bytes : ByteArray) :
    HistoryOfHeads (s.replacePrivateFileAtomic canonicalEngineHeadPath bytes) := by
  intro d existing hcontent
  rw [content_replace, Function.update_of_ne (historyPath_ne_headPath d)] at hcontent
  exact h d existing hcontent

end

lemma HistoryOfHeads.size_le (h : HistoryOfHeads s)
    (hdecodes : ∀ a : CanonicalEngineHead, DecodesPretty a) (hstored : InHistory s head) :
    (serializePrettyLine head).size ≤ canonicalEngineHeadMaxBytes := by
  obtain ⟨⟨bytes, hcontent, hsize, hread⟩, -⟩ := inHistory_iff.mp hstored
  obtain ⟨a, rfl⟩ := h _ _ hcontent
  have ha : Platform.fromSlice CanonicalEngineHead (serializePrettyLine a) = some a := hdecodes a
  rw [ha, Option.some.injEq] at hread
  rw [← hread]
  exact hsize

/-! ## Runs -/

section

variable (Observation : Type) [ObservationRecord Observation]

/-- A store in which no head was ever written. -/
structure NoHeads (s : EngineRoot) : Prop where
  pointer : s.content canonicalEngineHeadPath = .error (.io .notFound)
  history : ∀ d, s.content (canonicalEngineHeadHistoryPath d) = .error (.io .notFound)

/-- Two stores with the same heads, whatever else is different. -/
structure SameHeads (s t : EngineRoot) : Prop where
  pointer : t.content canonicalEngineHeadPath = s.content canonicalEngineHeadPath
  history : ∀ d, t.content (canonicalEngineHeadHistoryPath d) =
    s.content (canonicalEngineHeadHistoryPath d)

/-- The stores that a sequence of advances passes through, and the present one. -/
inductive HeadRun : List EngineRoot → EngineRoot → Prop
  | fresh {s : EngineRoot} (h : NoHeads s) : HeadRun [s] s
  | live {passed : List EngineRoot} {s t : EngineRoot} (hrun : HeadRun passed s)
      (h : SameHeads s t) : HeadRun (passed ++ [t]) t
  | advance {passed cut : List EngineRoot} {s t : EngineRoot} (incomplete : HeadIncomplete)
      (certificationStatus : Option String) (report : Option ReportDigest)
      (hrun : HeadRun passed s)
      (h : cut ++ [t] <+: (advanceCanonicalEngineHead Observation incomplete certificationStatus
        report).states s) : HeadRun (passed ++ (cut ++ [t])) t

end

def CurrentIn (chain : List CanonicalEngineHead) (s : EngineRoot) : Prop :=
  loadCanonicalHeadIfPresent s = .ok none ∨
    ∃ head ∈ chain, loadCanonicalHeadIfPresent s = .ok (some head)

/-- What holds of the stores passed and of the present one: the heads that were ever
    current are those of a chain that starts at the current head. -/
structure HeadInv (passed : List EngineRoot) (s : EngineRoot) (chain : List CanonicalEngineHead) :
    Prop where
  history : HistoryOfHeads s
  current : (chain = [] ∧ loadCanonicalHeadIfPresent s = .ok none) ∨
    ∃ head, loadCanonicalHeadIfPresent s = .ok (some head) ∧ HeadChain s head chain
  passed_in : ∀ u ∈ passed, CurrentIn chain u

lemma CurrentIn.mono {chain' : List CanonicalEngineHead} (h : CurrentIn chain s)
    (hsub : ∀ a ∈ chain, a ∈ chain') : CurrentIn chain' s := by
  rcases h with h | ⟨head, hmem, h⟩
  · exact .inl h
  · exact .inr ⟨head, hsub head hmem, h⟩

variable {passed : List EngineRoot}

lemma HeadInv.currentIn (h : HeadInv passed s chain) : CurrentIn chain s := by
  rcases h.current with ⟨-, hnone⟩ | ⟨head, hload, hchain⟩
  · exact .inl hnone
  · exact .inr ⟨head, hchain.head_mem, hload⟩

lemma HeadInv.more (h : HeadInv passed s chain) {cut : List EngineRoot}
    (hcut : ∀ u ∈ cut, MoreHistory s u) (hst : MoreHistory s t) :
    HeadInv (passed ++ cut) t chain := by
  refine ⟨h.history.more hst, ?_, ?_⟩
  · rw [hst.load_eq]
    rcases h.current with hnone | ⟨head, hload, hchain⟩
    · exact .inl hnone
    · exact .inr ⟨head, hload, hchain.mono fun a ha => ha.more hst⟩
  · intro u hu
    rcases mem_append.mp hu with hu | hu
    · exact h.passed_in u hu
    · unfold CurrentIn
      rw [(hcut u hu).load_eq]
      exact h.currentIn

/-- A publication puts the new head on top of the chain. -/
lemma HeadInv.published (hdecodes : ∀ a : CanonicalEngineHead, DecodesPretty a)
    (h : HeadInv passed s chain) {cut : List EngineRoot}
    (hload : loadCanonicalHeadIfPresent s = .ok expected) (hfollows : Follows expected next)
    (hauthentic : next.authenticate = .ok ()) (hstaged : Staged s mid expected next)
    (hcut : ∀ u ∈ cut, MoreHistory s u ∨ After s expected next u) :
    HeadInv (passed ++ cut) (published mid next) (next :: chain) := by
  have hafter : ∀ m, Staged s m expected next →
      loadCanonicalHeadIfPresent (Engine.published m next) = .ok (some next) := by
    intro m hm
    have hsize := (h.history.more hm.more).size_le hdecodes hm.next_stored
    exact load_published (hdecodes next) hsize hauthentic
  refine ⟨(h.history.more hstaged.more).replace _, .inr ⟨next, hafter mid hstaged, ?_⟩, ?_⟩
  · have hnext : InHistory (Engine.published mid next) next := hstaged.next_stored.replace _
    obtain ⟨hrevision, -, hparent⟩ := hfollows
    rcases h.current with ⟨rfl, hnone⟩ | ⟨head, hcurrent, hchain⟩
    · rw [hnone, Except.ok.injEq] at hload
      subst hload
      exact .genesis hnext hrevision hparent
    · rw [hcurrent, Except.ok.injEq] at hload
      subst hload
      exact .next hnext hparent hrevision
        (hchain.mono fun a ha => (ha.more hstaged.more).replace _)
  · intro u hu
    rcases mem_append.mp hu with hu | hu
    · exact (h.passed_in u hu).mono fun a ha => mem_cons_of_mem _ ha
    · rcases hcut u hu with hmore | ⟨m, hm, rfl⟩
      · unfold CurrentIn
        rw [hmore.load_eq]
        exact h.currentIn.mono fun a ha => mem_cons_of_mem _ ha
      · exact .inr ⟨next, mem_cons_self, hafter m hm⟩

omit [Platform] in
lemma SameHeads.historyOfHeads (h : SameHeads s t) (hs : HistoryOfHeads s) :
    HistoryOfHeads t := by
  intro d bytes hcontent
  exact hs d bytes (h.history d ▸ hcontent)

lemma SameHeads.load_eq (h : SameHeads s t) :
    loadCanonicalHeadIfPresent t = loadCanonicalHeadIfPresent s := by
  unfold loadCanonicalHeadIfPresent readUntrustedPrivateFileBounded
  rw [h.pointer]

lemma SameHeads.inHistory (h : SameHeads s t) (hs : InHistory s head) : InHistory t head := by
  obtain ⟨⟨bytes, hcontent, hrest⟩, hauthentic⟩ := inHistory_iff.mp hs
  exact inHistory_iff.mpr ⟨⟨bytes, (h.history _).trans hcontent, hrest⟩, hauthentic⟩

lemma HeadInv.live (h : HeadInv passed s chain) (hst : SameHeads s t) :
    HeadInv (passed ++ [t]) t chain := by
  refine ⟨hst.historyOfHeads h.history, ?_, ?_⟩
  · rw [hst.load_eq]
    rcases h.current with hnone | ⟨head, hload, hchain⟩
    · exact .inl hnone
    · exact .inr ⟨head, hload, hchain.mono fun a ha => hst.inHistory ha⟩
  · intro u hu
    rcases mem_append.mp hu with hu | hu
    · exact h.passed_in u hu
    · unfold CurrentIn
      rw [mem_singleton.mp hu, hst.load_eq]
      exact h.currentIn

lemma NoHeads.load_eq (h : NoHeads s) : loadCanonicalHeadIfPresent s = .ok none := by
  have hread : readUntrustedPrivateFileBounded s.toPrivateRoot canonicalEngineHeadPath
      canonicalEngineHeadMaxBytes = .error (.io .notFound) := by
    unfold readUntrustedPrivateFileBounded
    rw [h.pointer]
    rfl
  unfold loadCanonicalHeadIfPresent
  rw [hread]

variable {Observation : Type} [ObservationRecord Observation]

lemma HeadRun.inv (hdecodes : ∀ a : CanonicalEngineHead, DecodesPretty a)
    (h : HeadRun Observation passed s) : ∃ chain, HeadInv passed s chain := by
  induction h with
  | @fresh s hs =>
    refine ⟨[], ?_, .inl ⟨rfl, hs.load_eq⟩, ?_⟩
    · intro d bytes hcontent
      rw [hs.history d] at hcontent
      cases hcontent
    · intro u hu
      rw [mem_singleton.mp hu]
      exact .inl hs.load_eq
  | live _ hst ih =>
    obtain ⟨chain, hinv⟩ := ih
    exact ⟨chain, hinv.live hst⟩
  | @advance passed cut s t incomplete certificationStatus report _ hcut ih =>
    obtain ⟨chain, hinv⟩ := ih
    rcases advance_switches Observation incomplete certificationStatus report s with
      hmore | ⟨expected, next, hload, hfollows, hauthentic, hswitches⟩
    · have hall : ∀ u ∈ cut ++ [t], MoreHistory s u := fun u hu => hmore u (hcut.subset hu)
      exact ⟨chain, hinv.more hall (hall t (mem_append_right _ mem_cons_self))⟩
    · have hswitch := hswitches.of_prefix hcut
      have hmem : ∀ u ∈ cut ++ [t], MoreHistory s u ∨ After s expected next u := fun u hu =>
        hswitch.mem hu
      -- a store behind the decisive effect is followed by such stores only
      rcases hswitch.last with hbefore | ⟨mid, hstaged, rfl⟩
      · rcases hmem t (mem_append_right _ mem_cons_self) with ht | ⟨mid, hstaged, rfl⟩
        · refine ⟨chain, hinv.more ?_ ht⟩
          exact forall_mem_concat hbefore ht
        · exact ⟨_, hinv.published hdecodes hload hfollows hauthentic hstaged hmem⟩
      · exact ⟨_, hinv.published hdecodes hload hfollows hauthentic hstaged hmem⟩

/-- **The heads of a run form one chain.** -/
theorem canonical_head_chain (hdecodes : ∀ a : CanonicalEngineHead, DecodesPretty a)
    (hrun : HeadRun Observation passed s) : ∃ chain,
      ((chain = [] ∧ loadCanonicalHeadIfPresent s = .ok none) ∨
        ∃ head, loadCanonicalHeadIfPresent s = .ok (some head) ∧ HeadChain s head chain) ∧
      (∀ u ∈ passed, CurrentIn chain u) ∧
      (∀ u ∈ passed, ∀ v ∈ passed, ∀ a b, loadCanonicalHeadIfPresent u = .ok (some a) →
        loadCanonicalHeadIfPresent v = .ok (some b) → a.revision = b.revision → a = b) := by
  obtain ⟨chain, hinv⟩ := hrun.inv hdecodes
  refine ⟨chain, hinv.current, hinv.passed_in, ?_⟩
  intro u hu v hv a b ha hb hrevision
  have hmem : ∀ w ∈ passed, ∀ c, loadCanonicalHeadIfPresent w = .ok (some c) → c ∈ chain := by
    intro w hw c hc
    rcases hinv.passed_in w hw with hnone | ⟨head, hhead, hload⟩
    · rw [hnone] at hc
      cases hc
    · rw [hload] at hc
      cases hc
      exact hhead
  have hamem := hmem u hu a ha
  rcases hinv.current with ⟨rfl, -⟩ | ⟨head, -, hchain⟩
  · cases hamem
  · exact hchain.eq_of_revision hamem (hmem v hv b hb) hrevision

end

namespace Sample

attribute [local instance] Platform.serde

/-- The run of one advance from an empty store. -/
theorem first_head_chain : ∃ t passed chain, HeadRun Record passed t ∧
    loadCanonicalHeadIfPresent t = .ok (some (genesis none)) ∧ HeadChain t (genesis none) chain := by
  obtain ⟨-, hload⟩ := first_advance decodesPretty_serde
  obtain ⟨cut, hcut⟩ := Durable.states_eq_concat
    (x := advanceCanonicalEngineHead Record .clear none none) (s := emptyRoot)
  have hfresh : HeadRun Record [emptyRoot] emptyRoot := .fresh ⟨rfl, fun _ => rfl⟩
  have hrun := hfresh.advance .clear none none ⟨[], by rw [append_nil, hcut]⟩
  obtain ⟨chain, hcurrent, -, -⟩ := canonical_head_chain decodesPretty_serde hrun
  rcases hcurrent with ⟨-, hnone⟩ | ⟨head, hhead, hchain⟩
  · rw [hload] at hnone
    cases hnone
  · rw [hload, Except.ok.injEq, Option.some.injEq] at hhead
    subst hhead
    exact ⟨_, _, chain, hrun, hload, hchain⟩

end Sample

end Tidex.Engine
