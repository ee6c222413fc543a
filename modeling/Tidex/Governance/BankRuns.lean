/-
  Governance.BankRuns — every run of a bank, with stops and retries.
-/
import Tidex.Governance.BankJournal

namespace Tidex.Bank

open Tidex.Lib List Option Durable Std.ExtTreeMap BTreeMap

variable [Platform] [FractionText] {w : World} {bank t : AdapterBank}

/-! ## Published revisions -/

def Published (bank : AdapterBank) (revision : Nat) (s : AdapterIndexSnapshot) : Prop :=
  ∃ c, bank.commits[revision]? = some c ∧ bank.indexes[c.index.sha256]? = some s

variable {r : Nat}

omit [Platform] [FractionText] in
lemma Published.unique {s s' : AdapterIndexSnapshot} (h : Published bank r s)
    (h' : Published bank r s') : s = s' := by
  obtain ⟨c, hc, hs⟩ := h
  obtain ⟨c', hc', hs'⟩ := h'
  rw [hc] at hc'
  cases hc'
  rw [hs] at hs'
  exact some.inj hs'

variable {s : AdapterIndexSnapshot}

omit [Platform] [FractionText] in
lemma Published.grows (h : Published bank r s) (hgrows : Grows bank t) : Published t r s := by
  obtain ⟨c, hc, hs⟩ := h
  exact ⟨c, hgrows.commits _ _ hc, hgrows.indexes _ _ hs⟩

/-- An entry of a snapshot is a version with its manifest. -/
def Registers (s : AdapterIndexSnapshot) (term : AdapterCompositionTerm) : Prop :=
  ∃ e ∈ s.entries, e.adapter = term.adapter ∧ e.manifest = term.manifest

def TermsRegistered (bank : AdapterBank) (s : AdapterIndexSnapshot) : Prop :=
  ∀ e ∈ s.entries, ∀ m, bank.manifests[e.manifest.sha256]? = some m →
    ∀ term ∈ m.source.terms, Registers s term

/-- What holds of the files of a bank. -/
structure Sound (bank : AdapterBank) : Prop where
  journal : ∃ n, ∀ r, (∃ c, bank.commits[r]? = some c) ↔ 1 ≤ r ∧ r ≤ n
  indexed : ∀ r c, bank.commits[r]? = some c → ∃ s, bank.indexes[c.index.sha256]? = some s ∧
    s.revision = r ∧ Coherent bank s ∧ TermsRegistered bank s
  starts : ∀ s, Published bank 1 s → Extends emptySnapshot s
  follows : ∀ r s s', Published bank r s → Published bank (r + 1) s' → Extends s s'
  permitted : ∀ r s permit, Published bank r s → s.operation.permit = some permit →
    ∃ a p, bank.authorizations[permit.sha256]? = some a ∧ 2 ≤ r ∧
      bank.commits[r - 1]? = some p ∧ a.issuedAgainstIndex = p.index

section

omit [Platform] [FractionText]

lemma sound_fresh (root : String) : Sound (AdapterBank.fresh root) := by
  have hnone : ∀ r : Nat, (AdapterBank.fresh root).commits[r]? = none := by
    intro r
    exact getElem?_empty
  constructor
  · refine ⟨0, fun r => ?_⟩
    constructor
    · intro h
      obtain ⟨c, hc⟩ := h
      rw [hnone] at hc
      cases hc
    · omega
  · intro r c hc
    rw [hnone] at hc
    cases hc
  · intro s h
    obtain ⟨c, hc, -⟩ := h
    rw [hnone] at hc
    cases hc
  · intro r s s' h
    obtain ⟨c, hc, -⟩ := h
    rw [hnone] at hc
    cases hc
  · intro r s permit h
    obtain ⟨c, hc, -⟩ := h
    rw [hnone] at hc
    cases hc

lemma Sound.published {c : AdapterBankRevisionCommit} (h : Sound bank)
    (hc : bank.commits[r]? = some c) : ∃ s, Published bank r s ∧
      bank.indexes[c.index.sha256]? = some s ∧ s.revision = r ∧ Coherent bank s ∧
        TermsRegistered bank s := by
  obtain ⟨s, hs, hrest⟩ := h.indexed r c hc
  exact ⟨s, ⟨c, hc, hs⟩, hs, hrest⟩

lemma Sound.of_published (h : Sound bank) (hs : Published bank r s) :
    s.revision = r ∧ Coherent bank s ∧ TermsRegistered bank s := by
  obtain ⟨c, hc, hindex⟩ := hs
  obtain ⟨s', hs', hrest⟩ := h.indexed r c hc
  rw [hindex] at hs'
  cases hs'
  exact hrest

/-- What was registered or revoked stays so. -/
lemma Sound.persists (h : Sound bank) {r r' : Nat} {s s' : AdapterIndexSnapshot}
    (hs : Published bank r s) (hs' : Published bank r' s') (hle : r ≤ r') :
    (∀ e ∈ s.entries, e ∈ s'.entries) ∧ ∀ x ∈ s.revocations, x ∈ s'.revocations := by
  obtain ⟨n, hn⟩ := h.journal
  induction r', hle using Nat.le_induction generalizing s' with
  | base =>
    rw [hs.unique hs']
    exact ⟨fun _ he => he, fun _ hx => hx⟩
  | succ r' hle ih =>
    obtain ⟨c', hc', -⟩ := id hs'
    have hlast := ((hn (r' + 1)).mp ⟨c', hc'⟩).2
    have hfirst := ((hn r).mp ⟨hs.choose, hs.choose_spec.1⟩).1
    -- the journal has no gap, so the revision before has a snapshot
    obtain ⟨c, hc⟩ := (hn r').mpr ⟨by omega, by omega⟩
    obtain ⟨mid, hmid, -⟩ := h.published hc
    have hstep := h.follows r' mid s' hmid hs'
    obtain ⟨hentries, hrevocations⟩ := ih hmid
    exact ⟨fun e he => hstep.entries e (hentries e he),
      fun x hx => hstep.revocations x (hrevocations x hx)⟩

/-! ## What keeps the files sound -/

lemma Coherent.mono (h : Coherent bank s) (hmanifests : Within bank.manifests t.manifests) :
    Coherent t s := by
  constructor
  · exact h.ordered
  · exact h.lineages
  · intro e he
    obtain ⟨m, hm, hentry⟩ := h.stored e he
    exact ⟨m, hmanifests _ _ hm, hentry⟩
  · intro e he m hm
    obtain ⟨m', hm', -⟩ := h.stored e he
    have hsame := hmanifests _ _ hm'
    rw [hm] at hsame
    cases hsame
    exact h.closed e he m hm'
  · exact h.slots
  · exact h.active

lemma TermsRegistered.mono (h : TermsRegistered bank s) (hcoherent : Coherent bank s)
    (hmanifests : Within bank.manifests t.manifests) : TermsRegistered t s := by
  intro e he m hm
  obtain ⟨m', hm', -⟩ := hcoherent.stored e he
  have hsame := hmanifests _ _ hm'
  rw [hm] at hsame
  cases hsame
  exact h e he m hm'

end

/-- The files grow, and the journal stays as it is. -/
structure Quiet (bank t : AdapterBank) : Prop extends Grows bank t where
  journal : t.commits = bank.commits

section

omit [Platform] [FractionText]

lemma Quiet.published_iff (h : Quiet bank t) (hsound : Sound bank) :
    Published t r s ↔ Published bank r s := by
  constructor
  · intro hs
    obtain ⟨c, hc, hindex⟩ := hs
    rw [h.journal] at hc
    obtain ⟨s', hs', hfile, -⟩ := hsound.published hc
    rw [h.indexes _ _ hfile] at hindex
    cases hindex
    exact hs'
  · intro hs
    exact hs.grows h.toGrows

lemma Sound.quiet (h : Sound bank) (hquiet : Quiet bank t) : Sound t := by
  constructor
  · rw [hquiet.journal]
    exact h.journal
  · intro r c hc
    rw [hquiet.journal] at hc
    obtain ⟨s, hs, hrevision, hcoherent, hterms⟩ := h.indexed r c hc
    exact ⟨s, hquiet.indexes _ _ hs, hrevision, hcoherent.mono hquiet.manifests,
      hterms.mono hcoherent hquiet.manifests⟩
  · intro s hs
    rw [hquiet.published_iff h] at hs
    exact h.starts s hs
  · intro r s s' hs hs'
    rw [hquiet.published_iff h] at hs hs'
    exact h.follows r s s' hs hs'
  · intro r s permit hs hpermit
    rw [hquiet.published_iff h] at hs
    obtain ⟨a, p, ha, hr, hp, hissued⟩ := h.permitted r s permit hs hpermit
    exact ⟨a, p, hquiet.authorizations _ _ ha, hr, by rwa [hquiet.journal], hissued⟩

end

/-! ## The current snapshot -/

variable {reference : Option PrivateFileReference}

lemma current_ok (h : current w bank = .ok (s, reference)) :
    ∃ tip, authenticateRevisionTip bank = .ok tip ∧ reference = (nextLink tip).2.2 ∧
      parentSnapshot w bank reference = .ok s ∧ s.revision + 1 = (nextLink tip).1 := by
  unfold current at h
  rw [bind_ok] at h
  obtain ⟨tip, htip, h⟩ := h
  refine ⟨tip, htip, ?_⟩
  cases tip with
  | none =>
    simp only [bind_ok, failIf_ok, pure_ok, Prod.mk.injEq] at h
    obtain ⟨-, -, rfl, rfl⟩ := h
    exact ⟨rfl, rfl, rfl⟩
  | some p =>
    obtain ⟨commit, commitRef⟩ := p
    simp only [bind_ok, failIf_ok, pure_ok, Prod.mk.injEq, not_or, not_not, ne_eq] at h
    obtain ⟨_, -, snapshot, hsnapshot, -, ⟨hrevision, -⟩, _, -, _, -, rfl, rfl⟩ := h
    refine ⟨rfl, hsnapshot, ?_⟩
    show snapshot.revision + 1 = commit.revision + 1
    rw [hrevision]

variable {snapshot next : AdapterIndexSnapshot}

lemma Appends.follows (h : Appends w bank t next)
    (hcurrent : current w bank = .ok (snapshot, reference)) :
    next.parent = reference ∧ next.revision = snapshot.revision + 1 ∧
      validateSnapshotTransition w bank reference snapshot next = .ok () := by
  obtain ⟨tip, htip, hreference, hparent, hnext⟩ := current_ok hcurrent
  obtain ⟨tip', hpublishable, -⟩ := h.commit
  have hsame : tip' = tip := by
    have hboth := hpublishable.authentic.symm.trans htip
    exact Except.ok.inj hboth
  subst hsame
  have hlink : next.parent = reference := by rw [hpublishable.link, hreference]
  obtain ⟨parent, hparent', htransition⟩ := hpublishable.follows
  rw [hlink, hparent] at hparent'
  cases hparent'
  rw [hlink] at htransition
  exact ⟨hlink, by rw [hpublishable.revision, hnext], htransition⟩

/-! ## One more revision -/

/-- What an operation has made sure of before it proposes a snapshot. -/
structure Proposed (bank : AdapterBank) (snapshot : AdapterIndexSnapshot)
    (reference : Option PrivateFileReference) (next : AdapterIndexSnapshot) : Prop where
  terms : ∀ manifest : PrivateFileReference,
    next.operation = .register manifest ∨ next.operation = .compose manifest →
      ∀ m, bank.manifests[manifest.sha256]? = some m →
        ∀ term ∈ m.source.terms, Registers snapshot term
  permit : ∀ permit, next.operation.permit = some permit →
    ∃ a, bank.authorizations[permit.sha256]? = some a ∧ reference = some a.issuedAgainstIndex

lemma Appends.grows (h : Appends w bank t s) : Grows bank t := by
  obtain ⟨tip, hpublishable, hcommits⟩ := h.commit
  have hvacant := next_vacant hpublishable.authentic
  rw [← hpublishable.revision] at hvacant
  constructor
  · exact h.root
  · rw [h.manifests]
    exact Within.refl _
  · rw [h.authorizations]
    exact Within.refl _
  · exact h.indexes
  · rw [hcommits]
    intro r c hc
    rw [getElem?_insert_iff]
    by_cases hr : s.revision = r
    · rw [hr, hc] at hvacant
      cases hvacant
    · rw [if_neg hr]
      exact hc

lemma Appends.published_iff {next : AdapterIndexSnapshot} (h : Appends w bank t next)
    (hsound : Sound bank) :
    Published t r s ↔ Published bank r s ∨ (r = next.revision ∧ s = next) := by
  obtain ⟨tip, hpublishable, hcommits⟩ := h.commit
  have hvacant := next_vacant hpublishable.authentic
  rw [← hpublishable.revision] at hvacant
  constructor
  · intro hs
    obtain ⟨c, hc, hindex⟩ := hs
    rw [hcommits, getElem?_insert_iff] at hc
    by_cases hr : next.revision = r
    · rw [if_pos hr] at hc
      cases hc
      have hnew : t.indexes[(indexReference bank next).sha256]? = some s := hindex
      rw [h.index] at hnew
      cases hnew
      exact .inr ⟨hr.symm, rfl⟩
    · rw [if_neg hr] at hc
      obtain ⟨s', hs', hfile, -⟩ := hsound.published hc
      rw [h.indexes _ _ hfile] at hindex
      cases hindex
      exact .inl hs'
  · intro hs
    rcases hs with hs | ⟨rfl, rfl⟩
    · exact hs.grows h.grows
    · refine ⟨commitOf bank tip s, ?_, h.index⟩
      rw [hcommits, getElem?_insert_iff, if_pos rfl]

omit [Platform] [FractionText] in
lemma termsRegistered_next (hextends : Extends snapshot next)
    (hproposed : Proposed bank snapshot reference next) (hbefore : TermsRegistered bank snapshot) :
    TermsRegistered bank next := by
  intro e he m hm term hterm
  have hregisters : Registers snapshot term := by
    rcases hextends.fresh e he with hold | hnew
    · exact hbefore e hold m hm term hterm
    · exact hproposed.terms e.manifest hnew m hm term hterm
  obtain ⟨e', he', hterm'⟩ := hregisters
  exact ⟨e', hextends.entries e' he', hterm'⟩

lemma current_published (_ : Sound bank) (h : current w bank = .ok (s, reference)) :
    (∀ r, (∃ c, bank.commits[r]? = some c) ↔ 1 ≤ r ∧ r ≤ s.revision) ∧
      ((s = emptySnapshot ∧ reference = none) ∨ ∃ c, bank.commits[s.revision]? = some c ∧
        reference = some c.index ∧ Published bank s.revision s) := by
  obtain ⟨tip, htip, hreference, hparent, hrevision⟩ := current_ok h
  obtain ⟨n, hkeys, hnext⟩ := journal_numbers htip
  constructor
  · intro r
    rw [← BTreeMap.mem_iff_getElem?, ← Std.ExtTreeMap.mem_keys, hkeys, mem_range'_1]
    omega
  · cases tip with
    | none =>
      rw [show reference = none from hreference] at hparent
      exact .inl ⟨(Except.ok.inj hparent).symm, hreference⟩
    | some p =>
      obtain ⟨commit, commitRef⟩ := p
      obtain ⟨hcommit, -⟩ := tip_committed htip
      have hindex : reference = some commit.index := hreference
      rw [hindex] at hparent
      rw [show s.revision = commit.revision from Nat.succ.inj hrevision]
      exact .inr ⟨commit, hcommit.stored, hindex, commit, hcommit.stored,
        (authenticateSnapshot_ok.mp hparent).2.1⟩

/-- One more revision keeps the files sound. -/
lemma Sound.appends (hsound : Sound bank) (hcurrent : current w bank = .ok (snapshot, reference))
    (happends : Appends w bank t next) (hproposed : Proposed bank snapshot reference next) :
    Sound t := by
  obtain ⟨hparent, hrevision, htransition⟩ := happends.follows hcurrent
  obtain ⟨hjournal, htip⟩ := current_published hsound hcurrent
  have hextends := (extends_of_transition htransition).2.2
  have hcoherent := coherent_of_contract happends.contract
  have hbefore : TermsRegistered bank snapshot := by
    rcases htip with ⟨rfl, -⟩ | ⟨c, -, -, hpublished⟩
    · exact forall_mem_nil _
    · exact (hsound.of_published hpublished).2.2
  have hwithin : Within bank.manifests t.manifests := by
    rw [happends.manifests]
    exact Within.refl _
  obtain ⟨tip, -, hcommits⟩ := happends.commit
  constructor
  · refine ⟨next.revision, fun r => ?_⟩
    rw [hcommits, hrevision]
    constructor
    · intro h
      obtain ⟨c, hc⟩ := h
      rw [getElem?_insert_iff] at hc
      split at hc
      · omega
      · have hold := (hjournal r).mp ⟨c, hc⟩
        omega
    · intro h
      by_cases hr : snapshot.revision + 1 = r
      · exact ⟨_, by rw [getElem?_insert_iff, if_pos hr]⟩
      · obtain ⟨c, hc⟩ := (hjournal r).mpr ⟨by omega, by omega⟩
        exact ⟨c, by rw [getElem?_insert_iff, if_neg hr]; exact hc⟩
  · intro r c hc
    rw [hcommits, getElem?_insert_iff] at hc
    split at hc
    · next hr =>
      cases hc
      exact ⟨next, happends.index, hr, hcoherent.mono hwithin,
        (termsRegistered_next hextends hproposed hbefore).mono hcoherent hwithin⟩
    · obtain ⟨s, hs, hr, hc, hterms⟩ := hsound.indexed r c hc
      exact ⟨s, happends.indexes _ _ hs, hr, hc.mono hwithin, hterms.mono hc hwithin⟩
  · intro s hs
    rw [happends.published_iff hsound] at hs
    rcases hs with hs | ⟨hone, rfl⟩
    · exact hsound.starts s hs
    · -- the first revision follows the empty snapshot
      rcases htip with ⟨rfl, -⟩ | ⟨c, hc, -, -⟩
      · exact hextends
      · have hpos := ((hjournal snapshot.revision).mp ⟨c, hc⟩).1
        omega
  · intro r s s' hs hs'
    rw [happends.published_iff hsound] at hs hs'
    have hlast : ∀ {r : Nat} {s : AdapterIndexSnapshot}, Published bank r s →
        r ≤ snapshot.revision := by
      intro r s h
      obtain ⟨c, hc, -⟩ := h
      exact ((hjournal r).mp ⟨c, hc⟩).2
    rcases hs' with hs' | ⟨hr', rfl⟩
    · rcases hs with hs | ⟨hr, -⟩
      · exact hsound.follows r s s' hs hs'
      · have hle := hlast hs'
        omega
    · -- the snapshot before the new one is the current one
      rcases hs with hs | ⟨hr, -⟩
      · have hsame : s = snapshot := by
          rcases htip with ⟨rfl, -⟩ | ⟨c, -, -, hpublished⟩
          · have hle := hlast hs
            obtain ⟨c, hc, -⟩ := hs
            have hpos := ((hjournal r).mp ⟨c, hc⟩).1
            have hzero : emptySnapshot.revision = 0 := rfl
            omega
          · have hr : r = snapshot.revision := by omega
            rw [hr] at hs
            exact hs.unique hpublished
        rw [hsame]
        exact hextends
      · omega
  · intro r s permit hs hpermit
    rw [happends.published_iff hsound] at hs
    rcases hs with hs | ⟨rfl, rfl⟩
    · obtain ⟨a, p, ha, hr, hp, hissued⟩ := hsound.permitted r s permit hs hpermit
      refine ⟨a, p, ?_, hr, happends.grows.commits _ _ hp, hissued⟩
      rw [happends.authorizations]
      exact ha
    · obtain ⟨a, ha, hissued⟩ := hproposed.permit permit hpermit
      rcases htip with ⟨-, hnone⟩ | ⟨c, hc, hindex, hpublished⟩
      · rw [hnone] at hissued
        cases hissued
      · have hpos := ((hjournal snapshot.revision).mp ⟨c, hc⟩).1
        refine ⟨a, c, ?_, by omega, ?_, ?_⟩
        · rw [happends.authorizations]
          exact ha
        · apply happends.grows.commits
          rw [hrevision, Nat.add_sub_cancel]
          exact hc
        · rw [hindex] at hissued
          exact (some.inj hissued).symm

/-! ## What each operation proposes -/

/-- A manifest is stored, and what it is composed of is registered. -/
def Prepared (bank : AdapterBank) (registration : Registration) : Prop :=
  bank.manifests[registration.reference.sha256]? = some registration.manifest ∧
    ∀ term ∈ registration.manifest.source.terms, ∃ r s, Published bank r s ∧ Registers s term

variable {registration : Registration}

omit [Platform] [FractionText] in
lemma Prepared.grows (h : Prepared bank registration) (hgrows : Grows bank t) :
    Prepared t registration := by
  refine ⟨hgrows.manifests _ _ h.1, ?_⟩
  intro term hterm
  obtain ⟨r, s, hs, hregisters⟩ := h.2 term hterm
  exact ⟨r, s, hs.grows hgrows, hregisters⟩

variable {manifest : Option PrivateFileReference}

lemma proposed_registration (hsound : Sound bank) {registration : Registration}
    {snapshot next : AdapterIndexSnapshot} {reference : Option PrivateFileReference}
    {manifest : Option PrivateFileReference} (hcurrent : current w bank = .ok (snapshot, reference))
    (hprepared : Prepared bank registration)
    (h : proposeRegistration w registration.manifest registration.reference registration.expected
      registration.composed bank snapshot reference = .ok (.publish next manifest)) :
    Proposed bank snapshot reference next := by
  have hnext : next = registered snapshot reference registration.manifest registration.reference
      registration.composed := by
    unfold proposeRegistration at h
    cases hfind : findEntry snapshot registration.manifest.adapter with
    | some existing =>
      rw [hfind] at h
      dsimp only at h
      split at h <;> cases h
    | none =>
      rw [hfind] at h
      simp only [bind_ok, pure_ok, Proposal.publish.injEq] at h
      obtain ⟨_, -, _, -, _, -, _, -, hnext, -⟩ := h
      exact hnext.symm
  have hoperation : next.operation = .register registration.reference ∨
      next.operation = .compose registration.reference := by
    rw [hnext]
    unfold registered
    cases registration.composed with
    | true => exact .inr rfl
    | false => exact .inl rfl
  constructor
  · intro other hother m hm term hterm
    have hsame : other = registration.reference := by
      rcases hoperation with h1 | h1 <;> rcases hother with h2 | h2 <;> rw [h1] at h2 <;> cases h2
        <;> rfl
    subst hsame
    rw [hprepared.1] at hm
    cases hm
    -- what was registered when the manifest was prepared is registered now
    obtain ⟨r, s, hs, e, he, hterm'⟩ := hprepared.2 term hterm
    obtain ⟨hjournal, htip⟩ := current_published hsound hcurrent
    obtain ⟨c, hc, -⟩ := id hs
    have hle := (hjournal r).mp ⟨c, hc⟩
    rcases htip with ⟨rfl, -⟩ | ⟨-, -, -, hpublished⟩
    · have hzero : emptySnapshot.revision = 0 := rfl
      omega
    · exact ⟨e, (hsound.persists hs hpublished hle.2).1 e he, hterm'⟩
  · intro permit hpermit
    rcases hoperation with h1 | h1 <;> rw [h1] at hpermit <;> cases hpermit

lemma checkPermit_ok {authorization manifest index : PrivateFileReference}
    {adapter : AdapterVersion} {code : String}
    (h : checkPermit w bank authorization adapter manifest index code = .ok ()) :
    ∃ a, bank.authorizations[authorization.sha256]? = some a ∧ a.issuedAgainstIndex = index := by
  unfold checkPermit at h
  simp only [bind_ok, failIf_ok, not_or, not_not, ne_eq] at h
  obtain ⟨a, ha, -, -, hindex⟩ := h
  refine ⟨a, ?_, hindex⟩
  unfold authenticatePromotionAuthorization at ha
  simp only [bind_ok, pure_ok, readVerifiedBounded_ok_iff'] at ha
  obtain ⟨_, -, stored, ⟨hfile, -, -⟩, ha⟩ := ha
  obtain ⟨_, -, _, -, _, -, _, -, _, -, _, -, _, -, _, -, _, -, _, -, _, -, _, -, rfl⟩ := ha
  exact hfile

lemma proposed_activation {request : AdapterActivationRequest}
    (h : proposeActivation w request bank snapshot reference = .ok (.publish next manifest)) :
    Proposed bank snapshot reference next := by
  have hactivate : proposeActivation.activate w request bank snapshot reference =
      .ok (.publish next manifest) := by
    unfold proposeActivation at h
    split at h
    · split at h
      · cases h
      · exact h
    · exact h
  unfold proposeActivation.activate at hactivate
  simp only [bind_ok, okOr_ok, pure_ok, Proposal.publish.injEq] at hactivate
  obtain ⟨_, -, index, hindex, _, -, entry, -, m, -, _, -, _, hpermit, rfl, -⟩ := hactivate
  constructor
  · intro other hother
    rcases hother with hother | hother <;> cases hother
  · intro permit hsame
    cases hsame
    obtain ⟨a, ha, hissued⟩ := checkPermit_ok hpermit
    exact ⟨a, ha, by rw [hindex, hissued]⟩

lemma proposed_revocation {request : AdapterRevocationRequest}
    (h : proposeRevocation w request bank snapshot reference = .ok (.publish next manifest)) :
    Proposed bank snapshot reference next := by
  have hoperation : ∃ affected, next.operation = .revoke request.adapter affected := by
    unfold proposeRevocation at h
    dsimp only at h
    split at h
    · cases h
    · simp only [bind_ok, pure_ok, Proposal.publish.injEq] at h
      obtain ⟨_, -, _, -, manifests, -, added, -, rfl, -⟩ := h
      exact ⟨_, rfl⟩
  obtain ⟨affected, hoperation⟩ := hoperation
  constructor
  · intro other hother
    rcases hother with hother | hother <;> rw [hoperation] at hother <;> cases hother
  · intro permit hpermit
    rw [hoperation] at hpermit
    cases hpermit

lemma proposed_rollback {request : AdapterRollbackRequest}
    (h : proposeRollback w request bank snapshot reference = .ok (.publish next manifest)) :
    Proposed bank snapshot reference next := by
  unfold proposeRollback at h
  simp only [bind_ok, okOr_ok, pure_ok, Proposal.publish.injEq] at h
  obtain ⟨_, -, index, hindex, _, -, earlier, -, _, -, restored, hrestored, rfl, -⟩ := h
  constructor
  · intro other hother
    rcases hother with hother | hother <;> cases hother
  · intro permit hpermit
    have hrequest : request.authorization = some permit := hpermit
    unfold restoredSelection at hrestored
    split at hrestored
    · -- a rollback that only empties the slot has no permit
      simp only [bind_ok, failIf_ok, not_not, ne_eq] at hrestored
      obtain ⟨-, hnone, -⟩ := hrestored
      rw [hnone] at hrequest
      cases hrequest
    · simp only [bind_ok, okOr_ok, pure_ok] at hrestored
      obtain ⟨_, -, m, -, _, -, authorization, hauthorization, _, hchecked, -⟩ := hrestored
      rw [hrequest] at hauthorization
      cases hauthorization
      obtain ⟨a, ha, hissued⟩ := checkPermit_ok hchecked
      exact ⟨a, ha, by rw [hindex, hissued]⟩

/-! ## Manifests and permits that are stored -/

section

omit [Platform] [FractionText]

lemma Quiet.refl (bank : AdapterBank) : Quiet bank bank :=
  ⟨Grows.refl bank, rfl⟩

lemma quiet_manifests {manifests : BTreeMap Sha256Digest AdapterManifest}
    (h : Within bank.manifests manifests) : Quiet bank { bank with manifests := manifests } :=
  ⟨⟨rfl, h, Within.refl _, Within.refl _, Within.refl _⟩, rfl⟩

lemma quiet_of_indexAdded (h : IndexAdded bank t) : Quiet bank t := by
  obtain ⟨indexes, hindexes, rfl⟩ := h
  exact ⟨⟨rfl, Within.refl _, Within.refl _, hindexes, Within.refl _⟩, rfl⟩

end

/-- The files grow, and neither the journal nor the head changes. -/
def Still (bank t : AdapterBank) : Prop := Quiet bank t ∧ t.head = bank.head

omit [Platform] [FractionText] in
lemma Still.refl (bank : AdapterBank) : Still bank bank := ⟨Quiet.refl bank, rfl⟩

lemma persistManifest_still (m : AdapterManifest) : Keeps Still (persistManifest w m) := by
  refine .check Still.refl fun _ => .silent (.write Still.refl ?_) fun _ => ?_
  · intro bank t reference h
    obtain ⟨manifests, hwrite, h⟩ := bind_ok.mp h
    cases h
    exact ⟨quiet_manifests (within_of_writeOrVerify hwrite), rfl⟩
  · exact .bind (.read _) fun _ => .bind (.read _) fun _ => .pure _

variable {reference : PrivateFileReference}

lemma runs_persistManifest {m : AdapterManifest}
    (h : Runs (persistManifest w m) bank reference t) :
    Quiet bank t ∧ t.manifests[reference.sha256]? = some m := by
  refine ⟨(persistManifest_still m bank t h.mem_states).1, ?_⟩
  unfold persistManifest at h
  simp only [runs_bind, runs_read, runs_write,
    runs_liftM, runs_pure, failIf_ok, not_not, ne_eq] at h
  obtain ⟨_, _, ⟨-, rfl⟩, r, u, -, authenticated, _, ⟨hread, rfl⟩, -, _, ⟨rfl, rfl⟩, rfl, rfl⟩ := h
  exact authenticateManifest_stored hread

variable {request : AdapterImportRequest}

lemma prepareImport_still (request : AdapterImportRequest) :
    Keeps Still (prepareImport w request) := by
  iterate 5 refine .check Still.refl fun _ => ?_
  exact .silent (persistManifest_still _) fun _ => .pure _

lemma runs_prepareImport (h : Runs (prepareImport w request) bank registration t) :
    Prepared t registration := by
  unfold prepareImport at h
  simp only [runs_bind, runs_liftM, runs_pure] at h
  obtain ⟨_, _, ⟨-, rfl⟩, _, _, ⟨-, rfl⟩, _, _, ⟨-, rfl⟩, profile, _, ⟨-, rfl⟩, imported, _,
    ⟨-, rfl⟩, reference, u, hpersist, rfl, rfl⟩ := h
  refine ⟨(runs_persistManifest hpersist).2, ?_⟩
  intro term hterm
  cases hterm

variable {snapshot : AdapterIndexSnapshot}

lemma registers_of_resolveTerms {inputs : List AdapterCompositionInputTerm}
    {terms : List (AdapterCompositionTerm × AdapterManifest)}
    (h : resolveTerms w bank snapshot inputs = .ok terms) :
    ∀ d ∈ terms, Registers snapshot d.1 := by
  unfold resolveTerms at h
  simp only [bind_ok, pure_ok] at h
  obtain ⟨done, hdone, _, -, rfl⟩ := h
  intro d hd
  rw [mem_sortBy] at hd
  have hall : ∀ d ∈ done, Registers snapshot d.1 := by
    refine foldlM_ok_induction (fun done => ∀ d ∈ done, Registers snapshot d.1) ?_ ?_ hdone
    · exact forall_mem_nil _
    · intro done input done' _ hbefore hstep
      unfold resolveTerm at hstep
      simp only [bind_ok, okOr_ok, pure_ok] at hstep
      obtain ⟨_, -, _, -, _, -, entry, hfind, m, -, rfl⟩ := hstep
      refine forall_mem_concat hbefore ?_
      unfold findEntry at hfind
      have hadapter := find?_some hfind
      exact ⟨entry, mem_of_find?_eq_some hfind, of_decide_eq_true hadapter, rfl⟩
  exact hall d hd

variable {request : AdapterCompositionRequest}

lemma prepareComposition_still (request : AdapterCompositionRequest) :
    Keeps Still (prepareComposition w request) := by
  iterate 9 refine .check Still.refl fun _ => ?_
  exact .silent (persistManifest_still _) fun _ => .pure _

lemma runs_prepareComposition (hsound : Sound bank)
    (h : Runs (prepareComposition w request) bank registration t) : Prepared t registration := by
  unfold prepareComposition at h
  simp only [runs_bind, runs_liftM, runs_read, runs_pure] at h
  obtain ⟨_, _, ⟨-, rfl⟩, _, _, ⟨-, rfl⟩, _, _, ⟨-, rfl⟩, ⟨snapshot, current⟩, _, ⟨hcurrent, rfl⟩,
    terms, _, ⟨hterms, rfl⟩, first, _, ⟨-, rfl⟩, _, _, ⟨-, rfl⟩, _, _, ⟨-, rfl⟩, denseDelta, _,
    ⟨-, rfl⟩, reference, u, hpersist, rfl, rfl⟩ := h
  obtain ⟨hquiet, hstored⟩ := runs_persistManifest hpersist
  refine ⟨hstored, ?_⟩
  intro term hterm
  obtain ⟨d, hd, rfl⟩ := mem_map.mp hterm
  have hregisters := registers_of_resolveTerms hterms d hd
  -- an empty bank registers nothing
  rcases (current_published hsound hcurrent).2 with ⟨rfl, -⟩ | ⟨-, -, -, hpublished⟩
  · obtain ⟨e, he, -⟩ := hregisters
    cases he
  · exact ⟨_, snapshot, hpublished.grows hquiet.toGrows, hregisters⟩

lemma authorize_still (request : AdapterGovernedPromotionRequest) :
    Keeps Still (authorizeGovernedPromotion w request) := by
  iterate 2 refine .check Still.refl fun _ => ?_
  refine .silent (.write Still.refl ?_) fun _ => .bind (.read _) fun _ => .pure _
  intro bank t reference h
  obtain ⟨authorizations, hwrite, h⟩ := bind_ok.mp h
  cases h
  exact ⟨⟨⟨rfl, Within.refl _, within_of_writeOrVerify hwrite, Within.refl _, Within.refl _⟩,
    rfl⟩, rfl⟩

/-! ## Runs -/

/-- What can be asked of a bank; a manifest is registered in a call of its own. -/
inductive Call where
  | prepareImport (request : AdapterImportRequest)
  | prepareComposition (request : AdapterCompositionRequest)
  | register (registration : Registration)
  | authorize (request : AdapterGovernedPromotionRequest)
  | activate (request : AdapterActivationRequest)
  | revoke (request : AdapterRevocationRequest)
  | rollback (request : AdapterRollbackRequest)

def Call.run (w : World) : Call → Durable AdapterBank BrainError (Option Registration)
  | prepareImport request => do
    let registration ← Bank.prepareImport w request
    return some registration
  | prepareComposition request => do
    let registration ← Bank.prepareComposition w request
    return some registration
  | register registration => do
    let _ ← commitRegistration w registration
    return none
  | authorize request => do
    let _ ← authorizeGovernedPromotion w request
    return none
  | activate request => do
    let _ ← Bank.activate w request
    return none
  | revoke request => do
    let _ ← Bank.revoke w request
    return none
  | rollback request => do
    let _ ← Bank.rollback w request
    return none

/-- A bank, and the manifests that are prepared. -/
structure System where
  bank : AdapterBank
  pending : List Registration

/-- Only what is prepared is registered. -/
def Call.Ready (call : Call) (pending : List Registration) : Prop :=
  ∀ registration, call = .register registration → registration ∈ pending

/-- What a run from a bank without files comes to: each call is made in some world, and
    it stops after any of its effects, fails or returns. -/
inductive Reaches (root : String) : System → Prop
  | fresh : Reaches root ⟨AdapterBank.fresh root, []⟩
  | stops {sys : System} {t : AdapterBank} (before : Reaches root sys) (w : World) (call : Call)
      (ready : call.Ready sys.pending) (stop : t ∈ (call.run w).states sys.bank) :
      Reaches root ⟨t, sys.pending⟩
  | prepares {sys : System} {t : AdapterBank} {registration : Registration}
      (before : Reaches root sys) (w : World) (call : Call) (ready : call.Ready sys.pending)
      (runs : Durable.Runs (call.run w) sys.bank (some registration) t) :
      Reaches root ⟨t, registration :: sys.pending⟩

variable {α β : Type}

omit [Platform] [FractionText] in
lemma states_then {x : Durable AdapterBank BrainError α} {b : α → β}
    (h : t ∈ (do let a ← x; return b a : Durable AdapterBank BrainError β).states bank) :
    t ∈ x.states bank := by
  simp only [mem_states_bind_iff, states_pure, mem_singleton] at h
  rcases h with h | ⟨a, u, hruns, rfl⟩
  · exact h
  · exact hruns.mem_states

variable {f : α → Durable AdapterBank BrainError β}

variable
  {propose : AdapterBank → AdapterIndexSnapshot → Option PrivateFileReference → BrainResult Proposal}

lemma Sound.underLock (hsound : Sound bank) {propose : AdapterBank → AdapterIndexSnapshot →
      Option PrivateFileReference → BrainResult Proposal}
    (hpropose : ∀ snapshot reference next manifest, current w bank = .ok (snapshot, reference) →
      propose bank snapshot reference = .ok (.publish next manifest) →
        Proposed bank snapshot reference next)
    (h : t ∈ (Bank.underLock w propose).states bank) : Sound t ∧ Grows bank t := by
  rcases underLock_states h with hindex | ⟨snapshot, reference, next, manifest, hcurrent,
    hproposal, happends⟩
  · have hquiet := quiet_of_indexAdded hindex
    exact ⟨hsound.quiet hquiet, hquiet.toGrows⟩
  · exact ⟨hsound.appends hcurrent happends
      (hpropose snapshot reference next manifest hcurrent hproposal), happends.grows⟩

/-- Wherever a call stops, the files are sound and nothing is lost. -/
lemma Sound.call (hsound : Sound bank) {call : Call}
    (hready : ∀ registration, call = .register registration → Prepared bank registration)
    (h : t ∈ (call.run w).states bank) : Sound t ∧ Grows bank t := by
  have hquietly : Quiet bank t → Sound t ∧ Grows bank t :=
    fun hquiet => ⟨hsound.quiet hquiet, hquiet.toGrows⟩
  have hsame : t = bank → Sound t ∧ Grows bank t := by
    intro ht
    rw [ht]
    exact ⟨hsound, Grows.refl bank⟩
  cases call with
  | prepareImport request => exact hquietly (prepareImport_still request _ _ (states_then h)).1
  | prepareComposition request => exact hquietly (prepareComposition_still request _ _ (states_then h)).1
  | register registration =>
    apply hsound.underLock _ (states_then h)
    intro snapshot reference next manifest hcurrent hproposal
    exact proposed_registration hsound hcurrent (hready registration rfl) hproposal
  | authorize request => exact hquietly (authorize_still request _ _ (states_then h)).1
  | activate request =>
    rcases states_after_read (states_then h) with ht | ⟨_, -, h⟩
    · exact hsame ht
    rcases states_after_read h with ht | ⟨_, -, h⟩
    · exact hsame ht
    exact hsound.underLock (fun _ _ _ _ _ hproposal => proposed_activation hproposal) h
  | revoke request =>
    rcases states_after_read (states_then h) with ht | ⟨_, -, h⟩
    · exact hsame ht
    rcases states_after_read h with ht | ⟨_, -, h⟩
    · exact hsame ht
    rcases states_after_read h with ht | ⟨_, -, h⟩
    · exact hsame ht
    exact hsound.underLock (fun _ _ _ _ _ hproposal => proposed_revocation hproposal) h
  | rollback request =>
    rcases states_after_read (states_then h) with ht | ⟨_, -, h⟩
    · exact hsame ht
    rcases states_after_read h with ht | ⟨_, -, h⟩
    · exact hsame ht
    exact hsound.underLock (fun _ _ _ _ _ hproposal => proposed_rollback hproposal) h

lemma Sound.prepared (hsound : Sound bank) {call : Call}
    (h : Runs (call.run w) bank (some registration) t) : Prepared t registration := by
  cases call with
  | prepareImport request =>
    unfold Call.run at h
    simp only [runs_bind, runs_pure, some.injEq] at h
    obtain ⟨r, u, hruns, rfl, rfl⟩ := h
    exact runs_prepareImport hruns
  | prepareComposition request =>
    unfold Call.run at h
    simp only [runs_bind, runs_pure, some.injEq] at h
    obtain ⟨r, u, hruns, rfl, rfl⟩ := h
    exact runs_prepareComposition hsound hruns
  | register _ | authorize _ | activate _ | revoke _ | rollback _ =>
    unfold Call.run at h
    simp only [runs_bind, runs_pure, reduceCtorEq, false_and, and_false, exists_false] at h

/-- After every run the files are sound, and what is pending is prepared. -/
lemma sound_of_reaches {root : String} {sys : System} (h : Reaches root sys) :
    Sound sys.bank ∧ ∀ registration ∈ sys.pending, Prepared sys.bank registration := by
  induction h with
  | fresh => exact ⟨sound_fresh root, forall_mem_nil _⟩
  | stops before w call ready stop ih =>
    obtain ⟨hsound, hgrows⟩ := ih.1.call (fun r hr => ih.2 r (ready r hr)) stop
    exact ⟨hsound, fun r hr => (ih.2 r hr).grows hgrows⟩
  | prepares before w call ready runs ih =>
    obtain ⟨hsound, hgrows⟩ := ih.1.call (fun r hr => ih.2 r (ready r hr)) runs.mem_states
    refine ⟨hsound, ?_⟩
    intro r hr
    rcases mem_cons.mp hr with rfl | hr
    · exact ih.1.prepared runs
    · exact (ih.2 r hr).grows hgrows

/-! ## What a published revision promises -/

/-- A term that a manifest is composed of, directly or through other manifests. -/
inductive Source (bank : AdapterBank) : PrivateFileReference → AdapterCompositionTerm → Prop
  | direct {reference : PrivateFileReference} {m : AdapterManifest} {term : AdapterCompositionTerm}
      (stored : bank.manifests[reference.sha256]? = some m) (mem : term ∈ m.source.terms) :
      Source bank reference term
  | through {reference : PrivateFileReference} {m : AdapterManifest}
      {middle term : AdapterCompositionTerm}
      (stored : bank.manifests[reference.sha256]? = some m) (mem : middle ∈ m.source.terms)
      (rest : Source bank middle.manifest term) : Source bank reference term

/-- What every published revision promises. -/
structure Lifecycle (bank : AdapterBank) : Prop where
  /-- One adapter at most is active in a slot. -/
  oneActive : ∀ r s, Published bank r s → (s.active.map ActiveAdapterSelection.slot).Nodup
  /-- What is active is registered and not revoked. -/
  active : ∀ r s, Published bank r s → ∀ selection ∈ s.active, ¬Revoked s selection.adapter ∧
    ∃ e ∈ s.entries, e.adapter = selection.adapter ∧ e.manifest = selection.manifest
  /-- A revocation is never undone. -/
  revoked : ∀ r r' s s', Published bank r s → Published bank r' s' → r ≤ r' →
    ∀ revocation ∈ s.revocations, revocation ∈ s'.revocations
  /-- A composition is revoked with whatever it is made from. -/
  closed : ∀ r s, Published bank r s → ∀ e ∈ s.entries, ∀ term, Source bank e.manifest term →
    Revoked s term.adapter → Revoked s e.adapter
  /-- An entry is never removed or changed. -/
  registered : ∀ r r' s s', Published bank r s → Published bank r' s' → r ≤ r' →
    ∀ e ∈ s.entries, e ∈ s'.entries ∧ ∀ e' ∈ s'.entries, e'.adapter = e.adapter → e' = e
  lineages : ∀ r s, Published bank r s →
    (s.entries.map fun e => (e.lineageId, e.adapter.generation)).Nodup

omit [Platform] [FractionText] in
lemma revoked_of_source (hcoherent : Coherent bank s) (hterms : TermsRegistered bank s)
    {term : AdapterCompositionTerm} (hsource : Source bank reference term)
    (hrevoked : Revoked s term.adapter) :
    ∀ e ∈ s.entries, e.manifest = reference → Revoked s e.adapter := by
  induction hsource with
  | direct stored mem =>
    intro e he hreference
    subst hreference
    exact hcoherent.closed e he _ stored _ (mem_map_of_mem mem) hrevoked
  | through stored mem _ ih =>
    intro e he hreference
    subst hreference
    -- the term in the middle is registered, so it is revoked
    obtain ⟨e', he', hadapter, hmanifest⟩ := hterms e he _ stored _ mem
    have hmiddle := ih hrevoked e' he' hmanifest
    rw [hadapter] at hmiddle
    exact hcoherent.closed e he _ stored _ (mem_map_of_mem mem) hmiddle

/-- A call returns an error, and the files stay as they are. -/
def Rejected {α : Type} (x : Durable AdapterBank BrainError α) (bank : AdapterBank) : Prop :=
  (∃ e, x.result bank = .error e) ∧ ∀ t ∈ x.states bank, t = bank

/-- A permit was issued against a revision that another one has followed, and not under
    this permit. -/
def Superseded (bank : AdapterBank) (permit : PrivateFileReference) : Prop :=
  ∃ a n p s, bank.authorizations[permit.sha256]? = some a ∧ bank.commits[n]? = some p ∧
    a.issuedAgainstIndex = p.index ∧ Published bank (n + 1) s ∧
      ∀ other, s.operation.permit = some other → other.sha256 ≠ permit.sha256

/-- A permit is used once, on the index that it was issued against. -/
structure SingleUse (bank : AdapterBank) : Prop where
  once : ∀ r r' s s' permit permit', Published bank r s → Published bank r' s' →
    s.operation.permit = some permit → s'.operation.permit = some permit' →
      permit.sha256 = permit'.sha256 → r = r'
  successor : ∀ r s permit, Published bank r s → s.operation.permit = some permit →
    ∃ a p, bank.authorizations[permit.sha256]? = some a ∧ 2 ≤ r ∧
      bank.commits[r - 1]? = some p ∧ a.issuedAgainstIndex = p.index
  activation : ∀ (w : World) (request : AdapterActivationRequest),
    Superseded bank request.authorization → Rejected (activate w request) bank
  rollback : ∀ (w : World) (request : AdapterRollbackRequest) (permit : PrivateFileReference),
    request.authorization = some permit → Superseded bank permit →
      Rejected (Bank.rollback w request) bank

section

omit [Platform] [FractionText]

lemma Sound.revision_of_index (hsound : Sound bank) {r r' : Nat}
    {c c' : AdapterBankRevisionCommit} (hc : bank.commits[r]? = some c)
    (hc' : bank.commits[r']? = some c') (hindex : c.index = c'.index) : r = r' := by
  obtain ⟨s, hs, hrevision, -⟩ := hsound.indexed r c hc
  obtain ⟨s', hs', hrevision', -⟩ := hsound.indexed r' c' hc'
  rw [hindex, hs'] at hs
  cases hs
  exact hrevision.symm.trans hrevision'

lemma Sound.permit_of_active (hsound : Sound bank) (hs : Published bank r s)
    {selection : ActiveAdapterSelection} (hselection : selection ∈ s.active) :
    ∃ r' s', Published bank r' s' ∧ s'.operation.permit = some selection.authorization := by
  obtain ⟨n, hn⟩ := hsound.journal
  obtain ⟨c, hc, -⟩ := id hs
  have hpos := ((hn r).mp ⟨c, hc⟩).1
  induction r, hpos using Nat.le_induction generalizing s c with
  | base =>
    rcases (hsound.starts s hs).permitted selection hselection with hnone | hpermit
    · cases hnone
    · exact ⟨1, s, hs, hpermit⟩
  | succ r hpos ih =>
    have hlast := ((hn (r + 1)).mp ⟨c, hc⟩).2
    obtain ⟨p, hp⟩ := (hn r).mpr ⟨hpos, by omega⟩
    obtain ⟨before, hbefore, -⟩ := hsound.published hp
    rcases (hsound.follows r before s hbefore hs).permitted selection hselection with hold | hpermit
    · exact ih hbefore hold p hp
    · exact ⟨r + 1, s, hs, hpermit⟩

lemma rejected_of_error {α : Type} {x : Durable AdapterBank BrainError α} {e : BrainError}
    (hresult : x.result bank = .error e) (hstates : ∀ t ∈ x.states bank, t = bank) :
    Rejected x bank :=
  ⟨⟨e, hresult⟩, hstates⟩

lemma rejected_check {r : BrainResult α} (h : ∀ a, r = .ok a → Rejected (f a) bank) :
    Rejected ((liftM r : Durable AdapterBank BrainError α) >>= f) bank := by
  cases hr : r with
  | error e =>
    apply rejected_of_error
    · exact result_bind_of_error rfl
    · intro t ht
      rcases states_after_read ht with ht | ⟨_, hok, -⟩
      · exact ht
      · cases hok
  | ok a =>
    obtain ⟨⟨e, herror⟩, hstates⟩ := h a hr
    apply rejected_of_error (e := e)
    · rw [result_bind_of_ok rfl]
      exact herror
    · intro t ht
      rcases states_after_read ht with ht | ⟨b, hok, ht⟩
      · exact ht
      · cases hok
        exact hstates t ht

end

lemma rejected_underLock {propose : AdapterBank → AdapterIndexSnapshot →
      Option PrivateFileReference → BrainResult Proposal}
    (h : ∀ snapshot reference proposal, current w bank = .ok (snapshot, reference) →
      propose bank snapshot reference ≠ .ok proposal) : Rejected (underLock w propose) bank := by
  have hfails : ∃ e, (underLock w propose).result bank = .error e := by
    cases hresult : (underLock w propose).result bank with
    | error e => exact ⟨e, rfl⟩
    | ok commit =>
      exfalso
      unfold underLock at hresult
      rw [result_bind_ok] at hresult
      obtain ⟨⟨snapshot, reference⟩, hcurrent, hresult⟩ := hresult
      rw [result_bind_ok] at hresult
      obtain ⟨proposal, hproposal, -⟩ := hresult
      exact h snapshot reference proposal hcurrent hproposal
  obtain ⟨e, he⟩ := hfails
  apply rejected_of_error he
  intro t ht
  unfold underLock at ht
  simp only [mem_states_bind_iff, runs_read, states_read, mem_singleton] at ht
  rcases ht with rfl | ⟨⟨snapshot, reference⟩, _, ⟨hcurrent, rfl⟩, rfl | ⟨proposal, _,
    ⟨hproposal, rfl⟩, -⟩⟩
  · rfl
  · rfl
  · exact absurd hproposal (h snapshot reference proposal hcurrent)

lemma not_superseded_of_checkPermit (hsound : Sound bank)
    {authorization manifest index : PrivateFileReference} {adapter : AdapterVersion} {code : String}
    (hcurrent : current w bank = .ok (snapshot, some index))
    (h : checkPermit w bank authorization adapter manifest index code = .ok ()) :
    ¬Superseded bank authorization := by
  intro hsuperseded
  obtain ⟨a, n, p, s, ha, hp, hissued, ⟨c, hc, -⟩, -⟩ := hsuperseded
  obtain ⟨a', ha', hissued'⟩ := checkPermit_ok h
  rw [ha] at ha'
  cases ha'
  obtain ⟨hjournal, htip⟩ := current_published hsound hcurrent
  rcases htip with ⟨-, hnone⟩ | ⟨last, hlast, hindex, -⟩
  · cases hnone
  · have hsame : last.index = p.index := by
      rw [← hissued, hissued']
      exact (some.inj hindex).symm
    have hrevision := hsound.revision_of_index hlast hp hsame
    have hle := (hjournal (n + 1)).mp ⟨c, hc⟩
    omega

end Tidex.Bank

/-! ## A bank without files -/

namespace Tidex.BankSample

open Tidex.Bank

attribute [local instance] Platform.reference

@[reducible] def oneText : Lib.FractionText := ⟨fun _ => ['1', '.', '0']⟩

attribute [local instance] oneText

end Tidex.BankSample
