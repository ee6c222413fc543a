/-
  Foundation.Immutable — immutable files under concurrent writers.
-/
import Tidex.Foundation.Reference

namespace Tidex

namespace Immutable

open Tidex.Lib Function Sha256Digest ByteArray

/-! ## Files and names -/

/-- What a path leads to: nothing, a regular file, or what cannot be opened as one. -/
inductive Entry where
  | absent
  | file (inode : Nat)
  | other (e : BrainError) (present : e ≠ .io .notFound)

/-- The destination, the staging names of its directory, and the files they lead to. -/
structure Directory where
  destination : Entry
  staging : String → Option Nat
  content : Nat → ByteArray
  trusted : Nat → Bool
  next : Nat

namespace Directory

/-- The regular file at the destination. -/
def installed (d : Directory) : Option ByteArray :=
  match d.destination with
  | .file k => some (d.content k)
  | _ => none

/-- Every name leads to a file that was made. -/
structure Sound (d : Directory) : Prop where
  staging : ∀ name k, d.staging name = some k → k < d.next
  destination : ∀ k, d.destination = .file k → k < d.next

def secure (d : Directory) (k : Nat) : Directory :=
  { d with trusted := update d.trusted k true }

def openExistingPrivateFile (d : Directory) : BrainResult Unit :=
  match d.destination with
  | .absent => .error (.io .notFound)
  | .other e _ => .error e
  | .file k =>
    failIf (d.trusted k = false) (integrity "private_file_permissions_or_owner_invalid")

variable [Platform]

def verifyImmutableContent (d : Directory) (expected : Sha256Digest) : BrainResult Unit :=
  match d.destination with
  | .absent => .error (.io .notFound)
  | .other e _ => .error e
  | .file k => do
    failIf (d.trusted k = false) (integrity "private_file_permissions_or_owner_invalid")
    failIf (digestBytes (d.content k) ≠ expected)
      (integrity "private_file_immutable_content_mismatch")

omit [Platform] in
/-- Remove a name if it leads to the file that is expected there. -/
def unlinkNameIfSameInode (d : Directory) (name : String) (inode : Nat) :
    Directory × BrainResult Unit :=
  match d.staging name with
  | none => (d, .ok ())
  | some k =>
    if k = inode then ({ d with staging := update d.staging name none }, .ok ())
    else (d, .error (integrity "private_file_staging_replaced_before_cleanup"))

end Directory

/-! ## A call -/

inductive Operation where
  | writeOrVerifyImmutable
  | createPrivateImmutable
  deriving DecidableEq

structure Call where
  operation : Operation
  bytes : ByteArray

/-- What the attempt to link came to, before the name is removed. -/
inductive Outcome where
  | installed
  | lost
  | failed (e : BrainError)
  | unsecured (e : BrainError)

/-- Where a call is. -/
inductive Pc where
  | preflight
  | verifyExisting
  | stage
  | produce (name : String) (inode : Nat)
  | compare (name : String) (inode : Nat)
  | reopen (name : String)
  | prepare (name : String) (inode : Nat)
  | link (name : String) (inode : Nat)
  | validate (name : String) (inode : Nat)
  | finalize (name : String) (inode : Nat)
  | unlink (name : String) (inode : Nat) (outcome : Outcome)
  | verifyInstalled
  | verifyLost
  | done (result : BrainResult Sha256Digest)

/-- The staging name that a call holds. -/
def Pc.holds : Pc → Option String
  | .produce name _ | .compare name _ | .reopen name | .prepare name _ | .link name _
  | .validate name _ | .finalize name _ | .unlink name _ _ => some name
  | _ => none

def targetAlreadyExists : BrainError :=
  integrity "private_file_immutable_target_already_exists"

section

variable [Platform]

def Call.expected (call : Call) : Sha256Digest := digestBytes call.bytes

def Call.verified (call : Call) (d : Directory) : BrainResult Sha256Digest := do
  d.verifyImmutableContent call.expected
  return call.expected

def Call.afterUnlink (call : Call) (outcome : Outcome) (cleanup : BrainResult Unit) : Pc :=
  match outcome, cleanup with
  | .unsecured e, _ => .done (.error e)
  | _, .error e => .done (.error e)
  | .failed e, .ok () => .done (.error e)
  | .installed, .ok () => .verifyInstalled
  | .lost, .ok () =>
    match call.operation with
    | .writeOrVerifyImmutable => .verifyLost
    | .createPrivateImmutable => .done (.error targetAlreadyExists)

def Call.advance (call : Call) (name : String) (d : Directory) : Pc → Directory × Pc
  | .preflight =>
    match d.destination with
    | .absent => (d, .stage)
    | .other e _ => (d, .done (.error e))
    | .file _ =>
      match call.operation with
      | .writeOrVerifyImmutable => (d, .verifyExisting)
      | .createPrivateImmutable => (d, .done (.error targetAlreadyExists))
  | .verifyExisting => (d, .done (call.verified d))
  | .stage =>
    match d.staging name with
    | some _ => (d, .stage)
    | none =>
      ({ d with
        staging := update d.staging name (some d.next)
        content := update d.content d.next ByteArray.empty
        trusted := update d.trusted d.next true
        next := d.next + 1 }, .produce name d.next)
  | .produce staged k =>
    ({ d with
      content := update d.content k call.bytes
      trusted := update d.trusted k true }, .compare staged k)
  | .compare staged k =>
    if digestBytes (d.content k) ≠ call.expected then
      (d, .unlink staged k (.failed (integrity "private_file_staged_content_mismatch")))
    else (d, .reopen staged)
  | .reopen staged =>
    match d.staging staged with
    | none => (d, .done (.error (.io .notFound)))
    | some k =>
      if d.trusted k = false then
        (d, .done (.error (integrity "private_file_permissions_or_owner_invalid")))
      else (d, .prepare staged k)
  | .prepare staged k =>
    if digestBytes (d.content k) ≠ call.expected then
      (d.secure k, .unlink staged k (.failed (integrity "private_file_staged_content_mismatch")))
    else (d.secure k, .link staged k)
  | .link staged k =>
    match d.destination with
    | .absent => ({ d with destination := .file k }, .finalize staged k)
    | _ => (d, .validate staged k)
  | .validate staged k =>
    match d.openExistingPrivateFile with
    | .ok () => (d, .unlink staged k .lost)
    | .error e => (d, .unlink staged k (.failed e))
  | .finalize staged k =>
    match d.destination with
    | .file j => (d.secure j, .unlink staged k .installed)
    | .absent => (d, .unlink staged k (.unsecured (.io .notFound)))
    | .other e _ => (d, .unlink staged k (.unsecured e))
  | .unlink staged k outcome =>
    let r := d.unlinkNameIfSameInode staged k
    (r.1, call.afterUnlink outcome r.2)
  | .verifyInstalled => (d, .done (call.verified d))
  | .verifyLost => (d, .done (call.verified d))
  | .done result => (d, .done result)

end

/-! ## Interleavings -/

/-- A directory, the calls on it, and which of them linked its file: a record that no step
    reads. -/
structure World (ι : Type) where
  directory : Directory
  calls : ι → Pc
  winner : Option ι

variable {ι : Type} [DecidableEq ι]

def World.start (ι : Type) (d : Directory) : World ι where
  directory := d
  calls := fun _ => .preflight
  winner := none

section

variable [Platform]

/-- Whether the next step of a call puts its file at the destination. -/
def World.links (w : World ι) (i : ι) : Bool :=
  match w.calls i, w.directory.destination with
  | .link _ _, .absent => true
  | _, _ => false

def World.move (calls : ι → Call) (w : World ι) (i : ι) (name : String) : World ι where
  directory := ((calls i).advance name w.directory (w.calls i)).1
  calls := update w.calls i ((calls i).advance name w.directory (w.calls i)).2
  winner := if w.links i then some i else w.winner

def Step (calls : ι → Call) (w w' : World ι) : Prop :=
  ∃ i name, w' = w.move calls i name

def Steps (calls : ι → Call) : World ι → World ι → Prop := Relation.ReflTransGen (Step calls)

/-- The steps of a schedule: whose turn it is, and the name that is tried. -/
def World.run (calls : ι → Call) (w : World ι) (schedule : List (ι × String)) : World ι :=
  schedule.foldl (fun w turn => w.move calls turn.1 turn.2) w

lemma steps_run (calls : ι → Call) (w : World ι) (schedule : List (ι × String)) :
    Steps calls w (w.run calls schedule) := by
  induction schedule generalizing w with
  | nil => exact Relation.ReflTransGen.refl
  | cons turn schedule ih =>
    have hstep : Step calls w (w.move calls turn.1 turn.2) := ⟨turn.1, turn.2, rfl⟩
    exact Relation.ReflTransGen.head hstep (ih _)

end

/-! ## The invariant -/

/-- A staging name that a call made leads to the call's own file. -/
structure Owned (d₀ d : Directory) (name : String) (k : Nat) : Prop where
  named : d.staging name = some k
  fresh : d₀.next ≤ k
  unused : d₀.staging name = none

section

variable [Platform]

/-- What is known of a call where it is; `won` says that it put its file at the destination. -/
def Fact (call : Call) (d₀ d : Directory) (won : Prop) : Pc → Prop
  | .preflight | .stage => True
  | .verifyExisting | .verifyLost => call.operation = .writeOrVerifyImmutable
  | .produce name k => Owned d₀ d name k ∧ d.destination ≠ .file k
  | .reopen name => ∃ k, Owned d₀ d name k ∧ d.content k = call.bytes
  | .compare name k | .prepare name k | .link name k | .validate name k =>
    Owned d₀ d name k ∧ d.content k = call.bytes
  | .finalize name k => Owned d₀ d name k ∧ won
  | .unlink name k outcome => Owned d₀ d name k ∧ match outcome with
    | .installed => won
    | _ => True
  | .verifyInstalled => won
  | .done (.error _) => True
  | .done (.ok digest) => digest = call.expected ∧
    (call.operation = .createPrivateImmutable → won) ∧
    ∃ k, d.destination = .file k ∧ digestBytes (d.content k) = call.expected

/-- What the destination leads to: what it did at the start, or the file of the call that won. -/
def Placed (calls : ι → Call) (d₀ d : Directory) : Option ι → Prop
  | none => d.destination = d₀.destination
  | some i => d₀.destination = .absent ∧
    ∃ k, d.destination = .file k ∧ d₀.next ≤ k ∧ k < d.next ∧ d.content k = (calls i).bytes

/-- The invariant of every interleaving. -/
structure Keeps (calls : ι → Call) (d₀ : Directory) (w : World ι) : Prop where
  next_le : d₀.next ≤ w.directory.next
  named_lt : ∀ name k, w.directory.staging name = some k → k < w.directory.next
  trusted : ∀ k, d₀.next ≤ k → k < w.directory.next → w.directory.trusted k = true
  old_content : ∀ k, k < d₀.next → w.directory.content k = d₀.content k
  one_name : ∀ name name' k, d₀.next ≤ k → w.directory.staging name = some k →
    w.directory.staging name' = some k → name = name'
  distinct : ∀ i j name, (w.calls i).holds = some name → (w.calls j).holds = some name → i = j
  frame : ∀ name, (∀ i, (w.calls i).holds ≠ some name) →
    w.directory.staging name = d₀.staging name
  placed : Placed calls d₀ w.directory w.winner
  facts : ∀ i, Fact (calls i) d₀ w.directory (w.winner = some i) (w.calls i)

variable {call : Call} {pc : Pc} {name : String}

omit [Platform] in
lemma Fact.owned [Platform] {d₀ d : Directory} {won : Prop} (h : Fact call d₀ d won pc)
    (hholds : pc.holds = some name) : ∃ k, Owned d₀ d name k := by
  cases pc with
  | preflight | verifyExisting | stage | verifyInstalled | verifyLost | done result => cases hholds
  | produce staged k | compare staged k | prepare staged k | link staged k | validate staged k
  | finalize staged k | unlink staged k outcome => cases hholds; exact ⟨k, h.1⟩
  | reopen staged =>
    cases hholds
    obtain ⟨k, howned, -⟩ := h
    exact ⟨k, howned⟩

/-- How the directory may change under a call: its own file stays under its name, and what is at
    the destination stays there. -/
structure Spares (d d' : Directory) (pc : Pc) : Prop where
  staging : ∀ name k, pc.holds = some name → d.staging name = some k →
    d'.staging name = some k ∧ d'.content k = d.content k
  destination : ∀ k, d.destination = .file k →
    d'.destination = .file k ∧ d'.content k = d.content k
  elsewhere : ∀ name k, pc.holds = some name → d.staging name = some k →
    d.destination ≠ .file k → d'.destination ≠ .file k

/-- What is known of a call stays known under such a change. -/
lemma Fact.spared {d₀ d d' : Directory} {won won' : Prop} (h : Fact call d₀ d won pc)
    (hspares : Spares d d' pc) (hwon : won → won') : Fact call d₀ d' won' pc := by
  have howned : ∀ name k, pc.holds = some name → Owned d₀ d name k →
      Owned d₀ d' name k ∧ d'.content k = d.content k := by
    intro name k hholds hk
    obtain ⟨hnamed, hcontent⟩ := hspares.staging name k hholds hk.named
    exact ⟨⟨hnamed, hk.fresh, hk.unused⟩, hcontent⟩
  cases pc with
  | preflight => trivial
  | stage => trivial
  | verifyExisting => exact h
  | verifyLost => exact h
  | produce name k =>
    exact ⟨(howned name k rfl h.1).1, hspares.elsewhere name k rfl h.1.named h.2⟩
  | reopen name =>
    obtain ⟨k, hk, hcontent⟩ := h
    obtain ⟨hk', hsame⟩ := howned name k rfl hk
    exact ⟨k, hk', hsame.trans hcontent⟩
  | compare name k | prepare name k | link name k | validate name k =>
    obtain ⟨hk, hsame⟩ := howned name k rfl h.1
    exact ⟨hk, hsame.trans h.2⟩
  | finalize name k => exact ⟨(howned name k rfl h.1).1, hwon h.2⟩
  | unlink name k outcome =>
    refine ⟨(howned name k rfl h.1).1, ?_⟩
    cases outcome with
    | installed => exact hwon h.2
    | lost => trivial
    | failed e => trivial
    | unsecured e => trivial
  | verifyInstalled => exact hwon h
  | done result =>
    cases result with
    | error e => trivial
    | ok digest =>
      obtain ⟨hdigest, hcreate, k, hk, hcontent⟩ := h
      obtain ⟨hk', hsame⟩ := hspares.destination k hk
      refine ⟨hdigest, fun hop => hwon (hcreate hop), k, hk', ?_⟩
      rw [hsame]
      exact hcontent

/-- The files and the names are the same; only modes may have been set. -/
structure SameFiles (d d' : Directory) : Prop where
  destination : d'.destination = d.destination
  staging : d'.staging = d.staging
  content : d'.content = d.content
  next : d'.next = d.next
  trusted : ∀ k, d.trusted k = true → d'.trusted k = true

section

omit [Platform]

lemma SameFiles.refl (d : Directory) : SameFiles d d :=
  ⟨rfl, rfl, rfl, rfl, fun _ h => h⟩

lemma sameFiles_secure (d : Directory) (k : Nat) : SameFiles d (d.secure k) := by
  refine ⟨rfl, rfl, rfl, rfl, ?_⟩
  intro j hj
  show update d.trusted k true j = true
  by_cases hjk : j = k
  · rw [hjk, update_self]
  · rw [update_of_ne hjk]
    exact hj

lemma SameFiles.spares {d d' : Directory} (h : SameFiles d d') (pc : Pc) : Spares d d' pc := by
  constructor
  · intro name k _ hnamed
    rw [h.staging, h.content]
    exact ⟨hnamed, rfl⟩
  · intro k hk
    rw [h.destination, h.content]
    exact ⟨hk, rfl⟩
  · intro name k _ _ hk
    rw [h.destination]
    exact hk

end

variable {calls : ι → Call} {d₀ : Directory} {w : World ι}

/-! ## What each kind of step keeps -/

variable {i : ι}

omit [Platform] in
lemma holds_update (pc : Pc) (hholds : pc.holds = (w.calls i).holds) (j : ι) :
    (update w.calls i pc j).holds = (w.calls j).holds := by
  by_cases hj : j = i
  · rw [hj, update_self, hholds]
  · rw [update_of_ne hj]

omit [DecidableEq ι] [Platform] in
lemma Placed.mono {d d' : Directory} {winner : Option ι} (h : Placed calls d₀ d winner)
    (hdestination : d'.destination = d.destination) (hnext : d.next ≤ d'.next)
    (hcontent : ∀ k, d.destination = .file k → k < d.next → d'.content k = d.content k) :
    Placed calls d₀ d' winner := by
  cases winner with
  | none => exact hdestination.trans h
  | some v =>
    obtain ⟨habsent, k, hk, hfresh, hlt, hbytes⟩ := h
    exact ⟨habsent, k, hdestination.trans hk, hfresh, hlt.trans_le hnext,
      (hcontent k hk hlt).trans hbytes⟩

/-- What is known of the calls after a step of one of them that spares the others. -/
lemma Keeps.facts_update (h : Keeps calls d₀ w) {d' : Directory} {winner : Option ι}
    (hfact : Fact (calls i) d₀ d' (winner = some i) pc)
    (hspares : ∀ j, j ≠ i → Spares w.directory d' (w.calls j))
    (hwon : ∀ j, w.winner = some j → winner = some j) (j : ι) :
    Fact (calls j) d₀ d' (winner = some j) (update w.calls i pc j) := by
  by_cases hj : j = i
  · rw [hj, update_self]
    exact hfact
  · rw [update_of_ne hj]
    exact (h.facts j).spared (hspares j hj) (hwon j)

/-- A step that changes no file and goes on with the name it holds. -/
lemma Keeps.quiet (h : Keeps calls d₀ w) {d' : Directory} (hsame : SameFiles w.directory d')
    (hholds : pc.holds = (w.calls i).holds) (hfact : Fact (calls i) d₀ d' (w.winner = some i) pc) :
    Keeps calls d₀ ⟨d', update w.calls i pc, w.winner⟩ := by
  have hall := holds_update pc hholds
  constructor
  · show d₀.next ≤ d'.next
    rw [hsame.next]
    exact h.next_le
  · show ∀ name k, d'.staging name = some k → k < d'.next
    rw [hsame.staging, hsame.next]
    exact h.named_lt
  · intro k hk hlt
    have hlt' : k < d'.next := hlt
    rw [hsame.next] at hlt'
    exact hsame.trusted k (h.trusted k hk hlt')
  · show ∀ k, k < d₀.next → d'.content k = d₀.content k
    rw [hsame.content]
    exact h.old_content
  · show ∀ name name' k, d₀.next ≤ k → d'.staging name = some k → d'.staging name' = some k → _
    rw [hsame.staging]
    exact h.one_name
  · intro j j' name hj hj'
    exact h.distinct j j' name ((hall j).symm.trans hj) ((hall j').symm.trans hj')
  · intro name hfree
    show d'.staging name = _
    rw [hsame.staging]
    apply h.frame
    intro j hj
    exact hfree j ((hall j).trans hj)
  · exact h.placed.mono hsame.destination hsame.next.ge fun k _ _ => congrFun hsame.content k
  · exact h.facts_update hfact (fun j _ => hsame.spares _) fun _ => id

variable {k : Nat}

section

omit [DecidableEq ι]

lemma Keeps.destination_lt (h : Keeps calls d₀ w) (hsound : d₀.Sound)
    (hk : w.directory.destination = .file k) : k < w.directory.next := by
  have hplaced := h.placed
  cases hw : w.winner with
  | none =>
    rw [hw] at hplaced
    have hold : d₀.destination = .file k := hplaced.symm.trans hk
    exact (hsound.destination k hold).trans_le h.next_le
  | some v =>
    rw [hw] at hplaced
    obtain ⟨-, j, hj, -, hlt, -⟩ := hplaced
    rw [hk] at hj
    cases hj
    exact hlt

lemma Keeps.inode_ne (h : Keeps calls d₀ w) {i j : ι} (hji : j ≠ i) {name name' : String}
    {k k' : Nat} (hi : (w.calls i).holds = some name) (hk : Owned d₀ w.directory name k)
    (hj : (w.calls j).holds = some name') (hk' : w.directory.staging name' = some k') : k' ≠ k := by
  intro heq
  rw [heq] at hk'
  have hname := h.one_name name name' k hk.fresh hk.named hk'
  rw [← hname] at hj
  exact hji (h.distinct j i name hj hi)

end

/-- A staging file is made under a name that is free. -/
lemma Keeps.create (h : Keeps calls d₀ w) (hsound : d₀.Sound) (hpc : w.calls i = .stage)
    (hfree : w.directory.staging name = none) :
    Keeps calls d₀ ⟨{ w.directory with
      staging := update w.directory.staging name (some w.directory.next)
      content := update w.directory.content w.directory.next empty
      trusted := update w.directory.trusted w.directory.next true
      next := w.directory.next + 1 },
      update w.calls i (.produce name w.directory.next), w.winner⟩ := by
  -- nobody holds the name
  have hunheld : ∀ j, (w.calls j).holds ≠ some name := by
    intro j hj
    obtain ⟨k, hk⟩ := (h.facts j).owned hj
    rw [hk.named] at hfree
    cases hfree
  have hcontent : ∀ k, k < w.directory.next → update w.directory.content
      w.directory.next empty k = w.directory.content k := by
    intro k hk
    exact update_of_ne (Nat.ne_of_lt hk) ..
  have hother : ∀ name' k, w.directory.staging name' = some k → name' ≠ name := by
    intro name' k hk heq
    rw [heq, hfree] at hk
    cases hk
  constructor
  · exact h.next_le.trans (Nat.le_succ _)
  · intro name' k hk
    have hk' : update w.directory.staging name (some w.directory.next) name' = some k := hk
    show k < w.directory.next + 1
    by_cases hname : name' = name
    · rw [hname, update_self] at hk'
      cases hk'
      exact Nat.lt_succ_self _
    · rw [update_of_ne hname] at hk'
      exact (h.named_lt name' k hk').trans (Nat.lt_succ_self _)
  · intro k hk hlt
    have hlt' : k < w.directory.next + 1 := hlt
    show update w.directory.trusted w.directory.next true k = true
    by_cases hnext : k = w.directory.next
    · rw [hnext, update_self]
    · rw [update_of_ne hnext]
      exact h.trusted k hk (by omega)
  · intro k hk
    exact (hcontent k (hk.trans_le h.next_le)).trans (h.old_content k hk)
  · intro name' name'' k hk hname' hname''
    have hone : ∀ n, update w.directory.staging name (some w.directory.next) n = some k →
        (n = name ∧ k = w.directory.next) ∨
          (w.directory.staging n = some k ∧ k < w.directory.next) := by
      intro n hn
      by_cases heq : n = name
      · rw [heq, update_self] at hn
        cases hn
        exact .inl ⟨heq, rfl⟩
      · rw [update_of_ne heq] at hn
        exact .inr ⟨hn, h.named_lt n k hn⟩
    rcases hone name' hname' with ⟨hn, hnext⟩ | ⟨hn, hlt⟩
    · rcases hone name'' hname'' with ⟨hn', -⟩ | ⟨-, hlt'⟩
      · rw [hn, hn']
      · omega
    · rcases hone name'' hname'' with ⟨-, hnext'⟩ | ⟨hn', -⟩
      · omega
      · exact h.one_name name' name'' k hk hn hn'
  · intro j j' name' hj hj'
    have hholds : ∀ l, (update w.calls i (.produce name w.directory.next) l).holds =
        some name' → (l = i ∧ name' = name) ∨ (w.calls l).holds = some name' := by
      intro l hl
      by_cases hli : l = i
      · rw [hli, update_self] at hl
        cases hl
        exact .inl ⟨hli, rfl⟩
      · rw [update_of_ne hli] at hl
        exact .inr hl
    rcases hholds j hj with ⟨hji, hname⟩ | hold
    · rcases hholds j' hj' with ⟨hji', -⟩ | hold'
      · rw [hji, hji']
      · rw [hname] at hold'
        exact absurd hold' (hunheld j')
    · rcases hholds j' hj' with ⟨-, hname'⟩ | hold'
      · rw [hname'] at hold
        exact absurd hold (hunheld j)
      · exact h.distinct j j' name' hold hold'
  · intro name' hfree'
    have hname : name' ≠ name := by
      intro heq
      apply hfree' i
      show (update w.calls i (.produce name w.directory.next) i).holds = _
      rw [update_self, heq]
      rfl
    show update w.directory.staging name (some w.directory.next) name' = _
    rw [update_of_ne hname]
    apply h.frame
    intro j hj
    apply hfree' j
    show (update w.calls i (.produce name w.directory.next) j).holds = _
    by_cases hji : j = i
    · rw [hji, hpc] at hj
      cases hj
    · rw [update_of_ne hji]
      exact hj
  · exact h.placed.mono rfl (Nat.le_succ _) fun k _ hlt => hcontent k hlt
  · refine h.facts_update ⟨⟨update_self .., h.next_le, ?_⟩, ?_⟩ ?_ fun _ => id
    · exact (h.frame name hunheld).symm.trans hfree
    · intro hdestination
      exact Nat.lt_irrefl _ (h.destination_lt hsound hdestination)
    · refine fun j hji => ⟨?_, ?_, fun _ _ _ _ hk => hk⟩
      · intro name' k hheld hk
        refine ⟨?_, hcontent k (h.named_lt name' k hk)⟩
        show update w.directory.staging name (some w.directory.next) name' = some k
        rw [update_of_ne (hother name' k hk)]
        exact hk
      · intro k hk
        exact ⟨hk, hcontent k (h.destination_lt hsound hk)⟩

/-- The bytes of a call are written to its own staging file. -/
lemma Keeps.write (h : Keeps calls d₀ w) (hpc : w.calls i = .produce name k) :
    Keeps calls d₀ ⟨{ w.directory with
      content := update w.directory.content k (calls i).bytes
      trusted := update w.directory.trusted k true },
      update w.calls i (.compare name k), w.winner⟩ := by
  have hfact := h.facts i
  rw [hpc] at hfact
  obtain ⟨howned, hdestination⟩ := hfact
  have hheld : (w.calls i).holds = some name := by rw [hpc]; rfl
  have hall := holds_update (w := w) (i := i) (.compare name k) (by rw [hpc]; rfl)
  have hcontent : ∀ j, j ≠ k →
      update w.directory.content k (calls i).bytes j = w.directory.content j := by
    intro j hj
    exact update_of_ne hj ..
  have hother : ∀ j, w.directory.destination = .file j → j ≠ k := by
    intro j hj heq
    exact hdestination (heq ▸ hj)
  constructor
  · exact h.next_le
  · exact h.named_lt
  · intro j hj hlt
    show update w.directory.trusted k true j = true
    by_cases hjk : j = k
    · rw [hjk, update_self]
    · rw [update_of_ne hjk]
      exact h.trusted j hj hlt
  · intro j hj
    have hjk : j ≠ k := by
      have := howned.fresh
      omega
    exact (hcontent j hjk).trans (h.old_content j hj)
  · exact h.one_name
  · intro j j' name' hj hj'
    exact h.distinct j j' name' ((hall j).symm.trans hj) ((hall j').symm.trans hj')
  · intro name' hfree
    apply h.frame
    intro j hj
    exact hfree j ((hall j).trans hj)
  · exact h.placed.mono rfl le_rfl fun k' hk' _ => hcontent k' (hother k' hk')
  · refine h.facts_update ⟨⟨howned.named, howned.fresh, howned.unused⟩, update_self ..⟩ ?_
      fun _ => id
    refine fun j hji => ⟨?_, ?_, fun _ _ _ _ hk => hk⟩
    · intro name' k' hj hk'
      exact ⟨hk', hcontent k' (h.inode_ne hji hheld howned hj hk')⟩
    · exact fun k' hk' => ⟨hk', hcontent k' (hother k' hk')⟩

/-- The first link decides what the destination leads to. -/
lemma Keeps.link (h : Keeps calls d₀ w) (hpc : w.calls i = .link name k)
    (habsent : w.directory.destination = .absent) :
    Keeps calls d₀ ⟨{ w.directory with destination := .file k },
      update w.calls i (.finalize name k), some i⟩ := by
  have hfact := h.facts i
  rw [hpc] at hfact
  obtain ⟨howned, hbytes⟩ := hfact
  have hheld : (w.calls i).holds = some name := by rw [hpc]; rfl
  have hall := holds_update (w := w) (i := i) (.finalize name k) (by rw [hpc]; rfl)
  -- nobody has won before
  have hnone : w.winner = none ∧ d₀.destination = .absent := by
    have hplaced := h.placed
    cases hw : w.winner with
    | none =>
      rw [hw] at hplaced
      exact ⟨rfl, hplaced.symm.trans habsent⟩
    | some v =>
      rw [hw] at hplaced
      obtain ⟨-, j, hj, -⟩ := hplaced
      rw [habsent] at hj
      cases hj
  constructor
  · exact h.next_le
  · exact h.named_lt
  · exact h.trusted
  · exact h.old_content
  · exact h.one_name
  · intro j j' name' hj hj'
    exact h.distinct j j' name' ((hall j).symm.trans hj) ((hall j').symm.trans hj')
  · intro name' hfree
    apply h.frame
    intro j hj
    exact hfree j ((hall j).trans hj)
  · exact ⟨hnone.2, k, rfl, howned.fresh, h.named_lt name k howned.named, hbytes⟩
  · refine h.facts_update ⟨⟨howned.named, howned.fresh, howned.unused⟩, rfl⟩ ?_ ?_
    · refine fun j hji => ⟨fun _ _ _ hk => ⟨hk, rfl⟩, ?_, ?_⟩
      · intro k' hk'
        rw [habsent] at hk'
        cases hk'
      · intro name' k' hj hk' _ hlinked
        cases hlinked
        exact h.inode_ne hji hheld howned hj hk' rfl
    · intro j hwon
      rw [hnone.1] at hwon
      cases hwon

/-- A staging name is removed by the call that made it. -/
lemma Keeps.unlink (h : Keeps calls d₀ w) {outcome : Outcome}
    (hpc : w.calls i = .unlink name k outcome) :
    Keeps calls d₀ ⟨{ w.directory with
      staging := update w.directory.staging name none },
      update w.calls i ((calls i).afterUnlink outcome (.ok ())), w.winner⟩ := by
  have hfact := h.facts i
  rw [hpc] at hfact
  obtain ⟨howned, hwon⟩ := hfact
  have hheld : (w.calls i).holds = some name := by rw [hpc]; rfl
  have hafter : ((calls i).afterUnlink outcome (.ok ())).holds = none := by
    cases outcome with
    | installed => rfl
    | failed e => rfl
    | unsecured e => rfl
    | lost =>
      cases hop : (calls i).operation <;> (unfold Call.afterUnlink; simp only [hop]; rfl)
  have hnamed : ∀ name' k', update w.directory.staging name none name' = some k' →
      w.directory.staging name' = some k' := by
    intro name' k' hk'
    by_cases hname : name' = name
    · rw [hname, update_self] at hk'
      cases hk'
    · rwa [update_of_ne hname] at hk'
  have hholds : ∀ j name', (update w.calls i
      ((calls i).afterUnlink outcome (.ok ())) j).holds = some name' →
      j ≠ i ∧ (w.calls j).holds = some name' := by
    intro j name' hj
    by_cases hji : j = i
    · rw [hji, update_self, hafter] at hj
      cases hj
    · rw [update_of_ne hji] at hj
      exact ⟨hji, hj⟩
  constructor
  · exact h.next_le
  · intro name' k' hk'
    exact h.named_lt name' k' (hnamed name' k' hk')
  · exact h.trusted
  · exact h.old_content
  · intro name' name'' k' hk hname' hname''
    exact h.one_name name' name'' k' hk (hnamed name' k' hname') (hnamed name'' k' hname'')
  · intro j j' name' hj hj'
    exact h.distinct j j' name' (hholds j name' hj).2 (hholds j' name' hj').2
  · intro name' hfree
    show update w.directory.staging name none name' = _
    by_cases hname : name' = name
    · rw [hname, update_self]
      exact howned.unused.symm
    · rw [update_of_ne hname]
      apply h.frame
      intro j hj
      by_cases hji : j = i
      · rw [hji, hheld] at hj
        cases hj
        exact hname rfl
      · apply hfree j
        show (update w.calls i _ j).holds = _
        rw [update_of_ne hji]
        exact hj
  · exact h.placed
  · refine h.facts_update ?_ ?_ fun _ => id
    · cases outcome with
      | installed => exact hwon
      | failed e => trivial
      | unsecured e => trivial
      | lost =>
        cases hop : (calls i).operation with
        | writeOrVerifyImmutable =>
          unfold Call.afterUnlink
          simp only [hop]
          exact hop
        | createPrivateImmutable =>
          unfold Call.afterUnlink
          simp only [hop]
          trivial
    · refine fun j hji => ⟨?_, fun _ hk => ⟨hk, rfl⟩, fun _ _ _ _ hk => hk⟩
      intro name' k' hj hk'
      refine ⟨?_, rfl⟩
      have hname : name' ≠ name := by
        intro heq
        rw [heq] at hj
        exact hji (h.distinct j i name hj hheld)
      show update w.directory.staging name none name' = some k'
      rw [update_of_ne hname]
      exact hk'

/-! ## Every interleaving -/

lemma fact_verified {d : Directory} {won : Prop}
    (hcreate : call.operation = .createPrivateImmutable → won) :
    Fact call d₀ d won (.done (call.verified d)) := by
  cases hresult : call.verified d with
  | error e => trivial
  | ok digest =>
    unfold Call.verified Directory.verifyImmutableContent at hresult
    rw [bind_ok] at hresult
    obtain ⟨_, hchecked, hdigest⟩ := hresult
    rw [pure_ok] at hdigest
    cases hdestination : d.destination with
    | absent | other e hpresent =>
      rw [hdestination] at hchecked
      cases hchecked
    | file k =>
      rw [hdestination] at hchecked
      simp only [bind_ok, failIf_ok] at hchecked
      obtain ⟨-, -, hsame⟩ := hchecked
      exact ⟨hdigest.symm, hcreate, k, hdestination, not_not.mp hsame⟩

lemma move_eq {pc pc' : Pc} {d' : Directory} (hpc : w.calls i = pc)
    (hadvance : (calls i).advance name w.directory pc = (d', pc')) :
    w.move calls i name = ⟨d', update w.calls i pc', if w.links i then some i else w.winner⟩ := by
  unfold World.move
  rw [hpc, hadvance]

lemma Keeps.move (h : Keeps calls d₀ w) (hsound : d₀.Sound) (i : ι) (name : String) :
    Keeps calls d₀ (w.move calls i name) := by
  have hfact := h.facts i
  -- a step that changes no file and is no link
  have hquiet : ∀ {pc : Pc} (pc' : Pc) {d' : Directory}, w.calls i = pc →
      (calls i).advance name w.directory pc = (d', pc') → w.links i = false →
      SameFiles w.directory d' → pc'.holds = pc.holds →
      Fact (calls i) d₀ d' (w.winner = some i) pc' → Keeps calls d₀ (w.move calls i name) := by
    intro pc pc' d' hpc hadvance hlinks hsame hholds hnew
    rw [move_eq hpc hadvance, hlinks]
    exact h.quiet hsame (hholds.trans (congrArg Pc.holds hpc).symm) hnew
  have hnoLink : ∀ {pc : Pc}, w.calls i = pc → (∀ n k, pc ≠ .link n k) → w.links i = false := by
    intro pc hpc hne
    unfold World.links
    rw [hpc]
    cases pc with
    | link n k => exact absurd rfl (hne n k)
    | _ => rfl
  cases hpc : w.calls i with
  | preflight =>
    have hlinks := hnoLink hpc (fun _ _ => Pc.noConfusion)
    cases hdestination : w.directory.destination with
    | absent =>
      refine hquiet .stage hpc ?_ hlinks (SameFiles.refl _) rfl trivial
      simp only [Call.advance, hdestination]
    | other e hpresent =>
      refine hquiet (.done (.error e)) hpc ?_ hlinks (SameFiles.refl _) rfl trivial
      simp only [Call.advance, hdestination]
    | file k =>
      cases hop : (calls i).operation with
      | writeOrVerifyImmutable =>
        refine hquiet (.verifyExisting) hpc ?_ hlinks (SameFiles.refl _) rfl hop
        simp only [Call.advance, hdestination, hop]
      | createPrivateImmutable =>
        refine hquiet (.done (.error targetAlreadyExists)) hpc ?_ hlinks
          (SameFiles.refl _) rfl trivial
        simp only [Call.advance, hdestination, hop]
  | verifyExisting | verifyLost =>
    rw [hpc] at hfact
    refine hquiet _ hpc rfl (hnoLink hpc (fun _ _ => Pc.noConfusion)) (SameFiles.refl _) rfl ?_
    apply fact_verified
    intro hcreate
    rw [show (calls i).operation = _ from hfact] at hcreate
    cases hcreate
  | stage =>
    have hlinks := hnoLink hpc (fun _ _ => Pc.noConfusion)
    cases hfree : w.directory.staging name with
    | some k =>
      refine hquiet (.stage) hpc ?_ hlinks (SameFiles.refl _) rfl trivial
      simp only [Call.advance, hfree]
    | none =>
      have hadvance : (calls i).advance name w.directory .stage = ({ w.directory with
          staging := update w.directory.staging name (some w.directory.next)
          content := update w.directory.content w.directory.next empty
          trusted := update w.directory.trusted w.directory.next true
          next := w.directory.next + 1 }, .produce name w.directory.next) := by
        simp only [Call.advance, hfree]
      rw [move_eq hpc hadvance, hlinks]
      exact h.create hsound hpc hfree
  | produce staged k =>
    rw [move_eq hpc rfl, hnoLink hpc (fun _ _ => Pc.noConfusion)]
    exact h.write hpc
  | compare staged k =>
    rw [hpc] at hfact
    have hlinks := hnoLink hpc (fun _ _ => Pc.noConfusion)
    have hbytes : ¬ digestBytes (w.directory.content k) ≠ (calls i).expected := by
      rw [hfact.2, not_not]
      rfl
    refine hquiet (.reopen staged) hpc ?_ hlinks (SameFiles.refl _) rfl ⟨k, hfact⟩
    simp only [Call.advance, if_neg hbytes]
  | reopen staged =>
    rw [hpc] at hfact
    obtain ⟨k, howned, hbytes⟩ := hfact
    have hlinks := hnoLink hpc (fun _ _ => Pc.noConfusion)
    have htrusted : ¬ w.directory.trusted k = false := by
      rw [h.trusted k howned.fresh (h.named_lt staged k howned.named)]
      exact Bool.noConfusion
    refine hquiet (.prepare staged k) hpc ?_ hlinks (SameFiles.refl _) rfl
      ⟨howned, hbytes⟩
    simp only [Call.advance, howned.named, if_neg htrusted]
  | prepare staged k =>
    rw [hpc] at hfact
    have hlinks := hnoLink hpc (fun _ _ => Pc.noConfusion)
    have hbytes : ¬ digestBytes (w.directory.content k) ≠ (calls i).expected := by
      rw [hfact.2, not_not]
      rfl
    refine hquiet (.link staged k) hpc ?_ hlinks (sameFiles_secure _ k) rfl
      ⟨⟨hfact.1.named, hfact.1.fresh, hfact.1.unused⟩, hfact.2⟩
    simp only [Call.advance, if_neg hbytes]
  | link staged k =>
    rw [hpc] at hfact
    cases hdestination : w.directory.destination with
    | absent =>
      have hlinks : w.links i = true := by
        unfold World.links
        rw [hpc, hdestination]
      have hadvance : (calls i).advance name w.directory (.link staged k) =
          ({ w.directory with destination := .file k }, .finalize staged k) := by
        simp only [Call.advance, hdestination]
      rw [move_eq hpc hadvance, hlinks]
      exact h.link hpc hdestination
    | file j | other e hpresent =>
      have hlinks : w.links i = false := by
        unfold World.links
        rw [hpc, hdestination]
      refine hquiet (.validate staged k) hpc ?_ hlinks (SameFiles.refl _) rfl hfact
      simp only [Call.advance, hdestination]
  | validate staged k =>
    rw [hpc] at hfact
    have hlinks := hnoLink hpc (fun _ _ => Pc.noConfusion)
    cases hopen : w.directory.openExistingPrivateFile with
    | ok u =>
      refine hquiet (.unlink staged k .lost) hpc ?_ hlinks (SameFiles.refl _) rfl
        ⟨hfact.1, trivial⟩
      simp only [Call.advance, hopen]
    | error e =>
      refine hquiet (.unlink staged k (.failed e)) hpc ?_ hlinks (SameFiles.refl _) rfl
        ⟨hfact.1, trivial⟩
      simp only [Call.advance, hopen]
  | finalize staged k =>
    rw [hpc] at hfact
    have hlinks := hnoLink hpc (fun _ _ => Pc.noConfusion)
    cases hdestination : w.directory.destination with
    | absent =>
      refine hquiet (.unlink staged k (.unsecured (.io .notFound))) hpc ?_ hlinks
        (SameFiles.refl _) rfl ⟨hfact.1, trivial⟩
      simp only [Call.advance, hdestination]
    | file j =>
      refine hquiet (.unlink staged k .installed) hpc ?_ hlinks (sameFiles_secure _ j) rfl
        ⟨⟨hfact.1.named, hfact.1.fresh, hfact.1.unused⟩, hfact.2⟩
      simp only [Call.advance, hdestination]
    | other e hpresent =>
      refine hquiet (.unlink staged k (.unsecured e)) hpc ?_ hlinks (SameFiles.refl _) rfl
        ⟨hfact.1, trivial⟩
      simp only [Call.advance, hdestination]
  | unlink staged k outcome =>
    rw [hpc] at hfact
    have hadvance : (calls i).advance name w.directory (.unlink staged k outcome) =
        ({ w.directory with staging := update w.directory.staging staged none },
          (calls i).afterUnlink outcome (.ok ())) := by
      simp only [Call.advance, Directory.unlinkNameIfSameInode, hfact.1.named, if_true]
    rw [move_eq hpc hadvance, hnoLink hpc (fun _ _ => Pc.noConfusion)]
    exact h.unlink hpc
  | verifyInstalled =>
    rw [hpc] at hfact
    refine hquiet _ hpc rfl (hnoLink hpc (fun _ _ => Pc.noConfusion)) (SameFiles.refl _) rfl ?_
    exact fact_verified (fun _ => hfact)
  | done result =>
    rw [hpc] at hfact
    exact hquiet _ hpc rfl (hnoLink hpc (fun _ _ => Pc.noConfusion)) (SameFiles.refl _) rfl hfact

omit [DecidableEq ι] in
lemma keeps_start (calls : ι → Call) (hsound : d₀.Sound) : Keeps calls d₀ (World.start ι d₀) := by
  constructor
  · exact Nat.le_refl _
  · exact hsound.staging
  · intro k hk hlt
    exact absurd hlt (not_lt.mpr hk)
  · intro k _
    rfl
  · intro name name' k hk hname _
    exact absurd (hsound.staging name k hname) (not_lt.mpr hk)
  · intro i j name hi _
    cases hi
  · intro name _
    rfl
  · rfl
  · intro i
    trivial

lemma Keeps.reachable (h : Keeps calls d₀ w) (hsound : d₀.Sound) {w' : World ι}
    (hw : Steps calls w w') : Keeps calls d₀ w' := by
  induction hw with
  | refl => exact h
  | tail _ hstep ih =>
    obtain ⟨i, name, rfl⟩ := hstep
    exact ih.move hsound i name

omit [DecidableEq ι] in
lemma Keeps.installed_eq (h : Keeps calls d₀ w) (hsound : d₀.Sound) :
    (w.winner = none ∧ w.directory.installed = d₀.installed) ∨
      ∃ i, w.winner = some i ∧ d₀.destination = .absent ∧
        w.directory.installed = some (calls i).bytes := by
  have hplaced := h.placed
  cases hw : w.winner with
  | none =>
    rw [hw] at hplaced
    have hsame : w.directory.destination = d₀.destination := hplaced
    refine .inl ⟨rfl, ?_⟩
    unfold Directory.installed
    rw [hsame]
    cases hdestination : d₀.destination with
    | absent => rfl
    | other e hpresent => rfl
    | file k => exact congrArg some (h.old_content k (hsound.destination k hdestination))
  | some i =>
    rw [hw] at hplaced
    obtain ⟨habsent, k, hk, -, -, hbytes⟩ := hplaced
    refine .inr ⟨i, rfl, habsent, ?_⟩
    unfold Directory.installed
    rw [hk]
    exact congrArg some hbytes

lemma Keeps.winner_move (h : Keeps calls d₀ w) (hwinner : w.winner = some i) (j : ι)
    (name : String) : (w.move calls j name).winner = some i := by
  have hplaced := h.placed
  rw [hwinner] at hplaced
  obtain ⟨-, k, hk, -⟩ := hplaced
  have hlinks : w.links j = false := by
    unfold World.links
    rw [hk]
    cases w.calls j <;> rfl
  show (if w.links j then some j else w.winner) = some i
  rw [hlinks, hwinner]
  rfl

lemma Keeps.winner_steps (h : Keeps calls d₀ w) (hsound : d₀.Sound) (hwinner : w.winner = some i)
    {w' : World ι} (hw : Steps calls w w') : w'.winner = some i := by
  induction hw with
  | refl => exact hwinner
  | tail hsteps hstep ih =>
    obtain ⟨j, name, rfl⟩ := hstep
    exact (h.reachable hsound hsteps).winner_move ih j name

structure ImmutableObject (calls : ι → Call) (d₀ : Directory) (w : World ι) : Prop where
  /-- What is installed stays, and its bytes do not change. -/
  stays : ∀ w', Steps calls w w' → ∀ bytes, w.directory.installed = some bytes →
    w'.directory.installed = some bytes
  /-- What a call installs are its bytes, at a path where nothing was; it stays the only one. -/
  installs : ∀ i, w.winner = some i → d₀.destination = .absent ∧
    w.directory.installed = some (calls i).bytes ∧ ∀ w', Steps calls w w' → w'.winner = some i
  /-- Nothing is installed but by a call. -/
  only : w.winner = none → w.directory.installed = d₀.installed
  /-- A call that verifies or writes and returns was given what is installed. -/
  written : ∀ i digest, (calls i).operation = .writeOrVerifyImmutable →
    w.calls i = .done (.ok digest) → w.directory.installed = some (calls i).bytes
  /-- A call that creates and returns has installed the object. -/
  created : ∀ i digest, (calls i).operation = .createPrivateImmutable →
    w.calls i = .done (.ok digest) → w.winner = some i
  /-- At most one call creates. -/
  once : ∀ i j digest digest', (calls i).operation = .createPrivateImmutable →
    (calls j).operation = .createPrivateImmutable → w.calls i = .done (.ok digest) →
    w.calls j = .done (.ok digest') → i = j
  /-- A staging name that was not there is held by one call, which has not returned. -/
  cleaned : ∀ name, w.directory.staging name ≠ d₀.staging name →
    ∃ i, (w.calls i).holds = some name ∧ ∀ result, w.calls i ≠ .done result

/-- **Immutable objects are never replaced**, whatever calls interleave at their path. -/
theorem immutable_objects (calls : ι → Call) (d₀ : Directory) (hsound : d₀.Sound)
    (hcollision : Set.InjOn Platform.sha256
      {bytes | d₀.installed = some bytes ∨ ∃ i, bytes = (calls i).bytes}) (w : World ι)
    (hw : Steps calls (World.start ι d₀) w) : ImmutableObject calls d₀ w := by
  have hkeeps := (keeps_start calls hsound).reachable hsound hw
  have hcreated : ∀ i digest, (calls i).operation = .createPrivateImmutable →
      w.calls i = .done (.ok digest) → w.winner = some i := by
    intro i digest hop hdone
    have hfact := hkeeps.facts i
    rw [hdone] at hfact
    exact hfact.2.1 hop
  constructor
  · intro w' hw' bytes hbytes
    have hkeeps' := hkeeps.reachable hsound hw'
    rcases hkeeps.installed_eq hsound with ⟨-, hsame⟩ | ⟨i, hwinner, -, hinstalled⟩
    · rcases hkeeps'.installed_eq hsound with ⟨-, hsame'⟩ | ⟨j, -, habsent, -⟩
      · rw [hsame', ← hsame]
        exact hbytes
      · -- nothing was there, so nothing is installed before the link
        rw [hsame, Directory.installed, habsent] at hbytes
        cases hbytes
    · have hwinner' := hkeeps.winner_steps hsound hwinner hw'
      rcases hkeeps'.installed_eq hsound with ⟨hnone, -⟩ | ⟨j, hj, -, hinstalled'⟩
      · rw [hwinner'] at hnone
        cases hnone
      · rw [hwinner'] at hj
        cases hj
        rw [hinstalled', ← hinstalled]
        exact hbytes
  · intro i hwinner
    rcases hkeeps.installed_eq hsound with ⟨hnone, -⟩ | ⟨j, hj, habsent, hinstalled⟩
    · rw [hwinner] at hnone
      cases hnone
    · rw [hwinner] at hj
      cases hj
      exact ⟨habsent, hinstalled, fun w' hw' => hkeeps.winner_steps hsound hwinner hw'⟩
  · intro hnone
    rcases hkeeps.installed_eq hsound with ⟨-, hsame⟩ | ⟨j, hj, -, -⟩
    · exact hsame
    · rw [hnone] at hj
      cases hj
  · intro i digest _ hdone
    have hfact := hkeeps.facts i
    rw [hdone] at hfact
    obtain ⟨-, -, k, hk, hdigest⟩ := hfact
    have hinstalled : w.directory.installed = some (w.directory.content k) := by
      unfold Directory.installed
      rw [hk]
    have hmem : w.directory.content k ∈
        {bytes | d₀.installed = some bytes ∨ ∃ i, bytes = (calls i).bytes} := by
      rcases hkeeps.installed_eq hsound with ⟨-, hsame⟩ | ⟨j, -, -, hbytes⟩
      · exact .inl (hsame.symm.trans hinstalled)
      · rw [hinstalled] at hbytes
        exact .inr ⟨j, Option.some.inj hbytes⟩
    have hsame := hcollision hmem (.inr ⟨i, rfl⟩) hdigest
    rw [hinstalled, hsame]
  · exact hcreated
  · intro i j digest digest' hi hj hdone hdone'
    have hwinner := hcreated i digest hi hdone
    rw [hcreated j digest' hj hdone'] at hwinner
    exact (Option.some.inj hwinner).symm
  · intro name hnew
    have hheld : ∃ i, (w.calls i).holds = some name := by
      by_contra hnone
      apply hnew
      apply hkeeps.frame
      intro i hi
      exact hnone ⟨i, hi⟩
    obtain ⟨i, hi⟩ := hheld
    refine ⟨i, hi, ?_⟩
    intro result hdone
    rw [hdone] at hi
    cases hi

end

end Immutable

end Tidex

/-! ## Two writers of different bytes -/

namespace Tidex.ImmutableSample

open Tidex.Lib
open Tidex.Immutable

attribute [local instance] Platform.reference

def calls : Bool → Call
  | false => ⟨.writeOrVerifyImmutable, "first".toByteArray⟩
  | true => ⟨.createPrivateImmutable, "second".toByteArray⟩

def vacant : Directory where
  destination := .absent
  staging _ := none
  content _ := ByteArray.empty
  trusted _ := false
  next := 0

def schedule : List (Bool × String) :=
  [(false, "a"), (true, "b")] ++ List.replicate 6 (true, "b") ++ List.replicate 6 (false, "a") ++
    List.replicate 4 (true, "b") ++ List.replicate 4 (false, "a")

lemma sound_vacant : vacant.Sound := by
  constructor
  · intro name k hk
    cases hk
  · intro k hk
    cases hk

lemma sha256_ne : sha256 "first".toByteArray ≠ sha256 "second".toByteArray := by
  have hfirst : sha256 (Json.encodeText ['f', 'i', 'r', 's', 't']) =
      ⟨"a7937b64b8caa58f03721bb6bacf5c78cb235febe0e70b1b84cd99541461a08e", by decide⟩ :=
    sha256_encodeText (by decide +kernel)
  have hsecond : sha256 (Json.encodeText ['s', 'e', 'c', 'o', 'n', 'd']) =
      ⟨"16367aacb67a4a017c8da8ab95682ccb390863780f7114dda0a0e0c55644c7c4", by decide⟩ :=
    sha256_encodeText (by decide +kernel)
  intro h
  have hsame := hfirst.symm.trans (h.trans hsecond)
  exact absurd (congrArg Sha256Digest.hex hsame) (by decide)

lemma no_collision : Set.InjOn Platform.sha256
    {bytes | vacant.installed = some bytes ∨ ∃ i, bytes = (calls i).bytes} := by
  have hcases : ∀ bytes, (vacant.installed = some bytes ∨ ∃ i, bytes = (calls i).bytes) →
      bytes = "first".toByteArray ∨ bytes = "second".toByteArray := by
    intro bytes h
    rcases h with h | ⟨i, h⟩
    · cases h
    · cases i with
      | false => exact .inl h
      | true => exact .inr h
  intro a ha b hb h
  rcases hcases a ha with rfl | rfl
  · rcases hcases b hb with rfl | rfl
    · rfl
    · exact absurd h sha256_ne
  · rcases hcases b hb with rfl | rfl
    · exact absurd h.symm sha256_ne
    · rfl

/-- What is said of immutable objects, after this schedule. -/
theorem immutable_objects_schedule :
    ImmutableObject calls vacant ((World.start Bool vacant).run calls schedule) :=
  immutable_objects calls vacant sound_vacant no_collision _ (steps_run calls _ schedule)

end Tidex.ImmutableSample
