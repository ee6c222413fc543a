/-
  Runtime.OutputBudget — the output that an isolated execution retains.

  Two readers share one budget. Each reads its stream in pieces and claims room for every
  piece from a counter, in a loop of compare and exchange that may fail for no reason, and the
  monitor ends the execution.
-/
import Mathlib.Data.List.Basic
import Mathlib.Logic.Relation

namespace Tidex.Runtime

open List Function

/-! ## Readers -/

/-- The most one read returns. -/
def bufferBytes : Nat := 8192

/-- What both readers and the monitor see. -/
structure Shared where
  retainedBytes : Nat
  overflow : Bool

inductive ReaderPc where
  | reading
  | loading (chunk : List UInt8)
  | exchanging (chunk : List UInt8) (current : Nat)
  | storing
  | done
  | failed
  deriving DecidableEq

structure BoundedRead where
  bytes : List UInt8
  truncated : Bool

structure Reader extends BoundedRead where
  pc : ReaderPc
  handled : List UInt8

def ReaderPc.pending : ReaderPc → List UInt8
  | .loading chunk => chunk
  | .exchanging chunk _ => chunk
  | _ => []

def Reader.stream (r : Reader) : List UInt8 := r.handled ++ r.pc.pending

/-- The room a claim asks for, having seen the counter at `current`. -/
def claimable (limit current requested : Nat) : Nat := min (limit - current) requested

/-- A claim returned: the piece is kept as far as it has room. -/
def Reader.settle (r : Reader) (chunk : List UInt8) (retained : Nat) : Reader where
  pc := if retained = chunk.length then .reading else .storing
  handled := r.handled ++ chunk
  bytes := r.bytes ++ chunk.take retained
  truncated := r.truncated || !decide (retained = chunk.length)

inductive Reader.Step (limit : Nat) : Shared → Reader → Shared → Reader → Prop where
  | read {s r} (chunk : List UInt8) : r.pc = .reading → 0 < chunk.length →
      chunk.length ≤ bufferBytes → Step limit s r s { r with pc := .loading chunk }
  | endOfFile {s r} : r.pc = .reading → Step limit s r s { r with pc := .done }
  | fail {s r} : r.pc = .reading → Step limit s r s { r with pc := .failed }
  | load {s r chunk} : r.pc = .loading chunk →
      Step limit s r s { r with pc := .exchanging chunk s.retainedBytes }
  | refuse {s r chunk current} : r.pc = .exchanging chunk current →
      claimable limit current chunk.length = 0 → Step limit s r s (r.settle chunk 0)
  | exchange {s r chunk} : r.pc = .exchanging chunk s.retainedBytes →
      0 < claimable limit s.retainedBytes chunk.length →
      Step limit s r
        { s with
          retainedBytes := s.retainedBytes + claimable limit s.retainedBytes chunk.length }
        (r.settle chunk (claimable limit s.retainedBytes chunk.length))
  -- the counter has changed, or the exchange fails spuriously
  | retry {s r chunk current} : r.pc = .exchanging chunk current →
      0 < claimable limit current chunk.length →
      Step limit s r s { r with pc := .exchanging chunk s.retainedBytes }
  | store {s r} : r.pc = .storing →
      Step limit s r { s with overflow := true } { r with pc := .reading }

/-! ## The execution -/

structure ExitStatus where
  code : Option Int

def ExitStatus.success (status : ExitStatus) : Bool := status.code == some 0

inductive ExecutionTermination where
  | exitedSuccessfully
  | nonzeroBeforePayloadConfirmation
  | signaled
  | timedOut
  | outputLimitExceeded
  deriving DecidableEq

def classifyStatus (status : ExitStatus) : ExecutionTermination :=
  if status.success then .exitedSuccessfully
  else if status.code.isSome then .nonzeroBeforePayloadConfirmation
  else .signaled

structure ExecutionReport where
  termination : ExecutionTermination
  exitCode : Option Int
  stdout : BoundedRead
  stderr : BoundedRead
  payloadEstablished : Bool

/-- How the monitor left its loop: with a status, or by force. -/
structure Ending where
  status : Option ExitStatus
  forcedTermination : Option ExecutionTermination

inductive MonitorPc where
  | polling
  | watching
  | joiningStdout (ending : Ending)
  | joiningStderr (ending : Ending) (stdout : BoundedRead)
  | joined (ending : Ending) (stdout stderr : BoundedRead)
  | reported (report : ExecutionReport)
  | failed

def report (ending : Ending) (stdout stderr : BoundedRead) (termination : ExecutionTermination) :
    ExecutionReport where
  termination := termination
  exitCode := ending.status.bind (·.code)
  stdout := stdout
  stderr := stderr
  payloadEstablished := decide (termination = .exitedSuccessfully)

def conclude (ending : Ending) (overflowed : Bool) (stdout stderr : BoundedRead) : MonitorPc :=
  match ending.forcedTermination, ending.status, overflowed with
  | some termination, _, _ => .reported (report ending stdout stderr termination)
  | none, _, true => .reported (report ending stdout stderr .outputLimitExceeded)
  | none, some status, false => .reported (report ending stdout stderr (classifyStatus status))
  | none, none, false => .failed

inductive Stream where
  | stdout
  | stderr
  deriving DecidableEq

structure Execution where
  shared : Shared
  readers : Stream → Reader
  monitor : MonitorPc

def Execution.start : Execution where
  shared := { retainedBytes := 0, overflow := false }
  readers := fun _ => { pc := .reading, handled := [], bytes := [], truncated := false }
  monitor := .polling

/-- One atomic step of a reader or of the monitor. -/
inductive Execution.Step (limit : Nat) : Execution → Execution → Prop where
  | reader {e s r} (stream : Stream) : Reader.Step limit e.shared (e.readers stream) s r →
      Step limit e
        { e with shared := s, readers := Function.update e.readers stream r }
  | overflow {e} : e.monitor = .polling → e.shared.overflow = true →
      Step limit e { e with monitor := .joiningStdout ⟨none, some .outputLimitExceeded⟩ }
  | watch {e} : e.monitor = .polling → e.shared.overflow = false →
      Step limit e { e with monitor := .watching }
  | timeout {e} : e.monitor = .watching →
      Step limit e { e with monitor := .joiningStdout ⟨none, some .timedOut⟩ }
  | exited {e} (status : ExitStatus) : e.monitor = .watching →
      Step limit e { e with monitor := .joiningStdout ⟨some status, none⟩ }
  | sleep {e} : e.monitor = .watching → Step limit e { e with monitor := .polling }
  -- the child cannot be killed or waited for
  | waitFailed {e} : e.monitor = .polling ∨ e.monitor = .watching →
      Step limit e { e with monitor := .failed }
  | joinStdout {e ending} : e.monitor = .joiningStdout ending → (e.readers .stdout).pc = .done →
      Step limit e
        { e with monitor := .joiningStderr ending (e.readers .stdout).toBoundedRead }
  | joinStderr {e ending stdout} : e.monitor = .joiningStderr ending stdout →
      (e.readers .stderr).pc = .done →
      Step limit e
        { e with monitor := .joined ending stdout (e.readers .stderr).toBoundedRead }
  | stdoutFailed {e ending} : e.monitor = .joiningStdout ending →
      (e.readers .stdout).pc = .failed → Step limit e { e with monitor := .failed }
  | stderrFailed {e ending stdout} : e.monitor = .joiningStderr ending stdout →
      (e.readers .stderr).pc = .failed → Step limit e { e with monitor := .failed }
  | conclude {e ending stdout stderr} : e.monitor = .joined ending stdout stderr →
      Step limit e { e with monitor := conclude ending e.shared.overflow stdout stderr }

/-! ## What a reader keeps -/

variable {limit : Nat} {s s' : Shared} {r r' : Reader}

/-- Nothing is lost before the budget is spent, and what is lost then is reported. -/
structure Reader.Inv (limit : Nat) (s : Shared) (r : Reader) : Prop where
  whole : r.truncated = false → r.bytes = r.handled
  kept : r.bytes <+: r.handled
  cut : r.truncated = true → r.bytes.length < r.handled.length ∧ s.retainedBytes = limit ∧
    (s.overflow = true ∨ r.pc = .storing)
  loading : ∀ chunk, r.pc = .loading chunk → 0 < chunk.length
  exchanging : ∀ chunk current, r.pc = .exchanging chunk current →
    0 < chunk.length ∧ current ≤ s.retainedBytes

structure Shared.Grows (limit : Nat) (s s' : Shared) : Prop where
  retained : s.retainedBytes ≤ s'.retainedBytes
  within : s'.retainedBytes ≤ limit
  overflow : s.overflow = true → s'.overflow = true

lemma Reader.Inv.grows (h : r.Inv limit s) (hgrows : s.Grows limit s') : r.Inv limit s' := by
  refine ⟨h.whole, h.kept, ?_, h.loading, ?_⟩
  · intro htruncated
    obtain ⟨hlength, hfull, hoverflow⟩ := h.cut htruncated
    have hretained := hgrows.retained
    have hwithin := hgrows.within
    exact ⟨hlength, by omega, hoverflow.imp_left hgrows.overflow⟩
  · intro chunk current hpc
    obtain ⟨hchunk, hcurrent⟩ := h.exchanging chunk current hpc
    exact ⟨hchunk, Nat.le_trans hcurrent hgrows.retained⟩

lemma Reader.Step.not_done (h : r.Step limit s s' r') : r.pc ≠ .done := by
  intro hdone
  cases h <;> simp_all

/-- A step that neither claims nor reports. -/
lemma Reader.Inv.move (h : r.Inv limit s) (hwithin : s.retainedBytes ≤ limit) (pc : ReaderPc)
    (hstoring : r.pc ≠ .storing) (hloading : ∀ chunk, pc = .loading chunk → 0 < chunk.length)
    (hexchanging : ∀ chunk current, pc = .exchanging chunk current →
      0 < chunk.length ∧ current ≤ s.retainedBytes) :
    ({ r with pc := pc } : Reader).Inv limit s ∧ s.Grows limit s := by
  refine ⟨⟨h.whole, h.kept, ?_, hloading, hexchanging⟩, Nat.le_refl _, hwithin, id⟩
  intro htruncated
  obtain ⟨hlength, hfull, hoverflow⟩ := h.cut htruncated
  exact ⟨hlength, hfull, .inl (hoverflow.resolve_right hstoring)⟩

/-- A claim that was granted in part, or not at all, finds the budget spent. -/
lemma Reader.Inv.settle (h : r.Inv limit s) {chunk : List UInt8}
    {current retained : Nat} (hpc : r.pc = .exchanging chunk current)
    (hretained : retained ≤ chunk.length)
    (hspent : retained ≠ chunk.length → s'.retainedBytes = limit)
    (hearlier : r.truncated = true → retained = 0) : (r.settle chunk retained).Inv limit s' := by
  obtain ⟨hchunk, -⟩ := h.exchanging chunk current hpc
  have htake : (chunk.take retained).length = retained := by
    rw [length_take]
    omega
  have hkept := h.kept.length_le
  by_cases hall : retained = chunk.length
  · -- the whole piece is kept, so nothing was lost before
    have hwhole : r.truncated = false := by
      rw [← Bool.not_eq_true]
      intro htruncated
      have hzero := hearlier htruncated
      omega
    have hsettled : r.settle chunk retained =
        { pc := .reading, handled := r.handled ++ chunk, bytes := r.handled ++ chunk,
          truncated := false } := by
      unfold Reader.settle
      rw [if_pos hall, h.whole hwhole, hwhole, hall, take_length]
      simp
    rw [hsettled]
    refine ⟨fun _ => rfl, prefix_refl _, ?_, ?_, ?_⟩
    · intro htruncated
      cases htruncated
    · intro chunk' hloading
      cases hloading
    · intro chunk' current' hexchanging
      cases hexchanging
  · have hsettled : r.settle chunk retained =
        { pc := .storing, handled := r.handled ++ chunk, bytes := r.bytes ++ chunk.take retained,
          truncated := true } := by
      unfold Reader.settle
      rw [if_neg hall, decide_eq_false hall]
      simp
    rw [hsettled]
    refine ⟨?_, ?_, ?_, ?_, ?_⟩
    · intro hwhole
      cases hwhole
    · show r.bytes ++ chunk.take retained <+: r.handled ++ chunk
      by_cases htruncated : r.truncated = true
      · rw [hearlier htruncated, take_zero, append_nil]
        exact h.kept.trans (prefix_append _ _)
      · rw [h.whole (Bool.not_eq_true _ ▸ htruncated), prefix_append_right_inj]
        exact take_prefix _ _
    · intro _
      refine ⟨?_, hspent hall, .inr rfl⟩
      show (r.bytes ++ chunk.take retained).length < (r.handled ++ chunk).length
      rw [length_append, length_append, htake]
      omega
    · intro chunk' hloading
      cases hloading
    · intro chunk' current' hexchanging
      cases hexchanging

/-- One step of a reader keeps its invariant, and the counter counts what it retains. -/
lemma Reader.Step.keeps (hstep : r.Step limit s s' r') (h : r.Inv limit s)
    (hwithin : s.retainedBytes ≤ limit) : r'.Inv limit s' ∧ s.Grows limit s' ∧
      s'.retainedBytes + r.bytes.length = s.retainedBytes + r'.bytes.length := by
  cases hstep with
  | read chunk hpc hpos _ =>
    obtain ⟨hinv, hgrows⟩ := h.move hwithin (.loading chunk) (by simp [hpc])
      (by intro chunk' heq; cases heq; exact hpos) (by intro chunk' current heq; cases heq)
    exact ⟨hinv, hgrows, rfl⟩
  | endOfFile hpc =>
    obtain ⟨hinv, hgrows⟩ := h.move hwithin (.done) (by simp [hpc])
      (by intro chunk' heq; cases heq) (by intro chunk' current heq; cases heq)
    exact ⟨hinv, hgrows, rfl⟩
  | fail hpc =>
    obtain ⟨hinv, hgrows⟩ := h.move hwithin (.failed) (by simp [hpc])
      (by intro chunk' heq; cases heq) (by intro chunk' current heq; cases heq)
    exact ⟨hinv, hgrows, rfl⟩
  | @load chunk hpc =>
    obtain ⟨hinv, hgrows⟩ := h.move hwithin (.exchanging chunk s.retainedBytes)
      (by simp [hpc]) (by intro chunk' heq; cases heq)
      (by intro chunk' current heq; cases heq; exact ⟨h.loading _ hpc, Nat.le_refl _⟩)
    exact ⟨hinv, hgrows, rfl⟩
  | @refuse chunk current hpc hzero =>
    obtain ⟨hpos, hcurrent⟩ := h.exchanging _ _ hpc
    have hgrows : s.Grows limit s := ⟨Nat.le_refl _, hwithin, id⟩
    unfold claimable at hzero
    refine ⟨h.settle hpc (Nat.zero_le _) (fun _ => by omega) (fun _ => rfl), hgrows, ?_⟩
    show s.retainedBytes + r.bytes.length = s.retainedBytes + (r.bytes ++ chunk.take 0).length
    rw [take_zero, append_nil]
  | @exchange chunk hpc hclaim =>
    have hbound : claimable limit s.retainedBytes chunk.length ≤ chunk.length := Nat.min_le_right _ _
    have hroom : claimable limit s.retainedBytes chunk.length ≤ limit - s.retainedBytes :=
      Nat.min_le_left _ _
    have hgrows : s.Grows limit { s with
        retainedBytes := s.retainedBytes + claimable limit s.retainedBytes chunk.length } := by
      refine ⟨Nat.le_add_right _ _, ?_, id⟩
      show s.retainedBytes + claimable limit s.retainedBytes chunk.length ≤ limit
      omega
    refine ⟨h.settle hpc hbound ?_ ?_, hgrows, ?_⟩
    · -- what is granted in part is all the room there was
      intro hpart
      show s.retainedBytes + claimable limit s.retainedBytes chunk.length = limit
      unfold claimable at *
      omega
    · intro htruncated
      have hfull := (h.cut htruncated).2.1
      omega
    · show s.retainedBytes + claimable limit s.retainedBytes chunk.length + r.bytes.length =
        s.retainedBytes +
          (r.bytes ++ chunk.take (claimable limit s.retainedBytes chunk.length)).length
      rw [length_append, length_take, Nat.min_eq_left hbound]
      omega
  | @retry chunk current hpc _ =>
    obtain ⟨hinv, hgrows⟩ := h.move hwithin (.exchanging chunk s.retainedBytes)
      (by simp [hpc]) (by intro chunk' heq; cases heq)
      (by intro chunk' current' heq; cases heq; exact ⟨(h.exchanging _ _ hpc).1, Nat.le_refl _⟩)
    exact ⟨hinv, hgrows, rfl⟩
  | store hpc =>
    have hgrows : s.Grows limit { s with overflow := true } := ⟨Nat.le_refl _, hwithin, fun _ => rfl⟩
    refine ⟨⟨h.whole, h.kept, ?_, ?_, ?_⟩, hgrows, rfl⟩
    · intro htruncated
      obtain ⟨hlength, hfull, -⟩ := h.cut htruncated
      exact ⟨hlength, hfull, .inl rfl⟩
    · intro chunk' hloading
      cases hloading
    · intro chunk' current' hexchanging
      cases hexchanging

/-! ## Every interleaving -/

/-- The monitor took over what a reader left. -/
def Execution.Joined (e : Execution) (stream : Stream) (taken : BoundedRead) : Prop :=
  (e.readers stream).pc = .done ∧ taken = (e.readers stream).toBoundedRead

def Execution.Knows (e : Execution) : MonitorPc → Prop
  | .joiningStdout ending => ending.forcedTermination ≠ some .exitedSuccessfully
  | .joiningStderr ending stdout => ending.forcedTermination ≠ some .exitedSuccessfully ∧
      e.Joined .stdout stdout
  | .joined ending stdout stderr => ending.forcedTermination ≠ some .exitedSuccessfully ∧
      e.Joined .stdout stdout ∧ e.Joined .stderr stderr
  | .reported report => e.Joined .stdout report.stdout ∧ e.Joined .stderr report.stderr ∧
      (report.termination = .exitedSuccessfully →
        report.stdout.truncated = false ∧ report.stderr.truncated = false)
  | _ => True

structure Execution.Inv (limit : Nat) (e : Execution) : Prop where
  counted : e.shared.retainedBytes =
    (e.readers .stdout).bytes.length + (e.readers .stderr).bytes.length
  within : e.shared.retainedBytes ≤ limit
  reader : ∀ stream, (e.readers stream).Inv limit e.shared
  knows : e.Knows e.monitor

lemma Execution.inv_start (limit : Nat) : Execution.start.Inv limit := by
  refine ⟨rfl, Nat.zero_le _, ?_, trivial⟩
  intro stream
  refine ⟨fun _ => rfl, prefix_refl _, ?_, ?_, ?_⟩
  · intro htruncated
    cases htruncated
  · intro chunk hloading
    cases hloading
  · intro chunk current hexchanging
    cases hexchanging

variable {e e' : Execution}

lemma Execution.Joined.move {stream moved : Stream} {taken : BoundedRead}
    (h : e.Joined stream taken)
    (hstep : Reader.Step limit e.shared (e.readers moved) s r) :
    ({ e with shared := s, readers := update e.readers moved r } : Execution).Joined
      stream taken := by
  have hne : stream ≠ moved := by
    intro heq
    subst heq
    exact hstep.not_done h.1
  unfold Execution.Joined at h ⊢
  simp only [update_of_ne hne]
  exact h

lemma Execution.Inv.move (h : e.Inv limit) {moved : Stream}
    (hstep : Reader.Step limit e.shared (e.readers moved) s r) :
    ({ e with shared := s, readers := update e.readers moved r } : Execution).Inv
      limit := by
  obtain ⟨hinv, hgrows, hcounted⟩ := hstep.keeps (h.reader moved) h.within
  have hcount := h.counted
  refine ⟨?_, hgrows.within, ?_, ?_⟩
  · show s.retainedBytes = (update e.readers moved r .stdout).bytes.length +
      (update e.readers moved r .stderr).bytes.length
    cases moved with
    | stdout =>
      rw [update_self, update_of_ne (by decide)]
      omega
    | stderr =>
      rw [update_self, update_of_ne (by decide)]
      omega
  · intro stream
    show (update e.readers moved r stream).Inv limit s
    by_cases hstream : stream = moved
    · rw [hstream, update_self]
      exact hinv
    · rw [update_of_ne hstream]
      exact (h.reader stream).grows hgrows
  · have hknows := h.knows
    show Execution.Knows _ e.monitor
    cases hmonitor : e.monitor with
    | polling => trivial
    | watching => trivial
    | failed => trivial
    | joiningStdout ending =>
      rw [hmonitor] at hknows
      exact hknows
    | joiningStderr ending stdout =>
      rw [hmonitor] at hknows
      exact ⟨hknows.1, hknows.2.move hstep⟩
    | joined ending stdout stderr =>
      rw [hmonitor] at hknows
      exact ⟨hknows.1, hknows.2.1.move hstep, hknows.2.2.move hstep⟩
    | reported report =>
      rw [hmonitor] at hknows
      exact ⟨hknows.1.move hstep, hknows.2.1.move hstep, hknows.2.2⟩

/-- With both readers done and no overflow seen, neither has lost anything. -/
lemma Execution.Inv.knows_conclude (h : e.Inv limit) {ending : Ending}
    {stdout stderr : BoundedRead} (hmonitor : e.monitor = .joined ending stdout stderr) :
    e.Knows (conclude ending e.shared.overflow stdout stderr) := by
  have hknows := h.knows
  rw [hmonitor] at hknows
  obtain ⟨hforced, hstdout, hstderr⟩ := hknows
  have hwhole : e.shared.overflow = false → ∀ stream taken, e.Joined stream taken →
      taken.truncated = false := by
    intro hoverflow stream taken hjoined
    rw [hjoined.2, ← Bool.not_eq_true]
    intro htruncated
    obtain ⟨-, -, hreported | hstoring⟩ := (h.reader stream).cut htruncated
    · rw [hoverflow] at hreported
      cases hreported
    · rw [hjoined.1] at hstoring
      cases hstoring
  unfold conclude
  split
  · next termination hending =>
    refine ⟨hstdout, hstderr, ?_⟩
    intro hsuccess
    exact absurd (hending.trans (congrArg some hsuccess)) hforced
  · refine ⟨hstdout, hstderr, ?_⟩
    intro hsuccess
    cases hsuccess
  · next hoverflow => exact ⟨hstdout, hstderr, fun _ =>
      ⟨hwhole hoverflow .stdout stdout hstdout, hwhole hoverflow .stderr stderr hstderr⟩⟩
  · trivial

lemma Execution.Step.keeps (hstep : Execution.Step limit e e') (h : e.Inv limit) :
    e'.Inv limit := by
  have hmonitor : ∀ pc, e.Knows pc → ({ e with monitor := pc } : Execution).Inv limit :=
    fun pc hpc => ⟨h.counted, h.within, h.reader, hpc⟩
  have hknows := h.knows
  cases hstep with
  | reader stream hstep => exact h.move hstep
  | overflow _ _ | timeout _ | exited status _ => exact hmonitor _ (by simp [Execution.Knows])
  | watch _ _ | sleep _ | waitFailed _ | stdoutFailed _ _ | stderrFailed _ _ =>
    exact hmonitor _ trivial
  | joinStdout hpc hdone =>
    rw [hpc] at hknows
    exact hmonitor _ ⟨hknows, hdone, rfl⟩
  | joinStderr hpc hdone =>
    rw [hpc] at hknows
    exact hmonitor _ ⟨hknows.1, hknows.2, hdone, rfl⟩
  | conclude hpc => exact hmonitor _ (h.knows_conclude hpc)

lemma Execution.inv (h : Relation.ReflTransGen (Execution.Step limit) .start e) :
    e.Inv limit := by
  induction h with
  | refl => exact Execution.inv_start limit
  | tail _ hstep ih => exact hstep.keeps ih

/-- **The budget is exact**: in every interleaving the readers retain no more than the limit,
    each a prefix of its stream; a reader that is between claims reports truncation exactly
    where it dropped a byte, and when both are, as much is retained as the limit allows; an
    execution that is reported successful lost nothing. -/
theorem output_budget_exact (h : Relation.ReflTransGen (Execution.Step limit) .start e) :
    (e.readers .stdout).bytes.length + (e.readers .stderr).bytes.length ≤ limit ∧
      (∀ stream, (e.readers stream).bytes <+: (e.readers stream).stream) ∧
      (∀ stream, (e.readers stream).pc.pending = [] → ((e.readers stream).truncated = true ↔
          (e.readers stream).bytes.length < (e.readers stream).stream.length)) ∧
      ((∀ stream, (e.readers stream).pc.pending = []) →
        min limit ((e.readers .stdout).stream.length + (e.readers .stderr).stream.length) ≤
          (e.readers .stdout).bytes.length + (e.readers .stderr).bytes.length) ∧
      ∀ report, e.monitor = .reported report → report.stdout = (e.readers .stdout).toBoundedRead ∧
        report.stderr = (e.readers .stderr).toBoundedRead ∧
        (∀ stream, (e.readers stream).pc = .done) ∧ (report.termination = .exitedSuccessfully →
          report.stdout.truncated = false ∧ report.stderr.truncated = false) := by
  have hinv := Execution.inv h
  have hcounted := hinv.counted
  have hwithin := hinv.within
  have hwhole : ∀ stream, (e.readers stream).truncated = false →
      (e.readers stream).bytes = (e.readers stream).handled :=
    fun stream => (hinv.reader stream).whole
  have hstream : ∀ stream, (e.readers stream).pc.pending = [] →
      (e.readers stream).stream = (e.readers stream).handled := by
    intro stream hpending
    unfold Reader.stream
    rw [hpending, append_nil]
  refine ⟨by omega, ?_, ?_, ?_, ?_⟩
  · intro stream
    exact (hinv.reader stream).kept.trans (prefix_append _ _)
  · intro stream hpending
    rw [hstream stream hpending]
    constructor
    · intro htruncated
      exact ((hinv.reader stream).cut htruncated).1
    · intro hlost
      by_contra hnot
      rw [hwhole stream (Bool.not_eq_true _ ▸ hnot)] at hlost
      omega
  · intro hpending
    rw [hstream _ (hpending _), hstream _ (hpending _)]
    by_cases hcut : ∃ stream, (e.readers stream).truncated = true
    · obtain ⟨stream, htruncated⟩ := hcut
      have hfull := ((hinv.reader stream).cut htruncated).2.1
      omega
    · have hall : ∀ stream, (e.readers stream).truncated = false := by
        intro stream
        rw [← Bool.not_eq_true]
        exact fun htruncated => hcut ⟨stream, htruncated⟩
      rw [hwhole _ (hall _), hwhole _ (hall _)]
      omega
  · intro report hreported
    have hknows := hinv.knows
    rw [hreported] at hknows
    obtain ⟨hstdout, hstderr, hsuccess⟩ := hknows
    refine ⟨hstdout.2, hstderr.2, ?_, hsuccess⟩
    intro stream
    cases stream with
    | stdout => exact hstdout.1
    | stderr => exact hstderr.1

def spending (retainedBytes : Nat) (r : Reader) : Execution where
  shared := { retainedBytes := retainedBytes, overflow := false }
  readers := update Execution.start.readers .stdout r
  monitor := .polling

lemma spending_step {k k' : Nat} {r r' : Reader} (h : Reader.Step 1 ⟨k, false⟩ r ⟨k', false⟩ r') :
    Execution.Step 1 (spending k r) (spending k' r') := by
  have hstep : Reader.Step 1 (spending k r).shared ((spending k r).readers .stdout)
      ⟨k', false⟩ r' := by
    show Reader.Step 1 ⟨k, false⟩ (update Execution.start.readers .stdout r .stdout) _ _
    rw [update_self]
    exact h
  have hnext := Execution.Step.reader .stdout hstep
  unfold spending at hnext ⊢
  rwa [update_idem] at hnext

def spent : Reader where
  pc := .storing
  handled := [104, 105]
  bytes := [104]
  truncated := true

theorem spent_exact : Relation.ReflTransGen (Execution.Step 1) .start (spending 1 spent) ∧
      ((spending 1 spent).readers .stdout).bytes.length +
        ((spending 1 spent).readers .stderr).bytes.length ≤ 1 := by
  have hstart : Execution.start = spending 0 (Execution.start.readers .stdout) := by
    unfold spending
    rw [update_eq_self]
    rfl
  have hrun : Relation.ReflTransGen (Execution.Step 1) .start (spending 1 spent) := by
    rw [hstart]
    have hread := spending_step (Reader.Step.read (s := ⟨0, false⟩)
      (r := Execution.start.readers .stdout) [104, 105] rfl (by decide) (by decide))
    have hload := spending_step (Reader.Step.load (s := ⟨0, false⟩)
      (r := { Execution.start.readers .stdout with pc := .loading [104, 105] }) rfl)
    have hexchange := spending_step (Reader.Step.exchange (s := ⟨0, false⟩)
      (r := { Execution.start.readers .stdout with pc := .exchanging [104, 105] 0 }) rfl
      (by decide))
    exact ((Relation.ReflTransGen.single hread).tail hload).tail hexchange
  exact ⟨hrun, (output_budget_exact hrun).1⟩

end Tidex.Runtime
