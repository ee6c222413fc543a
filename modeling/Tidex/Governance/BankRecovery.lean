/-
  Governance.BankRecovery — wherever the calls stop, the bank opens.
-/
import Tidex.Governance.Revocation

namespace Tidex.Bank

open Tidex.Lib Relation Durable

variable [Platform] [FractionText] {w : World} {bank t : AdapterBank}

/-- The next snapshot: it names the one before it, and has the next number. -/
def Follows (parent child : AdapterIndexSnapshot × Option PrivateFileReference) : Prop :=
  child.1.parent = parent.2 ∧ child.1.revision = parent.1.revision + 1

/-- A bank that opens goes on opening, on the same snapshot or on the next one. -/
def Reopens (w : World) (bank t : AdapterBank) : Prop :=
  ∀ opened, current w bank = .ok opened → current w t = .ok opened ∨
    ∃ child, current w t = .ok child ∧ Follows opened child

/-- What one call can have done wherever it stops: nothing that the bank opens on, or one more
    revision. -/
def Moves (w : World) (bank t : AdapterBank) : Prop :=
  Still bank t ∨ ∃ next, Appends w bank t next

namespace Moves

lemma refl (bank : AdapterBank) : Moves w bank bank := .inl (.refl bank)

lemma underLock (propose : AdapterBank → AdapterIndexSnapshot →
      Option PrivateFileReference → BrainResult Proposal) :
    Keeps (Moves w) (Bank.underLock w propose) := by
  intro bank t ht
  rcases underLock_states ht with hindex | ⟨_, _, next, _, -, -, happends⟩
  · refine .inl ⟨quiet_of_indexAdded hindex, ?_⟩
    obtain ⟨indexes, -, rfl⟩ := hindex
    rfl
  · exact .inr ⟨next, happends⟩

lemma call (call : Call) : Keeps (Moves w) (call.run w) := by
  cases call <;> refine .silent ?_ fun _ => .pure _
  case prepareImport request => exact fun _ _ h => .inl (prepareImport_still request _ _ h)
  case prepareComposition request => exact fun _ _ h => .inl (prepareComposition_still request _ _ h)
  case register => exact underLock _
  case authorize request => exact fun _ _ h => .inl (authorize_still request _ _ h)
  case activate => exact .check refl fun _ => .check refl fun _ => underLock _
  case revoke => exact .check refl fun _ => .check refl fun _ => .check refl fun _ => underLock _
  case rollback => exact .check refl fun _ => .check refl fun _ => underLock _

lemma reopens (h : Moves w bank t) : Reopens w bank t := by
  intro opened hcurrent
  rcases h with ⟨hquiet, hhead⟩ | ⟨next, happends⟩
  · exact .inl (current_of_quiet hquiet hhead opened hcurrent)
  · obtain ⟨hparent, hrevision, -⟩ := happends.follows hcurrent
    exact .inr ⟨_, current_of_appends happends hcurrent, hparent, hrevision⟩

end Moves

variable {opened : AdapterIndexSnapshot × Option PrivateFileReference}

end Tidex.Bank

namespace Tidex.RevocationSample

open Tidex.Bank

attribute [local instance] Platform.reference BankSample.oneText

end Tidex.RevocationSample
