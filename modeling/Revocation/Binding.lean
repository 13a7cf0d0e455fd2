import Revocation.Ledger
import Revocation.Witness

/-!
What binds a credential to a revocation registry: a witness, the registry's name and the checkpoint
that the witness is valid against. A credential that cannot be revoked has no binding.
-/
namespace Revocation

structure RevocableBinding where
  witness : Witness
  registryId : Option String
  reference : Int
deriving DecidableEq

inductive Binding
  | nonRevocable
  | revocable (binding : RevocableBinding)
deriving DecidableEq

namespace RevocableBinding

variable {σ : Type}

/-- Brings the witness to a later checkpoint, the newest one where none is named. -/
def refresh (b : RevocableBinding) (c : Recomputer σ) (ledger : LedgerSource σ)
    (target : Option Int) : Session σ RevocableBinding := do
  let target ← match target with
    | some v => pure v
    | none => ledger.head
  let deltas ← ledger.between b.reference target
  let (w, reached) ← c.recompute b.witness (some b.reference) deltas
  return ⟨w, b.registryId, reached⟩

end RevocableBinding

namespace Binding

variable {σ : Type}

/-- The binding must be what the credential's definition declares. -/
def check (b : Binding) (revocable : Bool) : Except Failure Unit :=
  match b, revocable with
  | .nonRevocable, true => .error (.missingWitness .unbound)
  | .revocable _, false => .error (.unexpectedWitness .bound)
  | _, _ => .ok ()

def refresh (b : Binding) (revocable : Bool) (c : Recomputer σ) (ledger : LedgerSource σ)
    (target : Option Int) : Session σ Binding := do
  Session.ofExcept (b.check revocable)
  match b with
  | .nonRevocable => return .nonRevocable
  | .revocable b => return .revocable (← b.refresh c ledger target)

end Binding
end Revocation
