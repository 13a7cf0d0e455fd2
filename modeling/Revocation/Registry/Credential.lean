import Revocation.Binding
import Revocation.Registry

/-!
Issuing a credential: an index is handed out, and the first witness for it is bound to the
registry's current value. The index stays handed out if its witness cannot be computed.
-/
namespace Revocation.Registry

variable {σ : Type}

def issueCredential (tails : TailsSource σ) (index : Option Int) :
    Session (Registry × σ) RevocableBinding := do
  let index ← assign tails index
  let (r, _) ← get
  let w ← Witness.create r.modulus tails.inner index r.issued.toList r.accumulator r.capacity
  return ⟨w, some r.id, r.accumulator⟩

end Revocation.Registry
