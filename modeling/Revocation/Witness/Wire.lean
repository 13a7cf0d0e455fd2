import Revocation.Record
import Revocation.Witness

/-!
Witnesses as JSON objects.
-/
namespace Revocation.Witness

def toJson (m : Modulus) (w : Witness) : Except Failure Json :=
  (m.encode w.omega).map fun omega => .object [("rev_idx", .int w.index), ("omega", .string omega)]

def ofJson (m : Modulus) (v : Json) : Except Malformed Witness := do
  let index ← Record.index (← Record.member v "rev_idx")
  let omega ← m.decodeValue (← Record.member v "omega")
  return ⟨index, omega⟩

end Revocation.Witness
