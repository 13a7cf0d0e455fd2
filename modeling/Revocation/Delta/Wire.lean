import Revocation.Delta
import Revocation.Element
import Revocation.Record

/-!
Deltas as JSON objects, both checkpoints as elements in text.
-/
namespace Revocation.Delta

def indices (s : IndexSet) : Json := .array (s.toList.map .int)

def toJson (m : Modulus) (d : Delta Int) : Except Failure Json := do
  let source ← m.encode d.source
  let target ← m.encode d.target
  return .object [
    ("from", .string source), ("to", .string target),
    ("issued", indices d.issued), ("revoked", indices d.revoked)]

/-- The parts of a record before it is known that they make a delta. -/
def partsOf (m : Modulus) (v : Json) : Except Malformed (Int × Int × IndexSet × IndexSet) := do
  let source ← m.decodeValue (← Record.member v "from")
  let target ← m.decodeValue (← Record.member v "to")
  let issued ← Record.indexSet (Record.memberOrNull v "issued")
  let revoked ← Record.indexSet (Record.memberOrNull v "revoked")
  return (source, target, issued, revoked)

def ofJson (m : Modulus) (v : Json) : Except Failure (Delta Int) := do
  let (source, target, issued, revoked) ←
    Malformed.reported (fun c => .inconsistent (.malformed c)) (partsOf m v)
  ofSets source target issued revoked

end Revocation.Delta
