import Revocation.Binding
import Revocation.Witness.Wire

/-!
Bindings as three members of a JSON object, all of them there or none; null counts as absent.
-/
namespace Revocation.Binding

def fields : List String := ["witness", "rev_reg_id", "rev_reg_state"]

/-- The binding members that are there. -/
def present (ms : Json.Members) : List String :=
  fields.filter fun name => !(Json.Members.getOrNull name ms).isNull

def absent (ms : Json.Members) : List String :=
  fields.filter fun name => (Json.Members.getOrNull name ms).isNull

def validate (ms : Json.Members) (revocable : Bool) : Except Failure Unit :=
  if revocable then
    if absent ms = [] then .ok () else .error (.missingWitness (.fields (absent ms)))
  else
    if present ms = [] then .ok () else .error (.unexpectedWitness (.fields (present ms)))

def partsOf (m : Modulus) (ms : Json.Members) : Except Malformed RevocableBinding := do
  let witness ← Witness.ofJson m (← Record.member (.object ms) "witness")
  let id ← Record.member (.object ms) "rev_reg_id"
  let reference ← m.decodeValue (← Record.member (.object ms) "rev_reg_state")
  return ⟨witness, some (Json.display id), reference⟩

def parse (m : Modulus) (ms : Json.Members) (revocable : Bool) : Except Failure Binding := do
  validate ms revocable
  if revocable then
    let b ← Malformed.reported (fun c => .missingWitness (.malformed c)) (partsOf m ms)
    return .revocable b
  else return .nonRevocable

/-- The three members, checked once more before they go out. -/
def payload (m : Modulus) : Binding → Except Failure Json.Members
  | .nonRevocable => do
    let ms := fields.map fun name => (name, Json.null)
    validate ms false
    return ms
  | .revocable b => do
    let witness ← b.witness.toJson m
    let reference ← m.encode b.reference
    let id := match b.registryId with
      | some id => Json.string id
      | none => .null
    let ms := [("witness", witness), ("rev_reg_id", id), ("rev_reg_state", .string reference)]
    validate ms true
    return ms

end Revocation.Binding
