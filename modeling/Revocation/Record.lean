import Revocation.IndexSet
import Revocation.Malformed

/-!
Values from outside read as records: members by name, items one by one, and indices in each of the
forms in which they may be written.
-/
namespace Revocation.Record

def member (v : Json) (name : String) : Except Malformed Json :=
  match v with
  | .object ms =>
    match Json.Members.get? name ms with
    | some w => .ok w
    | none => .error (.missing name)
  | v => .error (.notObject v.shape)

/-- A member that may be left out, null if it is. -/
def memberOrNull (v : Json) (name : String) : Json :=
  match v with
  | .object ms => Json.Members.getOrNull name ms
  | _ => .null

/-- The items of an array, the characters of a text, the names in an object. -/
def items : Json → Except Malformed (List Json)
  | .array vs => .ok vs
  | .string s => .ok (s.toList.map fun c => .string (String.singleton c))
  | .object ms => .ok (ms.map fun (n, _) => .string n)
  | v => .error (.notIterable v.shape)

/-- The whole number that a double holds, its fraction cut off. -/
def wholePart : Binary64 → Except Malformed Int
  | .nan _ => .error .notANumber
  | .infinity _ => .error .infinite
  | .finite negative m e => .ok (((Binary64.finite negative m e).truncate?).getD 0)

def numeral (s : String) : Except Malformed Int :=
  match Numeral.readInt s with
  | .ok n => .ok n
  | .error .malformed => .error (.notNumeral s)
  | .error (.tooLong digits) => .error (.numeralTooLong digits)

def index : Json → Except Malformed Int
  | .bool b => .ok (if b then 1 else 0)
  | .int n => .ok n
  | .real x => wholePart x
  | .string s => numeral s
  | v => .error (.notNumeric v.shape)

/-- A set of indices; an empty value of any kind is the empty set. -/
def indexSet (v : Json) : Except Malformed IndexSet :=
  if v.isEmpty then .ok ∅ else do
    let vs ← items v
    let is ← vs.mapM index
    return IndexSet.ofList is

end Revocation.Record
