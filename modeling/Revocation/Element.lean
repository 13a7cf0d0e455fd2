import Revocation.Failure
import Revocation.Modulus

/-!
The operations on elements that can fail: inverses and negative powers, and elements as text. The
text is all bytes that the modulus takes, most significant first, in hexadecimal. Only `0 < a < m`
is read back; writing takes whatever fits the width.
-/
namespace Revocation.Modulus

variable (m : Modulus)

def inverse (a : Int) : Except Failure Int :=
  match m.invert? a with
  | some b => .ok b
  | none => .error .notInvertible

def exponentiate (a k : Int) : Except Failure Int :=
  match m.exponentiate? a k with
  | some b => .ok b
  | none => .error .notInvertible

/-- How many bytes hold every residue. -/
def width : Nat := (m.bits + 7) / 8

def encode (a : Int) : Except Failure String :=
  if a < 0 then .error .negativeElement
  else if Nat.pow 256 m.width ≤ a.toNat then .error .elementTooWide
  else .ok (Hex.encode (Bytes.ofNat m.width a.toNat))

def decode (s : String) : Except Malformed Int :=
  match Hex.decode s with
  | .error f => .error (.badHex f)
  | .ok bs =>
    let n := Bytes.toNat bs
    if 0 < n ∧ n < m.value then .ok n else .error .outOfRange

/-- An element where any value may stand. -/
def decodeValue : Json → Except Malformed Int
  | .string s => m.decode s
  | v => .error (.notText v.shape)

end Revocation.Modulus
