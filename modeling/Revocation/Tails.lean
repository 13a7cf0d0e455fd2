import Revocation.Base64Url
import Revocation.Element
import Revocation.Sha2

/-!
Tails: one public element for each revocation index, which puts the index into an accumulator or
takes it out. A source of tails is asked index by index, may fail at any time and has a state of
its own.
-/
namespace Revocation

/-- The two hash functions in use: one that elements are drawn from, one that fixes the contents of
a tails list. -/
structure Hashing where
  elements : Bytes → Bytes
  contents : Bytes → Bytes

def Hashing.standard : Hashing := ⟨Sha2.digest Sha2.sha512, Sha2.digest Sha2.sha256⟩

namespace Modulus

variable (m : Modulus)

/-- What is hashed for one block of one trial. -/
def block (counter : Nat) (number : UInt8) (data : Bytes) : Bytes :=
  Bytes.ofNat 4 counter ++ number :: data

/-- The square that a trial gives. Two blocks make the residue nearly uniform. -/
def trial (hash : Bytes → Bytes) (data : Bytes) (counter : Nat) : Int :=
  let n : Int := Bytes.toNat (hash (block counter 0 data) ++ hash (block counter 1 data))
  m.power (n % m.value) 2

/-- The first square beyond the identity in `spare` trials. -/
def firstSquare? (hash : Bytes → Bytes) (data : Bytes) : (spare counter : Nat) → Option Int
  | 0, _ => none
  | spare + 1, counter =>
    let a := m.trial hash data counter
    if 1 < a then some a else firstSquare? hash data spare (counter + 1)

/-- A square other than 0 and 1, drawn from the data. The counter has four bytes. -/
def hashToElement (hash : Bytes → Bytes) (data : Bytes) : Except Failure Int :=
  match m.firstSquare? hash data (1 <<< 32) 0 with
  | some a => .ok a
  | none => .error .hashesExhausted

end Modulus

namespace Tails

variable (m : Modulus) (h : Hashing)

/-- What the entry at an index is drawn from. -/
def label (id : String) (index : Nat) : Bytes := Bytes.ofText s!"{id}:{index}"

def entry (id : String) (index : Nat) : Except Failure Int :=
  m.hashToElement h.elements (label id index)

/-- The entries of a registry at the indices from 1 to its capacity. -/
def generate (id : String) (capacity : Int) : Except Failure (List Int) :=
  if capacity < 1 then .error .capacityNotPositive
  else (List.range capacity.toNat).mapM fun i => entry m h id (i + 1)

/-- What is hashed to fix the contents of a list: the encoded entries, a line each. -/
def contents (entries : List Int) : Except Failure Bytes :=
  (entries.mapM m.encode).map fun lines => lines.flatMap fun line => Bytes.ofText line ++ [10]

def hash (entries : List Int) : Except Failure String :=
  (contents m entries).map fun bs => Base64Url.encode (h.contents bs)

end Tails

abbrev TailsSource (σ : Type) := Int → Session σ Int

namespace TailsSource

variable {σ : Type}

def entryAt (entries : List Int) (index : Int) : Except Failure Int :=
  let outOfRange := Failure.noTailsEntry (.outOfRange index entries.length)
  if index < 1 then .error outOfRange
  else match entries[(index - 1).toNat]? with
    | some a => .ok a
    | none => .error outOfRange

/-- A list of entries, the first one at index 1. -/
def ofList (entries : List Int) : TailsSource σ := fun index =>
  Session.ofExcept (entryAt entries index)

/-- The indices that were asked for, latest first, and those that get no answer. -/
structure Watch where
  asked : List Int
  withheld : List Int

/-- Notes what is asked of a list of entries, and withholds some of it. -/
def watched (entries : List Int) : TailsSource Watch := fun index w =>
  let w := { w with asked := index :: w.asked }
  if index ∈ w.withheld then .error (.tails (.unavailable index)) w
  else ofList entries index w

/-- A source that keeps its state beside another one. -/
def inner {ρ : Type} (tails : TailsSource σ) : TailsSource (ρ × σ) := fun index =>
  Session.inner (tails index)

/-- `a` with the entries of the indices combined in. -/
def including (tails : TailsSource σ) (m : Modulus) : Int → List Int → Session σ Int :=
  List.foldlM fun a index => do return m.combine a (← tails index)

/-- `a` with the entries of the indices combined out. -/
def excluding (tails : TailsSource σ) (m : Modulus) : Int → List Int → Session σ Int :=
  List.foldlM fun a index => do
    let b ← tails index
    return m.combine a (← Session.ofExcept (m.inverse b))

end TailsSource
end Revocation
