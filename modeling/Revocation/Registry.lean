import Revocation.Ledger
import Revocation.Witness

/-!
A registry at its issuer's. It knows which indices are in the accumulator, which have been taken out
for good and which have been handed out, and publishes one delta for each change. Every operation
works on the registry beside the state of its tails source; one that fails leaves the registry as it
was.
-/
namespace Revocation

/-- How indices get into the accumulator: all of them at the start, or each one when it is issued.
-/
inductive Issuance
  | byDefault
  | onDemand
deriving DecidableEq

def Issuance.ofName : String → Except Failure Issuance
  | "ISSUANCE_BY_DEFAULT" => .ok .byDefault
  | "ISSUANCE_ON_DEMAND" => .ok .onDemand
  | name => .error (.unknownIssuance name)

structure Registry where
  id : String
  modulus : Modulus
  capacity : Nat
  issuance : Issuance
  assigned : IndexSet
  issued : IndexSet
  revoked : IndexSet
  ledger : Ledger Int

namespace Registry

variable {σ : Type}

/-- What is in the accumulator before anything is published. -/
def initial (capacity : Nat) : Issuance → IndexSet
  | .byDefault => .upTo capacity
  | .onDemand => ∅

/-- The entries that a registry works with: those given, or its own where none are. -/
def entriesOr (m : Modulus) (h : Hashing) (id : String) (capacity : Int) (given : List Int) :
    Except Failure (List Int) :=
  if given.isEmpty then Tails.generate m h id capacity else .ok given

def start (m : Modulus) (tails : TailsSource σ) (id : String) (capacity : Int) (issuance : Issuance)
    (limit : Option Int) : Session σ Registry := do
  if capacity < 1 then throw .capacityNotPositive
  let issued := initial capacity.toNat issuance
  let head ← tails.including m Modulus.identity issued.toList
  let ledger ← Session.ofExcept (Ledger.start head limit)
  return {
    id, issuance, issued, ledger
    modulus := m
    capacity := capacity.toNat
    assigned := ∅
    revoked := ∅ }

def accumulator (r : Registry) : Int := r.ledger.head

/-- An index is issued once and revoked once, in this order. Where several indices of a batch are
out of range the failure names the least of them; a batch is a set, whose order is not otherwise
specified, so another of them could as well be named. -/
def allow (r : Registry) (issued revoked : IndexSet) : Except Failure Unit := do
  if issued.isEmpty && revoked.isEmpty then throw .nothingToUpdate
  (issued.union revoked).toList.forM fun i => checkIndex i r.capacity
  let twice := issued.inter r.issued
  unless twice.isEmpty do throw (.inconsistent (.alreadyIssued twice.toList))
  let again := issued.inter r.revoked
  unless again.isEmpty do throw (.inconsistent (.reissued again.toList))
  let never := revoked.diff r.issued
  unless never.isEmpty do throw (.inconsistent (.notIssued never.toList))

/-- The registry after a delta that it allows. -/
def publish (r : Registry) (d : Delta Int) : Except Failure Registry :=
  (r.ledger.append d).map fun ledger => { r with
    ledger
    issued := (r.issued.union d.issued).diff d.revoked
    revoked := r.revoked.union d.revoked
    assigned := r.assigned.union d.issued }

/-- One batch: the issued indices enter the accumulator, then the revoked ones leave it. -/
def update (tails : TailsSource σ) (issued revoked : IndexSet) :
    Session (Registry × σ) (Delta Int) := do
  let (r, _) ← get
  Session.ofExcept (r.allow issued revoked)
  let value ← tails.inner.including r.modulus r.accumulator issued.toList
  let value ← tails.inner.excluding r.modulus value revoked.toList
  let d ← Session.ofExcept (Delta.ofSets r.accumulator value issued revoked)
  let r ← Session.ofExcept (r.publish d)
  modify fun (_, s) => (r, s)
  return d

/-- The least index from `i` on that is not in an ascending row. -/
def leastFree (i : Int) : List Int → Int
  | [] => i
  | j :: js => if i < j then i else leastFree (if i = j then i + 1 else i) js

def isTaken (r : Registry) (index : Int) : Bool := index ∈ r.assigned || index ∈ r.revoked

/-- The index to hand out next. -/
def free? (r : Registry) : Option Int :=
  let i := leastFree 1 (r.assigned.union r.revoked).toList
  if i ≤ r.capacity then some i else none

/-- Hands out an index, the least free one where none is named. -/
def assign (tails : TailsSource σ) (index : Option Int) : Session (Registry × σ) Int := do
  let (r, _) ← get
  let index ← match index, r.free? with
    | some i, _ => pure i
    | none, some i => pure i
    | none, none => throw (.registryFull r.id r.capacity)
  Session.ofExcept (checkIndex index r.capacity)
  if r.isTaken index then throw (.inconsistent (.alreadyAssigned index))
  if r.issuance = .onDemand then discard <| update tails (.ofList [index]) ∅
  modify fun (r, s) => ({ r with assigned := r.assigned.insert index }, s)
  return index

end Registry
end Revocation
