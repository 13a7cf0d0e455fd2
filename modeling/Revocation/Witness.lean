import Revocation.Delta
import Revocation.Tails

/-!
Witnesses. The witness of an index is the product of the tails entries of all other indices in the
accumulator, so that its own entry completes it to the accumulator value. A holder keeps it current
by folding in the deltas that separate one checkpoint from another; the set of issued indices is
not needed for that.
-/
namespace Revocation

/-- The indices of a registry run from 1 to its capacity. -/
def checkIndex (index capacity : Int) : Except Failure Unit :=
  if index < 1 then .error (.indexNotPositive index)
  else if capacity < index then .error (.beyondCapacity index capacity)
  else .ok ()

structure Witness where
  index : Int
  omega : Int
deriving DecidableEq

namespace Witness

variable {σ : Type} (m : Modulus) (tails : TailsSource σ)

/-- The accumulator value that the witness proves its index for. -/
def completed (w : Witness) : Session σ Int := return m.combine w.omega (← tails w.index)

def verify (w : Witness) (accumulator : Int) : Session σ Bool :=
  return (← w.completed m tails) = accumulator

/-- The first witness of an index, given what is issued, with or without the index itself. -/
def create (index : Int) (issued : List Int) (accumulator capacity : Int) : Session σ Witness := do
  Session.ofExcept (checkIndex index capacity)
  let others := (IndexSet.ofList issued).erase index
  let omega ← tails.including m Modulus.identity others.toList
  let w : Witness := ⟨index, omega⟩
  if ← w.verify m tails accumulator then return w
  throw (.initialWitnessInvalid index)

end Witness

/-- What a holder updates witnesses with; `registry` is named in reports only. -/
structure Recomputer (σ : Type) where
  modulus : Modulus
  tails : TailsSource σ
  registry : Option String

namespace Recomputer

variable {σ : Type} (c : Recomputer σ)

/-- The first delta that mentions the own index ends the update: a revoked index has no witness, and
an index that is in the accumulator cannot be put in. -/
def checkOwn (registry : Option String) (own : Int) : List (Delta Int) → Except Failure Unit
  | [] => .ok ()
  | d :: rest =>
    if own ∈ d.revoked then .error (.revoked own registry)
    else if own ∈ d.issued then .error (.inconsistent (.issuesOwn own))
    else checkOwn registry own rest

/-- What a delta revokes is combined out first, then what it issues is combined in. -/
def absorb (omega : Int) (d : Delta Int) : Session σ Int := do
  let omega ← c.tails.excluding c.modulus omega d.revoked.toList
  c.tails.including c.modulus omega d.issued.toList

/-- The value that a chain from `accumulator` leads to. -/
def target (accumulator : Option Int) (deltas : List (Delta Int)) : Option Int :=
  match deltas.getLast? with
  | some d => some d.target
  | none => accumulator

/-- Advances a witness over a chain of deltas; answers it with the accumulator value that it has
been verified against. A chain may start anywhere if no accumulator is given. -/
def recompute (w : Witness) (accumulator : Option Int) (deltas : List (Delta Int)) :
    Session σ (Witness × Int) := do
  Session.ofExcept (Delta.checkChain deltas accumulator none)
  Session.ofExcept (checkOwn c.registry w.index deltas)
  let omega ← deltas.foldlM c.absorb w.omega
  let updated : Witness := ⟨w.index, omega⟩
  let reached ← updated.completed c.modulus c.tails
  if target accumulator deltas = some reached then return (updated, reached)
  throw (.updatedWitnessInvalid w.index)

end Recomputer
end Revocation
